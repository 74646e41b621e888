import PumpfunSdk.Codec.Base58

/-! Account addresses. The decoders of the source read 32 raw bytes, render them with
`bs58::encode` and parse the text back with `Pubkey::from_str(..).unwrap()`; bot
attribution compares two addresses by their `to_string()`. Both steps are exact on every
32-byte key: the text has at most `MAX_BASE58_LEN` characters and decodes to the same 32
bytes. -/

namespace PumpfunSdk

structure Pubkey where
  bytes : List UInt8
  length_bytes : bytes.length = 32

instance : DecidableEq Pubkey := fun a b =>
  if h : a.bytes = b.bytes then isTrue (by cases a; cases b; cases h; rfl)
  else isFalse fun e => h (e ▸ rfl)

instance : Repr Pubkey := ⟨fun k _ => repr k.bytes⟩

def maxBase58Len : Nat := 44

inductive ParsePubkeyError where
  | wrongSize
  | invalid
  deriving DecidableEq, Repr

namespace Pubkey

def toString (k : Pubkey) : String := Base58.encode k.bytes

def fromStr (s : String) : Except ParsePubkeyError Pubkey :=
  if maxBase58Len < len s then .error .wrongSize
  else match Base58.decode s with
    | .error _ => .error .invalid
    | .ok bytes => if h : bytes.length = 32 then .ok ⟨bytes, h⟩ else .error .wrongSize

end Pubkey

theorem utf8ByteSize_go_of_ascii (cs : List Char) (ascii : ∀ c ∈ cs, c.utf8Size = 1) :
    String.utf8ByteSize.go cs = cs.length := by
  induction cs with
  | nil => rfl
  | cons c cs ih =>
    rw [String.utf8ByteSize.go, ih fun d hd => ascii d (List.mem_cons_of_mem c hd),
      ascii c (List.mem_cons_self c cs), List.length_cons]

/-- `256 ^ (32 - z) ≤ 58 ^ (44 - z)`: the rest of a 32-byte key after `z` zero bytes has at
most `44 - z` base-58 digits. -/
theorem pow_256_le_pow_58 {z : Nat} (hz : z ≤ 32) : 256 ^ (32 - z) ≤ 58 ^ (44 - z) := by
  apply Nat.le_of_mul_le_mul_right _ (Nat.pos_pow_of_pos z (by norm_num : 0 < 256))
  calc 256 ^ (32 - z) * 256 ^ z = 256 ^ 32 := by rw [← pow_add, Nat.sub_add_cancel hz]
    _ ≤ 58 ^ 44 := by norm_num
    _ = 58 ^ (44 - z) * 58 ^ z := by rw [← pow_add, Nat.sub_add_cancel (by omega)]
    _ ≤ 58 ^ (44 - z) * 256 ^ z := Nat.mul_le_mul_left _ (Nat.pow_le_pow_left (by norm_num) z)

theorem len_toString_le (k : Pubkey) : len k.toString ≤ maxBase58Len := by
  obtain ⟨z, rest, split, hz, -⟩ := Base58.split_leading_zeros k.bytes
  have size : z + rest.length = 32 := by
    rw [← List.length_replicate z (0 : UInt8), ← List.length_append, ← split, k.length_bytes]
  have digits : (Nat.digits 58 (Base58.beValue rest)).length ≤ 44 - z := by
    rw [← Base58.toDigits_eq_digits (by norm_num) (44 - z)]
    · exact Base58.toDigits_length_le _ _ _
    · calc Base58.beValue rest < 256 ^ rest.length := Base58.beValue_lt rest
        _ = 256 ^ (32 - z) := by rw [← size, Nat.add_sub_cancel_left]
        _ ≤ 58 ^ (44 - z) := pow_256_le_pow_58 (by omega)
  have data := Base58.encode_data z rest (split ▸ hz)
  rw [← split] at data
  have ascii : ∀ c ∈ (Base58.encode k.bytes).data, c.utf8Size = 1 := by
    rw [data]
    intro c hc
    obtain ⟨d, hd, rfl⟩ := List.mem_map.mp hc
    rcases List.mem_append.mp hd with hd | hd
    · rw [(List.mem_replicate.mp hd).2]; rfl
    · exact Base58.symbol_utf8Size d (Base58.digits_lt_58 _ d hd)
  rw [Pubkey.toString, len, String.utf8ByteSize, utf8ByteSize_go_of_ascii _ ascii, data,
    List.length_map, List.length_append, List.length_replicate, List.length_reverse]
  unfold maxBase58Len
  omega

theorem Pubkey.fromStr_toString (k : Pubkey) : Pubkey.fromStr k.toString = .ok k := by
  rw [Pubkey.fromStr, if_neg (Nat.not_lt.mpr (len_toString_le k)), Pubkey.toString,
    Base58.decode_encode]
  simp only [k.length_bytes, dif_pos]

theorem Pubkey.toString_injective {a b : Pubkey} (h : a.toString = b.toString) : a = b := by
  have := Pubkey.fromStr_toString a
  rw [h, Pubkey.fromStr_toString] at this
  exact (Except.ok.inj this).symm

end PumpfunSdk
