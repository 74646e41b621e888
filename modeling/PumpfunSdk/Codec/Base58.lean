import Mathlib.Data.Nat.Digits
import PumpfunSdk.Rust.Text

/-! The `bs58` crate with its default (Bitcoin) alphabet, and the account addresses
(`Pubkey`) that the source renders with it and parses back with `Pubkey::from_str`. A byte
string encodes as one `1` per leading zero byte followed by the base-58 digits of its
big-endian value; decoding reads the digits back and restores the zero bytes. -/

namespace PumpfunSdk.Base58

def alphabet : List Char := "123456789ABCDEFGHJKLMNPQRSTUVWXYZabcdefghijkmnopqrstuvwxyz".data

def symbol (d : Nat) : Char := alphabet.getD d '1'

def value (c : Char) : Option Nat := alphabet.indexOf? c

theorem value_symbol : ∀ d < 58, value (symbol d) = some d := by decide

theorem symbol_eq_one : ∀ d < 58, symbol d = '1' → d = 0 := by decide

theorem symbol_ascii : ∀ d < 58, (symbol d).toNat < 128 := by decide

theorem symbol_utf8Size : ∀ d < 58, (symbol d).utf8Size = 1 := by decide

def toDigits (b : Nat) : Nat → Nat → List Nat
  | 0, _ => []
  | fuel + 1, n => if n = 0 then [] else n % b :: toDigits b fuel (n / b)

def beValue (bytes : List UInt8) : Nat := Nat.ofDigits 256 (bytes.reverse.map UInt8.toNat)

/-- `bs58::encode(bytes).into_string()`. The value is below `256 ^ n ≤ 58 ^ (2 * n)`, so
`2 * n` steps find all its digits. -/
def encode (bytes : List UInt8) : String :=
  ⟨List.replicate (bytes.takeWhile (· == 0)).length '1' ++
    (toDigits 58 (2 * bytes.length) (beValue bytes)).reverse.map symbol⟩

inductive DecodeError where
  | invalidCharacter (character : Char) (index : Nat)
  | nonAsciiCharacter (index : Nat)
  deriving DecidableEq, Repr

def values (i : Nat) : List Char → Except DecodeError (List Nat)
  | [] => .ok []
  | c :: cs =>
    if 128 ≤ c.toNat then .error (.nonAsciiCharacter i)
    else match value c with
      | some d => do
        let ds ← values (i + 1) cs
        .ok (d :: ds)
      | none => .error (.invalidCharacter c i)

/-- `bs58::decode(s).into_vec()`. The value is below `58 ^ n ≤ 256 ^ n`. -/
def decode (s : String) : Except DecodeError (List UInt8) := do
  let ds ← values 0 s.data
  .ok (List.replicate (s.data.takeWhile (· == '1')).length 0 ++
    (toDigits 256 s.data.length (Nat.ofDigits 58 ds.reverse)).reverse.map UInt8.ofNat)

theorem toDigits_length_le (b fuel n : Nat) : (toDigits b fuel n).length ≤ fuel := by
  induction fuel generalizing n with
  | zero => simp [toDigits]
  | succ fuel ih =>
    unfold toDigits
    split
    · simp
    · simpa using ih (n / b)

theorem toDigits_eq_digits {b : Nat} (hb : 1 < b) (fuel n : Nat) (bound : n < b ^ fuel) :
    toDigits b fuel n = Nat.digits b n := by
  induction fuel generalizing n with
  | zero => simp [toDigits, Nat.lt_one_iff.mp (by simpa using bound)]
  | succ fuel ih =>
    unfold toDigits
    split
    · subst n; simp
    · rename_i hn
      rw [Nat.digits_def' hb (Nat.pos_of_ne_zero hn), ih]
      rw [Nat.div_lt_iff_lt_mul (by omega), ← pow_succ]
      exact bound

theorem values_map_symbol (i : Nat) (ds : List Nat) (small : ∀ d ∈ ds, d < 58) :
    values i (ds.map symbol) = .ok ds := by
  induction ds generalizing i with
  | nil => rfl
  | cons d ds ih =>
    have hd := small d (List.mem_cons_self d ds)
    simp only [List.map_cons, values, Nat.not_le.mpr (symbol_ascii d hd), if_false,
      value_symbol d hd, ih (i + 1) fun e he => small e (List.mem_cons_of_mem d he), except_ok_bind]

theorem ofDigits_append_zeros (b z : Nat) (ds : List Nat) :
    Nat.ofDigits b (ds ++ List.replicate z 0) = Nat.ofDigits b ds := by
  have zeros : Nat.ofDigits b (List.replicate z 0) = 0 := by
    induction z with
    | zero => rfl
    | succ z ih => simp [List.replicate_succ, Nat.ofDigits, ih]
  rw [Nat.ofDigits_append, zeros, Nat.mul_zero, Nat.add_zero]

theorem beValue_lt (bytes : List UInt8) : beValue bytes < 256 ^ bytes.length := by
  have := Nat.ofDigits_lt_base_pow_length (b := 256) (l := bytes.reverse.map UInt8.toNat)
    (by norm_num) (by simpa using fun b _ => UInt8.toNat_lt_256 b)
  simpa [beValue] using this

theorem split_leading_zeros (bytes : List UInt8) :
    ∃ z rest, bytes = List.replicate z 0 ++ rest ∧
      (bytes.takeWhile (· == 0)).length = z ∧ ∀ h : rest ≠ [], rest.head h ≠ 0 := by
  refine ⟨_, bytes.dropWhile (· == 0), ?_, rfl, fun h => ?_⟩
  · conv_lhs => rw [← List.takeWhile_append_dropWhile (· == 0) bytes]
    congr 1
    exact List.eq_replicate_iff.mpr ⟨rfl, fun b hb => by simpa using List.mem_takeWhile_imp hb⟩
  · simpa using List.head_dropWhile_not (· == 0) bytes h

theorem beValue_replicate_append (z : Nat) (rest : List UInt8) :
    beValue (List.replicate z 0 ++ rest) = beValue rest := by
  simp only [beValue, List.reverse_append, List.reverse_replicate, List.map_append,
    List.map_replicate]
  exact ofDigits_append_zeros 256 z _

theorem digits_beValue (rest : List UInt8) (lead : ∀ h : rest ≠ [], rest.head h ≠ 0) :
    Nat.digits 256 (beValue rest) = rest.reverse.map UInt8.toNat := by
  apply Nat.digits_ofDigits 256 (by norm_num)
  · simpa using fun b _ => UInt8.toNat_lt_256 b
  · intro h
    have ne : rest ≠ [] := by simpa using h
    rw [List.getLast_map, List.getLast_reverse]
    exact fun zero => lead ne (UInt8.toNat.inj (by rw [zero]; rfl))

theorem digits_lt_58 (v : Nat) : ∀ d ∈ (Nat.digits 58 v).reverse, d < 58 :=
  fun d hd => Nat.digits_lt_base (by norm_num) (List.mem_reverse.mp hd)

theorem encode_data (z : Nat) (rest : List UInt8)
    (hz : ((List.replicate z 0 ++ rest).takeWhile (· == 0)).length = z) :
    (encode (List.replicate z 0 ++ rest)).data =
      (List.replicate z 0 ++ (Nat.digits 58 (beValue rest)).reverse).map symbol := by
  have bound : beValue rest < 58 ^ (2 * (List.replicate z 0 ++ rest).length) := calc
    beValue rest < 256 ^ rest.length := beValue_lt rest
    _ ≤ 256 ^ (List.replicate z 0 ++ rest).length := Nat.pow_le_pow_right (by norm_num) (by simp)
    _ ≤ 3364 ^ (List.replicate z 0 ++ rest).length := Nat.pow_le_pow_left (by norm_num) _
    _ = 58 ^ (2 * (List.replicate z 0 ++ rest).length) := by rw [pow_mul]; norm_num
  rw [encode, hz, beValue_replicate_append, toDigits_eq_digits (by norm_num) _ _ bound,
    List.map_append, List.map_replicate]
  rfl

theorem takeWhile_one_length (z : Nat) (ds : List Nat) (small : ∀ d ∈ ds, d < 58)
    (lead : ∀ h : ds ≠ [], ds.head h ≠ 0) :
    (((List.replicate z 0 ++ ds).map symbol).takeWhile (· == '1')).length = z := by
  have one : symbol 0 = '1' := rfl
  rw [List.map_append, List.takeWhile_append_of_pos (by simp [List.mem_replicate, one])]
  cases ds with
  | nil => simp
  | cons d ds =>
    have hd : symbol d ≠ '1' := fun h =>
      lead (List.cons_ne_nil d ds) (symbol_eq_one d (small d (List.mem_cons_self d ds)) h)
    simp [List.takeWhile_cons, hd]

theorem decode_encode (bytes : List UInt8) : decode (encode bytes) = .ok bytes := by
  obtain ⟨z, rest, rfl, hz, lead⟩ := split_leading_zeros bytes
  set ds := (Nat.digits 58 (beValue rest)).reverse
  have small : ∀ d ∈ List.replicate z 0 ++ ds, d < 58 := by
    intro d hd
    rcases List.mem_append.mp hd with hd | hd
    · rw [(List.mem_replicate.mp hd).2]; norm_num
    · exact digits_lt_58 _ d hd
  have dsLead : ∀ h : ds ≠ [], ds.head h ≠ 0 := by
    intro h
    rw [List.head_reverse]
    exact Nat.getLast_digit_ne_zero 58 fun zero => h (by simp [ds, zero])
  have value : Nat.ofDigits 58 (List.replicate z 0 ++ ds).reverse = beValue rest := by
    rw [List.reverse_append, List.reverse_replicate, List.reverse_reverse, ofDigits_append_zeros,
      Nat.ofDigits_digits]
  have bound : beValue rest < 256 ^ (List.replicate z 0 ++ ds).length := calc
    beValue rest < 58 ^ ds.length := by
      simpa [ds] using Nat.lt_base_pow_length_digits (b := 58) (m := beValue rest) (by norm_num)
    _ ≤ 256 ^ ds.length := Nat.pow_le_pow_left (by norm_num) _
    _ ≤ 256 ^ (List.replicate z 0 ++ ds).length := Nat.pow_le_pow_right (by norm_num) (by simp)
  rw [decode, encode_data z rest hz, values_map_symbol 0 _ small, except_ok_bind,
    takeWhile_one_length z ds (fun d hd => digits_lt_58 _ d hd) dsLead, List.length_map, value,
    toDigits_eq_digits (by norm_num) _ _ bound, digits_beValue rest lead]
  simp [Function.comp_def]

end PumpfunSdk.Base58
