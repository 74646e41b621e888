import PumpfunSdk.Rust.Text

/-! The `base64` crate's `general_purpose::STANDARD` engine, of its 0.22 line (the source
names no version; the texts of its errors are those of 0.22): the standard alphabet, `=`
padding written on encode and required, canonically, on decode, and no trailing bits allowed
in the last symbol. -/

namespace PumpfunSdk.Base64

def symbol (v : Nat) : Char :=
  if v < 26 then Char.ofNat (65 + v)
  else if v < 52 then Char.ofNat (71 + v)
  else if v < 62 then Char.ofNat (v - 4)
  else if v = 62 then '+' else '/'

def value (c : Char) : Option Nat :=
  let n := c.toNat
  if 65 ≤ n ∧ n ≤ 90 then some (n - 65)
  else if 97 ≤ n ∧ n ≤ 122 then some (n - 71)
  else if 48 ≤ n ∧ n ≤ 57 then some (n + 4)
  else if n = 43 then some 62
  else if n = 47 then some 63
  else none

theorem value_symbol : ∀ v < 64, value (symbol v) = some v := by decide

theorem symbol_ne_pad : ∀ v < 64, symbol v ≠ '=' := by decide

def encodeSymbols : List UInt8 → List Char
  | [] => []
  | [a] => [symbol (a.toNat / 4), symbol (a.toNat % 4 * 16), '=', '=']
  | [a, b] =>
    [symbol (a.toNat / 4), symbol (a.toNat % 4 * 16 + b.toNat / 16), symbol (b.toNat % 16 * 4), '=']
  | a :: b :: c :: rest =>
    symbol (a.toNat / 4) :: symbol (a.toNat % 4 * 16 + b.toNat / 16) ::
      symbol (b.toNat % 16 * 4 + c.toNat / 64) :: symbol (c.toNat % 64) :: encodeSymbols rest

def encode (bytes : List UInt8) : String := ⟨encodeSymbols bytes⟩

inductive DecodeError where
  | invalidByte (offset : Nat) (byte : Char)
  | invalidLength (length : Nat)
  | invalidLastSymbol (offset : Nat) (byte : Char)
  | invalidPadding
  deriving DecidableEq, Repr

def DecodeError.toString : DecodeError → String
  | .invalidByte offset byte => s!"Invalid symbol {byte.toNat}, offset {offset}."
  | .invalidLength length => s!"Invalid input length: {length}"
  | .invalidLastSymbol offset byte => s!"Invalid last symbol {byte.toNat}, offset {offset}."
  | .invalidPadding => "Invalid padding"

def sym (offset : Nat) (c : Char) : Except DecodeError Nat :=
  match value c with
  | some v => .ok v
  | none => .error (.invalidByte offset c)

def decodeLast (i : Nat) (a b c : Char) : Except DecodeError (List UInt8) := do
  let va ← sym i a
  let vb ← sym (i + 1) b
  if c = '=' then
    if vb % 16 = 0 then .ok [UInt8.ofNat (va * 4 + vb / 16)]
    else .error (.invalidLastSymbol (i + 1) b)
  else do
    let vc ← sym (i + 2) c
    if vc % 4 = 0 then .ok [UInt8.ofNat (va * 4 + vb / 16), UInt8.ofNat (vb % 16 * 16 + vc / 4)]
    else .error (.invalidLastSymbol (i + 2) c)

/-- Decoding from offset `i`, one group of four symbols at a time. A last group of one symbol
is too short, and one of two or three symbols lacks its padding, once its symbols have been
checked. -/
def decodeSymbols : Nat → List Char → Except DecodeError (List UInt8)
  | _, [] => .ok []
  | i, a :: b :: c :: d :: rest =>
    if rest = [] ∧ d = '=' then decodeLast i a b c
    else do
      let va ← sym i a
      let vb ← sym (i + 1) b
      let vc ← sym (i + 2) c
      let vd ← sym (i + 3) d
      let more ← decodeSymbols (i + 4) rest
      .ok (UInt8.ofNat (va * 4 + vb / 16) :: UInt8.ofNat (vb % 16 * 16 + vc / 4) ::
        UInt8.ofNat (vc % 4 * 64 + vd) :: more)
  | i, [a] => do
    let _ ← sym i a
    .error (.invalidLength (i + 1))
  | i, [a, b] => do
    let _ ← sym i a
    let _ ← sym (i + 1) b
    .error .invalidPadding
  | i, [a, b, c] => do
    let _ ← sym i a
    let _ ← sym (i + 1) b
    if c = '=' then .error .invalidPadding
    else do
      let _ ← sym (i + 2) c
      .error .invalidPadding

/-- `STANDARD.decode(s)` of the crate's 0.22 line, which first reports an invalid last byte of
an input one symbol past a whole number of groups. -/
def decode (s : String) : Except DecodeError (List UInt8) :=
  match s.data.getLast? with
  | some b =>
    if s.data.length % 4 = 1 ∧ b ≠ '=' ∧ value b = none then
      .error (.invalidByte (s.data.length - 1) b)
    else decodeSymbols 0 s.data
  | none => decodeSymbols 0 s.data

theorem sym_symbol (i : Nat) {v : Nat} (hv : v < 64) : sym i (symbol v) = .ok v := by
  rw [sym, value_symbol v hv]

theorem ofNat_toNat (byte : UInt8) {n : Nat} (h : n = byte.toNat) : UInt8.ofNat n = byte := by
  rw [h, UInt8.ofNat_toNat_eq]

theorem decodeSymbols_encodeSymbols (i : Nat) (bytes : List UInt8) :
    decodeSymbols i (encodeSymbols bytes) = .ok bytes := by
  induction bytes using encodeSymbols.induct generalizing i with
  | case1 => rfl
  | case2 a =>
    have ha := UInt8.toNat_lt_256 a
    simp only [encodeSymbols, decodeSymbols, decodeLast, and_self, if_true, except_ok_bind,
      sym_symbol _ (by omega : a.toNat / 4 < 64), sym_symbol _ (by omega : a.toNat % 4 * 16 < 64)]
    rw [if_pos (by omega), ofNat_toNat a (by omega)]
  | case3 a b =>
    have ha := UInt8.toNat_lt_256 a
    have hb := UInt8.toNat_lt_256 b
    simp only [encodeSymbols, decodeSymbols, decodeLast, and_self, if_true, except_ok_bind,
      sym_symbol _ (by omega : a.toNat / 4 < 64),
      sym_symbol _ (by omega : a.toNat % 4 * 16 + b.toNat / 16 < 64),
      sym_symbol _ (by omega : b.toNat % 16 * 4 < 64),
      symbol_ne_pad _ (by omega : b.toNat % 16 * 4 < 64)]
    rw [if_false, if_pos (by omega), ofNat_toNat a (by omega), ofNat_toNat b (by omega)]
  | case4 a b c rest ih =>
    have ha := UInt8.toNat_lt_256 a
    have hb := UInt8.toNat_lt_256 b
    have hc := UInt8.toNat_lt_256 c
    have full : ¬(encodeSymbols rest = [] ∧ symbol (c.toNat % 64) = '=') :=
      fun h => symbol_ne_pad _ (by omega) h.2
    simp only [encodeSymbols, decodeSymbols, if_neg full, except_ok_bind,
      sym_symbol _ (by omega : a.toNat / 4 < 64),
      sym_symbol _ (by omega : a.toNat % 4 * 16 + b.toNat / 16 < 64),
      sym_symbol _ (by omega : b.toNat % 16 * 4 + c.toNat / 64 < 64),
      sym_symbol _ (by omega : c.toNat % 64 < 64), ih]
    rw [ofNat_toNat a (by omega), ofNat_toNat b (by omega), ofNat_toNat c (by omega)]

theorem encodeSymbols_length (bytes : List UInt8) : (encodeSymbols bytes).length % 4 = 0 := by
  induction bytes using encodeSymbols.induct with
  | case4 a b c rest ih => simp only [encodeSymbols, List.length_cons]; omega
  | _ => simp [encodeSymbols]

theorem decode_of_decodeSymbols {s : String} {bytes : List UInt8}
    (h : decodeSymbols 0 s.data = .ok bytes) (whole : s.data.length % 4 = 0) :
    decode s = .ok bytes := by
  unfold decode
  split
  · rw [if_neg fun bad => by omega]
    exact h
  · exact h

theorem decode_encode (bytes : List UInt8) : decode (encode bytes) = .ok bytes :=
  decode_of_decodeSymbols (decodeSymbols_encodeSymbols 0 bytes) (encodeSymbols_length bytes)

theorem symbol_of_value {c : Char} {v : Nat} (h : value c = some v) : v < 64 ∧ symbol v = c := by
  have back := Char.ofNat_toNat c
  simp only [value] at h
  split_ifs at h with upper lower digit plus slash <;> cases h <;> refine ⟨by omega, ?_⟩
  · rw [symbol, if_pos (by omega), show 65 + (c.toNat - 65) = c.toNat by omega, back]
  · rw [symbol, if_neg (by omega), if_pos (by omega), show 71 + (c.toNat - 71) = c.toNat by omega,
      back]
  · rw [symbol, if_neg (by omega), if_neg (by omega), if_pos (by omega),
      show c.toNat + 4 - 4 = c.toNat by omega, back]
  · rw [← back, plus]; rfl
  · rw [← back, slash]; rfl

theorem sym_eq_ok {i v : Nat} {c : Char} (h : sym i c = .ok v) : v < 64 ∧ symbol v = c := by
  unfold sym at h
  split at h
  · cases h; exact symbol_of_value ‹_›
  · cases h

theorem toNat_ofNat_of_lt {n : Nat} (small : n < 256) : (UInt8.ofNat n).toNat = n := by
  rw [UInt8.toNat_ofNat_mod, Nat.mod_eq_of_lt small]

theorem decodeLast_eq_ok {i : Nat} {a b c : Char} {bytes : List UInt8}
    (h : decodeLast i a b c = .ok bytes) : encodeSymbols bytes = [a, b, c, '='] := by
  simp only [decodeLast, except_bind_eq_ok] at h
  obtain ⟨va, ha, vb, hb, h⟩ := h
  obtain ⟨va64, rfl⟩ := sym_eq_ok ha
  obtain ⟨vb64, rfl⟩ := sym_eq_ok hb
  split_ifs at h with pad low
  · cases h
    rw [encodeSymbols, toNat_ofNat_of_lt (by omega), show (va * 4 + vb / 16) / 4 = va by omega,
      show (va * 4 + vb / 16) % 4 * 16 = vb by omega, pad]
  · simp only [except_bind_eq_ok] at h
    obtain ⟨vc, hc, h⟩ := h
    obtain ⟨vc64, rfl⟩ := sym_eq_ok hc
    split_ifs at h with low
    cases h
    rw [encodeSymbols, toNat_ofNat_of_lt (by omega), toNat_ofNat_of_lt (by omega),
      show (va * 4 + vb / 16) / 4 = va by omega,
      show (va * 4 + vb / 16) % 4 * 16 + (vb % 16 * 16 + vc / 4) / 16 = vb by omega,
      show (vb % 16 * 16 + vc / 4) % 16 * 4 = vc by omega]

theorem encodeSymbols_of_decodeSymbols (i : Nat) (cs : List Char) {bytes : List UInt8}
    (h : decodeSymbols i cs = .ok bytes) : encodeSymbols bytes = cs := by
  induction i, cs using decodeSymbols.induct generalizing bytes with
  | case1 => cases h; rfl
  | case2 i a b c d rest last =>
    rw [decodeSymbols, if_pos last] at h
    rw [decodeLast_eq_ok h, last.1, last.2]
  | case3 i a b c d rest more ih =>
    rw [decodeSymbols, if_neg more] at h
    simp only [except_bind_eq_ok] at h
    obtain ⟨va, ha, vb, hb, vc, hc, vd, hd, tail, htail, h⟩ := h
    cases h
    obtain ⟨va64, rfl⟩ := sym_eq_ok ha
    obtain ⟨vb64, rfl⟩ := sym_eq_ok hb
    obtain ⟨vc64, rfl⟩ := sym_eq_ok hc
    obtain ⟨vd64, rfl⟩ := sym_eq_ok hd
    rw [encodeSymbols, toNat_ofNat_of_lt (by omega), toNat_ofNat_of_lt (by omega),
      toNat_ofNat_of_lt (by omega), ih htail,
      show (va * 4 + vb / 16) / 4 = va by omega,
      show (va * 4 + vb / 16) % 4 * 16 + (vb % 16 * 16 + vc / 4) / 16 = vb by omega,
      show (vb % 16 * 16 + vc / 4) % 16 * 4 + (vc % 4 * 64 + vd) / 64 = vc by omega,
      show (vc % 4 * 64 + vd) % 64 = vd by omega]
  | case4 i a | case5 i a b | case6 i a b c =>
    -- a last group of one to three symbols is refused whatever they are
    simp only [decodeSymbols, except_bind_eq_ok] at h
    (try split_ifs at h) <;> simp_all [except_bind_eq_ok]

theorem decode_eq_ok_iff {s : String} {bytes : List UInt8} :
    decode s = .ok bytes ↔ s = encode bytes := by
  constructor
  · intro h
    have symbols : decodeSymbols 0 s.data = .ok bytes := by
      unfold decode at h
      split at h
      · split_ifs at h
        exact h
      · exact h
    exact congrArg String.mk (encodeSymbols_of_decodeSymbols 0 s.data symbols).symm
  · rintro rfl
    exact decode_encode bytes

end PumpfunSdk.Base64
