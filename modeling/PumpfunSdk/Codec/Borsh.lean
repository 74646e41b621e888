import PumpfunSdk.Codec.Pubkey

/-! Borsh, as the `borsh` crate derives it for the records of `logs_data`: fields in
declaration order, integers little-endian, a `String` as its `u32` byte count and its
bytes, a `bool` as one byte that must be 0 or 1, a `Pubkey` as its 32 raw bytes.
`try_from_slice` also rejects input left unread. Errors are `io::Error`s, kept as their
display texts. -/

namespace PumpfunSdk.Borsh

def unexpectedLength : String := "Unexpected length of input"

def notAllBytesRead : String := "Not all bytes read"

/-- A deserializer: it consumes a prefix of its input, or fails. -/
abbrev Reader (α : Type) := StateT (List UInt8) (Except String) α

def readBytes (n : Nat) : Reader (List UInt8) := fun input =>
  if n ≤ input.length then .ok (input.take n, input.drop n) else .error unexpectedLength

def readU32 : Reader Nat := do
  let bytes ← readBytes 4
  pure (leValue bytes)

def readU8 : Reader UInt8 := do
  let bytes ← readBytes 1
  pure (UInt8.ofNat (leValue bytes))

def readU64 : Reader UInt64 := do
  let bytes ← readBytes 8
  pure (UInt64.ofNat (leValue bytes))

def readI64 : Reader (BitVec 64) := do
  let bytes ← readBytes 8
  pure (BitVec.ofNat 64 (leValue bytes))

def readBool : Reader Bool := do
  let bytes ← readBytes 1
  let b := leValue bytes
  if b = 0 then pure false
  else if b = 1 then pure true
  else throw s!"Invalid bool representation: {b}"

def readString : Reader RustString := do
  let n ← readU32
  let bytes ← readBytes n
  match RustString.fromUtf8 bytes with
  | .ok s => pure s
  | .error e => throw e.toString

def readPubkey : Reader Pubkey := fun input =>
  if h : 32 ≤ input.length then .ok (⟨input.take 32, by simp [h]⟩, input.drop 32)
  else .error unexpectedLength

def tryFromSlice {α : Type} (reader : Reader α) (bytes : List UInt8) : Except String α :=
  match reader bytes with
  | .ok (a, []) => .ok a
  | .ok (_, _ :: _) => .error notAllBytesRead
  | .error e => .error e

def writeU8 (x : UInt8) : List UInt8 := [x]

def writeU64 (x : UInt64) : List UInt8 := leBytes 8 x.toNat

def writeI64 (x : BitVec 64) : List UInt8 := leBytes 8 x.toNat

def writeBool (b : Bool) : List UInt8 := [if b then 1 else 0]

/-- A `String`: its byte count as a `u32`, then its bytes. A count that does not fit a `u32`
is `ErrorKind::InvalidData`. -/
def writeString (s : RustString) : Except String (List UInt8) :=
  if s.bytes.length < 2 ^ 32 then .ok (leBytes 4 s.bytes.length ++ s.bytes)
  else .error "invalid data"

theorem readBytes_append {n : Nat} (bytes rest : List UInt8) (h : bytes.length = n) :
    readBytes n (bytes ++ rest) = .ok (bytes, rest) := by
  subst h
  simp [readBytes]

section RoundTrip

variable {α β : Type}

theorem bind_apply (x : Reader α) (f : α → Reader β) (input : List UInt8) :
    (x >>= f) input = x input >>= fun read => f read.1 read.2 := rfl

theorem map_apply (f : α → β) (x : Reader α) (input : List UInt8) :
    (f <$> x) input = x input >>= fun read => pure (f read.1, read.2) := rfl

@[simp] theorem pure_apply (a : α) (input : List UInt8) :
    (pure a : Reader α) input = .ok (a, input) := rfl

theorem readU32_append {n : Nat} (rest : List UInt8) (fits : n < 2 ^ 32) :
    readU32 (leBytes 4 n ++ rest) = .ok (n, rest) := by
  simp [readU32, bind_apply, readBytes_append _ _ (leBytes_length 4 _), leValue_leBytes]
  omega

@[simp] theorem readU64_append (x : UInt64) (rest : List UInt8) :
    readU64 (writeU64 x ++ rest) = .ok (x, rest) := by
  simp [readU64, writeU64, bind_apply, readBytes_append _ _ (leBytes_length 8 _)]

@[simp] theorem readI64_append (x : BitVec 64) (rest : List UInt8) :
    readI64 (writeI64 x ++ rest) = .ok (x, rest) := by
  simp [readI64, writeI64, bind_apply, readBytes_append _ _ (leBytes_length 8 _)]

@[simp] theorem readBool_append (b : Bool) (rest : List UInt8) :
    readBool (writeBool b ++ rest) = .ok (b, rest) := by
  cases b <;> simp [readBool, writeBool, bind_apply, readBytes, leValue]

@[simp] theorem readPubkey_append (k : Pubkey) (rest : List UInt8) :
    readPubkey (k.bytes ++ rest) = .ok (k, rest) := by
  simp [readPubkey, k.length_bytes]

@[simp] theorem readU64_writeU64 (x : UInt64) : readU64 (writeU64 x) = .ok (x, []) := by
  simpa using readU64_append x []

theorem readString_append (s : RustString) (rest : List UInt8) (fits : s.bytes.length < 2 ^ 32) :
    readString (leBytes 4 s.bytes.length ++ (s.bytes ++ rest)) = .ok (s, rest) := by
  rw [readString, bind_apply, readU32_append _ fits]
  simp [bind_apply, readBytes_append, RustString.fromUtf8_bytes]

end RoundTrip

section Accepted

variable {input rest bytes : List UInt8}

theorem bind_eq_ok {α β : Type} {x : Reader α} {f : α → Reader β} {b : β} :
    (x >>= f) input = .ok (b, rest) ↔ ∃ a mid, x input = .ok (a, mid) ∧ f a mid = .ok (b, rest) := by
  rw [bind_apply, except_bind_eq_ok, Prod.exists]

@[simp] theorem pure_eq_ok {α : Type} {a b : α} :
    (pure a : Reader α) input = .ok (b, rest) ↔ a = b ∧ input = rest := by
  simp

theorem readBytes_eq_ok {n : Nat} :
    readBytes n input = .ok (bytes, rest) ↔ bytes.length = n ∧ input = bytes ++ rest := by
  unfold readBytes
  split_ifs with long
  · simp only [Except.ok.injEq, Prod.mk.injEq]
    constructor
    · rintro ⟨rfl, rfl⟩
      exact ⟨by simp [long], (List.take_append_drop n input).symm⟩
    · rintro ⟨rfl, rfl⟩
      simp
  · simp only [reduceCtorEq, false_iff, not_and]
    rintro rfl rfl
    simp at long

theorem readU64_eq_ok {x : UInt64} : readU64 input = .ok (x, rest) ↔ input = writeU64 x ++ rest := by
  constructor
  · intro h
    simp only [readU64, bind_apply, except_bind_eq_ok, Prod.exists, pure_apply, Except.ok.injEq,
      Prod.mk.injEq] at h
    obtain ⟨bytes, mid, read, rfl, rfl⟩ := h
    obtain ⟨eight, rfl⟩ := readBytes_eq_ok.mp read
    rw [writeU64, UInt64.toNat_ofNat_of_lt (by simpa [eight] using leValue_lt bytes), ← eight,
      leBytes_leValue]
  · rintro rfl
    exact readU64_append x rest

theorem readI64_eq_ok {x : BitVec 64} :
    readI64 input = .ok (x, rest) ↔ input = writeI64 x ++ rest := by
  constructor
  · intro h
    simp only [readI64, bind_apply, except_bind_eq_ok, Prod.exists, pure_apply, Except.ok.injEq,
      Prod.mk.injEq] at h
    obtain ⟨bytes, mid, read, rfl, rfl⟩ := h
    obtain ⟨eight, rfl⟩ := readBytes_eq_ok.mp read
    rw [writeI64, BitVec.toNat_ofNat, Nat.mod_eq_of_lt (by simpa [eight] using leValue_lt bytes),
      ← eight, leBytes_leValue]
  · rintro rfl
    exact readI64_append x rest

theorem readU8_eq_ok {x : UInt8} : readU8 input = .ok (x, rest) ↔ input = writeU8 x ++ rest := by
  constructor
  · intro h
    simp only [readU8, bind_apply, except_bind_eq_ok, Prod.exists, pure_apply, Except.ok.injEq,
      Prod.mk.injEq] at h
    obtain ⟨bytes, mid, read, rfl, rfl⟩ := h
    obtain ⟨one, rfl⟩ := readBytes_eq_ok.mp read
    obtain ⟨byte, rfl⟩ := List.length_eq_one.mp one
    simp [leValue, writeU8]
  · rintro rfl
    simp [readU8, writeU8, bind_apply, readBytes, leValue]

@[simp] theorem readU8_append (x : UInt8) (rest : List UInt8) :
    readU8 (writeU8 x ++ rest) = .ok (x, rest) :=
  readU8_eq_ok.mpr rfl

theorem readBool_eq_ok {b : Bool} : readBool input = .ok (b, rest) ↔ input = writeBool b ++ rest := by
  constructor
  · intro h
    simp only [readBool, bind_apply, except_bind_eq_ok, Prod.exists] at h
    obtain ⟨bytes, mid, read, h⟩ := h
    obtain ⟨one, rfl⟩ := readBytes_eq_ok.mp read
    obtain ⟨byte, rfl⟩ := List.length_eq_one.mp one
    simp only [leValue, Nat.mul_zero, Nat.add_zero] at h
    split_ifs at h with zero one <;> cases h <;> simp only [writeBool, List.singleton_append,
      List.cons.injEq, and_true] <;> apply UInt8.toNat.inj
    · exact zero
    · exact one
  · rintro rfl
    exact readBool_append b rest

theorem readPubkey_eq_ok {k : Pubkey} : readPubkey input = .ok (k, rest) ↔ input = k.bytes ++ rest := by
  constructor
  · intro h
    unfold readPubkey at h
    split_ifs at h with long
    simp only [Except.ok.injEq, Prod.mk.injEq] at h
    obtain ⟨rfl, rfl⟩ := h
    exact (List.take_append_drop 32 input).symm
  · rintro rfl
    exact readPubkey_append k rest

theorem readU32_eq_ok {n : Nat} :
    readU32 input = .ok (n, rest) ↔ n < 2 ^ 32 ∧ input = leBytes 4 n ++ rest := by
  constructor
  · intro h
    simp only [readU32, bind_apply, except_bind_eq_ok, Prod.exists, pure_apply, Except.ok.injEq,
      Prod.mk.injEq] at h
    obtain ⟨bytes, mid, read, rfl, rfl⟩ := h
    obtain ⟨four, rfl⟩ := readBytes_eq_ok.mp read
    exact ⟨by simpa [four] using leValue_lt bytes, by rw [← four, leBytes_leValue]⟩
  · rintro ⟨fits, rfl⟩
    exact readU32_append rest fits

theorem readString_eq_ok {s : RustString} :
    readString input = .ok (s, rest) ↔
      s.bytes.length < 2 ^ 32 ∧ input = leBytes 4 s.bytes.length ++ s.bytes ++ rest := by
  constructor
  · intro h
    simp only [readString, bind_apply, except_bind_eq_ok, Prod.exists] at h
    obtain ⟨n, mid, counted, bytes, tail, read, h⟩ := h
    obtain ⟨fits, rfl⟩ := readU32_eq_ok.mp counted
    obtain ⟨rfl, rfl⟩ := readBytes_eq_ok.mp read
    cases valid : RustString.fromUtf8 bytes with
    | error e => rw [valid] at h; cases h
    | ok t =>
      simp only [valid, pure_apply, Except.ok.injEq, Prod.mk.injEq] at h
      obtain ⟨rfl, rfl⟩ := h
      rw [RustString.fromUtf8_ok valid]
      exact ⟨fits, by simp⟩
  · rintro ⟨fits, rfl⟩
    simpa using readString_append s rest fits

theorem tryFromSlice_eq_ok {α : Type} {reader : Reader α} {bytes : List UInt8} {a : α} :
    tryFromSlice reader bytes = .ok a ↔ reader bytes = .ok (a, []) := by
  unfold tryFromSlice
  split <;> simp_all

end Accepted

end PumpfunSdk.Borsh
