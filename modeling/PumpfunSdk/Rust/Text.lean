import Mathlib.Data.List.Infix
import PumpfunSdk.Rust.Core

/-! Text as the source handles it. Decoded record fields are Rust `String`s built by
`String::from_utf8`, so they are byte strings that passed `run_utf8_validation`
(`RustString`). Log lines and base64 payloads are read with `contains`, `starts_with`,
`trim_start_matches` and `len`; they are Lean strings, whose characters are the Unicode
scalar values of the UTF-8 text, so substring and prefix tests on characters agree with
Rust's tests on bytes, and `len` is the UTF-8 byte count. -/

namespace PumpfunSdk

structure Utf8Error where
  validUpTo : Nat
  errorLen : Option Nat
  deriving DecidableEq, Repr

def Utf8Error.toString : Utf8Error → String
  | ⟨index, some len⟩ => s!"invalid utf-8 sequence of {len} bytes from index {index}"
  | ⟨index, none⟩ => s!"incomplete utf-8 byte sequence from index {index}"

inductive Lead where
  | ascii
  | multi (lo hi owed : Nat)
  | invalid
  deriving DecidableEq, Repr

/-- The first-byte table of `run_utf8_validation`, with the narrowed second-byte ranges that
exclude overlong forms, surrogates and code points above `U+10FFFF`. -/
def lead (byte : UInt8) : Lead :=
  let b := byte.toNat
  if b < 0x80 then .ascii
  else if b < 0xC2 then .invalid
  else if b < 0xE0 then .multi 0x80 0xBF 0
  else if b = 0xE0 then .multi 0xA0 0xBF 1
  else if b = 0xED then .multi 0x80 0x9F 1
  else if b < 0xF0 then .multi 0x80 0xBF 1
  else if b = 0xF0 then .multi 0x90 0xBF 2
  else if b < 0xF4 then .multi 0x80 0xBF 2
  else if b = 0xF4 then .multi 0x80 0x8F 2
  else .invalid

structure Pending where
  lo : Nat
  hi : Nat
  owed : Nat
  start : Nat
  seen : Nat

/-- `run_utf8_validation`, read one byte at a time from offset `i`. An invalid byte stops
it with the start of its character and the bytes of that character read before it; input
that ends inside a character is incomplete. -/
def validateUtf8 : Nat → Option Pending → List UInt8 → Except Utf8Error Unit
  | _, none, [] => .ok ()
  | _, some p, [] => .error ⟨p.start, none⟩
  | i, none, byte :: rest =>
    match lead byte with
    | .ascii => validateUtf8 (i + 1) none rest
    | .multi lo hi owed => validateUtf8 (i + 1) (some ⟨lo, hi, owed, i, 1⟩) rest
    | .invalid => .error ⟨i, some 1⟩
  | i, some p, byte :: rest =>
    if p.lo ≤ byte.toNat ∧ byte.toNat ≤ p.hi then
      validateUtf8 (i + 1)
        (if p.owed = 0 then none else some ⟨0x80, 0xBF, p.owed - 1, p.start, p.seen + 1⟩) rest
    else .error ⟨p.start, some p.seen⟩

structure RustString where
  bytes : List UInt8
  valid : validateUtf8 0 none bytes = .ok ()

instance : DecidableEq RustString := fun a b =>
  if h : a.bytes = b.bytes then isTrue (by cases a; cases b; cases h; rfl)
  else isFalse fun e => h (e ▸ rfl)

instance : Repr RustString := ⟨fun s _ => repr s.bytes⟩

def RustString.empty : RustString := ⟨[], rfl⟩

def RustString.fromUtf8 (bytes : List UInt8) : Except Utf8Error RustString :=
  match h : validateUtf8 0 none bytes with
  | .ok () => .ok ⟨bytes, h⟩
  | .error e => .error e

theorem RustString.fromUtf8_bytes (s : RustString) : RustString.fromUtf8 s.bytes = .ok s := by
  unfold RustString.fromUtf8
  split
  · rfl
  · rename_i e h
    exact absurd (s.valid.symm.trans h) Except.noConfusion

theorem RustString.fromUtf8_ok {bytes : List UInt8} {s : RustString}
    (h : RustString.fromUtf8 bytes = .ok s) : s.bytes = bytes := by
  unfold RustString.fromUtf8 at h
  split at h
  · cases h; rfl
  · cases h

def contains (s pat : String) : Prop := pat.data <:+: s.data

instance (s pat : String) : Decidable (contains s pat) := List.decidableInfix _ _

def startsWith (s pat : String) : Prop := pat.data <+: s.data

instance (s pat : String) : Decidable (startsWith s pat) :=
  List.instDecidableIsPrefixOfDecidableEq _ _

/-- `s.trim_start_matches(pat)`: `pat` removed from the front as often as it is there. Each
removal takes at least one character, so the length of `s` bounds the repetitions. -/
def trimStartMatches (s pat : String) : String :=
  ⟨go s.data.length s.data⟩
where
  go : Nat → List Char → List Char
    | 0, cs => cs
    | fuel + 1, cs =>
      if pat.data ≠ [] ∧ pat.data <+: cs then go fuel (cs.drop pat.data.length) else cs

def stripPrefix (s pat : String) : Option String :=
  if startsWith s pat then some ⟨s.data.drop pat.data.length⟩ else none

theorem stripPrefix_eq_some {s pat rest : String} :
    stripPrefix s pat = some rest ↔ s = pat ++ rest := by
  unfold stripPrefix startsWith
  split_ifs with pre
  · simp only [Option.some.injEq]
    obtain ⟨tail, split⟩ := pre
    constructor
    · rintro rfl
      apply String.ext
      simp [← split]
    · rintro rfl
      apply String.ext
      simp
  · simp only [reduceCtorEq, false_iff]
    rintro rfl
    exact pre (by simp)

@[simp] theorem stripPrefix_append (pat rest : String) : stripPrefix (pat ++ rest) pat = some rest :=
  stripPrefix_eq_some.mpr rfl

def len (s : String) : Nat := s.utf8ByteSize

@[simp] theorem len_empty : len "" = 0 := rfl

def isEmpty (s : String) : Prop := len s = 0

instance (s : String) : Decidable (isEmpty s) := inferInstanceAs (Decidable (_ = _))

theorem utf8ByteSize_go_eq_zero (cs : List Char) : String.utf8ByteSize.go cs = 0 ↔ cs = [] := by
  cases cs with
  | nil => simp [String.utf8ByteSize.go]
  | cons c cs =>
    have := c.utf8Size_pos
    simp only [String.utf8ByteSize.go, reduceCtorEq, iff_false]
    omega

theorem isEmpty_iff (s : String) : isEmpty s ↔ s = "" := by
  cases s with
  | mk cs =>
    rw [isEmpty, len, String.utf8ByteSize, utf8ByteSize_go_eq_zero, String.ext_iff]

theorem len_pos_iff (s : String) : 0 < len s ↔ s ≠ "" := by
  rw [Nat.pos_iff_ne_zero, Ne, Ne, ← isEmpty_iff, isEmpty]

end PumpfunSdk
