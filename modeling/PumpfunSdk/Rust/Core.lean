import Mathlib.Tactic.Ring
import Mathlib.Algebra.Order.Group.Nat

/-! Rust execution as the models read it. A call returns a value or panics; slicing,
indexing and the integer operations the source uses panic exactly where Rust's do, with
arithmetic overflow a panic as in a debug build. Byte buffers are `List UInt8`, and
`uN::from_le_bytes` / `to_le_bytes` are `leValue` / `leBytes`. -/

namespace PumpfunSdk

/-- How a call of Rust code ends: it returns, or it panics. -/
inductive Outcome (α : Type) where
  | ret : α → Outcome α
  | panic : Outcome α
  deriving DecidableEq, Repr

namespace Outcome

variable {α β γ : Type}

def bind : Outcome α → (α → Outcome β) → Outcome β
  | ret a, f => f a
  | panic, _ => panic

instance : Monad Outcome where
  pure := ret
  bind := bind

@[simp] theorem pure_eq (a : α) : (pure a : Outcome α) = ret a := rfl

@[simp] theorem ret_bind (a : α) (f : α → Outcome β) : (ret a >>= f) = f a := rfl

@[simp] theorem panic_bind (f : α → Outcome β) : (panic >>= f) = panic := rfl

@[simp] theorem map_ret (f : α → β) (a : α) : f <$> ret a = ret (f a) := rfl

@[simp] theorem map_panic (f : α → β) : f <$> (panic : Outcome α) = panic := rfl

theorem bind_assoc (x : Outcome α) (f : α → Outcome β) (g : β → Outcome γ) :
    (x >>= f >>= g) = x >>= fun a => f a >>= g := by
  cases x <;> rfl

instance instLawfulMonadOutcome : LawfulMonad Outcome :=
  LawfulMonad.mk' Outcome (fun x => by cases x <;> rfl) (fun _ _ => rfl) bind_assoc

theorem bind_eq_ret {x : Outcome α} {f : α → Outcome β} {b : β} :
    x >>= f = ret b ↔ ∃ a, x = ret a ∧ f a = ret b := by
  cases x <;> simp

def Returns (x : Outcome α) : Prop := ∃ a, x = ret a

theorem Returns.bind {x : Outcome α} {f : α → Outcome β} (hx : Returns x)
    (hf : ∀ a, x = ret a → Returns (f a)) : Returns (x >>= f) := by
  obtain ⟨a, rfl⟩ := hx
  exact hf a rfl

theorem foldlM_eq_panic_iff {σ : Type} {f : σ → α → Outcome σ} {Bad : α → Prop}
    (bad : ∀ s x, f s x = panic ↔ Bad x) (xs : List α) :
    ∀ s, xs.foldlM f s = panic ↔ ∃ x ∈ xs, Bad x := by
  induction xs with
  | nil => intro s; simp [List.foldlM]
  | cons x xs ih =>
    intro s
    rw [List.foldlM_cons]
    cases stepped : f s x with
    | panic => simp [(bad s x).mp stepped]
    | ret s' =>
      have good : ¬ Bad x := fun isBad => by
        rw [(bad s x).mpr isBad] at stepped
        cases stepped
      simp [ih, good]

end Outcome

open Outcome

instance exceptDecidableEq {ε α : Type} [DecidableEq ε] [DecidableEq α] :
    DecidableEq (Except ε α)
  | .ok a, .ok b => if h : a = b then isTrue (h ▸ rfl) else isFalse fun e => h (by cases e; rfl)
  | .error a, .error b =>
    if h : a = b then isTrue (h ▸ rfl) else isFalse fun e => h (by cases e; rfl)
  | .ok _, .error _ => isFalse Except.noConfusion
  | .error _, .ok _ => isFalse Except.noConfusion

section Except

variable {ε α β : Type}

@[simp] theorem except_pure (a : α) : (pure a : Except ε α) = .ok a := rfl

@[simp] theorem except_ok_bind (a : α) (f : α → Except ε β) : (Except.ok a >>= f) = f a := rfl

@[simp] theorem except_error_bind (e : ε) (f : α → Except ε β) :
    (Except.error e >>= f) = Except.error e := rfl

theorem except_bind_eq_ok {x : Except ε α} {f : α → Except ε β} {b : β} :
    x >>= f = .ok b ↔ ∃ a, x = .ok a ∧ f a = .ok b := by
  cases x <;> simp

theorem except_toOption_eq_some {x : Except ε α} {a : α} :
    x.toOption = some a ↔ x = .ok a := by
  cases x <;> simp [Except.toOption]

end Except

variable {α : Type}

/-- `xs[start..stop]`: panics unless `start ≤ stop ≤ xs.len()`. -/
def sliceRange (xs : List α) (start stop : Nat) : Outcome (List α) :=
  if start ≤ stop ∧ stop ≤ xs.length then ret ((xs.drop start).take (stop - start)) else panic

def sliceFrom (xs : List α) (start : Nat) : Outcome (List α) :=
  if start ≤ xs.length then ret (xs.drop start) else panic

def index (xs : List α) (i : Nat) : Outcome α :=
  if h : i < xs.length then ret (xs.get ⟨i, h⟩) else panic

def expect : Option α → Outcome α
  | some a => ret a
  | none => panic

theorem sliceRange_of_le {xs : List α} {start stop : Nat} (order : start ≤ stop)
    (inside : stop ≤ xs.length) :
    sliceRange xs start stop = ret ((xs.drop start).take (stop - start)) :=
  if_pos ⟨order, inside⟩

theorem sliceRange_of_lt {xs : List α} {start stop : Nat} (outside : xs.length < stop) :
    sliceRange xs start stop = panic :=
  if_neg fun h => Nat.lt_irrefl _ (Nat.lt_of_lt_of_le outside h.2)

theorem sliceFrom_of_le {xs : List α} {start : Nat} (inside : start ≤ xs.length) :
    sliceFrom xs start = ret (xs.drop start) :=
  if_pos inside

theorem index_of_lt {xs : List α} {i : Nat} (inside : i < xs.length) :
    index xs i = ret (xs.get ⟨i, inside⟩) :=
  dif_pos inside

theorem index_of_le {xs : List α} {i : Nat} (outside : xs.length ≤ i) : index xs i = panic :=
  dif_neg (Nat.not_lt.mpr outside)

@[simp] theorem index_cons_zero (a : α) (xs : List α) : index (a :: xs) 0 = ret a :=
  @index_of_lt _ (a :: xs) 0 (Nat.zero_lt_succ _)

def i32Add (a b : Int) : Outcome Int :=
  if -2 ^ 31 ≤ a + b ∧ a + b < 2 ^ 31 then ret (a + b) else panic

def i32Sub (a b : Int) : Outcome Int :=
  if -2 ^ 31 ≤ a - b ∧ a - b < 2 ^ 31 then ret (a - b) else panic

theorem i32Add_eq_ret {a b c : Int} :
    i32Add a b = ret c ↔ -2 ^ 31 ≤ a + b ∧ a + b < 2 ^ 31 ∧ a + b = c := by
  unfold i32Add; split_ifs with h <;> simp only [ret.injEq, reduceCtorEq, false_iff] <;> omega

theorem i32Sub_eq_ret {a b c : Int} :
    i32Sub a b = ret c ↔ -2 ^ 31 ≤ a - b ∧ a - b < 2 ^ 31 ∧ a - b = c := by
  unfold i32Sub; split_ifs with h <;> simp only [ret.injEq, reduceCtorEq, false_iff] <;> omega

def u128Add (a b : Nat) : Outcome Nat :=
  if a + b < 2 ^ 128 then ret (a + b) else panic

def u128Mul (a b : Nat) : Outcome Nat :=
  if a * b < 2 ^ 128 then ret (a * b) else panic

def u128Sub (a b : Nat) : Outcome Nat :=
  if b ≤ a then ret (a - b) else panic

def u128Div (a b : Nat) : Outcome Nat :=
  if b = 0 then panic else ret (a / b)

def u64Add (a b : UInt64) : Outcome UInt64 :=
  if a.toNat + b.toNat < 2 ^ 64 then ret (a + b) else panic

def u64Sub (a b : UInt64) : Outcome UInt64 :=
  if b.toNat ≤ a.toNat then ret (a - b) else panic

def u64Mul (a b : UInt64) : Outcome UInt64 :=
  if a.toNat * b.toNat < 2 ^ 64 then ret (a * b) else panic

theorem ret_eq_ret_iff_toNat {a c : UInt64} : ret a = ret c ↔ c.toNat = a.toNat :=
  ret.injEq a c ▸ ⟨fun same => same ▸ rfl, fun same => UInt64.toNat.inj same.symm⟩

theorem u64Sub_eq_ret {a b c : UInt64} :
    u64Sub a b = ret c ↔ b.toNat ≤ a.toNat ∧ c.toNat = a.toNat - b.toNat := by
  unfold u64Sub
  split_ifs with fits
  · rw [ret_eq_ret_iff_toNat, UInt64.toNat_sub_of_le _ _ fits, and_iff_right fits]
  · simp only [reduceCtorEq, fits, false_and]

theorem u64Mul_eq_ret {a b c : UInt64} :
    u64Mul a b = ret c ↔ a.toNat * b.toNat < 2 ^ 64 ∧ c.toNat = a.toNat * b.toNat := by
  unfold u64Mul
  split_ifs with fits
  · rw [ret_eq_ret_iff_toNat, show (a * b).toNat = a.toNat * b.toNat % 2 ^ 64 from rfl,
      Nat.mod_eq_of_lt fits, and_iff_right fits]
  · simp only [reduceCtorEq, fits, false_and]

def leValue : List UInt8 → Nat
  | [] => 0
  | byte :: rest => byte.toNat + 256 * leValue rest

def leBytes : Nat → Nat → List UInt8
  | 0, _ => []
  | width + 1, n => UInt8.ofNat n :: leBytes width (n / 256)

theorem UInt8.toNat_ofNat_mod (n : Nat) : (UInt8.ofNat n).toNat = n % 256 :=
  BitVec.toNat_ofNat n 8

theorem UInt8.toNat_lt_256 (byte : UInt8) : byte.toNat < 256 :=
  byte.toNat_lt_size

@[simp] theorem UInt8.ofNat_toNat_eq (byte : UInt8) : UInt8.ofNat byte.toNat = byte :=
  UInt8.toNat.inj (by rw [UInt8.toNat_ofNat_mod, Nat.mod_eq_of_lt (UInt8.toNat_lt_256 byte)])

theorem UInt64.toNat_lt (x : UInt64) : x.toNat < 2 ^ 64 := x.toNat_lt_size

@[simp] theorem UInt64.ofNat_toNat_eq (x : UInt64) : UInt64.ofNat x.toNat = x :=
  UInt64.toNat.inj (UInt64.toNat_ofNat_of_lt x.toNat_lt_size)

@[simp] theorem leBytes_length (width n : Nat) : (leBytes width n).length = width := by
  induction width generalizing n with
  | zero => rfl
  | succ width ih => simp [leBytes, ih]

theorem leValue_lt (bytes : List UInt8) : leValue bytes < 256 ^ bytes.length := by
  induction bytes with
  | nil => simp [leValue]
  | cons byte rest ih =>
    have := UInt8.toNat_lt_256 byte
    simp only [leValue, List.length_cons, pow_succ]
    omega

theorem leValue_leBytes (width n : Nat) : leValue (leBytes width n) = n % 256 ^ width := by
  induction width generalizing n with
  | zero => simp [leValue, leBytes, Nat.mod_one]
  | succ width ih =>
    rw [leBytes, leValue, ih, UInt8.toNat_ofNat_mod, pow_succ, Nat.mul_comm _ 256, Nat.mod_mul]

theorem leValue_leBytes_of_lt {width n : Nat} (small : n < 256 ^ width) :
    leValue (leBytes width n) = n := by
  rw [leValue_leBytes, Nat.mod_eq_of_lt small]

@[simp] theorem leValue_leBytes_uint64 (x : UInt64) : leValue (leBytes 8 x.toNat) = x.toNat :=
  leValue_leBytes_of_lt x.toNat_lt_size

@[simp] theorem leValue_leBytes_bitVec (x : BitVec 64) : leValue (leBytes 8 x.toNat) = x.toNat :=
  leValue_leBytes_of_lt x.isLt

theorem leBytes_leValue (bytes : List UInt8) : leBytes bytes.length (leValue bytes) = bytes := by
  induction bytes with
  | nil => rfl
  | cons byte rest ih =>
    have low := UInt8.toNat_lt_256 byte
    have digit : UInt8.ofNat (byte.toNat + 256 * leValue rest) = byte :=
      UInt8.toNat.inj (by rw [UInt8.toNat_ofNat_mod]; omega)
    have high : (byte.toNat + 256 * leValue rest) / 256 = leValue rest := by omega
    rw [List.length_cons, leBytes, leValue, digit, high, ih]

end PumpfunSdk
