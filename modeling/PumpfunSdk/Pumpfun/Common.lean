import PumpfunSdk.Common.LogsData

/-! `pumpfun/common.rs`: the buy quote of the bonding curve and the slippage bounds of a trade.
`get_buy_price` works in `u128` on the virtual reserves; the `+ 1` after the floor division
makes its quote the largest that keeps the reserves' product from falling. -/

namespace PumpfunSdk

open Outcome

/-- `get_buy_price`; the `u64` values widen to `u128` exactly, and `s as u64` keeps the low
64 bits. -/
def getBuyPrice (amount : UInt64) (tradeInfo : TradeInfo) : Outcome UInt64 :=
  if amount = 0 then pure 0
  else do
    let n ← u128Mul tradeInfo.virtualSolReserves.toNat tradeInfo.virtualTokenReserves.toNat
    let i ← u128Add tradeInfo.virtualSolReserves.toNat amount.toNat
    let quotient ← u128Div n i
    let r ← u128Add quotient 1
    let s ← u128Sub tradeInfo.virtualTokenReserves.toNat r
    let sU64 := UInt64.ofNat s
    pure (min sU64 tradeInfo.realTokenReserves)

theorem UInt64.toNat_min_eq (a b : UInt64) : (min a b).toNat = min a.toNat b.toNat := by
  show (if a ≤ b then a else b).toNat = _
  split_ifs with h
  · exact (Nat.min_eq_left (UInt64.le_def.mp h)).symm
  · exact (Nat.min_eq_right (Nat.le_of_lt (Nat.not_le.mp (mt UInt64.le_def.mpr h)))).symm

/-- The `u128` steps of a nonzero quote, on the reserves and the amount as numbers: only the
final subtraction can fail, and it fails exactly when the rounded-up remainder exceeds the
virtual token reserve. -/
theorem getBuyPrice_of_ne_zero {amount : UInt64} (t : TradeInfo) (paid : amount ≠ 0) :
    getBuyPrice amount t =
      (u128Sub t.virtualTokenReserves.toNat
        (t.virtualSolReserves.toNat * t.virtualTokenReserves.toNat /
          (t.virtualSolReserves.toNat + amount.toNat) + 1) >>= fun s =>
        ret (min (UInt64.ofNat s) t.realTokenReserves)) := by
  have vs := UInt64.toNat_lt t.virtualSolReserves
  have vt := UInt64.toNat_lt t.virtualTokenReserves
  have a := UInt64.toNat_lt amount
  have positive : 0 < amount.toNat := Nat.pos_of_ne_zero fun h => paid (UInt64.toNat.inj h)
  have product : t.virtualSolReserves.toNat * t.virtualTokenReserves.toNat ≤
      (2 ^ 64 - 1) * (2 ^ 64 - 1) := Nat.mul_le_mul (by omega) (by omega)
  have quotient : t.virtualSolReserves.toNat * t.virtualTokenReserves.toNat /
      (t.virtualSolReserves.toNat + amount.toNat) ≤
        t.virtualSolReserves.toNat * t.virtualTokenReserves.toNat := Nat.div_le_self _ _
  simp only [getBuyPrice, paid, if_false, u128Mul, u128Add, u128Div,
    show t.virtualSolReserves.toNat * t.virtualTokenReserves.toNat < 2 ^ 128 by omega,
    show t.virtualSolReserves.toNat + amount.toNat < 2 ^ 128 by omega,
    show t.virtualSolReserves.toNat + amount.toNat ≠ 0 by omega, if_true, if_false, ret_bind,
    show t.virtualSolReserves.toNat * t.virtualTokenReserves.toNat /
      (t.virtualSolReserves.toNat + amount.toNat) + 1 < 2 ^ 128 by omega, pure_eq]

theorem remainder_le_reserve (vs : Nat) {vt paid : Nat} (positive : 0 < paid) (reserve : 0 < vt) :
    vs * vt / (vs + paid) + 1 ≤ vt := by
  have below : vs * vt < vt * (vs + paid) := by
    rw [Nat.mul_comm vt, Nat.add_mul]
    exact Nat.lt_add_of_pos_right (Nat.mul_pos positive reserve)
  exact (Nat.div_lt_iff_lt_mul (by omega)).mpr below

theorem lt_mul_iff_quotient_lt {n i y : Nat} (positive : 0 < i) :
    n < i * y ↔ n / i + 1 ≤ y := by
  rw [Nat.mul_comm, ← Nat.div_lt_iff_lt_mul positive]
  rfl

theorem getBuyPrice_quote {amount : UInt64} (t : TradeInfo) (paid : 0 < amount.toNat)
    (reserve : 0 < t.virtualTokenReserves.toNat) :
    ∃ quote, getBuyPrice amount t = .ret quote ∧
      quote.toNat = min t.realTokenReserves.toNat (t.virtualTokenReserves.toNat -
        (t.virtualSolReserves.toNat * t.virtualTokenReserves.toNat /
          (t.virtualSolReserves.toNat + amount.toNat) + 1)) := by
  refine ⟨_, by rw [getBuyPrice_of_ne_zero t fun h => by simp [h] at paid, u128Sub,
    if_pos (remainder_le_reserve _ paid reserve)]; rfl, ?_⟩
  rw [UInt64.toNat_min_eq, UInt64.toNat_ofNat_of_lt
    (lt_of_le_of_lt (Nat.sub_le _ _) t.virtualTokenReserves.toNat_lt_size), Nat.min_comm]

theorem get_buy_price_optimal (amount : UInt64) (t : TradeInfo) (paid : 0 < amount.toNat)
    (reserve : 0 < t.virtualTokenReserves.toNat) :
    ∃ x, IsGreatest {x : Nat | t.virtualSolReserves.toNat * t.virtualTokenReserves.toNat <
        (t.virtualSolReserves.toNat + amount.toNat) * (t.virtualTokenReserves.toNat - x)} x ∧
      x ≤ t.virtualTokenReserves.toNat ∧
      ∃ quote, getBuyPrice amount t = .ret quote ∧
        quote.toNat = min t.realTokenReserves.toNat x := by
  have fits := remainder_le_reserve t.virtualSolReserves.toNat paid reserve
  have divisor : 0 < t.virtualSolReserves.toNat + amount.toNat := by omega
  obtain ⟨quote, quoted, value⟩ := getBuyPrice_quote t paid reserve
  refine ⟨_, ⟨?_, fun y kept => ?_⟩, Nat.sub_le _ _, quote, quoted, value⟩
  · rw [Set.mem_setOf_eq, Nat.sub_sub_self fits, lt_mul_iff_quotient_lt divisor]
  · rw [Set.mem_setOf_eq, lt_mul_iff_quotient_lt divisor] at kept
    generalize t.virtualSolReserves.toNat * t.virtualTokenReserves.toNat /
      (t.virtualSolReserves.toNat + amount.toNat) = quotient at kept ⊢
    omega

theorem get_buy_price_optimal_quote :
    let t : TradeInfo := ⟨0, ⟨List.replicate 32 0, rfl⟩, 0, 0, false, ⟨List.replicate 32 0, rfl⟩,
      0, 30, 1000, 0, 500⟩
    0 < (1 : UInt64).toNat ∧ 0 < t.virtualTokenReserves.toNat ∧
      ∃ x, IsGreatest {x : Nat | t.virtualSolReserves.toNat * t.virtualTokenReserves.toNat <
          (t.virtualSolReserves.toNat + (1 : UInt64).toNat) * (t.virtualTokenReserves.toNat - x)} x ∧
        x ≤ t.virtualTokenReserves.toNat ∧
        ∃ quote, getBuyPrice 1 t = .ret quote ∧ quote.toNat = min t.realTokenReserves.toNat x :=
  ⟨by decide, by decide, get_buy_price_optimal 1 _ (by decide) (by decide)⟩

theorem get_buy_price_underflow_iff (amount : UInt64) (t : TradeInfo) :
    getBuyPrice amount t = .panic ↔ amount ≠ 0 ∧ t.virtualTokenReserves.toNat = 0 := by
  by_cases free : amount = 0
  · simp [getBuyPrice, free]
  have paid : 0 < amount.toNat := Nat.pos_of_ne_zero fun h => free (UInt64.toNat.inj h)
  rw [getBuyPrice_of_ne_zero t free, u128Sub]
  by_cases empty : t.virtualTokenReserves.toNat = 0
  · simp [empty, free]
  · rw [if_pos (remainder_le_reserve _ paid (Nat.pos_of_ne_zero empty))]
    simp [empty]

theorem get_buy_price_empty_curve :
    let t : TradeInfo := ⟨0, ⟨List.replicate 32 0, rfl⟩, 0, 0, false, ⟨List.replicate 32 0, rfl⟩,
      0, 0, 0, 0, 0⟩
    t.virtualTokenReserves.toNat <
        t.virtualSolReserves.toNat * t.virtualTokenReserves.toNat /
          (t.virtualSolReserves.toNat + (1 : UInt64).toNat) + 1 ∧
      getBuyPrice 1 t = .panic := by
  decide

def defaultSlippage : UInt64 := 3000

def calculateWithSlippageBuy (amount basisPoints : UInt64) : Outcome UInt64 := do
  let scaled ← u64Mul amount basisPoints
  u64Add amount (scaled / 10000)

def calculateWithSlippageSell (amount basisPoints : UInt64) : Outcome UInt64 := do
  let scaled ← u64Mul amount basisPoints
  u64Sub amount (scaled / 10000)

def getBuyAmountWithSlippage (amountSol : UInt64) (slippageBasisPoints : Option UInt64) :
    Outcome UInt64 :=
  calculateWithSlippageBuy amountSol (slippageBasisPoints.getD defaultSlippage)

theorem u64Mul_bind_eq_ret {a b bound : UInt64} {finish : UInt64 → Outcome UInt64}
    {Q : Nat → Prop} (reads : ∀ scaled, finish scaled = ret bound ↔ Q scaled.toNat) :
    (u64Mul a b >>= finish) = ret bound ↔
      a.toNat * b.toNat < 2 ^ 64 ∧ Q (a.toNat * b.toNat) := by
  rw [bind_eq_ret]
  constructor
  · rintro ⟨scaled, product, finished⟩
    obtain ⟨fits, exact⟩ := u64Mul_eq_ret.mp product
    exact ⟨fits, exact ▸ (reads scaled).mp finished⟩
  · rintro ⟨fits, holds⟩
    refine ⟨UInt64.ofNat _, u64Mul_eq_ret.mpr ⟨fits, UInt64.toNat_ofNat_of_lt fits⟩,
      (reads _).mpr ?_⟩
    rwa [UInt64.toNat_ofNat_of_lt fits]

theorem calculateWithSlippageSell_eq_ret {amount basisPoints bound : UInt64} :
    calculateWithSlippageSell amount basisPoints = ret bound ↔
      amount.toNat * basisPoints.toNat < 2 ^ 64 ∧
        amount.toNat * basisPoints.toNat / 10000 ≤ amount.toNat ∧
        bound.toNat = amount.toNat - amount.toNat * basisPoints.toNat / 10000 :=
  @u64Mul_bind_eq_ret _ _ _ _ (fun product => product / 10000 ≤ amount.toNat ∧
    bound.toNat = amount.toNat - product / 10000) fun _ => by
      rw [u64Sub_eq_ret, UInt64.toNat_div]; rfl

end PumpfunSdk
