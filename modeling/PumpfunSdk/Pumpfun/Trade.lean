import PumpfunSdk.Pumpfun.Common
import PumpfunSdk.Instruction

/-! `pumpfun/sell.rs`, `pumpfun/buy.rs` and `pumpfun/create.rs`, with the copies of their
builders in `instruction/mod.rs`: the amounts of the `Sell` and `Buy` instructions a trade
sends. The RPC reads are answers given as parameters; building, signing and sending the
transaction only add their own errors and are not modelled. -/

namespace PumpfunSdk.Trade

open Outcome

def parseU64 (s : String) : Option UInt64 :=
  let digits := match s.data with
    | '+' :: rest => rest
    | cs => cs
  if digits ≠ [] ∧ digits.all Char.isDigit then
    let n := digits.foldl (fun n c => n * 10 + (c.toNat - 48)) 0
    if n < 2 ^ 64 then some (UInt64.ofNat n) else none
  else none

def getTokenBalance (answer : Except String String) : Except String UInt64 := do
  let amount ← answer
  match parseU64 amount with
  | none => .error "Failed to parse token balance"
  | some balance => if balance = 0 then .error "Balance is 0" else .ok balance

/-- The body of `build_sell_instructions` once the amount is known, shared by `pumpfun/sell.rs`
and `instruction/mod.rs`; `zeroMessage` is each one's text for a zero amount. `quote amount` is
what `get_global_account`, `get_bonding_curve_account` and
`get_sell_price(amount, fee_basis_points)` give together. The `close_account` instruction that
follows cannot fail. -/
def buildSellInstructionsWith (zeroMessage : String) (amount : UInt64)
    (quote : UInt64 → Except String UInt64) (slippageBasisPoints : Option UInt64) :
    Outcome (Except String Instruction.Sell) :=
  if amount = 0 then pure (.error zeroMessage)
  else
    match quote amount with
    | .error e => pure (.error e)
    | .ok minSolOutput => do
      let minSolOutputWithSlippage ←
        calculateWithSlippageSell minSolOutput (slippageBasisPoints.getD defaultSlippage)
      pure (.ok ⟨amount, minSolOutputWithSlippage⟩)

def buildSellInstructions (balance : Except String String) (quote : UInt64 → Except String UInt64)
    (amountToken slippageBasisPoints : Option UInt64) : Outcome (Except String Instruction.Sell) :=
  match getTokenBalance balance with
  | .error e => pure (.error e)
  | .ok balanceU64 =>
    buildSellInstructionsWith "Amount cannot be zero" (amountToken.getD balanceU64) quote
      slippageBasisPoints

def sellByPercentWith (percent : UInt64) (first : Except String String)
    (sell : Option UInt64 → Outcome (Except String β)) : Outcome (Except String β) :=
  if percent = 0 ∨ percent > 100 then pure (.error "Percentage must be between 1 and 100")
  else
    match getTokenBalance first with
    | .error e => pure (.error e)
    | .ok balanceU64 => do
      let scaled ← u64Mul balanceU64 percent
      sell (some (scaled / 100))

def sellByPercent (percent : UInt64) (first second : Except String String)
    (quote : UInt64 → Except String UInt64) (slippageBasisPoints : Option UInt64) :
    Outcome (Except String Instruction.Sell) :=
  sellByPercentWith percent first fun amount =>
    buildSellInstructions second quote amount slippageBasisPoints

def buyAmount (initialBuyAmount : UInt64) (curveQuote : Except String (Except String UInt64)) :
    Outcome (Except String UInt64) :=
  match curveQuote with
  | .ok quoted => pure quoted
  | .error _ => do
    let scaled ← u64Mul initialBuyAmount 80
    pure (.ok (scaled / 100))

/-- The body of `build_buy_instructions`, the same in `pumpfun/buy.rs` and `instruction/mod.rs` but
for `zeroMessage`, each one's text for a zero amount. `initialBuyPrice` is the global account's
`get_initial_buy_price(amount_sol)`, and `curveQuote` the bonding curve's
`get_buy_price(amount_sol)`, `Err` at the outside when no curve account is found. -/
def buildBuyInstructionsWith (zeroMessage : String) (amountSol : UInt64)
    (slippageBasisPoints : Option UInt64) (initialBuyPrice : Except String UInt64)
    (curveQuote : Except String (Except String UInt64)) : Outcome (Except String Instruction.Buy) :=
  if amountSol = 0 then pure (.error zeroMessage)
  else
    match initialBuyPrice with
    | .error e => pure (.error e)
    | .ok initialBuyAmount => do
      match ← buyAmount initialBuyAmount curveQuote with
      | .error e => pure (.error e)
      | .ok buyAmount => do
        let buyAmountWithSlippage ←
          calculateWithSlippageBuy amountSol (slippageBasisPoints.getD defaultSlippage)
        pure (.ok ⟨buyAmount, buyAmountWithSlippage⟩)

def buildBuyInstructions (amountSol : UInt64) (slippageBasisPoints : Option UInt64)
    (initialBuyPrice : Except String UInt64) (curveQuote : Except String (Except String UInt64)) :
    Outcome (Except String Instruction.Buy) :=
  buildBuyInstructionsWith "Amount cannot be zero" amountSol slippageBasisPoints initialBuyPrice
    curveQuote

def buildCreateAndBuyInstructionsWith (zeroMessage : String) (amountSol : UInt64)
    (slippageBasisPoints : Option UInt64) (initialBuyPrice : Except String UInt64) :
    Outcome (Except String Instruction.Buy) :=
  if amountSol = 0 then pure (.error zeroMessage)
  else
    match initialBuyPrice with
    | .error e => pure (.error e)
    | .ok buyAmount => do
      let buyAmountWithSlippage ← getBuyAmountWithSlippage amountSol slippageBasisPoints
      pure (.ok ⟨buyAmount, buyAmountWithSlippage⟩)

def buildCreateAndBuyInstructions (amountSol : UInt64) (slippageBasisPoints : Option UInt64)
    (initialBuyPrice : Except String UInt64) : Outcome (Except String Instruction.Buy) :=
  buildCreateAndBuyInstructionsWith "Amount cannot be zero" amountSol slippageBasisPoints
    initialBuyPrice

def transferSol (amount : UInt64) (balance : Except String UInt64) : Except String UInt64 :=
  if amount = 0 then .error "transfer_sol: Amount cannot be zero"
  else do
    let balance ← balance
    if balance < amount then .error "Insufficient balance" else .ok amount

theorem buildSellInstructionsWith_ok {zeroMessage : String} {amount : UInt64}
    {quote : UInt64 → Except String UInt64} {slippage : Option UInt64} {args : Instruction.Sell}
    (built : buildSellInstructionsWith zeroMessage amount quote slippage = ret (.ok args)) :
    args.amount = amount ∧ amount ≠ 0 ∧ ∃ quoted, quote amount = .ok quoted ∧
      calculateWithSlippageSell quoted (slippage.getD defaultSlippage) = ret args.minSolOutput := by
  unfold buildSellInstructionsWith at built
  split_ifs at built with zero
  · cases built
  rcases quoteRead : quote amount with _ | quoted <;> simp only [quoteRead] at built
  · cases built
  obtain ⟨least, slipped, same⟩ := bind_eq_ret.mp built
  cases same
  exact ⟨rfl, zero, quoted, rfl, slipped⟩

theorem buildSellInstructionsWith_ok_iff (zeroMessage zeroMessage' : String) (amount : UInt64)
    (quote : UInt64 → Except String UInt64) (slippage : Option UInt64) (args : Instruction.Sell) :
    buildSellInstructionsWith zeroMessage amount quote slippage = ret (.ok args) ↔
      buildSellInstructionsWith zeroMessage' amount quote slippage = ret (.ok args) := by
  unfold buildSellInstructionsWith
  split_ifs
  · simp only [pure_eq, ret.injEq, reduceCtorEq]
  · rfl

theorem sell_by_percent_amounts (percent : UInt64) (first second : Except String String)
    (quote : UInt64 → Except String UInt64) (slippage : Option UInt64) (args : Instruction.Sell)
    (built : sellByPercent percent first second quote slippage = ret (.ok args)) :
    1 ≤ percent.toNat ∧ percent.toNat ≤ 100 ∧
    ∃ balance, getTokenBalance first = .ok balance ∧
      args.amount.toNat = balance.toNat * percent.toNat / 100 ∧
      0 < args.amount.toNat ∧ args.amount.toNat ≤ balance.toNat ∧
      ∃ quoted, quote args.amount = .ok quoted ∧ args.minSolOutput.toNat ≤ quoted.toNat ∧
        quoted.toNat - args.minSolOutput.toNat =
          quoted.toNat * (slippage.getD defaultSlippage).toNat / 10000 := by
  unfold sellByPercent sellByPercentWith at built
  split_ifs at built with outside
  · cases built
  have inRange : 1 ≤ percent.toNat ∧ percent.toNat ≤ 100 := by
    rw [not_or] at outside
    obtain ⟨nonzero, atMost⟩ := outside
    have : percent.toNat ≠ 0 := fun zero => nonzero (UInt64.toNat.inj zero)
    exact ⟨by omega, Nat.le_of_not_lt fun over => atMost over⟩
  rcases read : getTokenBalance first with _ | balance <;> simp only [read] at built
  · cases built
  obtain ⟨scaled, product, sold⟩ := bind_eq_ret.mp built
  obtain ⟨-, scaledValue⟩ := u64Mul_eq_ret.mp product
  unfold buildSellInstructions at sold
  rcases secondRead : getTokenBalance second with _ | _ <;>
    simp only [secondRead, Option.getD_some] at sold
  · cases sold
  obtain ⟨amount, nonzero, quoted, quotedOk, slipped⟩ := buildSellInstructionsWith_ok sold
  rw [← amount] at nonzero quotedOk
  obtain ⟨-, cut, least⟩ := calculateWithSlippageSell_eq_ret.mp slipped
  have amountValue : args.amount.toNat = balance.toNat * percent.toNat / 100 := by
    rw [amount, UInt64.toNat_div, scaledValue]; rfl
  have positive : 0 < args.amount.toNat :=
    Nat.pos_of_ne_zero fun zero => nonzero (UInt64.toNat.inj zero)
  refine ⟨inRange.1, inRange.2, balance, rfl, amountValue, positive, ?_, quoted, quotedOk, ?_, ?_⟩
  · calc args.amount.toNat = balance.toNat * percent.toNat / 100 := amountValue
      _ ≤ balance.toNat * 100 / 100 := Nat.div_le_div_right (Nat.mul_le_mul_left _ inRange.2)
      _ = balance.toNat := Nat.mul_div_cancel _ (by norm_num)
  · omega
  · omega

theorem sell_by_percent_amounts_half :
    let quote : UInt64 → Except String UInt64 := fun _ => .ok 400
    let args : Instruction.Sell := ⟨500, 280⟩
    sellByPercent 50 (.ok "1000") (.ok "7") quote none = ret (.ok args) ∧
    (1 ≤ (50 : UInt64).toNat ∧ (50 : UInt64).toNat ≤ 100 ∧
      ∃ balance, getTokenBalance (.ok "1000") = .ok balance ∧
        args.amount.toNat = balance.toNat * (50 : UInt64).toNat / 100 ∧
        0 < args.amount.toNat ∧ args.amount.toNat ≤ balance.toNat ∧
        ∃ quoted, quote args.amount = .ok quoted ∧ args.minSolOutput.toNat ≤ quoted.toNat ∧
          quoted.toNat - args.minSolOutput.toNat =
            quoted.toNat * ((none : Option UInt64).getD defaultSlippage).toNat / 10000) :=
  ⟨by decide, sell_by_percent_amounts 50 (.ok "1000") (.ok "7") (fun _ => .ok 400) none _ (by decide)⟩

theorem create_and_buy_instructions_amounts (amountSol : UInt64) (slippage : Option UInt64)
    (initialBuyPrice : Except String UInt64) (missing : String) (args : Instruction.Buy)
    (built : buildCreateAndBuyInstructions amountSol slippage initialBuyPrice = ret (.ok args)) :
    initialBuyPrice = .ok args.amount ∧
      (buildBuyInstructions amountSol slippage initialBuyPrice (.error missing) =
          ret (.ok ⟨args.amount * 80 / 100, args.maxSolCost⟩) ↔
        args.amount.toNat * 80 < 2 ^ 64) := by
  unfold buildCreateAndBuyInstructions buildCreateAndBuyInstructionsWith at built
  split_ifs at built with zero
  · cases built
  rcases initialRead : initialBuyPrice with _ | initial <;> simp only [initialRead] at built
  · cases built
  obtain ⟨cap, capped, same⟩ := bind_eq_ret.mp built
  cases same
  have capped : calculateWithSlippageBuy amountSol (slippage.getD defaultSlippage) = ret cap :=
    capped
  refine ⟨rfl, ?_⟩
  by_cases fits : initial.toNat * 80 < 2 ^ 64
  · have product : u64Mul initial 80 = ret (initial * 80) := if_pos fits
    simp only [buildBuyInstructions, buildBuyInstructionsWith, zero, if_false, buyAmount,
      product, ret_bind, pure_eq, capped, fits, iff_true]
  · have overflow : u64Mul initial 80 = panic := if_neg fits
    simp only [buildBuyInstructions, buildBuyInstructionsWith, zero, if_false, buyAmount,
      overflow, panic_bind, fits, iff_false, reduceCtorEq, not_false_eq_true]

theorem create_and_buy_instructions_amounts_full_price :
    let args : Instruction.Buy := ⟨1000, 1300⟩
    buildCreateAndBuyInstructions 1000 none (.ok 1000) = ret (.ok args) ∧
    ((.ok 1000 : Except String UInt64) = .ok args.amount ∧
      (buildBuyInstructions 1000 none (.ok 1000) (.error "Bonding curve not found") =
          ret (.ok ⟨args.amount * 80 / 100, args.maxSolCost⟩) ↔
        args.amount.toNat * 80 < 2 ^ 64)) :=
  ⟨by decide, create_and_buy_instructions_amounts 1000 none (.ok 1000) "Bonding curve not found" _
    (by decide)⟩

end PumpfunSdk.Trade

namespace PumpfunSdk.Instruction

open Outcome

def buildCreateAndBuyInstructions (amountSol : UInt64) (slippageBasisPoints : Option UInt64)
    (initialBuyPrice : Except String UInt64) : Outcome (Except String Buy) :=
  Trade.buildCreateAndBuyInstructionsWith
    "build_create_and_buy_instructions: Amount cannot be zero" amountSol slippageBasisPoints
    initialBuyPrice

def buildBuyInstructions (amountSol : UInt64) (slippageBasisPoints : Option UInt64)
    (initialBuyPrice : Except String UInt64) (curveQuote : Except String (Except String UInt64)) :
    Outcome (Except String Buy) :=
  Trade.buildBuyInstructionsWith "build_buy_instructions:Amount cannot be zero" amountSol
    slippageBasisPoints initialBuyPrice curveQuote

def buildSellInstructions (amountToken : UInt64) (quote : UInt64 → Except String UInt64)
    (slippageBasisPoints : Option UInt64) : Outcome (Except String Sell) :=
  Trade.buildSellInstructionsWith "build_sell_instructions: Amount cannot be zero" amountToken
    quote slippageBasisPoints

theorem build_sell_instructions_explicit_amount (balance : Except String String)
    (quote : UInt64 → Except String UInt64) (amount : UInt64) (slippage : Option UInt64)
    (args : Sell) :
    Trade.buildSellInstructions balance quote (some amount) slippage = ret (.ok args) ↔
      (∃ read, Trade.getTokenBalance balance = .ok read) ∧
        buildSellInstructions amount quote slippage = ret (.ok args) := by
  unfold Trade.buildSellInstructions buildSellInstructions
  cases Trade.getTokenBalance balance with
  | error e => simp only [pure_eq, ret.injEq, reduceCtorEq, exists_const, false_and]
  | ok read =>
    simp only [Option.getD_some, Except.ok.injEq, exists_eq', true_and]
    exact Trade.buildSellInstructionsWith_ok_iff _ _ _ _ _ _

end PumpfunSdk.Instruction
