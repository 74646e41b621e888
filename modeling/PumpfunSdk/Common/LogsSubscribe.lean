import PumpfunSdk.Grpc

/-! `common/logs_subscribe.rs`: `tokens_subscription`, the websocket path to the events that
`grpc/mod.rs` also produces. Each log notification of a transaction that did not fail goes
through `LogFilter::parse_instruction`, and each instruction goes to the callback as it is: the
slot the decoders left is not stamped, and no user trade is told apart as the developer's. So
the websocket path reports what the gRPC path reports at slot 0, every `NewDevTrade` a
`NewUserTrade`. -/

namespace PumpfunSdk

open Outcome

def subscriptionEvent : DexInstruction → Option PumpfunEvent
  | .createToken tokenInfo => some (.newToken tokenInfo)
  | .userTrade tradeInfo => some (.newUserTrade tradeInfo)
  | .botTrade tradeInfo => some (.newBotTrade tradeInfo)
  | .other => none

/-- One turn of the loop of `tokens_subscription`, on a notification with the transaction's
error and logs: the events passed to the callback. A failed transaction is skipped, and
`parse_instruction(..).unwrap()` panics with the decoder. -/
def tokensSubscriptionMessage (err : Option String) (logs : List String)
    (botWallet : Option Pubkey) : Outcome (List PumpfunEvent) :=
  if err.isSome then pure []
  else
    match parseInstruction logs botWallet with
    | .ok instructions => pure (instructions.filterMap subscriptionEvent)
    | .err _ => .panic
    | .panic => .panic

/-- A gRPC event as the websocket path reports it, with no developer trades; not a function of
the source. -/
def demoteDevTrade : PumpfunEvent → PumpfunEvent
  | .newDevTrade info => .newUserTrade info
  | event => event

theorem handleInstruction_demote (devAddress : Option Pubkey) {instruction : DexInstruction}
    (unstamped : Unstamped instruction) :
    (handleInstruction 0 devAddress instruction).1.map demoteDevTrade =
      subscriptionEvent instruction := by
  cases instruction with
  | createToken info =>
    cases info
    cases unstamped
    rfl
  | userTrade t =>
    cases t
    cases unstamped
    simp only [handleInstruction]
    split_ifs <;> rfl
  | botTrade t =>
    cases t
    cases unstamped
    rfl
  | other => rfl

theorem emitEvents_demote (instructions : List DexInstruction)
    (unstamped : ∀ i ∈ instructions, Unstamped i) :
    ∀ devAddress, (emitEvents 0 devAddress instructions).map demoteDevTrade =
      instructions.filterMap subscriptionEvent := by
  induction instructions with
  | nil => intro _; rfl
  | cons instruction instructions ih =>
    intro devAddress
    rw [emitEvents, List.map_append, ih fun i later => unstamped i (List.mem_cons_of_mem _ later),
      List.filterMap_cons, ← handleInstruction_demote devAddress
        (unstamped instruction (List.mem_cons_self _ _))]
    cases (handleInstruction 0 devAddress instruction).1 <;> rfl

theorem tokens_subscription_reports_grpc_events (err : Option String) (logs : List String)
    (botWallet : Option Pubkey) :
    monadLift (tokensSubscriptionMessage err logs botWallet) =
      List.map demoteDevTrade <$>
        processPumpfunTransaction ⟨0, some ⟨err, some logs⟩⟩ botWallet := by
  unfold tokensSubscriptionMessage processPumpfunTransaction
  cases err with
  | some e => rfl
  | none =>
    simp only [Option.isSome_none, Bool.false_eq_true, if_false, Option.getD_some]
    cases parsed : parseInstruction logs botWallet with
    | ok instructions =>
      show ClientResult.ok _ = ClientResult.ok _
      rw [emitEvents_demote instructions
        (fun i found => (parseInstruction_unstamped_classified parsed i found).1)]
    | err e => rfl
    | panic => rfl

end PumpfunSdk
