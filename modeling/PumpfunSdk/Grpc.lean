import PumpfunSdk.Common.LogsEvents
import PumpfunSdk.Common.LogsFilters

/-! `grpc/mod.rs`: `YellowstoneGrpc::process_pumpfun_transaction`, which turns the
instructions `LogFilter::parse_instruction` finds in one transaction into callback events.
The callback's calls are the returned list, in order. The loop carries `dev_address`, which
every `CreateToken` overwrites: a user trade is the developer's when its user created the
last token before it. -/

namespace PumpfunSdk

/-- What the handler reads of a transaction's status meta: whether it failed (the error
itself is never read), and its log messages when the node sent them. -/
structure TransactionStatusMeta where
  err : Option String
  logMessages : Option (List String)
  deriving DecidableEq, Repr

structure TransactionPretty where
  slot : UInt64
  meta : Option TransactionStatusMeta
  deriving DecidableEq, Repr

def handleInstruction (slot : UInt64) (devAddress : Option Pubkey) :
    DexInstruction → Option PumpfunEvent × Option Pubkey
  | .createToken tokenInfo => (some (.newToken { tokenInfo with slot }), some tokenInfo.user)
  | .userTrade tradeInfo =>
    (some (if some tradeInfo.user = devAddress then .newDevTrade { tradeInfo with slot }
      else .newUserTrade { tradeInfo with slot }), devAddress)
  | .botTrade tradeInfo => (some (.newBotTrade { tradeInfo with slot }), devAddress)
  | .other => (none, devAddress)

def emitEvents (slot : UInt64) : Option Pubkey → List DexInstruction → List PumpfunEvent
  | _, [] => []
  | devAddress, instruction :: instructions =>
    (handleInstruction slot devAddress instruction).1.toList ++
      emitEvents slot (handleInstruction slot devAddress instruction).2 instructions

/-- `process_pumpfun_transaction`: the events it passes to the callback. A failed
transaction passes none; logs the node did not send are no logs. -/
def processPumpfunTransaction (transactionPretty : TransactionPretty)
    (botWallet : Option Pubkey) : ClientResult (List PumpfunEvent) :=
  match transactionPretty.meta with
  | none => .err (.other "Missing transaction metadata")
  | some meta =>
    if meta.err.isSome then .ok []
    else
      match parseInstruction (meta.logMessages.getD []) botWallet with
      | .ok instructions => .ok (emitEvents transactionPretty.slot none instructions)
      | .err _ => .panic
      | .panic => .panic

def creatorOf : DexInstruction → Option Pubkey
  | .createToken info => some info.user
  | _ => none

def lastCreator (instructions : List DexInstruction) : Option Pubkey :=
  (instructions.filterMap creatorOf).getLast?

def expectedEvent (slot : UInt64) (creator : Option Pubkey) :
    DexInstruction → Option PumpfunEvent
  | .createToken info => some (.newToken { info with slot })
  | .botTrade t => some (.newBotTrade { t with slot })
  | .userTrade t =>
    some (if creator = some t.user then .newDevTrade { t with slot }
      else .newUserTrade { t with slot })
  | .other => none

theorem handleInstruction_event (slot : UInt64) (devAddress : Option Pubkey)
    (instruction : DexInstruction) :
    (handleInstruction slot devAddress instruction).1 =
      expectedEvent slot devAddress instruction := by
  cases instruction <;> simp [handleInstruction, expectedEvent, eq_comm]

theorem handleInstruction_devAddress (slot : UInt64) (devAddress : Option Pubkey)
    (instruction : DexInstruction) :
    (handleInstruction slot devAddress instruction).2 = (creatorOf instruction).or devAddress := by
  cases instruction <;> rfl

theorem lastCreator_cons (instruction : DexInstruction) (before : List DexInstruction) :
    lastCreator (instruction :: before) = (lastCreator before).or (creatorOf instruction) := by
  unfold lastCreator
  cases h : creatorOf instruction with
  | none => simp [List.filterMap_cons, h]
  | some user =>
    rw [List.filterMap_cons, h, List.getLast?_cons]
    cases (before.filterMap creatorOf).getLast? <;> rfl

theorem emitEvents_eq (slot : UInt64) (instructions : List DexInstruction) :
    ∀ devAddress, emitEvents slot devAddress instructions =
      (List.zip instructions.inits instructions).filterMap fun line =>
        expectedEvent slot ((lastCreator line.1).or devAddress) line.2 := by
  induction instructions with
  | nil => intro _; rfl
  | cons instruction instructions ih =>
    intro devAddress
    have shift : (fun line : List DexInstruction × DexInstruction =>
        expectedEvent slot ((lastCreator line.1).or devAddress) line.2) ∘
          Prod.map (instruction :: ·) id =
        fun line => expectedEvent slot
          ((lastCreator line.1).or ((creatorOf instruction).or devAddress)) line.2 := by
      funext line
      simp only [Function.comp, Prod.map, id, lastCreator_cons, Option.or_assoc]
    have first : expectedEvent slot ((lastCreator ([] : List DexInstruction)).or devAddress)
        instruction = expectedEvent slot devAddress instruction := rfl
    rw [emitEvents, ih, handleInstruction_event, handleInstruction_devAddress, List.inits_cons,
      List.zip_cons_cons, List.zip_map_left, List.filterMap_cons, List.filterMap_map, shift, first]
    cases expectedEvent slot devAddress instruction <;> rfl

theorem processPumpfunTransaction_of_parsed {transaction : TransactionPretty}
    {botWallet : Option Pubkey} {meta : TransactionStatusMeta}
    {instructions : List DexInstruction} (present : transaction.meta = some meta)
    (succeeded : meta.err = none)
    (parsed : parseInstruction (meta.logMessages.getD []) botWallet = .ok instructions) :
    processPumpfunTransaction transaction botWallet =
      .ok (emitEvents transaction.slot none instructions) := by
  simp only [processPumpfunTransaction, present, succeeded, Option.isSome_none,
    Bool.false_eq_true, if_false, parsed]

theorem process_pumpfun_transaction_events (transaction : TransactionPretty)
    (botWallet : Option Pubkey) (meta : TransactionStatusMeta)
    (instructions : List DexInstruction) (present : transaction.meta = some meta)
    (succeeded : meta.err = none)
    (parsed : parseInstruction (meta.logMessages.getD []) botWallet = .ok instructions) :
    processPumpfunTransaction transaction botWallet =
      .ok ((List.zip instructions.inits instructions).filterMap fun (before, instruction) =>
        expectedEvent transaction.slot (lastCreator before) instruction) := by
  rw [processPumpfunTransaction_of_parsed present succeeded parsed, emitEvents_eq]
  simp only [Option.or_none]

theorem second_creator_logs_parse :
    parseInstruction
      ["Program 6EF8rrecthR5Dkzon8Nwu78hRvfCKubJ14M5uBEwF6P invoke [1]",
        "Program log: Instruction: Create", "Program data: " ++ ⟨List.replicate 155 'A'⟩ ++ "=",
        "Program 6EF8rrecthR5Dkzon8Nwu78hRvfCKubJ14M5uBEwF6P success",
        "Program 6EF8rrecthR5Dkzon8Nwu78hRvfCKubJ14M5uBEwF6P invoke [1]",
        "Program log: Instruction: Create", "Program data: " ++ ⟨List.replicate 154 'A'⟩ ++ "E=",
        "Program 6EF8rrecthR5Dkzon8Nwu78hRvfCKubJ14M5uBEwF6P success",
        "Program 6EF8rrecthR5Dkzon8Nwu78hRvfCKubJ14M5uBEwF6P invoke [1]",
        "Program log: Instruction: Buy", "Program data: " ++ ⟨List.replicate 172 'A'⟩,
        "Program 6EF8rrecthR5Dkzon8Nwu78hRvfCKubJ14M5uBEwF6P success"] none =
      .ok [.createToken ⟨0, .empty, .empty, .empty, ⟨List.replicate 32 0, rfl⟩,
          ⟨List.replicate 32 0, rfl⟩, ⟨List.replicate 32 0, rfl⟩⟩,
        .createToken ⟨0, .empty, .empty, .empty, ⟨List.replicate 32 0, rfl⟩,
          ⟨List.replicate 32 0, rfl⟩, ⟨List.replicate 31 0 ++ [1], by simp⟩⟩,
        .userTrade ⟨0, ⟨List.replicate 32 0, rfl⟩, 0, 0, false, ⟨List.replicate 32 0, rfl⟩,
          0, 0, 0, 0, 0⟩] := by
  set_option maxRecDepth 20000 in decide

theorem process_pumpfun_transaction_events_second_creator :
    let entry := "Program 6EF8rrecthR5Dkzon8Nwu78hRvfCKubJ14M5uBEwF6P invoke [1]"
    let exit := "Program 6EF8rrecthR5Dkzon8Nwu78hRvfCKubJ14M5uBEwF6P success"
    let logs := [entry, "Program log: Instruction: Create",
      "Program data: " ++ ⟨List.replicate 155 'A'⟩ ++ "=", exit,
      entry, "Program log: Instruction: Create",
      "Program data: " ++ ⟨List.replicate 154 'A'⟩ ++ "E=", exit,
      entry, "Program log: Instruction: Buy",
      "Program data: " ++ ⟨List.replicate 172 'A'⟩, exit]
    let zero : Pubkey := ⟨List.replicate 32 0, rfl⟩
    let one : Pubkey := ⟨List.replicate 31 0 ++ [1], by simp⟩
    let first : CreateTokenInfo := ⟨0, .empty, .empty, .empty, zero, zero, zero⟩
    let second : CreateTokenInfo := ⟨0, .empty, .empty, .empty, zero, zero, one⟩
    let trade : TradeInfo := ⟨0, zero, 0, 0, false, zero, 0, 0, 0, 0, 0⟩
    let instructions : List DexInstruction :=
      [.createToken first, .createToken second, .userTrade trade]
    parseInstruction logs none = .ok instructions ∧
      processPumpfunTransaction ⟨7, some ⟨none, some logs⟩⟩ none =
        .ok ((List.zip instructions.inits instructions).filterMap
          fun (before, instruction) => expectedEvent 7 (lastCreator before) instruction) ∧
      trade.user = first.user ∧
      (List.zip instructions.inits instructions).filterMap
          (fun (before, instruction) => expectedEvent 7 (lastCreator before) instruction) =
        [.newToken { first with slot := 7 }, .newToken { second with slot := 7 },
          .newUserTrade { trade with slot := 7 }] :=
  ⟨second_creator_logs_parse, process_pumpfun_transaction_events ⟨7, some ⟨none, some _⟩⟩ none
    ⟨none, some _⟩ _ rfl rfl second_creator_logs_parse, rfl, by decide⟩

theorem process_pumpfun_transaction_second_creator :
    let entry := "Program 6EF8rrecthR5Dkzon8Nwu78hRvfCKubJ14M5uBEwF6P invoke [1]"
    let exit := "Program 6EF8rrecthR5Dkzon8Nwu78hRvfCKubJ14M5uBEwF6P success"
    let logs := [entry, "Program log: Instruction: Create",
      "Program data: " ++ ⟨List.replicate 155 'A'⟩ ++ "=", exit,
      entry, "Program log: Instruction: Create",
      "Program data: " ++ ⟨List.replicate 154 'A'⟩ ++ "E=", exit,
      entry, "Program log: Instruction: Buy",
      "Program data: " ++ ⟨List.replicate 172 'A'⟩, exit]
    let zero : Pubkey := ⟨List.replicate 32 0, rfl⟩
    let one : Pubkey := ⟨List.replicate 31 0 ++ [1], by simp⟩
    let first : CreateTokenInfo := ⟨0, .empty, .empty, .empty, zero, zero, zero⟩
    let second : CreateTokenInfo := ⟨0, .empty, .empty, .empty, zero, zero, one⟩
    let trade : TradeInfo := ⟨0, zero, 0, 0, false, zero, 0, 0, 0, 0, 0⟩
    parseInstruction logs none = .ok [.createToken first, .createToken second, .userTrade trade] ∧
      processPumpfunTransaction ⟨7, some ⟨none, some logs⟩⟩ none = .ok
        [.newToken { first with slot := 7 }, .newToken { second with slot := 7 },
          .newUserTrade { trade with slot := 7 }] ∧
      trade.user = first.user :=
  ⟨second_creator_logs_parse,
    (@processPumpfunTransaction_of_parsed ⟨7, some ⟨none, some _⟩⟩ none ⟨none, some _⟩ _ rfl rfl
      second_creator_logs_parse).trans
      (by set_option maxRecDepth 20000 in decide), rfl⟩

end PumpfunSdk
