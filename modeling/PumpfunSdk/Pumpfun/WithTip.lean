import PumpfunSdk.Codec.Pubkey
import PumpfunSdk.Jito
import PumpfunSdk.Pumpfun.Trade

/-! `buy_with_tip`, `sell_with_tip` and `sell_by_percent_with_tip` of `pumpfun/`, with the tip
accounts of `constants/mod.rs` and the `get_tip_account` of each fee client in `jito/mod.rs`.
The random picks of tip accounts are parameters; compiling and signing the transactions are
not modelled. -/

namespace PumpfunSdk

open Outcome

def jitoTipAccounts : List String := [
  "96gYZGLnJYVFmbjzopPSU6QiEV5fGqZNyN9nmNhvrZU5",
  "HFqU5x63VTqvQss8hp11i4wVV8bD44PvwucfZ2bU7gRe",
  "Cw8CFyM9FkoMi7K7Crf6HNQqf4uEMzpKw6QNghXLvLkY",
  "ADaUMid9yfUytqMBgopwjb2DTLSokTSzL1zt6iGPaS49",
  "DfXygSm4jCyNCybVYYK6DwvWqjKee8pbDmJGcLWNDXjh",
  "ADuUkR4vqLUMWXxW9gh6D6L8pMSawimctcNZ5pGwDcEt",
  "DttWaMuVvTiduZRnguLF7jNxTgiMBZ1hyAumKUiL2KRL",
  "3AVi9Tg9Uo68tJfuvoKvqKNWKkC5wPdSSdeBnizKZ6jT"]

def nextblockTipAccounts : List String := [
  "NextbLoCkVtMGcV47JzewQdvBpLqT9TxQFozQkN98pE",
  "NexTbLoCkWykbLuB1NkjXgFWkX9oAtcoagQegygXXA2",
  "NeXTBLoCKs9F1y5PJS9CKrFNNLU1keHW71rfh7KgA1X",
  "NexTBLockJYZ7QD7p2byrUa6df8ndV2WSd8GkbWqfbb",
  "neXtBLock1LeC67jYd1QdAa32kbVeubsfPNTJC1V5At",
  "nEXTBLockYgngeRmRrjDV31mGSekVPqZoMGhQEZtPVG",
  "NEXTbLoCkB51HpLBLojQfpyVAMorm3zzKg7w9NFdqid",
  "nextBLoCkPMgmG8ZgJtABeScP35qLa2AMCNKntAP7Xc"]

def zeroslotTipAccounts : List String := [
  "Eb2KpSC8uMt9GmzyAEm5Eb1AAAgTjRaXWFjKyFXHZxF3",
  "FCjUJZ1qozm1e8romw216qyfQMaaWKxWsuySnumVCCNe",
  "ENxTEjSQ1YabmUpXAdCgevnHQ9MHdLv8tzFiuiYJqa13",
  "6rYLG55Q9RpsPGvqdPNJs4z5WTxJVatMB8zV3WJhs5EK",
  "Cix2bHfqPcKcM233mzxbLk14kSggUUiz2A87fJtGivXr"]

def ParsePubkeyError.toString : ParsePubkeyError → String
  | .wrongSize => "String is the wrong size"
  | .invalid => "Invalid Base58 string"

inductive ClientType where
  | jito
  | nextBlock
  | zeroSlot
  deriving DecidableEq, Repr

/-- `choose(&mut rng())` on a list: `None` when it is empty, and otherwise the element at the
random index that `pick` stands for. -/
def choose (accounts : List String) (pick : Nat) : Option String :=
  accounts[pick % accounts.length]?

def JitoClient.getTipAccount (pick : Nat) : Except String String :=
  match choose jitoTipAccounts pick with
  | some acc => .ok acc
  | none => .error "no valid tip accounts found"

def tipAccountOrFirstNextblock (accounts : List String) (pick : Nat) : Outcome String :=
  expect ((choose accounts pick).orElse fun _ => nextblockTipAccounts.head?)

def NextBlockClient.getTipAccount (pick : Nat) : Outcome String :=
  tipAccountOrFirstNextblock nextblockTipAccounts pick

def ZeroSlotClient.getTipAccount (pick : Nat) : Outcome String :=
  tipAccountOrFirstNextblock zeroslotTipAccounts pick

def FeeClient.getTipAccount : ClientType → Nat → Outcome (Except String String)
  | .jito, pick => pure (JitoClient.getTipAccount pick)
  | .nextBlock, pick => .ok <$> NextBlockClient.getTipAccount pick
  | .zeroSlot, pick => .ok <$> ZeroSlotClient.getTipAccount pick

end PumpfunSdk

namespace PumpfunSdk.Trade

open Outcome

/-- The loop over the fee clients in `buy_with_tip` and `sell_with_tip`, up to the transaction
each one gets: the client's tip account, parsed as a key. `clients` are the fee clients with
the random picks of their tip accounts; the first failure ends the loop. -/
def tipKeys : List (ClientType × Nat) → Outcome (Except String (List Pubkey))
  | [] => pure (.ok [])
  | (client, pick) :: clients => do
    match ← FeeClient.getTipAccount client pick with
    | .error e => pure (.error e)
    | .ok tipAccount =>
      match Pubkey.fromStr tipAccount with
      | .error e => pure (.error e.toString)
      | .ok key => (fun keys => (key :: ·) <$> keys) <$> tipKeys clients

/-- `buy_with_tip` and `sell_with_tip` up to the transactions they hand to the spawned sends,
one per fee client, each with its tip key and the instructions `built` once. `blockhash` is
what `get_latest_blockhash` gives. -/
def sendWithTip (built : Outcome (Except String α)) (blockhash : Except String Unit)
    (clients : List (ClientType × Nat)) : Outcome (Except String (List (Pubkey × α))) := do
  match ← built with
  | .error e => pure (.error e)
  | .ok instructions =>
    match blockhash with
    | .error e => pure (.error e)
    | .ok () =>
      (fun found => (fun keys => keys.map fun key => (key, instructions)) <$> found) <$>
        tipKeys clients

def buyWithTip (amountSol : UInt64) (slippageBasisPoints : Option UInt64)
    (initialBuyPrice : Except String UInt64) (curveQuote : Except String (Except String UInt64))
    (blockhash : Except String Unit) (clients : List (ClientType × Nat)) :
    Outcome (Except String (List (Pubkey × Instruction.Buy))) :=
  sendWithTip (buildBuyInstructions amountSol slippageBasisPoints initialBuyPrice curveQuote)
    blockhash clients

def sellWithTip (balance : Except String String) (quote : UInt64 → Except String UInt64)
    (amountToken slippageBasisPoints : Option UInt64) (blockhash : Except String Unit)
    (clients : List (ClientType × Nat)) :
    Outcome (Except String (List (Pubkey × Instruction.Sell))) :=
  sendWithTip (buildSellInstructions balance quote amountToken slippageBasisPoints) blockhash
    clients

def sellByPercentWithTip (percent : UInt64) (first second : Except String String)
    (quote : UInt64 → Except String UInt64) (slippageBasisPoints : Option UInt64)
    (blockhash : Except String Unit) (clients : List (ClientType × Nat)) :
    Outcome (Except String (List (Pubkey × Instruction.Sell))) :=
  sellByPercentWith percent first fun amount =>
    sellWithTip second quote amount slippageBasisPoints blockhash clients

def createAndBuyTipAccount : List (ClientType × Nat) → Outcome (Option Pubkey)
  | [] => pure none
  | (client, pick) :: _ => do
    match ← FeeClient.getTipAccount client pick with
    | .error _ => pure none
    | .ok accStr =>
      match Pubkey.fromStr accStr with
      | .ok acc => pure (some acc)
      | .error _ => pure none

end PumpfunSdk.Trade
