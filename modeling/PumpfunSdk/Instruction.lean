import PumpfunSdk.Codec.Pubkey

/-! `instruction/mod.rs`: the data of the three Pump.fun instructions the SDK sends. The account
lists, built from program-derived addresses, are not modelled. -/

namespace PumpfunSdk.Instruction

structure Create where
  name : RustString
  symbol : RustString
  uri : RustString
  payerPubkey : Pubkey
  deriving DecidableEq, Repr

structure Buy where
  amount : UInt64
  maxSolCost : UInt64
  deriving DecidableEq, Repr

structure Sell where
  amount : UInt64
  minSolOutput : UInt64
  deriving DecidableEq, Repr

/-- One text of `Create::data`: `(len as u32).to_le_bytes()`, then the bytes. -/
def lengthPrefixed (bytes : List UInt8) : List UInt8 :=
  leBytes 4 (bytes.length % 2 ^ 32) ++ bytes

def Create.data (args : Create) : List UInt8 :=
  [24, 30, 200, 40, 5, 28, 7, 119] ++ lengthPrefixed args.name.bytes ++
    lengthPrefixed args.symbol.bytes ++ lengthPrefixed args.uri.bytes ++
    lengthPrefixed args.payerPubkey.toString.toUTF8.data.toList

/-- The data of an instruction that takes two `u64` amounts: its discriminator, then each
amount's `to_le_bytes`. -/
def amountsData (discriminator : List UInt8) (first second : UInt64) : List UInt8 :=
  discriminator ++ leBytes 8 first.toNat ++ leBytes 8 second.toNat

def Buy.data (args : Buy) : List UInt8 :=
  amountsData [102, 6, 61, 18, 1, 218, 235, 234] args.amount args.maxSolCost

def Sell.data (args : Sell) : List UInt8 :=
  amountsData [51, 230, 133, 164, 1, 127, 131, 173] args.amount args.minSolOutput

end PumpfunSdk.Instruction
