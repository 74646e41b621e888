import PumpfunSdk.Codec.Borsh

/-! `common/logs_data.rs`: the decoded records, the instructions the log filter returns, and
the Borsh layout that `#[derive(BorshSerialize, BorshDeserialize)]` gives the records.
`EventTrait::from_bytes` is that layout's `try_from_slice`. -/

namespace PumpfunSdk

/-- Modelled from the spec: `crate::error::ClientError`, whose module is not under src/. The
variants are the two that the source constructs. -/
inductive ClientError where
  | other (msg : String)
  | parse (msg detail : String)
  deriving DecidableEq, Repr

/-- How a call that returns `ClientResult<T>` ends: `Ok`, `Err`, or a panic. -/
inductive ClientResult (α : Type) where
  | ok : α → ClientResult α
  | err : ClientError → ClientResult α
  | panic : ClientResult α
  deriving DecidableEq, Repr

namespace ClientResult

variable {α β : Type}

def bind : ClientResult α → (α → ClientResult β) → ClientResult β
  | ok a, f => f a
  | err e, _ => err e
  | panic, _ => panic

instance : Monad ClientResult where
  pure := ok
  bind := bind

def lift : Outcome α → ClientResult α
  | .ret a => ok a
  | .panic => panic

instance : MonadLift Outcome ClientResult := ⟨lift⟩

@[simp] theorem pure_eq (a : α) : (pure a : ClientResult α) = ok a := rfl

@[simp] theorem ok_bind (a : α) (f : α → ClientResult β) : (ok a >>= f) = f a := rfl

@[simp] theorem err_bind (e : ClientError) (f : α → ClientResult β) :
    (err e >>= f) = err e := rfl

@[simp] theorem panic_bind (f : α → ClientResult β) : (panic >>= f) = panic := rfl

@[simp] theorem lift_ret (a : α) : (monadLift (Outcome.ret a) : ClientResult α) = ok a := rfl

@[simp] theorem lift_panic : (monadLift (Outcome.panic : Outcome α) : ClientResult α) = panic :=
  rfl

theorem bind_eq_ok {x : ClientResult α} {f : α → ClientResult β} {b : β} :
    x >>= f = ok b ↔ ∃ a, x = ok a ∧ f a = ok b := by
  cases x <;> simp

theorem bind_ne_panic {x : ClientResult α} {f : α → ClientResult β} (hx : x ≠ panic)
    (hf : ∀ a, x = ok a → f a ≠ panic) : x >>= f ≠ panic := by
  cases x with
  | ok a => exact hf a rfl
  | err e => simp
  | panic => exact absurd rfl hx

end ClientResult

def unwrap {ε α : Type} : Except ε α → Outcome α
  | .ok a => .ret a
  | .error _ => .panic

structure CreateTokenInfo where
  slot : UInt64
  name : RustString
  symbol : RustString
  uri : RustString
  mint : Pubkey
  bondingCurve : Pubkey
  user : Pubkey
  deriving DecidableEq, Repr

structure TradeInfo where
  slot : UInt64
  mint : Pubkey
  solAmount : UInt64
  tokenAmount : UInt64
  isBuy : Bool
  user : Pubkey
  /-- `i64`, as its 64 bits. -/
  timestamp : BitVec 64
  virtualSolReserves : UInt64
  virtualTokenReserves : UInt64
  realSolReserves : UInt64
  realTokenReserves : UInt64
  deriving DecidableEq, Repr

structure CompleteInfo where
  user : Pubkey
  mint : Pubkey
  bondingCurve : Pubkey
  timestamp : UInt64
  deriving DecidableEq, Repr

structure SwapBaseInLog where
  logType : UInt8
  amountIn : UInt64
  minimumOut : UInt64
  direction : UInt64
  userSource : UInt64
  poolCoin : UInt64
  poolPc : UInt64
  outAmount : UInt64
  deriving DecidableEq, Repr

inductive DexInstruction where
  | createToken (info : CreateTokenInfo)
  | userTrade (info : TradeInfo)
  | botTrade (info : TradeInfo)
  | other
  deriving DecidableEq, Repr

theorem mapError_eq_ok {ε ε' α : Type} {f : ε → ε'} {x : Except ε α} {a : α} :
    x.mapError f = .ok a ↔ x = .ok a := by
  cases x <;> simp [Except.mapError]

namespace CreateTokenInfo

def deserialize : Borsh.Reader CreateTokenInfo := do
  let slot ← Borsh.readU64
  let name ← Borsh.readString
  let symbol ← Borsh.readString
  let uri ← Borsh.readString
  let mint ← Borsh.readPubkey
  let bondingCurve ← Borsh.readPubkey
  let user ← Borsh.readPubkey
  pure ⟨slot, name, symbol, uri, mint, bondingCurve, user⟩

def serialize (info : CreateTokenInfo) : Except String (List UInt8) := do
  let name ← Borsh.writeString info.name
  let symbol ← Borsh.writeString info.symbol
  let uri ← Borsh.writeString info.uri
  pure (Borsh.writeU64 info.slot ++ name ++ symbol ++ uri ++ info.mint.bytes ++
    info.bondingCurve.bytes ++ info.user.bytes)

def fromBytes (bytes : List UInt8) : Except ClientError CreateTokenInfo :=
  (Borsh.tryFromSlice deserialize bytes).mapError .other

theorem serialize_eq_ok {info : CreateTokenInfo} {bytes : List UInt8}
    (h : info.serialize = .ok bytes) :
    info.name.bytes.length < 2 ^ 32 ∧ info.symbol.bytes.length < 2 ^ 32 ∧
      info.uri.bytes.length < 2 ^ 32 ∧
      bytes = Borsh.writeU64 info.slot ++ leBytes 4 info.name.bytes.length ++ info.name.bytes ++
        leBytes 4 info.symbol.bytes.length ++ info.symbol.bytes ++
        leBytes 4 info.uri.bytes.length ++ info.uri.bytes ++
        info.mint.bytes ++ info.bondingCurve.bytes ++ info.user.bytes := by
  unfold serialize Borsh.writeString at h
  split_ifs at h with hn hs hu <;> simp only [except_ok_bind, except_error_bind, except_pure,
    reduceCtorEq, Except.ok.injEq] at h
  exact ⟨hn, hs, hu, by rw [← h]; simp⟩

theorem serialize_of_fits {info : CreateTokenInfo} (fn : info.name.bytes.length < 2 ^ 32)
    (fs : info.symbol.bytes.length < 2 ^ 32) (fu : info.uri.bytes.length < 2 ^ 32) :
    info.serialize = .ok (Borsh.writeU64 info.slot ++ leBytes 4 info.name.bytes.length ++
      info.name.bytes ++ leBytes 4 info.symbol.bytes.length ++ info.symbol.bytes ++
      leBytes 4 info.uri.bytes.length ++ info.uri.bytes ++ info.mint.bytes ++
      info.bondingCurve.bytes ++ info.user.bytes) := by
  simp only [serialize, Borsh.writeString, if_pos fn, if_pos fs, if_pos fu, except_ok_bind,
    List.append_assoc]
  rfl

theorem deserialize_eq_ok {input rest : List UInt8} {info : CreateTokenInfo} :
    deserialize input = .ok (info, rest) ↔ ∃ bytes, info.serialize = .ok bytes ∧ input = bytes ++ rest := by
  refine ⟨fun read => ?_, fun ⟨bytes, written, layout⟩ => ?_⟩
  · simp only [deserialize, Borsh.bind_eq_ok] at read
    obtain ⟨slot, r1, h1, name, r2, h2, symbol, r3, h3, uri, r4, h4, mint, r5, h5, curve, r6, h6,
      user, r7, h7, done⟩ := read
    obtain ⟨rfl, rfl⟩ := Borsh.pure_eq_ok.mp done
    obtain ⟨fn, rfl⟩ := Borsh.readString_eq_ok.mp h2
    obtain ⟨fs, rfl⟩ := Borsh.readString_eq_ok.mp h3
    obtain ⟨fu, rfl⟩ := Borsh.readString_eq_ok.mp h4
    rw [Borsh.readU64_eq_ok.mp h1, Borsh.readPubkey_eq_ok.mp h5, Borsh.readPubkey_eq_ok.mp h6,
      Borsh.readPubkey_eq_ok.mp h7]
    exact ⟨_, serialize_of_fits fn fs fu, by simp⟩
  · obtain ⟨fn, fs, fu, rfl⟩ := serialize_eq_ok written
    rw [layout]
    simp only [deserialize, Borsh.bind_apply, List.append_assoc, Borsh.readU64_append,
      Borsh.readString_append _ _ fn, Borsh.readString_append _ _ fs, Borsh.readString_append _ _ fu,
      Borsh.readPubkey_append, except_ok_bind, Borsh.pure_apply]

theorem fromBytes_eq_ok {bytes : List UInt8} {info : CreateTokenInfo} :
    fromBytes bytes = .ok info ↔ info.serialize = .ok bytes := by
  rw [fromBytes, mapError_eq_ok, Borsh.tryFromSlice_eq_ok, deserialize_eq_ok]
  simp

end CreateTokenInfo

namespace TradeInfo

def deserialize : Borsh.Reader TradeInfo := do
  let slot ← Borsh.readU64
  let mint ← Borsh.readPubkey
  let solAmount ← Borsh.readU64
  let tokenAmount ← Borsh.readU64
  let isBuy ← Borsh.readBool
  let user ← Borsh.readPubkey
  let timestamp ← Borsh.readI64
  let virtualSolReserves ← Borsh.readU64
  let virtualTokenReserves ← Borsh.readU64
  let realSolReserves ← Borsh.readU64
  let realTokenReserves ← Borsh.readU64
  pure ⟨slot, mint, solAmount, tokenAmount, isBuy, user, timestamp, virtualSolReserves,
    virtualTokenReserves, realSolReserves, realTokenReserves⟩

def serialize (info : TradeInfo) : List UInt8 :=
  Borsh.writeU64 info.slot ++ info.mint.bytes ++ Borsh.writeU64 info.solAmount ++
    Borsh.writeU64 info.tokenAmount ++ Borsh.writeBool info.isBuy ++ info.user.bytes ++
    Borsh.writeI64 info.timestamp ++ Borsh.writeU64 info.virtualSolReserves ++
    Borsh.writeU64 info.virtualTokenReserves ++ Borsh.writeU64 info.realSolReserves ++
    Borsh.writeU64 info.realTokenReserves

def fromBytes (bytes : List UInt8) : Except ClientError TradeInfo :=
  (Borsh.tryFromSlice deserialize bytes).mapError .other

theorem fromBytes_serialize (t : TradeInfo) : fromBytes t.serialize = .ok t := by
  simp [fromBytes, Except.mapError, Borsh.tryFromSlice, deserialize, serialize, Borsh.bind_apply,
    Borsh.map_apply, List.append_assoc]

theorem serialize_length (t : TradeInfo) : t.serialize.length = 129 := by
  simp [serialize, Borsh.writeU64, Borsh.writeI64, Borsh.writeBool, t.mint.length_bytes,
    t.user.length_bytes]

theorem deserialize_append (t : TradeInfo) (rest : List UInt8) :
    deserialize (t.serialize ++ rest) = .ok (t, rest) := by
  simp only [deserialize, serialize, Borsh.bind_apply, List.append_assoc, Borsh.readU64_append,
    Borsh.readPubkey_append, Borsh.readBool_append, Borsh.readI64_append, except_ok_bind,
    Borsh.pure_apply]

theorem deserialize_eq_ok {input rest : List UInt8} {t : TradeInfo} :
    deserialize input = .ok (t, rest) ↔ input = t.serialize ++ rest := by
  refine ⟨fun read => ?_, fun layout => layout ▸ deserialize_append t rest⟩
  simp only [deserialize, Borsh.bind_eq_ok] at read
  obtain ⟨slot, r1, h1, mint, r2, h2, sol, r3, h3, token, r4, h4, isBuy, r5, h5, user, r6, h6,
    time, r7, h7, vs, r8, h8, vt, r9, h9, rs, r10, h10, rt, r11, h11, done⟩ := read
  obtain ⟨rfl, rfl⟩ := Borsh.pure_eq_ok.mp done
  rw [Borsh.readU64_eq_ok.mp h1, Borsh.readPubkey_eq_ok.mp h2, Borsh.readU64_eq_ok.mp h3,
    Borsh.readU64_eq_ok.mp h4, Borsh.readBool_eq_ok.mp h5, Borsh.readPubkey_eq_ok.mp h6,
    Borsh.readI64_eq_ok.mp h7, Borsh.readU64_eq_ok.mp h8, Borsh.readU64_eq_ok.mp h9,
    Borsh.readU64_eq_ok.mp h10, Borsh.readU64_eq_ok.mp h11]
  simp only [serialize, List.append_assoc]

theorem fromBytes_eq_ok {bytes : List UInt8} {t : TradeInfo} :
    fromBytes bytes = .ok t ↔ bytes = t.serialize := by
  rw [fromBytes, mapError_eq_ok, Borsh.tryFromSlice_eq_ok, deserialize_eq_ok, List.append_nil]

end TradeInfo

namespace CompleteInfo

def deserialize : Borsh.Reader CompleteInfo := do
  let user ← Borsh.readPubkey
  let mint ← Borsh.readPubkey
  let bondingCurve ← Borsh.readPubkey
  let timestamp ← Borsh.readU64
  pure ⟨user, mint, bondingCurve, timestamp⟩

def fromBytes (bytes : List UInt8) : Except ClientError CompleteInfo :=
  (Borsh.tryFromSlice deserialize bytes).mapError .other

def serialize (info : CompleteInfo) : List UInt8 :=
  info.user.bytes ++ info.mint.bytes ++ info.bondingCurve.bytes ++ Borsh.writeU64 info.timestamp

theorem deserialize_append (info : CompleteInfo) (rest : List UInt8) :
    deserialize (info.serialize ++ rest) = .ok (info, rest) := by
  simp only [deserialize, serialize, Borsh.bind_apply, List.append_assoc, Borsh.readPubkey_append,
    Borsh.readU64_append, except_ok_bind, Borsh.pure_apply]

theorem deserialize_eq_ok {input rest : List UInt8} {info : CompleteInfo} :
    deserialize input = .ok (info, rest) ↔ input = info.serialize ++ rest := by
  refine ⟨fun read => ?_, fun layout => layout ▸ deserialize_append info rest⟩
  simp only [deserialize, Borsh.bind_eq_ok] at read
  obtain ⟨user, r1, h1, mint, r2, h2, curve, r3, h3, time, r4, h4, done⟩ := read
  obtain ⟨rfl, rfl⟩ := Borsh.pure_eq_ok.mp done
  rw [Borsh.readPubkey_eq_ok.mp h1, Borsh.readPubkey_eq_ok.mp h2, Borsh.readPubkey_eq_ok.mp h3,
    Borsh.readU64_eq_ok.mp h4]
  simp only [serialize, List.append_assoc]

theorem fromBytes_eq_ok {bytes : List UInt8} {info : CompleteInfo} :
    fromBytes bytes = .ok info ↔ bytes = info.serialize := by
  rw [fromBytes, mapError_eq_ok, Borsh.tryFromSlice_eq_ok, deserialize_eq_ok, List.append_nil]

end CompleteInfo

namespace SwapBaseInLog

def deserialize : Borsh.Reader SwapBaseInLog := do
  let logType ← Borsh.readU8
  let amountIn ← Borsh.readU64
  let minimumOut ← Borsh.readU64
  let direction ← Borsh.readU64
  let userSource ← Borsh.readU64
  let poolCoin ← Borsh.readU64
  let poolPc ← Borsh.readU64
  let outAmount ← Borsh.readU64
  pure ⟨logType, amountIn, minimumOut, direction, userSource, poolCoin, poolPc, outAmount⟩

def fromBytes (bytes : List UInt8) : Except ClientError SwapBaseInLog :=
  (Borsh.tryFromSlice deserialize bytes).mapError .other

def serialize (log : SwapBaseInLog) : List UInt8 :=
  Borsh.writeU8 log.logType ++ Borsh.writeU64 log.amountIn ++ Borsh.writeU64 log.minimumOut ++
    Borsh.writeU64 log.direction ++ Borsh.writeU64 log.userSource ++
    Borsh.writeU64 log.poolCoin ++ Borsh.writeU64 log.poolPc ++ Borsh.writeU64 log.outAmount

theorem deserialize_append (log : SwapBaseInLog) (rest : List UInt8) :
    deserialize (log.serialize ++ rest) = .ok (log, rest) := by
  simp only [deserialize, serialize, Borsh.bind_apply, List.append_assoc, Borsh.readU8_append,
    Borsh.readU64_append, except_ok_bind, Borsh.pure_apply]

theorem deserialize_eq_ok {input rest : List UInt8} {log : SwapBaseInLog} :
    deserialize input = .ok (log, rest) ↔ input = log.serialize ++ rest := by
  refine ⟨fun read => ?_, fun layout => layout ▸ deserialize_append log rest⟩
  simp only [deserialize, Borsh.bind_eq_ok] at read
  obtain ⟨logType, r1, h1, amountIn, r2, h2, minimumOut, r3, h3, direction, r4, h4, source, r5,
    h5, coin, r6, h6, pc, r7, h7, out, r8, h8, done⟩ := read
  obtain ⟨rfl, rfl⟩ := Borsh.pure_eq_ok.mp done
  rw [Borsh.readU8_eq_ok.mp h1, Borsh.readU64_eq_ok.mp h2, Borsh.readU64_eq_ok.mp h3,
    Borsh.readU64_eq_ok.mp h4, Borsh.readU64_eq_ok.mp h5, Borsh.readU64_eq_ok.mp h6,
    Borsh.readU64_eq_ok.mp h7, Borsh.readU64_eq_ok.mp h8]
  simp only [serialize, List.append_assoc]

theorem fromBytes_eq_ok {bytes : List UInt8} {log : SwapBaseInLog} :
    fromBytes bytes = .ok log ↔ bytes = log.serialize := by
  rw [fromBytes, mapError_eq_ok, Borsh.tryFromSlice_eq_ok, deserialize_eq_ok, List.append_nil]

end SwapBaseInLog

def ClientResult.ofExcept {α : Type} : Except ClientError α → ClientResult α
  | .ok a => .ok a
  | .error e => .err e

/-- `EventTrait`: a record read from a byte slice. `from_bytes` returns `Ok` or `Err`, and an
implementation may panic; the four of this crate are Borsh's `try_from_slice`, which do not. -/
class EventTrait (α : Type) where
  fromBytes : List UInt8 → ClientResult α

instance : EventTrait CreateTokenInfo := ⟨fun bytes => .ofExcept (CreateTokenInfo.fromBytes bytes)⟩

instance : EventTrait TradeInfo := ⟨fun bytes => .ofExcept (TradeInfo.fromBytes bytes)⟩

instance : EventTrait CompleteInfo := ⟨fun bytes => .ofExcept (CompleteInfo.fromBytes bytes)⟩

instance : EventTrait SwapBaseInLog := ⟨fun bytes => .ofExcept (SwapBaseInLog.fromBytes bytes)⟩

theorem ClientResult.ofExcept_eq_ok {α : Type} {x : Except ClientError α} {a : α} :
    ClientResult.ofExcept x = .ok a ↔ x = .ok a := by
  cases x <;> simp [ClientResult.ofExcept]

theorem from_bytes_accepts_serializations :
    (∀ bytes (info : CreateTokenInfo),
      EventTrait.fromBytes bytes = .ok info ↔ info.serialize = .ok bytes) ∧
    (∀ bytes (t : TradeInfo), EventTrait.fromBytes bytes = .ok t ↔ bytes = t.serialize) ∧
    (∀ bytes (info : CompleteInfo), EventTrait.fromBytes bytes = .ok info ↔ bytes = info.serialize) ∧
    (∀ bytes (log : SwapBaseInLog), EventTrait.fromBytes bytes = .ok log ↔ bytes = log.serialize) :=
  ⟨fun _ _ => ClientResult.ofExcept_eq_ok.trans CreateTokenInfo.fromBytes_eq_ok,
    fun _ _ => ClientResult.ofExcept_eq_ok.trans TradeInfo.fromBytes_eq_ok,
    fun _ _ => ClientResult.ofExcept_eq_ok.trans CompleteInfo.fromBytes_eq_ok,
    fun _ _ => ClientResult.ofExcept_eq_ok.trans SwapBaseInLog.fromBytes_eq_ok⟩

end PumpfunSdk
