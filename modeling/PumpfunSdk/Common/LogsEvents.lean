import PumpfunSdk.Common.LogsParser

/-! `common/logs_events.rs`: the events handed to subscribers, and the second way the source
decodes a `Program data: ` payload. `PumpfunEvent::parse_logs` strips the first 8 bytes of the
decoded payload and reads the rest with the Borsh layout of `TradeInfo`, whose first field is
`slot`; the cursor decoder of `logs_parser` reads the mint right after the same 8 bytes. On a
payload that carries a Borsh record the two paths are 8 bytes apart. -/

namespace PumpfunSdk

open Outcome

inductive PumpfunEvent where
  | newToken (info : CreateTokenInfo)
  | newDevTrade (info : TradeInfo)
  | newUserTrade (info : TradeInfo)
  | newBotTrade (info : TradeInfo)
  | error (msg : String)
  deriving DecidableEq, Repr

theorem trade_decode_paths_offset :
    ∀ (discriminator : UInt64) (t : TradeInfo),
      TradeInfo.fromBytes ((Borsh.writeU64 discriminator ++ t.serialize).drop 8) = .ok t ∧
      ∃ t', parseTradeData (Base64.encode (Borsh.writeU64 discriminator ++ t.serialize)) =
          .ok t' ∧ t'.mint.bytes = Borsh.writeU64 t.slot ++ t.mint.bytes.take 24 := by
  intro discriminator t
  have header : (Borsh.writeU64 discriminator).length = 8 := leBytes_length 8 _
  have long : 129 ≤ (Borsh.writeU64 discriminator ++ t.serialize).length := by
    simp [header, TradeInfo.serialize_length]
  refine ⟨by rw [List.drop_left' header, TradeInfo.fromBytes_serialize], _,
    parseTradeData_of_long (Base64.decode_encode _) long, ?_⟩
  simp [List.drop_left' header, TradeInfo.serialize, Borsh.writeU64,
    List.take_append_eq_append_take, t.mint.length_bytes]

def programData : String := "Program data: "

namespace PumpfunEvent

def tryTrade (createInfo : Option CreateTokenInfo) (tradeInfo : Option TradeInfo)
    (slice : List UInt8) : Option CreateTokenInfo × Option TradeInfo :=
  match tradeInfo with
  | none =>
    match TradeInfo.fromBytes slice with
    | .ok e => (createInfo, some e)
    | .error _ => (createInfo, none)
  | some e => (createInfo, some e)

/-- Lines 38–54, the body of `for l in logs_iter.rev()` on the records kept so far. A
`Program data: ` line is decoded with `unwrap` and sliced past its first 8 bytes; while no
create record is kept the slice is tried as one, and a create record read ends the turn
(`continue`). -/
def parseLogsStep (found : Option CreateTokenInfo × Option TradeInfo) (l : String) :
    Outcome (Option CreateTokenInfo × Option TradeInfo) :=
  match stripPrefix l programData with
  | none => pure found
  | some log => do
    let borshBytes ← unwrap (Base64.decode log)
    let slice ← sliceFrom borshBytes 8
    match found with
    | (none, tradeInfo) =>
      match CreateTokenInfo.fromBytes slice with
      | .ok e => pure (some e, tradeInfo)
      | .error _ => pure (tryTrade none tradeInfo slice)
    | (createInfo, tradeInfo) => pure (tryTrade createInfo tradeInfo slice)

def parseLogs (logs : List String) : Outcome (Option CreateTokenInfo × Option TradeInfo) :=
  if logs.isEmpty then pure (none, none)
  else logs.reverse.foldlM parseLogsStep (none, none)

end PumpfunEvent

def isBase64Char (c : Char) : Bool := c.isAlphanum || c == '+' || c == '/' || c == '='

def rayLogMarker : String := "ray_log: "

/-- `re.captures(l)` for `ray_log: (?P<base64>[A-Za-z0-9+/=]+)`, then `caps.name("base64")`:
the leftmost match starts at the first `ray_log: ` that a character of the class follows,
and the greedy `+` takes the whole run of them. -/
def rayLogCapture : List Char → Option String
  | [] => none
  | c :: cs =>
    let run := ((c :: cs).drop rayLogMarker.length).takeWhile isBase64Char
    if rayLogMarker.data.isPrefixOf (c :: cs) && !run.isEmpty then some ⟨run⟩
    else rayLogCapture cs

namespace RaydiumEvent

/-- Lines 72–82, the body of the loop: a capture is decoded with `unwrap`, and a record
read replaces the one kept. The pattern is valid, so `Regex::new(..).unwrap()` does not
panic. -/
def parseLogsStep {T : Type} [EventTrait T] (event : Option T) (l : String) :
    Outcome (Option T) :=
  match rayLogCapture l.data with
  | none => pure event
  | some base64 => do
    let bytes ← unwrap (Base64.decode base64)
    match (EventTrait.fromBytes bytes : ClientResult T) with
    | .ok e => pure (some e)
    | .err _ => pure event
    | .panic => .panic

def parseLogs (T : Type) [EventTrait T] (logs : List String) : Outcome (Option T) :=
  if logs.isEmpty then pure none else logs.reverse.foldlM parseLogsStep none

end RaydiumEvent

def dataSlice (l : String) : Option (List UInt8) := do
  let log ← stripPrefix l programData
  let d ← (Base64.decode log).toOption
  if 8 ≤ d.length then some (d.drop 8) else none

def createOf (l : String) : Option CreateTokenInfo :=
  dataSlice l >>= fun slice => (CreateTokenInfo.fromBytes slice).toOption

def tradeOf (l : String) : Option TradeInfo :=
  dataSlice l >>= fun slice => (TradeInfo.fromBytes slice).toOption

namespace PumpfunEvent

theorem parseLogsStep_ret {createInfo createInfo' : Option CreateTokenInfo}
    {tradeInfo tradeInfo' : Option TradeInfo} {l : String}
    (ran : parseLogsStep (createInfo, tradeInfo) l = .ret (createInfo', tradeInfo')) :
    createInfo' = createInfo.or (createOf l) ∧
      tradeInfo' = tradeInfo.or
        (if createInfo.isNone && (createOf l).isSome then none else tradeOf l) := by
  unfold parseLogsStep at ran
  cases stripped : stripPrefix l programData with
  | none =>
    have quiet : dataSlice l = none := by simp [dataSlice, stripped]
    simp only [stripped, pure_eq, ret.injEq, Prod.mk.injEq] at ran
    simp [createOf, tradeOf, quiet, ran]
  | some log =>
    simp only [stripped] at ran
    cases decoded : Base64.decode log with
    | error e => simp [decoded, unwrap] at ran
    | ok d =>
      by_cases long : 8 ≤ d.length
      · have slice : dataSlice l = some (d.drop 8) := by
          simp [dataSlice, stripped, decoded, long, Except.toOption]
        simp only [decoded, unwrap, ret_bind, sliceFrom_of_le long] at ran
        simp only [createOf, tradeOf, slice, Option.some_bind]
        cases createInfo <;> cases tradeInfo <;>
          cases created : CreateTokenInfo.fromBytes (d.drop 8) <;>
          cases traded : TradeInfo.fromBytes (d.drop 8) <;>
          simp only [created, traded, tryTrade, ret.injEq, Prod.mk.injEq] at ran <;>
          obtain ⟨rfl, rfl⟩ := ran <;>
          simp [created, traded, Except.toOption]
      · simp [decoded, unwrap, sliceFrom, long] at ran

theorem foldlM_parseLogsStep (lines : List String) :
    ∀ {createInfo createInfo' : Option CreateTokenInfo} {tradeInfo tradeInfo' : Option TradeInfo},
      lines.foldlM parseLogsStep (createInfo, tradeInfo) = .ret (createInfo', tradeInfo') →
      createInfo' = createInfo.or (lines.filterMap createOf).head? ∧
        tradeInfo' = tradeInfo.or ((if createInfo.isNone then
          lines.eraseP (fun l => (createOf l).isSome) else lines).filterMap tradeOf).head? := by
  induction lines with
  | nil => intro _ _ _ _ ran; cases ran; simp
  | cons l lines ih =>
    intro createInfo createInfo' tradeInfo tradeInfo' ran
    rw [List.foldlM_cons] at ran
    obtain ⟨⟨createInfo₁, tradeInfo₁⟩, stepped, rest⟩ := bind_eq_ret.mp ran
    obtain ⟨rfl, rfl⟩ := parseLogsStep_ret stepped
    obtain ⟨rfl, rfl⟩ := ih rest
    cases createInfo <;> cases created : createOf l <;> cases traded : tradeOf l <;>
      simp [created, traded, List.eraseP_cons, List.findSome?_cons, Option.or_assoc]

theorem parseLogsStep_eq_panic_iff (found : Option CreateTokenInfo × Option TradeInfo)
    (l : String) :
    parseLogsStep found l = .panic ↔ ∃ log, stripPrefix l programData = some log ∧
      ∀ d, Base64.decode log = .ok d → d.length < 8 := by
  unfold parseLogsStep
  cases stripped : stripPrefix l programData with
  | none => simp
  | some log =>
    cases decoded : Base64.decode log with
    | error e => simp [decoded, unwrap]
    | ok d =>
      by_cases long : 8 ≤ d.length
      · obtain ⟨createInfo, tradeInfo⟩ := found
        simp only [decoded, unwrap, ret_bind, sliceFrom_of_le long]
        cases createInfo <;> cases created : CreateTokenInfo.fromBytes (d.drop 8) <;>
          simp [long, decoded]
      · simpa [decoded, unwrap, sliceFrom, long] using Nat.lt_of_not_le long

end PumpfunEvent

def withoutLast {α : Type} (p : α → Bool) (xs : List α) : List α := (xs.reverse.eraseP p).reverse

theorem pumpfun_parse_logs_last_records (logs : List String)
    (createInfo : Option CreateTokenInfo) (tradeInfo : Option TradeInfo)
    (returns : PumpfunEvent.parseLogs logs = .ret (createInfo, tradeInfo)) :
    createInfo = (logs.filterMap createOf).getLast? ∧
      tradeInfo =
        ((withoutLast (fun l => (createOf l).isSome) logs).filterMap tradeOf).getLast? := by
  unfold PumpfunEvent.parseLogs at returns
  split at returns
  · rename_i empty
    obtain rfl := List.isEmpty_iff.mp empty
    cases returns
    simp [withoutLast]
  · obtain ⟨rfl, rfl⟩ := PumpfunEvent.foldlM_parseLogsStep logs.reverse returns
    simp [withoutLast]

theorem pumpfun_parse_logs_last_records_shared_line :
    let both := "Program data: " ++ ⟨List.replicate 22 'A'⟩ ++ "0" ++ ⟨List.replicate 160 'A'⟩ ++ "="
    let trade := "Program data: " ++ ⟨List.replicate 183 'A'⟩ ++ "="
    (tradeOf both).isSome ∧
      PumpfunEvent.parseLogs [trade, both] = .ret (createOf both, tradeOf trade) ∧
      createOf both = ([trade, both].filterMap createOf).getLast? ∧
      tradeOf trade =
        ((withoutLast (fun l => (createOf l).isSome) [trade, both]).filterMap tradeOf).getLast? :=
  have parsed : PumpfunEvent.parseLogs ["Program data: " ++ ⟨List.replicate 183 'A'⟩ ++ "=",
      "Program data: " ++ ⟨List.replicate 22 'A'⟩ ++ "0" ++ ⟨List.replicate 160 'A'⟩ ++ "="] =
      .ret (createOf ("Program data: " ++ ⟨List.replicate 22 'A'⟩ ++ "0" ++
        ⟨List.replicate 160 'A'⟩ ++ "="), tradeOf ("Program data: " ++ ⟨List.replicate 183 'A'⟩ ++ "=")) := by
    set_option maxRecDepth 20000 in decide
  ⟨by set_option maxRecDepth 20000 in decide, parsed,
    pumpfun_parse_logs_last_records _ _ _ parsed⟩

def rayLogRecord {T : Type} [EventTrait T] (l : String) : Option T := do
  let base64 ← rayLogCapture l.data
  let bytes ← (Base64.decode base64).toOption
  match (EventTrait.fromBytes bytes : ClientResult T) with
  | .ok e => some e
  | _ => none

namespace RaydiumEvent

variable {T : Type} [EventTrait T]

theorem parseLogsStep_ret {event event' : Option T} {l : String}
    (ran : parseLogsStep event l = .ret event') : event' = (rayLogRecord l).or event := by
  unfold parseLogsStep at ran
  cases captured : rayLogCapture l.data with
  | none =>
    simp only [captured, pure_eq, ret.injEq] at ran
    subst ran
    simp [rayLogRecord, captured]
  | some base64 =>
    simp only [captured] at ran
    cases decoded : Base64.decode base64 with
    | error e => simp [decoded, unwrap] at ran
    | ok bytes =>
      simp only [decoded, unwrap, ret_bind] at ran
      cases read : (EventTrait.fromBytes bytes : ClientResult T) <;>
        simp only [read, pure_eq, ret.injEq, reduceCtorEq] at ran <;>
        subst ran <;>
        simp [rayLogRecord, captured, decoded, read, Except.toOption]

theorem foldlM_parseLogsStep (lines : List String) :
    ∀ {event event' : Option T}, lines.foldlM parseLogsStep event = .ret event' →
      event' = (lines.filterMap rayLogRecord).getLast?.or event := by
  induction lines with
  | nil => intro _ _ ran; cases ran; simp
  | cons l lines ih =>
    intro event event' ran
    rw [List.foldlM_cons] at ran
    obtain ⟨event₁, stepped, rest⟩ := bind_eq_ret.mp ran
    rw [ih rest, parseLogsStep_ret stepped]
    cases found : (rayLogRecord l : Option T) <;>
      cases last : (lines.filterMap (rayLogRecord : String → Option T)).getLast? <;>
      simp [List.filterMap_cons, found, last, List.getLast?_cons]

theorem parseLogsStep_eq_panic_iff (event : Option T) (l : String) :
    parseLogsStep event l = .panic ↔ ∃ base64, rayLogCapture l.data = some base64 ∧
      ∀ bytes, Base64.decode base64 = .ok bytes →
        (EventTrait.fromBytes bytes : ClientResult T) = .panic := by
  unfold parseLogsStep
  cases captured : rayLogCapture l.data with
  | none => simp
  | some base64 =>
    cases decoded : Base64.decode base64 with
    | error e => simp [decoded, unwrap]
    | ok bytes =>
      cases read : (EventTrait.fromBytes bytes : ClientResult T) <;> simp [decoded, unwrap, read]

end RaydiumEvent

theorem parse_logs_panic_on_malformed_payload :
    (∀ logs : List String, PumpfunEvent.parseLogs logs = .panic ↔
      ∃ l ∈ logs, ∃ log, stripPrefix l programData = some log ∧
        ∀ d, Base64.decode log = .ok d → d.length < 8) ∧
    (∀ (T : Type) [EventTrait T] (logs : List String), RaydiumEvent.parseLogs T logs = .panic ↔
      ∃ l ∈ logs, ∃ base64, rayLogCapture l.data = some base64 ∧
        ∀ bytes, Base64.decode base64 = .ok bytes →
          (EventTrait.fromBytes bytes : ClientResult T) = .panic) ∧
    PumpfunEvent.parseLogs ["Program data: A"] = .panic ∧
    PumpfunEvent.parseLogs ["Program data: AAAA"] = .panic ∧
    RaydiumEvent.parseLogs SwapBaseInLog ["ray_log: A"] = .panic := by
  refine ⟨fun logs => ?_, fun T _ logs => ?_, by decide, by decide, by decide⟩
  · unfold PumpfunEvent.parseLogs
    split
    · rename_i empty
      obtain rfl := List.isEmpty_iff.mp empty
      simp
    · rw [foldlM_eq_panic_iff PumpfunEvent.parseLogsStep_eq_panic_iff]
      simp only [List.mem_reverse]
  · unfold RaydiumEvent.parseLogs
    split
    · rename_i empty
      obtain rfl := List.isEmpty_iff.mp empty
      simp
    · rw [foldlM_eq_panic_iff RaydiumEvent.parseLogsStep_eq_panic_iff]
      simp only [List.mem_reverse]

theorem raydium_parse_logs_earliest_record {T : Type} [EventTrait T] (logs : List String)
    (event : Option T) (returns : RaydiumEvent.parseLogs T logs = .ret event) :
    event = (logs.filterMap rayLogRecord).head? := by
  unfold RaydiumEvent.parseLogs at returns
  split at returns
  · rename_i empty
    obtain rfl := List.isEmpty_iff.mp empty
    cases returns
    rfl
  · rw [RaydiumEvent.foldlM_parseLogsStep logs.reverse returns]
    simp

theorem raydium_parse_logs_earliest_record_two_swaps :
    let first := "ray_log: " ++ ⟨List.replicate 76 'A'⟩
    let second := "ray_log: AQAA" ++ ⟨List.replicate 72 'A'⟩
    let logs := ["Program log: ray_log: AAAA", first, second]
    (rayLogRecord first : Option SwapBaseInLog) ≠ rayLogRecord second ∧
      RaydiumEvent.parseLogs SwapBaseInLog logs = .ret (rayLogRecord first) ∧
      (rayLogRecord first : Option SwapBaseInLog) = (logs.filterMap rayLogRecord).head? :=
  have parsed : RaydiumEvent.parseLogs SwapBaseInLog ["Program log: ray_log: AAAA",
      "ray_log: " ++ ⟨List.replicate 76 'A'⟩, "ray_log: AQAA" ++ ⟨List.replicate 72 'A'⟩] =
      .ret (rayLogRecord ("ray_log: " ++ ⟨List.replicate 76 'A'⟩)) := by
    set_option maxRecDepth 20000 in decide
  ⟨by set_option maxRecDepth 20000 in decide, parsed,
    raydium_parse_logs_earliest_record _ _ parsed⟩

theorem dataSlice_eq_some {l : String} {slice : List UInt8} :
    dataSlice l = some slice ↔
      ∃ header, header.length = 8 ∧ l = programData ++ Base64.encode (header ++ slice) := by
  constructor
  · intro h
    simp only [dataSlice, Option.bind_eq_bind, Option.bind_eq_some] at h
    obtain ⟨log, stripped, d, decoded, h⟩ := h
    split_ifs at h with long
    cases h
    refine ⟨d.take 8, by simp [long], ?_⟩
    rw [List.take_append_drop, stripPrefix_eq_some.mp stripped,
      Base64.decode_eq_ok_iff.mp (except_toOption_eq_some.mp decoded)]
  · rintro ⟨header, eight, rfl⟩
    simp [dataSlice, Base64.decode_encode, Except.toOption, eight]

theorem parse_logs_record_lines :
    (∀ l (info : CreateTokenInfo), createOf l = some info ↔
      ∃ header bytes, header.length = 8 ∧ info.serialize = .ok bytes ∧
        l = programData ++ Base64.encode (header ++ bytes)) ∧
    (∀ l (t : TradeInfo), tradeOf l = some t ↔
      ∃ header, header.length = 8 ∧ l = programData ++ Base64.encode (header ++ t.serialize)) ∧
    (∀ l (log : SwapBaseInLog), rayLogRecord l = some log ↔
      rayLogCapture l.data = some (Base64.encode log.serialize)) := by
  refine ⟨fun l info => ?_, fun l t => ?_, fun l log => ?_⟩
  · simp only [createOf, Option.bind_eq_bind, Option.bind_eq_some, except_toOption_eq_some,
      CreateTokenInfo.fromBytes_eq_ok, dataSlice_eq_some]
    exact ⟨fun ⟨bytes, ⟨header, eight, layout⟩, written⟩ => ⟨header, bytes, eight, written, layout⟩,
      fun ⟨header, bytes, eight, written, layout⟩ => ⟨bytes, ⟨header, eight, layout⟩, written⟩⟩
  · simp only [tradeOf, Option.bind_eq_bind, Option.bind_eq_some, except_toOption_eq_some,
      TradeInfo.fromBytes_eq_ok, dataSlice_eq_some, exists_eq_right]
  · have read_eq : ∀ bytes, (EventTrait.fromBytes bytes : ClientResult SwapBaseInLog) =
        ClientResult.ofExcept (SwapBaseInLog.fromBytes bytes) := fun _ => rfl
    constructor
    · intro h
      simp only [rayLogRecord, Option.bind_eq_bind, Option.bind_eq_some, except_toOption_eq_some,
        Base64.decode_eq_ok_iff, read_eq] at h
      obtain ⟨base64, captured, bytes, rfl, read⟩ := h
      split at read
      · rename_i parsed
        cases read
        rwa [← SwapBaseInLog.fromBytes_eq_ok.mp (ClientResult.ofExcept_eq_ok.mp parsed)]
      · cases read
    · intro captured
      simp [rayLogRecord, captured, Base64.decode_encode, Except.toOption, read_eq,
        ClientResult.ofExcept, SwapBaseInLog.fromBytes_eq_ok.mpr rfl]

end PumpfunSdk
