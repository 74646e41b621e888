import PumpfunSdk.Common.LogsParser

/-! `common/logs_filters.rs`: `LogFilter::parse_instruction`, one pass over a transaction's
log lines that counts the target program's frames with `invoke_depth` and decodes the longest
payload of each top-level span at its exit. Every depth-0 state has the same future apart from
the instructions already pushed (`scan_settle`), which splits a log list at every top-level
boundary. -/

namespace PumpfunSdk

open Outcome

def programId : String := "6EF8rrecthR5Dkzon8Nwu78hRvfCKubJ14M5uBEwF6P"

def invokeMarker : String := "Program " ++ programId ++ " invoke"

def successMarker : String := "Program " ++ programId ++ " success"

def instructionMarker : String := "Program log: Instruction:"

def dataPrefix : String := "Program data: "

structure FilterState where
  currentInstruction : Option String
  programData : String
  /-- An `i32`. -/
  invokeDepth : Int
  lastDataLen : Nat
  instructions : List DexInstruction
  deriving DecidableEq, Repr

def FilterState.init : FilterState := ⟨none, "", 0, 0, []⟩

def enter (s : FilterState) : Outcome FilterState := do
  let depth ← i32Add s.invokeDepth 1
  if depth = 1 then
    pure
      { s with
        invokeDepth := depth
        currentInstruction := none
        programData := ""
        lastDataLen := 0 }
  else pure { s with invokeDepth := depth }

def markerKind (log : String) : Option String :=
  if contains log "Create" then some "create"
  else if contains log "Buy" ∨ contains log "Sell" then some "trade"
  else none

def markKind (s : FilterState) (log : String) : FilterState :=
  match markerKind log with
  | some kind => { s with currentInstruction := some kind }
  | none => s

def collectData (s : FilterState) (log : String) : FilterState :=
  if startsWith log dataPrefix then
    let data := trimStartMatches log dataPrefix
    if len data > s.lastDataLen then { s with programData := data, lastDataLen := len data }
    else s
  else s

/-- `if let Ok(x) = result { instructions.push(f(x)) }`: an `Err` pushes nothing, a panic
propagates. -/
def pushIfOk {α : Type} (result : ClientResult α) (f : α → DexInstruction) :
    Outcome (List DexInstruction) :=
  match result with
  | .ok a => pure [f a]
  | .err _ => pure []
  | .panic => .panic

def classifyTrade (botWallet : Option Pubkey) (tradeInfo : TradeInfo) : DexInstruction :=
  match botWallet with
  | some botWalletPubkey =>
    if tradeInfo.user.toString = botWalletPubkey.toString then .botTrade tradeInfo
    else .userTrade tradeInfo
  | none => .userTrade tradeInfo

def dispatch (botWallet : Option Pubkey) (currentInstruction : Option String)
    (programData : String) : Outcome (List DexInstruction) :=
  match currentInstruction with
  | none => pure []
  | some instructionType =>
    if isEmpty programData then pure []
    else if instructionType = "create" then
      pushIfOk (parseCreateTokenData programData) .createToken
    else if instructionType = "trade" then
      pushIfOk (parseTradeData programData) (classifyTrade botWallet)
    else pure []

def leave (botWallet : Option Pubkey) (s : FilterState) (log : String) : Outcome FilterState :=
  if contains log successMarker then do
    let depth ← i32Sub s.invokeDepth 1
    if depth = 0 then do
      let found ← dispatch botWallet s.currentInstruction s.programData
      pure { s with invokeDepth := depth, instructions := s.instructions ++ found }
    else pure { s with invokeDepth := depth }
  else pure s

def step (botWallet : Option Pubkey) (s : FilterState) (log : String) : Outcome FilterState :=
  if contains log invokeMarker then enter s
  else if s.invokeDepth = 0 then pure s
  else if s.invokeDepth = 1 ∧ contains log instructionMarker then pure (markKind s log)
  else leave botWallet (collectData s log) log

def scan (botWallet : Option Pubkey) : FilterState → List String → Outcome FilterState
  | s, [] => pure s
  | s, log :: logs => do
    let s ← step botWallet s log
    scan botWallet s logs

def parseInstruction (logs : List String) (botWallet : Option Pubkey) :
    ClientResult (List DexInstruction) := do
  let s ← (scan botWallet FilterState.init logs : Outcome _)
  pure s.instructions

def depthStep (depth : Int) (log : String) : Outcome Int :=
  if contains log invokeMarker then i32Add depth 1
  else if depth = 0 then pure depth
  else if depth = 1 ∧ contains log instructionMarker then pure depth
  else if contains log successMarker then i32Sub depth 1
  else pure depth

def depthTrace : Int → List String → Outcome (List Int)
  | _, [] => pure []
  | depth, log :: logs => do
    let next ← depthStep depth log
    let rest ← depthTrace next logs
    pure (next :: rest)

namespace FilterState

/-- With no span open only the instructions matter: the next top-level entry clears the rest
before anything reads it. -/
def settle (s : FilterState) : FilterState :=
  if s.invokeDepth = 0 then { init with instructions := s.instructions } else s

def prepend (pre : List DexInstruction) (s : FilterState) : FilterState :=
  { s with instructions := pre ++ s.instructions }

@[simp] theorem prepend_invokeDepth (pre : List DexInstruction) (s : FilterState) :
    (s.prepend pre).invokeDepth = s.invokeDepth := rfl

@[simp] theorem settle_instructions (s : FilterState) : s.settle.instructions = s.instructions := by
  unfold settle; split <;> rfl

end FilterState

open FilterState

@[simp] theorem markKind_invokeDepth (s : FilterState) (log : String) :
    (markKind s log).invokeDepth = s.invokeDepth := by
  unfold markKind; split <;> rfl

@[simp] theorem collectData_invokeDepth (s : FilterState) (log : String) :
    (collectData s log).invokeDepth = s.invokeDepth := by
  unfold collectData; dsimp only; split_ifs <;> rfl

@[simp] theorem markKind_instructions (s : FilterState) (log : String) :
    (markKind s log).instructions = s.instructions := by
  unfold markKind; split <;> rfl

@[simp] theorem collectData_instructions (s : FilterState) (log : String) :
    (collectData s log).instructions = s.instructions := by
  unfold collectData; dsimp only; split_ifs <;> rfl

theorem markKind_prepend (pre : List DexInstruction) (s : FilterState) (log : String) :
    markKind (s.prepend pre) log = (markKind s log).prepend pre := by
  unfold markKind; split <;> rfl

theorem collectData_prepend (pre : List DexInstruction) (s : FilterState) (log : String) :
    collectData (s.prepend pre) log = (collectData s log).prepend pre := by
  unfold collectData prepend; dsimp only; split_ifs <;> rfl

theorem enter_prepend (pre : List DexInstruction) (s : FilterState) :
    enter (s.prepend pre) = prepend pre <$> enter s := by
  unfold enter
  rw [prepend_invokeDepth]
  cases i32Add s.invokeDepth 1 with
  | panic => rfl
  | ret depth => simp only [ret_bind]; split <;> rfl

theorem leave_prepend (w : Option Pubkey) (pre : List DexInstruction) (s : FilterState)
    (log : String) : leave w (s.prepend pre) log = prepend pre <$> leave w s log := by
  unfold leave
  split
  · rw [prepend_invokeDepth]
    cases i32Sub s.invokeDepth 1 with
    | panic => rfl
    | ret depth =>
      simp only [ret_bind]
      split
      · cases h : dispatch w s.currentInstruction s.programData <;>
          simp [prepend, h, List.append_assoc]
      · rfl
  · rfl

theorem step_prepend (w : Option Pubkey) (pre : List DexInstruction) (s : FilterState)
    (log : String) : step w (s.prepend pre) log = prepend pre <$> step w s log := by
  unfold step
  simp only [prepend_invokeDepth]
  split_ifs
  · exact enter_prepend pre s
  · rfl
  · rw [markKind_prepend]; rfl
  · rw [collectData_prepend, leave_prepend]

theorem step_of_closed (w : Option Pubkey) {s : FilterState} (log : String)
    (closed : s.invokeDepth = 0) :
    step w s log =
      if contains log invokeMarker then
        .ret { s with
          invokeDepth := 1
          currentInstruction := none
          programData := ""
          lastDataLen := 0 }
      else .ret s := by
  by_cases entry : contains log invokeMarker <;> simp [step, entry, closed, enter, i32Add]

theorem step_settle (w : Option Pubkey) (s : FilterState) (log : String) :
    settle <$> step w s log = settle <$> step w s.settle log := by
  by_cases closed : s.invokeDepth = 0
  · have cleared : s.settle = { init with instructions := s.instructions } := if_pos closed
    rw [step_of_closed w log closed, step_of_closed w log (by rw [cleared]; rfl), cleared]
    split <;> simp [settle, closed, init]
  · rw [settle, if_neg closed]

theorem scan_append (w : Option Pubkey) (s : FilterState) (first rest : List String) :
    scan w s (first ++ rest) = scan w s first >>= fun s' => scan w s' rest := by
  induction first generalizing s with
  | nil => rfl
  | cons log first ih => rw [List.cons_append]; simp only [scan, ih, bind_assoc]

theorem scan_prepend (w : Option Pubkey) (pre : List DexInstruction) (s : FilterState)
    (logs : List String) : scan w (s.prepend pre) logs = prepend pre <$> scan w s logs := by
  induction logs generalizing s with
  | nil => rfl
  | cons log logs ih =>
    simp only [scan, step_prepend]
    cases step w s log <;> simp [ih]

theorem scan_settle (w : Option Pubkey) (logs : List String) :
    ∀ s t : FilterState, s.settle = t.settle →
      settle <$> scan w s logs = settle <$> scan w t logs := by
  induction logs with
  | nil => intro s t same; simp [scan, same]
  | cons log logs ih =>
    intro s t same
    have both := (step_settle w s log).trans (same ▸ (step_settle w t log).symm)
    simp only [scan]
    cases hs : step w s log <;> cases ht : step w t log <;> simp only [hs, ht, map_ret,
      map_panic, reduceCtorEq, ret.injEq] at both ⊢
    exact ih _ _ both

theorem parseInstruction_eq (logs : List String) (w : Option Pubkey) :
    parseInstruction logs w = monadLift (instructions <$> scan w init logs) := by
  unfold parseInstruction
  cases scan w init logs <;> rfl

theorem parseInstruction_of_scan {w : Option Pubkey} {logs : List String} {s : FilterState}
    (ran : scan w init logs = .ret s) : parseInstruction logs w = .ok s.instructions := by
  rw [parseInstruction_eq, ran]; rfl

theorem parseInstruction_append {w : Option Pubkey} {first : List String} (rest : List String)
    {s : FilterState} (ran : scan w init first = .ret s) (closed : s.invokeDepth = 0) :
    parseInstruction (first ++ rest) w =
      parseInstruction rest w >>= fun found => .ok (s.instructions ++ found) := by
  have settled : s.settle = (init.prepend s.instructions).settle := by
    simp [settle, closed, prepend, init]
  have forget : ∀ x : Outcome FilterState, instructions <$> (settle <$> x) = instructions <$> x :=
    fun x => by cases x <;> simp
  have same := congrArg (instructions <$> ·) (scan_settle w rest _ _ settled)
  simp only [forget, scan_prepend] at same
  rw [parseInstruction_eq, parseInstruction_eq, scan_append, ran, ret_bind, same]
  cases scan w init rest <;> rfl

section Pushed

variable {P : DexInstruction → Prop} {w : Option Pubkey}
  (dispatched : ∀ kind data found, dispatch w kind data = .ret found → ∀ i ∈ found, P i)
include dispatched

theorem step_pushes {s s' : FilterState} {log : String} (ran : step w s log = .ret s')
    (kept : ∀ i ∈ s.instructions, P i) : ∀ i ∈ s'.instructions, P i := by
  unfold step at ran
  split_ifs at ran
  · obtain ⟨depth, -, entered⟩ := bind_eq_ret.mp ran
    split_ifs at entered <;> cases entered <;> exact kept
  · cases ran; exact kept
  · cases ran; rwa [markKind_instructions]
  · unfold leave at ran
    split_ifs at ran
    · obtain ⟨depth, -, left⟩ := bind_eq_ret.mp ran
      split_ifs at left
      · obtain ⟨found, pushed, done⟩ := bind_eq_ret.mp left
        cases done
        intro i mem
        rcases List.mem_append.mp mem with old | new
        · exact kept i (by rwa [collectData_instructions] at old)
        · exact dispatched _ _ _ pushed i new
      · cases left; rwa [collectData_instructions]
    · cases ran; rwa [collectData_instructions]

theorem scan_pushes (logs : List String) :
    ∀ {s s' : FilterState}, scan w s logs = .ret s' →
      (∀ i ∈ s.instructions, P i) → ∀ i ∈ s'.instructions, P i := by
  induction logs with
  | nil => intro s s' ran kept; cases ran; exact kept
  | cons log logs ih =>
    intro s s' ran kept
    obtain ⟨t, stepped, rest⟩ := bind_eq_ret.mp ran
    exact ih rest (step_pushes dispatched stepped kept)

theorem parseInstruction_pushes {logs : List String} {instructions : List DexInstruction}
    (parsed : parseInstruction logs w = .ok instructions) : ∀ i ∈ instructions, P i := by
  rw [parseInstruction_eq] at parsed
  cases ran : scan w init logs with
  | panic => simp [ran] at parsed
  | ret s =>
    simp only [ran, map_ret, ClientResult.lift_ret, ClientResult.ok.injEq] at parsed
    exact parsed ▸ scan_pushes dispatched logs ran (by simp [init])

end Pushed

theorem classifyTrade_eq (w : Option Pubkey) (t : TradeInfo) :
    classifyTrade w t = if w = some t.user then .botTrade t else .userTrade t := by
  cases w with
  | none => simp [classifyTrade]
  | some bot =>
    by_cases same : t.user = bot
    · simp [classifyTrade, same]
    · have differ : t.user.toString ≠ bot.toString := fun h => same (Pubkey.toString_injective h)
      simp [classifyTrade, differ, Ne.symm same]

/-- What the decoders leave in a record's slot, which the payload does not carry: 0. -/
def Unstamped : DexInstruction → Prop
  | .createToken info => info.slot = 0
  | .userTrade t | .botTrade t => t.slot = 0
  | .other => True

def Classified (botWallet : Option Pubkey) : DexInstruction → Prop
  | .botTrade t => botWallet = some t.user
  | .userTrade t => botWallet ≠ some t.user
  | _ => True

theorem pushIfOk_pushes {α : Type} {result : ClientResult α} {f : α → DexInstruction}
    {found : List DexInstruction} (pushed : pushIfOk result f = .ret found) :
    ∀ i ∈ found, ∃ a, result = .ok a ∧ i = f a := by
  unfold pushIfOk at pushed
  split at pushed <;> cases pushed <;> simp

theorem dispatch_pushes (w : Option Pubkey) (kind : Option String) (data : String)
    (found : List DexInstruction) (pushed : dispatch w kind data = .ret found) :
    ∀ i ∈ found, Unstamped i ∧ Classified w i := by
  unfold dispatch at pushed
  split at pushed
  · cases pushed; simp
  split_ifs at pushed
  · cases pushed; simp
  · intro i pushedHere
    obtain ⟨info, parsed, rfl⟩ := pushIfOk_pushes pushed i pushedHere
    simp [Unstamped, Classified, parseCreateTokenData_slot parsed]
  · intro i pushedHere
    obtain ⟨t, parsed, rfl⟩ := pushIfOk_pushes pushed i pushedHere
    rw [classifyTrade_eq]
    split_ifs with bot <;> simp [Unstamped, Classified, parseTradeData_slot parsed, bot]
  · cases pushed; simp

theorem parseInstruction_unstamped_classified {logs : List String} {w : Option Pubkey}
    {instructions : List DexInstruction} (parsed : parseInstruction logs w = .ok instructions) :
    ∀ i ∈ instructions, Unstamped i ∧ Classified w i :=
  parseInstruction_pushes (dispatch_pushes w) parsed

theorem enter_invokeDepth {s s' : FilterState} (h : enter s = .ret s') :
    i32Add s.invokeDepth 1 = .ret s'.invokeDepth := by
  unfold enter at h
  cases hd : i32Add s.invokeDepth 1 with
  | panic => simp [hd] at h
  | ret depth => simp only [hd, ret_bind] at h; split at h <;> cases h <;> simp_all

theorem leave_invokeDepth {w : Option Pubkey} {s s' : FilterState} {log : String}
    (h : leave w s log = .ret s') :
    (if contains log successMarker then i32Sub s.invokeDepth 1 else pure s.invokeDepth) =
      .ret s'.invokeDepth := by
  unfold leave at h
  split at h
  · cases hd : i32Sub s.invokeDepth 1 with
    | panic => simp [hd] at h
    | ret depth =>
      simp only [hd, ret_bind] at h
      split at h
      · cases hf : dispatch w s.currentInstruction s.programData <;>
          simp only [hf, ret_bind, panic_bind, reduceCtorEq] at h
        cases h; simp_all
      · cases h; simp_all
  · cases h; simp_all

theorem step_invokeDepth {w : Option Pubkey} {s s' : FilterState} {log : String}
    (h : step w s log = .ret s') : depthStep s.invokeDepth log = .ret s'.invokeDepth := by
  unfold step at h
  unfold depthStep
  split_ifs at h with entry closed marker
  · rw [if_pos entry]; exact enter_invokeDepth h
  · cases h; simp [entry, closed]
  · cases h; simp [entry, closed, marker]
  · have := leave_invokeDepth h
    rw [collectData_invokeDepth] at this
    simp only [entry, closed, marker, if_false, this]

theorem depthStep_nonneg {depth next : Int} {log : String} (nonneg : 0 ≤ depth)
    (h : depthStep depth log = .ret next) : 0 ≤ next := by
  unfold depthStep at h
  split_ifs at h <;>
    simp only [i32Add_eq_ret, i32Sub_eq_ret, pure_eq, ret.injEq] at h <;> omega

theorem scan_nonneg {w : Option Pubkey} (logs : List String) :
    ∀ {s s' : FilterState}, 0 ≤ s.invokeDepth → scan w s logs = .ret s' →
      0 ≤ s'.invokeDepth := by
  induction logs with
  | nil => intro s s' nonneg h; cases h; exact nonneg
  | cons log logs ih =>
    intro s s' nonneg h
    obtain ⟨mid, hmid, rest⟩ := bind_eq_ret.mp h
    exact ih (depthStep_nonneg nonneg (step_invokeDepth hmid)) rest

theorem depthTrace_cons {depth : Int} {log : String} {logs : List String} {depths : List Int}
    (h : depthTrace depth (log :: logs) = .ret depths) :
    ∃ next rest, depthStep depth log = .ret next ∧ depthTrace next logs = .ret rest ∧
      depths = next :: rest := by
  obtain ⟨next, step, h⟩ := bind_eq_ret.mp h
  obtain ⟨rest, trace, h⟩ := bind_eq_ret.mp h
  exact ⟨next, rest, step, trace, (ret.inj h).symm⟩

theorem depthTrace_length {logs : List String} :
    ∀ {depth : Int} {depths : List Int}, depthTrace depth logs = .ret depths →
      depths.length = logs.length := by
  induction logs with
  | nil => intro depth depths h; cases h; rfl
  | cons log logs ih =>
    intro depth depths h
    obtain ⟨_, _, -, trace, rfl⟩ := depthTrace_cons h
    simp [ih trace]

theorem parse_instruction_short_trade_panics :
    (∀ data, parseTradeData data = .panic ↔
      ∃ b, Base64.decode data = .ok b ∧ b.length < 129) ∧
    parseInstruction ["Program 6EF8rrecthR5Dkzon8Nwu78hRvfCKubJ14M5uBEwF6P invoke [1]",
      "Program log: Instruction: Buy", "Program data: AAAA",
      "Program 6EF8rrecthR5Dkzon8Nwu78hRvfCKubJ14M5uBEwF6P success"] none = .panic :=
  ⟨parseTradeData_eq_panic_iff, by decide⟩

theorem parse_instruction_concat :
    (∀ w logs s, scan w init logs = .ret s → 0 ≤ s.invokeDepth) ∧
    (∀ w first rest s, scan w init first = .ret s → s.invokeDepth = 0 →
      parseInstruction (first ++ rest) w = (do
        let found ← parseInstruction first w
        let more ← parseInstruction rest w
        pure (found ++ more))) ∧
    (∀ w log, ¬ contains log invokeMarker → parseInstruction [log] w = .ok []) :=
  ⟨fun _ logs _ ran => scan_nonneg logs le_rfl ran,
    fun _ _ rest _ ran closed => by
      rw [parseInstruction_append rest ran closed, parseInstruction_of_scan ran]; rfl,
    fun w log outside =>
      @parseInstruction_of_scan w [log] init (by simp [scan, step, outside, init])⟩

theorem parse_instruction_concat_spans :
    scan none init ["Program 6EF8rrecthR5Dkzon8Nwu78hRvfCKubJ14M5uBEwF6P invoke [1]",
        "Program 6EF8rrecthR5Dkzon8Nwu78hRvfCKubJ14M5uBEwF6P success"] = .ret init ∧
      parseInstruction (["Program 6EF8rrecthR5Dkzon8Nwu78hRvfCKubJ14M5uBEwF6P invoke [1]",
        "Program 6EF8rrecthR5Dkzon8Nwu78hRvfCKubJ14M5uBEwF6P success"] ++ ["Program log: hi"]) none =
        .ok [] ∧
      parseInstruction ["Program log: hi"] none = .ok [] :=
  have ran : scan none init ["Program 6EF8rrecthR5Dkzon8Nwu78hRvfCKubJ14M5uBEwF6P invoke [1]",
      "Program 6EF8rrecthR5Dkzon8Nwu78hRvfCKubJ14M5uBEwF6P success"] = .ret init := by decide
  have single := parse_instruction_concat.2.2 none "Program log: hi" (by decide)
  ⟨ran, by rw [parse_instruction_concat.2.1 none _ _ init ran rfl, single]; decide, single⟩

theorem parse_instruction_skips_line_between_spans :
    ∀ w first rest s log, scan w init first = .ret s → s.invokeDepth = 0 →
      ¬ contains log invokeMarker →
      parseInstruction (first ++ [log] ++ rest) w = parseInstruction (first ++ rest) w := by
  intro w first rest s log ran closed outside
  rw [parseInstruction_eq, parseInstruction_eq, List.append_assoc, List.singleton_append,
    scan_append, scan_append, ran]
  simp [scan, step, outside, closed]

theorem parse_instruction_skips_line_between_spans_once :
    parseInstruction (["Program 6EF8rrecthR5Dkzon8Nwu78hRvfCKubJ14M5uBEwF6P invoke [1]",
        "Program 6EF8rrecthR5Dkzon8Nwu78hRvfCKubJ14M5uBEwF6P success"] ++
        ["Program log: Program 6EF8rrecthR5Dkzon8Nwu78hRvfCKubJ14M5uBEwF6P success"] ++ []) none =
      parseInstruction (["Program 6EF8rrecthR5Dkzon8Nwu78hRvfCKubJ14M5uBEwF6P invoke [1]",
        "Program 6EF8rrecthR5Dkzon8Nwu78hRvfCKubJ14M5uBEwF6P success"] ++ []) none :=
  parse_instruction_skips_line_between_spans none _ [] init _ (by decide) rfl (by decide)

theorem parse_instruction_forged_entry :
    let forged := "Program log: Program 6EF8rrecthR5Dkzon8Nwu78hRvfCKubJ14M5uBEwF6P invoke [1]"
    let rest := ["Program log: Instruction: Create",
      "Program data: " ++ ⟨List.replicate 155 'A'⟩ ++ "=",
      "Program 6EF8rrecthR5Dkzon8Nwu78hRvfCKubJ14M5uBEwF6P success"]
    let zero : Pubkey := ⟨List.replicate 32 0, rfl⟩
    startsWith forged "Program log: " ∧ scan none init [] = .ret init ∧
      parseInstruction ([] ++ [forged] ++ rest) none =
        .ok [.createToken ⟨0, .empty, .empty, .empty, zero, zero, zero⟩] ∧
      parseInstruction ([] ++ rest) none = .ok [] := by
  set_option maxRecDepth 20000 in decide

end PumpfunSdk
