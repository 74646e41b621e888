import Mathlib.Data.List.MinMax
import PumpfunSdk.Common.LogsFilters

/-! What `parse_instruction` reports for one top-level invocation of the target program, said
without the loop: the kind is named by the last depth-1 instruction line that names one, the
payload is the earliest of the longest `Program data: ` texts read inside the span, and the
exit decodes that pair. -/

namespace PumpfunSdk

open Outcome FilterState

/-- The lines of a log list, each with the depth it is read at: 0 for the first, then the
depth the line before it leaves. -/
def seenAt (depths : List Int) (logs : List String) : List (Int × String) :=
  List.zip (0 :: depths) logs

def IsKindLine (line : Int × String) : Prop :=
  line.1 = 1 ∧ ¬ contains line.2 invokeMarker ∧ contains line.2 instructionMarker

instance (line : Int × String) : Decidable (IsKindLine line) :=
  inferInstanceAs (Decidable (_ ∧ _ ∧ _))

def IsDataLine (line : Int × String) : Prop :=
  1 ≤ line.1 ∧ ¬ contains line.2 invokeMarker ∧ ¬ IsKindLine line ∧
    startsWith line.2 dataPrefix

instance (line : Int × String) : Decidable (IsDataLine line) :=
  inferInstanceAs (Decidable (_ ∧ _ ∧ _ ∧ _))

def spanKind (lines : List (Int × String)) : Option String :=
  ((lines.filter fun line => decide (IsKindLine line)).filterMap fun line =>
    if contains line.2 "Create" then some "create"
    else if contains line.2 "Buy" ∨ contains line.2 "Sell" then some "trade"
    else none).getLast?

/-- The payload of a span: the earliest of the longest texts of its payload lines, or the
empty text when it has none. -/
def spanPayload (lines : List (Int × String)) : String :=
  (((lines.filter fun line => decide (IsDataLine line)).map fun line =>
    trimStartMatches line.2 dataPrefix).argmax len).getD ""

def spanDispatch (botWallet : Option Pubkey) (kind : Option String) (payload : String) :
    Outcome (List DexInstruction) :=
  match kind with
  | none => pure []
  | some kind =>
    if payload = "" then pure []
    else if kind = "create" then
      pure (match parseCreateTokenData payload with
        | .ok info => [.createToken info]
        | _ => [])
    else
      match parseTradeData payload with
      | .ok t => pure [if botWallet = some t.user then .botTrade t else .userTrade t]
      | .err _ => pure []
      | .panic => .panic

def kindStep (kind : Option String) (line : Int × String) : Option String :=
  if IsKindLine line then (markerKind line.2).or kind else kind

def payloadStep (payload : String) (line : Int × String) : String :=
  if IsDataLine line ∧ len payload < len (trimStartMatches line.2 dataPrefix) then
    trimStartMatches line.2 dataPrefix
  else payload

theorem foldl_kindStep (lines : List (Int × String)) :
    lines.foldl kindStep none = spanKind lines := by
  induction lines using List.reverseRecOn with
  | nil => rfl
  | append_singleton lines line ih =>
    rw [List.foldl_concat, ih, spanKind, spanKind, List.filter_append, List.filterMap_append,
      List.getLast?_append, kindStep]
    by_cases kindLine : IsKindLine line
    · cases h : markerKind line.2 <;> simp only [markerKind] at h <;> simp [kindLine, h]
    · simp [kindLine]

theorem foldl_payloadStep (lines : List (Int × String)) :
    lines.foldl payloadStep "" = spanPayload lines := by
  induction lines using List.reverseRecOn with
  | nil => rfl
  | append_singleton lines line ih =>
    rw [List.foldl_concat, ih, spanPayload, spanPayload, List.filter_append, payloadStep]
    by_cases dataLine : IsDataLine line
    · have kept : [line].filter (fun line => decide (IsDataLine line)) = [line] := by
        simp [dataLine]
      rw [kept, List.map_append, List.map_singleton, List.argmax_concat]
      cases (List.map (fun line => trimStartMatches line.2 dataPrefix)
        (List.filter (fun line => decide (IsDataLine line)) lines)).argmax len with
      | none =>
        by_cases empty : trimStartMatches line.2 dataPrefix = ""
        · simp [dataLine, empty]
        · simp [dataLine, (len_pos_iff _).mpr empty]
      | some best => by_cases longer : len best < len (trimStartMatches line.2 dataPrefix) <;>
          simp [dataLine, longer]
    · simp [dataLine]

section Span

variable {w : Option Pubkey}

theorem collectData_in_span {s : FilterState} {log : String}
    (tracked : s.lastDataLen = len s.programData) (inside : 0 < s.invokeDepth)
    (entry : ¬ contains log invokeMarker) (kindLine : ¬ IsKindLine (s.invokeDepth, log)) :
    collectData s log =
      { s with
        programData := payloadStep s.programData (s.invokeDepth, log)
        lastDataLen := len (payloadStep s.programData (s.invokeDepth, log)) } := by
  obtain ⟨kind, payload, depth, last, found⟩ := s
  dsimp only at tracked inside kindLine ⊢
  subst tracked
  have one : 1 ≤ depth := inside
  unfold collectData payloadStep IsDataLine
  by_cases data : startsWith log dataPrefix <;>
    by_cases longer : len payload < len (trimStartMatches log dataPrefix) <;>
    simp [data, longer, entry, kindLine, one]

theorem step_in_span {s : FilterState} {log : String} {depth : Int}
    (inside : 0 < s.invokeDepth) (tracked : s.lastDataLen = len s.programData)
    (next : depthStep s.invokeDepth log = .ret depth) :
    step w s log =
      let line := (s.invokeDepth, log)
      let s' : FilterState :=
        { s with
          currentInstruction := kindStep s.currentInstruction line
          programData := payloadStep s.programData line
          lastDataLen := len (payloadStep s.programData line)
          invokeDepth := depth }
      if depth = 0 then
        (fun found => { s' with instructions := s.instructions ++ found }) <$>
          dispatch w s'.currentInstruction s'.programData
      else .ret s' := by
  have open' : s.invokeDepth ≠ 0 := inside.ne'
  unfold depthStep at next
  unfold step
  by_cases entry : contains log invokeMarker
  · have ok : i32Add s.invokeDepth 1 = .ret depth := by simpa [entry] using next
    obtain ⟨-, -, rfl⟩ := i32Add_eq_ret.mp ok
    simp [entry, enter, ok, kindStep, payloadStep, IsKindLine, IsDataLine, ← tracked,
      show s.invokeDepth + 1 ≠ 1 by omega, show s.invokeDepth + 1 ≠ 0 by omega]
  by_cases kindLine : s.invokeDepth = 1 ∧ contains log instructionMarker
  · rw [if_neg entry, if_neg open', if_pos kindLine] at next
    obtain rfl : s.invokeDepth = depth := ret.inj next
    have isKind : IsKindLine (s.invokeDepth, log) := ⟨kindLine.1, entry, kindLine.2⟩
    have notData : ¬ IsDataLine (s.invokeDepth, log) := fun h => h.2.2.1 isKind
    rw [if_neg entry, if_neg open', if_pos kindLine, if_neg open']
    simp only [kindStep, payloadStep, if_pos isKind, notData, false_and, if_false, ← tracked]
    unfold markKind
    cases markerKind log <;> rfl
  have notKind : ¬ IsKindLine (s.invokeDepth, log) := fun h => kindLine ⟨h.1, h.2.2⟩
  have collected := collectData_in_span tracked inside entry notKind
  simp only [entry, open', kindLine, if_false, kindStep, notKind, collected, leave,
    collectData_invokeDepth] at next ⊢
  by_cases exit : contains log successMarker
  · simp only [exit, if_true] at next ⊢
    rw [next]
    by_cases closes : depth = 0 <;> simp [closes]
    rfl
  · simp only [exit, if_false, pure_eq, ret.injEq] at next ⊢
    subst next
    simp [open']

theorem scan_span (logs : List String) :
    ∀ (s : FilterState) (depths : List Int), 0 < s.invokeDepth →
      s.lastDataLen = len s.programData → depthTrace s.invokeDepth logs = .ret depths →
      depths.getLast? = some 0 → (∀ d ∈ depths.dropLast, d ≠ 0) →
      instructions <$> scan w s logs = (s.instructions ++ ·) <$>
        dispatch w ((List.zip (s.invokeDepth :: depths) logs).foldl kindStep s.currentInstruction)
          ((List.zip (s.invokeDepth :: depths) logs).foldl payloadStep s.programData) := by
  induction logs with
  | nil => intro s depths _ _ trace closes; cases trace; cases closes
  | cons log logs ih =>
    intro s depths inside tracked trace closes open'
    obtain ⟨next, rest, hnext, traceRest, rfl⟩ := depthTrace_cons trace
    rw [scan, step_in_span inside tracked hnext]
    cases logs with
    | nil =>
      cases traceRest
      obtain rfl : next = 0 := by simpa using closes
      dsimp only
      rw [if_pos rfl]
      simp only [List.zip_cons_cons, List.zip_nil_right, List.foldl_cons, List.foldl_nil]
      cases dispatch w (kindStep s.currentInstruction (s.invokeDepth, log))
        (payloadStep s.programData (s.invokeDepth, log)) <;> rfl
    | cons log' logs =>
      obtain ⟨r, rs, rfl⟩ : ∃ r rs, rest = r :: rs :=
        List.exists_cons_of_ne_nil fun empty => by simpa [empty] using depthTrace_length traceRest
      have stays : next ≠ 0 := open' next (by simp)
      have positive : 0 < next :=
        lt_of_le_of_ne (depthStep_nonneg inside.le hnext) (Ne.symm stays)
      simp only [stays, if_false, ret_bind]
      rw [ih _ (r :: rs) positive rfl traceRest (by simpa using closes)
        fun d hd => open' d (by simp [hd])]
      rfl

end Span

def KnownKind (kind : Option String) : Prop :=
  kind = none ∨ kind = some "create" ∨ kind = some "trade"

theorem foldl_kindStep_known (lines : List (Int × String)) :
    ∀ kind, KnownKind kind → KnownKind (lines.foldl kindStep kind) := by
  induction lines with
  | nil => exact fun _ known => known
  | cons line lines ih =>
    intro kind known
    apply ih
    unfold kindStep markerKind
    split_ifs <;> first | exact known | simp [KnownKind]

theorem dispatch_eq_spanDispatch (w : Option Pubkey) {kind : Option String}
    (known : KnownKind kind) (payload : String) :
    dispatch w kind payload = spanDispatch w kind payload := by
  rcases known with rfl | rfl | rfl
  · rfl
  · have := parseCreateTokenData_ne_panic payload
    by_cases empty : payload = "" <;>
      cases h : parseCreateTokenData payload <;>
      simp_all [dispatch, spanDispatch, isEmpty_iff, pushIfOk]
  · by_cases empty : payload = "" <;>
      cases h : parseTradeData payload <;>
      simp [dispatch, spanDispatch, isEmpty_iff, pushIfOk, empty, h, classifyTrade_eq]

end PumpfunSdk
