import Mathlib.Data.List.Basic

/-! `pumpfun/common.rs`: `get_global_account` and the `ACCOUNT_CACHE` it fills. Concurrent calls
interleave at their awaits, so a run is a schedule of look-ups and of arrivals of a call's fetched
account (`Err` when the request or `bincode` fails); the insert is taken with the arrival. For
every schedule, what the cache or a call holds came from an arrival in the schedule; once filled
the entry is never refreshed; and calls that miss before the first arrival all fetch. -/

namespace PumpfunSdk.GetGlobalAccount

inductive Call (α : Type) where
  | pending
  | fetching
  | returned (result : Except String α)

namespace Call

def isFetching {α : Type} : Call α → Bool
  | .fetching => true
  | _ => false

end Call

/-- The cache's entry for the global PDA, the only key it is ever given, and the calls; with
the requests made and the accounts inserted, which the code does not keep. -/
structure State (α : Type) where
  cache : Option α
  calls : List (Call α)
  fetches : Nat
  inserted : List α

inductive Move (α : Type) where
  | lookUp (call : Nat)
  | fetched (call : Nat) (account : Except String α)

variable {α : Type}

def start (callers : Nat) : State α := ⟨none, List.replicate callers .pending, 0, []⟩

def lookUp (i : Nat) (s : State α) : State α :=
  match s.calls[i]? with
  | some .pending =>
    match s.cache with
    | some account => { s with calls := s.calls.set i (.returned (.ok account)) }
    | none => { s with calls := s.calls.set i .fetching, fetches := s.fetches + 1 }
  | _ => s

def fetched (i : Nat) (account : Except String α) (s : State α) : State α :=
  match s.calls[i]? with
  | some .fetching =>
    match account with
    | .ok account =>
      { s with
        cache := some account
        calls := s.calls.set i (.returned (.ok account))
        inserted := s.inserted ++ [account] }
    | .error e => { s with calls := s.calls.set i (.returned (.error e)) }
  | _ => s

def step (s : State α) : Move α → State α
  | .lookUp i => lookUp i s
  | .fetched i account => fetched i account s

def run (s : State α) (schedule : List (Move α)) : State α := schedule.foldl step s

theorem run_cons (s : State α) (move : Move α) (schedule : List (Move α)) :
    run s (move :: schedule) = run (step s move) schedule := rfl

theorem run_append (s : State α) (first later : List (Move α)) :
    run s (first ++ later) = run (run s first) later := List.foldl_append _ _ _ _

section Moves

variable {s : State α} {i : Nat}

theorem lookUp_cases (s : State α) (i : Nat) :
    lookUp i s = s ∨
    (∃ account, s.calls[i]? = some .pending ∧ s.cache = some account ∧
      lookUp i s = { s with calls := s.calls.set i (.returned (.ok account)) }) ∨
    (s.calls[i]? = some .pending ∧ s.cache = none ∧
      lookUp i s = { s with calls := s.calls.set i .fetching, fetches := s.fetches + 1 }) := by
  unfold lookUp
  rcases called : s.calls[i]? with _ | ⟨_ | _ | _⟩
  all_goals try exact .inl rfl
  rcases cached : s.cache with _ | account
  · exact .inr (.inr ⟨rfl, rfl, rfl⟩)
  · exact .inr (.inl ⟨account, rfl, rfl, rfl⟩)

theorem fetched_cases (s : State α) (i : Nat) (account : Except String α) :
    fetched i account s = s ∨
    (∃ a, s.calls[i]? = some .fetching ∧ account = .ok a ∧
      fetched i account s =
        { s with
          cache := some a
          calls := s.calls.set i (.returned (.ok a))
          inserted := s.inserted ++ [a] }) ∨
    (∃ e, s.calls[i]? = some .fetching ∧ account = .error e ∧
      fetched i account s = { s with calls := s.calls.set i (.returned (.error e)) }) := by
  unfold fetched
  rcases called : s.calls[i]? with _ | ⟨_ | _ | _⟩
  all_goals try exact .inl rfl
  rcases account with e | a
  · exact .inr (.inr ⟨e, rfl, rfl, rfl⟩)
  · exact .inr (.inl ⟨a, rfl, rfl, rfl⟩)

theorem countP_set_of_getElem? {calls : List (Call α)} {old : Call α} (p : Call α → Bool)
    (new : Call α) (called : calls[i]? = some old) :
    (calls.set i new).countP p + (if p old then 1 else 0) =
      calls.countP p + (if p new then 1 else 0) := by
  obtain ⟨inside, rfl⟩ := List.getElem?_eq_some_iff.mp called
  have atMost := List.boole_getElem_le_countP p calls i inside
  rw [List.countP_set p calls i _ inside]
  omega

theorem countP_set_leave (p : Call α → Bool) {calls : List (Call α)} {old : Call α} (new : Call α)
    (called : calls[i]? = some old) (was : p old = true) (now : p new = false) :
    (calls.set i new).countP p + 1 = calls.countP p := by
  simpa [was, now] using countP_set_of_getElem? p new called

theorem countP_set_outside (p : Call α → Bool) {calls : List (Call α)} {old : Call α}
    (new : Call α) (called : calls[i]? = some old) (was : p old = false) (now : p new = false) :
    (calls.set i new).countP p = calls.countP p := by
  simpa [was, now] using countP_set_of_getElem? p new called

end Moves

/-- What a call may hold after the moves `done`: an account some arrival delivered, or the
error its own request got. -/
def CallSourced (done : List (Move α)) (i : Nat) : Call α → Prop
  | .returned (.ok a) => ∃ j, .fetched j (.ok a) ∈ done
  | .returned (.error e) => .fetched i (.error e) ∈ done
  | _ => True

structure Sourced (done : List (Move α)) (s : State α) : Prop where
  cache : ∀ a, s.cache = some a → ∃ j, .fetched j (.ok a) ∈ done
  calls : ∀ (i : Nat) c, s.calls[i]? = some c → CallSourced done i c

section Provenance

variable {done : List (Move α)} {s : State α}

theorem CallSourced.mono {done more : List (Move α)} (sub : done ⊆ more) :
    ∀ {i : Nat} {c : Call α}, CallSourced done i c → CallSourced more i c
  | _, .returned (.ok _), ⟨j, mem⟩ => ⟨j, sub mem⟩
  | _, .returned (.error _), mem => sub mem
  | _, .pending, _ => trivial
  | _, .fetching, _ => trivial

theorem Sourced.extend (inv : Sourced done s) (move : Move α) : Sourced (done ++ [move]) s :=
  have sub := List.subset_append_left done [move]
  ⟨fun a cached => (inv.cache a cached).imp fun _ mem => sub mem,
    fun i c held => (inv.calls i c held).mono sub⟩

theorem calls_set_sourced {calls : List (Call α)} {j : Nat} {new : Call α}
    (keep : ∀ (i : Nat) c, calls[i]? = some c → CallSourced done i c)
    (fresh : CallSourced done j new) :
    ∀ (i : Nat) c, (calls.set j new)[i]? = some c → CallSourced done i c := by
  intro i c held
  rw [List.getElem?_set] at held
  split_ifs at held with same
  · cases held
    exact same ▸ fresh
  · exact keep i c held

theorem start_sourced (callers : Nat) : Sourced [] (start callers : State α) where
  cache _ empty := nomatch empty
  calls i c held := by
    simp only [start, List.getElem?_replicate] at held
    split at held <;> cases held
    trivial

theorem step_sourced (inv : Sourced done s) (move : Move α) :
    Sourced (done ++ [move]) (step s move) := by
  have wider := inv.extend move
  cases move with
  | lookUp i =>
    rcases lookUp_cases s i with same | ⟨account, -, cached, stepped⟩ | ⟨-, -, stepped⟩
    · rwa [step, same]
    · rw [step, stepped]
      exact ⟨wider.cache, calls_set_sourced wider.calls (wider.cache account cached)⟩
    · rw [step, stepped]
      exact ⟨wider.cache, calls_set_sourced wider.calls trivial⟩
  | fetched i account =>
    have arrived : .fetched i account ∈ done ++ [.fetched i account] :=
      List.mem_append_right _ (List.mem_singleton_self _)
    rcases fetched_cases s i account with same | ⟨a, -, rfl, stepped⟩ | ⟨e, -, rfl, stepped⟩
    · rwa [step, same]
    · rw [step, stepped]
      refine ⟨fun b cached => ⟨i, ?_⟩, calls_set_sourced wider.calls ⟨i, arrived⟩⟩
      cases cached
      exact arrived
    · rw [step, stepped]
      exact ⟨wider.cache, calls_set_sourced wider.calls arrived⟩

theorem run_sourced (inv : Sourced done s) (schedule : List (Move α)) :
    Sourced (done ++ schedule) (run s schedule) := by
  induction schedule generalizing done s with
  | nil => rwa [List.append_nil]
  | cons move schedule ih =>
    simpa only [List.append_assoc, List.singleton_append] using ih (step_sourced inv move)

end Provenance

section Filled

variable {s : State α}

def writes (s : State α) : Nat := s.inserted.length + s.calls.countP Call.isFetching

theorem step_of_filled (filled : s.cache.isSome) (move : Move α) :
    (step s move).fetches = s.fetches ∧ (step s move).cache.isSome ∧ writes (step s move) ≤ writes s := by
  cases move with
  | lookUp i =>
    rcases lookUp_cases s i with same | ⟨account, called, -, stepped⟩ | ⟨-, cached, -⟩
    · simp only [step, same, le_refl, and_true, filled]
    · have counted := countP_set_outside Call.isFetching (.returned (.ok account)) called rfl rfl
      simp only [step, stepped, filled, writes, counted, le_refl, and_self]
    · simp [cached] at filled
  | fetched i account =>
    rcases fetched_cases s i account with same | ⟨a, called, -, stepped⟩ | ⟨e, called, -, stepped⟩
    · simp only [step, same, le_refl, and_true, filled]
    · have counted := countP_set_leave Call.isFetching (.returned (.ok a)) called rfl rfl
      simp only [step, stepped, Option.isSome_some, writes, List.length_append,
        List.length_singleton, true_and]
      omega
    · have counted := countP_set_leave Call.isFetching (.returned (.error e)) called rfl rfl
      simp only [step, stepped, filled, writes, true_and]
      omega

/-- From any state whose entry is filled, no schedule makes another request, the entry stays
filled, and it is overwritten at most once for each call that was already fetching. -/
theorem get_global_account_never_refreshes (s : State α) (filled : s.cache.isSome)
    (schedule : List (Move α)) :
    (run s schedule).fetches = s.fetches ∧ (run s schedule).cache.isSome ∧
      (run s schedule).inserted.length ≤ s.inserted.length + s.calls.countP Call.isFetching := by
  have frozen : (run s schedule).fetches = s.fetches ∧ (run s schedule).cache.isSome ∧
      writes (run s schedule) ≤ writes s := by
    induction schedule generalizing s with
    | nil => exact ⟨rfl, filled, le_refl _⟩
    | cons move schedule ih =>
      obtain ⟨fetches, stillFilled, fewer⟩ := step_of_filled filled move
      obtain ⟨fetches', filled', fewer'⟩ := ih _ stillFilled
      exact ⟨fetches'.trans fetches, filled', fewer'.trans fewer⟩
  exact ⟨frozen.1, frozen.2.1, le_trans (Nat.le_add_right _ _) frozen.2.2⟩

theorem get_global_account_never_refreshes_after_first_call :
    let s : State Nat := run (start 2) [.lookUp 0, .fetched 0 (.ok 7)]
    s.cache.isSome ∧
    ((run s [.lookUp 1]).fetches = s.fetches ∧ (run s [.lookUp 1]).cache.isSome ∧
      (run s [.lookUp 1]).inserted.length ≤ s.inserted.length + s.calls.countP Call.isFetching) :=
  ⟨rfl, get_global_account_never_refreshes (run (start 2) [.lookUp 0, .fetched 0 (.ok 7)]) rfl _⟩

end Filled

theorem step_fetches_le (s : State α) : ∀ move, s.fetches ≤ (step s move).fetches
  | .lookUp i => by
    rcases lookUp_cases s i with same | ⟨_, -, -, hit⟩ | ⟨-, -, miss⟩
    · rw [step, same]
    · rw [step, hit]
    · rw [step, miss]
      exact Nat.le_succ _
  | .fetched i account => by
    rcases fetched_cases s i account with same | ⟨_, -, -, inserted⟩ | ⟨_, -, -, failed⟩
    · rw [step, same]
    · rw [step, inserted]
    · rw [step, failed]

theorem run_fetches_le (s : State α) (schedule : List (Move α)) :
    s.fetches ≤ (run s schedule).fetches := by
  induction schedule generalizing s with
  | nil => exact le_refl _
  | cons move schedule ih => exact (step_fetches_le s move).trans (ih _)

/-- Look-ups by distinct pending calls on an empty entry each send a request. -/
theorem run_lookUps_fetches (first : List Nat) (distinct : first.Nodup) :
    ∀ s : State α, s.cache = none → (∀ i ∈ first, s.calls[i]? = some .pending) →
      (run s (first.map .lookUp)).fetches = s.fetches + first.length := by
  induction first with
  | nil => intro s _ _; rfl
  | cons x first ih =>
    intro s empty pending
    obtain ⟨fresh, distinct⟩ := List.nodup_cons.mp distinct
    have stepped : step s (.lookUp x) =
        { s with calls := s.calls.set x .fetching, fetches := s.fetches + 1 } := by
      simp only [step, lookUp, pending x (List.mem_cons_self _ _), empty]
    have stillPending : ∀ i ∈ first, (s.calls.set x .fetching)[i]? = some .pending := by
      intro i mem
      rw [List.getElem?_set_ne (fun (same : x = i) => fresh (same ▸ mem))]
      exact pending i (List.mem_cons_of_mem _ mem)
    rw [List.map_cons, run_cons, stepped,
      ih distinct { s with calls := s.calls.set x .fetching, fetches := s.fetches + 1 } empty
        stillPending, List.length_cons]
    dsimp only
    omega

theorem get_global_account_no_single_flight (callers : Nat) (first : List Nat)
    (later : List (Move α)) (distinct : first.Nodup) (inRange : ∀ i ∈ first, i < callers) :
    (run (start callers : State α) (first.map .lookUp)).fetches = first.length ∧
      first.length ≤ (run (start callers) (first.map .lookUp ++ later)).fetches := by
  have fetched : (run (start callers : State α) (first.map .lookUp)).fetches = first.length :=
    (run_lookUps_fetches first distinct _ rfl fun i mem => by
      simp [start, List.getElem?_replicate, inRange i mem]).trans (Nat.zero_add _)
  rw [run_append]
  exact ⟨fetched, fetched ▸ run_fetches_le _ later⟩

theorem get_global_account_no_single_flight_two_misses :
    [2, 0].Nodup ∧ (∀ i ∈ [2, 0], i < 3) ∧
      (run (start 3 : State Nat) ([2, 0].map .lookUp)).fetches = [2, 0].length ∧
      [2, 0].length ≤ (run (start 3 : State Nat)
        ([2, 0].map .lookUp ++ [.fetched 2 (.ok 5), .lookUp 1])).fetches :=
  ⟨by decide, by decide,
    get_global_account_no_single_flight 3 [2, 0] [.fetched 2 (.ok 5), .lookUp 1]
      (by decide) (by decide)⟩

end PumpfunSdk.GetGlobalAccount
