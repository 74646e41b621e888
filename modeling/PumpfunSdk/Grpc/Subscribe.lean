import PumpfunSdk.Grpc

/-! `grpc/mod.rs`: `YellowstoneGrpc::subscribe_pumpfun`. A spawned task reads the gRPC stream,
hands each update to `handle_stream_message` and puts the converted transactions on a bounded
channel with `try_send`; the calling task takes them off in order and runs
`process_pumpfun_transaction` on each. The two tasks interleave freely, so a run is a schedule
of moves of either task, and the results hold for every schedule. -/

namespace PumpfunSdk

/-- What `TransactionPretty::from` reads of a `SubscribeUpdateTransactionInfo`: the signature
bytes, and the status meta of the transaction as `create_tx_with_meta(..)` and `encode(..)`
leave it, `none` when either conversion fails (both belong to the yellowstone and solana
crates). -/
structure SubscribeUpdateTransactionInfo where
  signature : List UInt8
  encoded : Option (Option TransactionStatusMeta)
  deriving DecidableEq, Repr

structure SubscribeUpdateTransaction where
  transaction : Option SubscribeUpdateTransactionInfo
  slot : UInt64
  deriving DecidableEq, Repr

inductive UpdateOneof where
  | transaction (update : SubscribeUpdateTransaction)
  | ping
  | pong
  | other
  deriving DecidableEq, Repr

structure SubscribeUpdate where
  updateOneof : Option UpdateOneof
  deriving DecidableEq, Repr

def TransactionPretty.fromUpdate (update : SubscribeUpdateTransaction) :
    Outcome TransactionPretty := do
  let tx ← expect update.transaction
  if tx.signature.length = 64 then
    let meta ← expect tx.encoded
    pure ⟨update.slot, meta⟩
  else .panic

inductive StreamError where
  | send
  | ping
  deriving DecidableEq, Repr

inductive Handled where
  | sent (transactionPretty : TransactionPretty)
  | pinged
  | ignored
  deriving DecidableEq, Repr

/-- `handle_stream_message` on one update. `room` is whether `tx.try_send` succeeds, and
`sinkAccepts` whether `subscribe_tx.send` takes the ping request (id 1). -/
def handleStreamMessage (room sinkAccepts : Bool) (msg : SubscribeUpdate) :
    Outcome (Except StreamError Handled) :=
  match msg.updateOneof with
  | some (.transaction sut) => do
    let transactionPretty ← TransactionPretty.fromUpdate sut
    pure (if room then .ok (.sent transactionPretty) else .error .send)
  | some .ping => pure (if sinkAccepts then .ok .pinged else .error .ping)
  | some .pong => pure (.ok .ignored)
  | _ => pure (.ok .ignored)

theorem handleStreamMessage_cases (room sinkAccepts : Bool) (msg : SubscribeUpdate) :
    (∃ e, handleStreamMessage room sinkAccepts msg = .ret (.error e)) ∨
      handleStreamMessage room sinkAccepts msg = handleStreamMessage true true msg := by
  rcases msg with ⟨_ | (sut | _ | _ | _)⟩
  · exact .inr rfl
  · dsimp only [handleStreamMessage]
    cases TransactionPretty.fromUpdate sut <;> cases room <;> simp
  · dsimp only [handleStreamMessage]
    cases sinkAccepts <;> simp
  all_goals exact .inr rfl

theorem handleStreamMessage_ne_send (sinkAccepts : Bool) (msg : SubscribeUpdate) :
    handleStreamMessage true sinkAccepts msg ≠ .ret (.error .send) := by
  rcases msg with ⟨_ | (sut | _ | _ | _)⟩ <;> dsimp only [handleStreamMessage] <;> simp
  · cases TransactionPretty.fromUpdate sut <;> simp
  · cases sinkAccepts <;> simp

theorem handleStreamMessage_ne_error (msg : SubscribeUpdate) (e : StreamError) :
    handleStreamMessage true true msg ≠ .ret (.error e) := by
  rcases msg with ⟨_ | (sut | _ | _ | _)⟩ <;> dsimp only [handleStreamMessage] <;> simp
  cases TransactionPretty.fromUpdate sut <;> simp

/-- `CHANNEL_SIZE`. A bounded channel of the `futures` crate holds that many messages plus
one for each sender, here the one `tx`. -/
def channelSize : Nat := 1000

namespace SubscribePumpfun

inductive ReaderExit where
  /-- `stream.next()` gave `None`. -/
  | streamEnded
  /-- `Err(error) => break`. -/
  | streamError
  /-- `handle_stream_message` returned `Err`. -/
  | handlerError (e : StreamError)
  /-- `TransactionPretty::from` panicked, which ends the task and drops `tx`. -/
  | panicked
  deriving DecidableEq, Repr

inductive Consumer where
  | running
  /-- `rx.next()` gave `None`: `subscribe_pumpfun` returned `Ok(())`. -/
  | returned
  /-- `process_pumpfun_transaction` panicked. -/
  | panicked
  deriving DecidableEq, Repr

structure State where
  /-- The stream items not yet read. -/
  stream : List (Except String SubscribeUpdate)
  /-- `none` while the spawned task is in its loop. -/
  reader : Option ReaderExit
  /-- Sent on the channel and not yet received. -/
  channel : List TransactionPretty
  /-- Ping requests sent on `subscribe_tx`. -/
  pings : Nat
  /-- The transactions the calling task took off the channel, in order. -/
  processed : List TransactionPretty
  /-- The callback's calls, in order. -/
  events : List PumpfunEvent
  consumer : Consumer
  deriving DecidableEq, Repr

def start (stream : List (Except String SubscribeUpdate)) : State :=
  ⟨stream, none, [], 0, [], [], .running⟩

inductive Move where
  /-- The spawned task takes the next stream item; a ping request goes out when
  `sinkAccepts`. -/
  | read (sinkAccepts : Bool)
  /-- The calling task takes the next transaction off the channel, or finds it closed. -/
  | receive
  deriving DecidableEq, Repr

/-- One turn of the spawned task. `try_send` finds room while the receiver is alive and fewer
than `capacity` transactions wait on the channel. -/
def read (capacity : Nat) (sinkAccepts : Bool) (s : State) : State :=
  match s.reader, s.stream with
  | some _, _ => s
  | none, [] => { s with reader := some .streamEnded }
  | none, .error _ :: rest => { s with stream := rest, reader := some .streamError }
  | none, .ok msg :: rest =>
    match handleStreamMessage (s.consumer == .running && s.channel.length < capacity)
        sinkAccepts msg with
    | .panic => { s with stream := rest, reader := some .panicked }
    | .ret (.error e) => { s with stream := rest, reader := some (.handlerError e) }
    | .ret (.ok (.sent transactionPretty)) =>
      { s with stream := rest, channel := s.channel ++ [transactionPretty] }
    | .ret (.ok .pinged) => { s with stream := rest, pings := s.pings + 1 }
    | .ret (.ok .ignored) => { s with stream := rest }

def receive (botWallet : Option Pubkey) (s : State) : State :=
  match s.consumer, s.channel with
  | .running, transactionPretty :: rest =>
    match processPumpfunTransaction transactionPretty botWallet with
    | .ok events =>
      { s with
        channel := rest
        processed := s.processed ++ [transactionPretty]
        events := s.events ++ events }
    | .err _ => { s with channel := rest, processed := s.processed ++ [transactionPretty] }
    | .panic =>
      { s with
        channel := rest
        processed := s.processed ++ [transactionPretty]
        consumer := .panicked }
  | .running, [] => if s.reader.isSome then { s with consumer := .returned } else s
  | _, _ => s

def step (capacity : Nat) (botWallet : Option Pubkey) (s : State) : Move → State
  | .read sinkAccepts => read capacity sinkAccepts s
  | .receive => receive botWallet s

def run (capacity : Nat) (botWallet : Option Pubkey) (s : State) (schedule : List Move) :
    State :=
  schedule.foldl (step capacity botWallet) s

def streamTransactions : List (Except String SubscribeUpdate) → List TransactionPretty
  | [] => []
  | .error _ :: _ => []
  | .ok msg :: rest =>
    match handleStreamMessage true true msg with
    | .ret (.ok (.sent transactionPretty)) => transactionPretty :: streamTransactions rest
    | .ret (.ok _) => streamTransactions rest
    | _ => []

def transactionEvents (botWallet : Option Pubkey) (transactionPretty : TransactionPretty) :
    List PumpfunEvent :=
  match processPumpfunTransaction transactionPretty botWallet with
  | .ok events => events
  | _ => []

/-- A calling task that takes each transaction as soon as it is sent: one round of a read and a
receive for each answer the ping sink gives. -/
def eagerSchedule : List Bool → List Move
  | [] => []
  | sinkAccepts :: pings => .read sinkAccepts :: .receive :: eagerSchedule pings

theorem read_cases (capacity : Nat) (sinkAccepts : Bool) (s : State) :
    read capacity sinkAccepts s = s ∨
    (s.reader = none ∧ ∃ exit, read capacity sinkAccepts s =
        { s with stream := s.stream.tail, reader := some exit } ∧
      ((∀ e, exit ≠ .handlerError e) → streamTransactions s.stream = [])) ∨
    (s.reader = none ∧ ∃ rest sent pings, read capacity sinkAccepts s =
        { s with stream := rest, channel := s.channel ++ sent, pings := pings } ∧
      streamTransactions s.stream = sent ++ streamTransactions rest) := by
  rcases s with ⟨_ | ⟨_ | msg, rest⟩, _ | exit, channel, pings, processed, events, consumer⟩
  · exact .inr (.inl ⟨rfl, .streamEnded, rfl, fun _ => rfl⟩)
  · exact .inl rfl
  · exact .inr (.inl ⟨rfl, .streamError, rfl, fun _ => rfl⟩)
  · exact .inl rfl
  · dsimp only [read]
    rcases handleStreamMessage_cases (consumer == .running && decide (channel.length < capacity))
      sinkAccepts msg with ⟨e, failed⟩ | same
    · rw [failed]
      exact .inr (.inl ⟨rfl, .handlerError e, rfl, fun other => absurd rfl (other e)⟩)
    · rw [same]
      cases handled : handleStreamMessage true true msg with
      | panic => exact .inr (.inl ⟨rfl, .panicked, rfl, fun _ => by simp [streamTransactions, handled]⟩)
      | ret result =>
        rcases result with e | (transactionPretty | _ | _)
        · exact absurd handled (handleStreamMessage_ne_error msg e)
        · exact .inr (.inr ⟨rfl, rest, [transactionPretty], pings, rfl, by simp [streamTransactions, handled]⟩)
        · exact .inr (.inr ⟨rfl, rest, [], pings + 1, by simp, by simp [streamTransactions, handled]⟩)
        · exact .inr (.inr ⟨rfl, rest, [], pings, by simp, by simp [streamTransactions, handled]⟩)
  · exact .inl rfl

theorem receive_cases (botWallet : Option Pubkey) (s : State) :
    receive botWallet s = s ∨
    (s.consumer = .running ∧ s.channel = [] ∧ s.reader.isSome ∧
      receive botWallet s = { s with consumer := .returned }) ∨
    (s.consumer = .running ∧ ∃ t rest, s.channel = t :: rest ∧
      receive botWallet s =
        { s with
          channel := rest
          processed := s.processed ++ [t]
          events := s.events ++ transactionEvents botWallet t
          consumer :=
            if processPumpfunTransaction t botWallet = .panic then .panicked else .running }) := by
  rcases s with ⟨stream, reader, _ | ⟨t, rest⟩, pings, processed, events, _ | _ | _⟩
  · by_cases exited : reader.isSome
    · exact .inr (.inl ⟨rfl, rfl, exited, by simp [receive, exited]⟩)
    · exact .inl (by simp [receive, exited])
  all_goals try exact .inl rfl
  refine .inr (.inr ⟨rfl, t, rest, rfl, ?_⟩)
  dsimp only [receive, transactionEvents]
  cases processPumpfunTransaction t botWallet <;> simp

structure Invariant (botWallet : Option Pubkey) (original : List (Except String SubscribeUpdate))
    (s : State) : Prop where
  /-- While the spawned task reads, what it has sent and what it will send are the stream's
  transactions. -/
  reading : s.reader = none →
    streamTransactions original = s.processed ++ s.channel ++ streamTransactions s.stream
  /-- A task that left its loop other than at a failed handler sent all of them. -/
  lossless : s.reader.isSome → (∀ e, s.reader ≠ some (.handlerError e)) →
    s.processed ++ s.channel = streamTransactions original
  sent : s.processed ++ s.channel <+: streamTransactions original
  events : s.events = s.processed.flatMap (transactionEvents botWallet)
  /-- Only the last transaction processed can have panicked. -/
  survived : ∀ t ∈ s.processed.dropLast, processPumpfunTransaction t botWallet ≠ .panic
  running : s.consumer ≠ .panicked → ∀ t ∈ s.processed, processPumpfunTransaction t botWallet ≠ .panic
  returned : s.consumer = .returned → s.channel = [] ∧ s.reader.isSome

theorem start_invariant (botWallet : Option Pubkey) (stream : List (Except String SubscribeUpdate)) :
    Invariant botWallet stream (start stream) where
  reading _ := rfl
  lossless exited := absurd exited (by simp [start])
  sent := List.prefix_append _ _
  events := rfl
  survived := by simp [start]
  running := by simp [start]
  returned := by simp [start]

section Preservation

variable {botWallet : Option Pubkey} {original : List (Except String SubscribeUpdate)} {s : State}

theorem read_invariant (capacity : Nat) (sinkAccepts : Bool)
    (inv : Invariant botWallet original s) :
    Invariant botWallet original (read capacity sinkAccepts s) := by
  rcases read_cases capacity sinkAccepts s with same | ⟨reading, exit, stepped, lost⟩ |
    ⟨reading, rest, sent, pings, stepped, split⟩
  · rwa [same]
  · rw [stepped]
    have all := inv.reading reading
    have waiting : s.consumer ≠ .returned := fun r => by simpa [reading] using (inv.returned r).2
    exact
      { reading := by simp
        lossless := fun _ other => by simpa [lost (by simpa using other)] using all.symm
        sent := all ▸ List.prefix_append _ _
        events := inv.events
        survived := inv.survived
        running := inv.running
        returned := fun r => absurd r waiting }
  · rw [stepped]
    have all := inv.reading reading
    have waiting : s.consumer ≠ .returned := fun r => by simpa [reading] using (inv.returned r).2
    exact
      { reading := fun _ => by simpa [split] using all
        lossless := fun exited => by simp [reading] at exited
        sent := by rw [all, split]; simp
        events := inv.events
        survived := inv.survived
        running := inv.running
        returned := fun r => absurd r waiting }

theorem receive_invariant (inv : Invariant botWallet original s) :
    Invariant botWallet original (receive botWallet s) := by
  rcases receive_cases botWallet s with same | ⟨running, empty, exited, stepped⟩ |
    ⟨running, t, rest, next, stepped⟩
  · rwa [same]
  · rw [stepped]
    exact
      { reading := fun reading => by rw [show s.reader = none from reading] at exited; cases exited
        lossless := inv.lossless
        sent := inv.sent
        events := inv.events
        survived := inv.survived
        running := fun _ => inv.running (by simp [running])
        returned := fun _ => ⟨empty, exited⟩ }
  · rw [stepped]
    have fine := inv.running (by simp [running])
    exact
      { reading := fun reading => by simpa [next] using inv.reading reading
        lossless := fun exited other => by simpa [next] using inv.lossless exited other
        sent := by simpa [next] using inv.sent
        events := by simp [inv.events]
        survived := by simpa using fine
        running := fun alive u mem => by
          rcases List.mem_append.mp mem with old | now
          · exact fine u old
          · rw [List.mem_singleton.mp now]
            intro panicked
            simp [panicked] at alive
        returned := fun r => by split_ifs at r }

theorem step_invariant (capacity : Nat) (inv : Invariant botWallet original s) (move : Move) :
    Invariant botWallet original (step capacity botWallet s move) := by
  cases move with
  | read sinkAccepts => exact read_invariant capacity sinkAccepts inv
  | receive => exact receive_invariant inv

theorem run_invariant (capacity : Nat) (schedule : List Move) :
    ∀ s, Invariant botWallet original s →
      Invariant botWallet original (run capacity botWallet s schedule) := by
  induction schedule with
  | nil => exact fun _ inv => inv
  | cons move schedule ih => exact fun s inv => ih _ (step_invariant capacity inv move)

end Preservation

theorem run_of_returned (capacity : Nat) (botWallet : Option Pubkey) {s : State}
    (returned : s.consumer = .returned) (exited : s.reader.isSome) (schedule : List Move) :
    run capacity botWallet s schedule = s := by
  induction schedule with
  | nil => rfl
  | cons move schedule ih =>
    have still : step capacity botWallet s move = s := by
      obtain ⟨exit, reader⟩ := Option.isSome_iff_exists.mp exited
      cases move <;> simp [step, read, receive, reader, returned]
    simpa [run, still] using ih

section Eager

variable {capacity : Nat} {botWallet : Option Pubkey}
  {original : List (Except String SubscribeUpdate)} {s : State}

theorem eager_round (room : 0 < capacity) (sinkAccepts : Bool)
    (inv : Invariant botWallet original s)
    (safe : ∀ t ∈ streamTransactions original, processPumpfunTransaction t botWallet ≠ .panic)
    (reading : s.reader = none) (empty : s.channel = []) (running : s.consumer = .running) :
    let s' := receive botWallet (read capacity sinkAccepts s)
    (s'.consumer = .returned ∧ s'.reader ≠ some (.handlerError .send)) ∨
      (s'.reader = none ∧ s'.channel = [] ∧ s'.consumer = .running ∧
        s'.stream.length + 1 = s.stream.length) := by
  have all := inv.reading reading
  rcases s with ⟨_ | ⟨_ | msg, rest⟩, reader, channel, pings, processed, events, consumer⟩ <;>
    simp only at reading empty running <;> subst reading empty running
  · exact .inl ⟨rfl, by simp [read, receive]⟩
  · exact .inl ⟨rfl, by simp [read, receive]⟩
  · have room' : decide (0 < capacity) = true := decide_eq_true room
    rcases handleStreamMessage_cases true sinkAccepts msg with ⟨e, failed⟩ | same
    · have notSend : e ≠ .send := fun sent =>
        handleStreamMessage_ne_send sinkAccepts msg (sent ▸ failed)
      exact .inl (by simp [read, room', failed, receive, notSend])
    cases handled : handleStreamMessage true true msg with
    | panic => exact .inl (by simp [read, room', same, handled, receive])
    | ret result =>
      rcases result with e | (t | _ | _)
      · exact absurd handled (handleStreamMessage_ne_error msg e)
      · have fine : processPumpfunTransaction t botWallet ≠ .panic :=
          safe t (by simp [all, streamTransactions, handled])
        refine .inr ?_
        simp only [read, room', same, handled, List.nil_append, receive]
        cases processed : processPumpfunTransaction t botWallet <;> simp_all
      all_goals exact .inr (by simp [read, room', same, handled, receive])

theorem eager_returns (room : 0 < capacity)
    (safe : ∀ t ∈ streamTransactions original, processPumpfunTransaction t botWallet ≠ .panic)
    (pings : List Bool) :
    ∀ s, Invariant botWallet original s → s.reader = none → s.channel = [] →
      s.consumer = .running → s.stream.length < pings.length →
      (run capacity botWallet s (eagerSchedule pings)).consumer = .returned ∧
        (run capacity botWallet s (eagerSchedule pings)).reader ≠ some (.handlerError .send) := by
  induction pings with
  | nil => intro s _ _ _ _ short; simp at short
  | cons sinkAccepts pings ih =>
    intro s inv reading empty running short
    have next := receive_invariant (read_invariant capacity sinkAccepts inv)
    rw [show run capacity botWallet s (eagerSchedule (sinkAccepts :: pings)) =
      run capacity botWallet (receive botWallet (read capacity sinkAccepts s))
        (eagerSchedule pings) from rfl]
    rcases eager_round room sinkAccepts inv safe reading empty running with ⟨returned, clean⟩ |
      ⟨reading', empty', running', shorter⟩
    · rw [run_of_returned capacity botWallet returned (next.returned returned).2]
      exact ⟨returned, clean⟩
    · exact ih _ next reading' empty' running' (by simp only [List.length_cons] at short; omega)

end Eager

theorem Invariant.returned_all {botWallet : Option Pubkey}
    {original : List (Except String SubscribeUpdate)} {s : State}
    (inv : Invariant botWallet original s) (returned : s.consumer = .returned)
    (clean : ∀ e, s.reader ≠ some (.handlerError e)) :
    s.processed = streamTransactions original ∧
      s.events = (streamTransactions original).flatMap (transactionEvents botWallet) := by
  obtain ⟨empty, exited⟩ := inv.returned returned
  have all := inv.lossless exited clean
  rw [empty, List.append_nil] at all
  exact ⟨all, all ▸ inv.events⟩

theorem subscribe_pumpfun_processes_prefix (capacity : Nat) (botWallet : Option Pubkey)
    (stream : List (Except String SubscribeUpdate)) (schedule : List Move) :
    (run capacity botWallet (start stream) schedule).processed <+: streamTransactions stream ∧
      (run capacity botWallet (start stream) schedule).events =
        (run capacity botWallet (start stream) schedule).processed.flatMap
          (transactionEvents botWallet) := by
  have inv := run_invariant capacity schedule _ (start_invariant botWallet stream)
  exact ⟨(List.prefix_append _ _).trans inv.sent, inv.events⟩

theorem subscribe_pumpfun_returns_all (capacity : Nat) (botWallet : Option Pubkey)
    (stream : List (Except String SubscribeUpdate)) (schedule : List Move)
    (returned : (run capacity botWallet (start stream) schedule).consumer = .returned)
    (clean : ∀ e, (run capacity botWallet (start stream) schedule).reader ≠
      some (.handlerError e)) :
    (run capacity botWallet (start stream) schedule).processed = streamTransactions stream ∧
      (run capacity botWallet (start stream) schedule).events =
        (streamTransactions stream).flatMap (transactionEvents botWallet) :=
  (run_invariant capacity schedule _ (start_invariant botWallet stream)).returned_all
    returned clean

theorem subscribe_pumpfun_returns_all_after_ping :
    let stream : List (Except String SubscribeUpdate) :=
      [.ok ⟨some .ping⟩, .ok ⟨some (.transaction ⟨some ⟨List.replicate 64 0, some none⟩, 7⟩)⟩]
    let schedule := eagerSchedule [true, true, true]
    (run (channelSize + 1) none (start stream) schedule).consumer = .returned ∧
      (∀ e, (run (channelSize + 1) none (start stream) schedule).reader ≠
        some (.handlerError e)) ∧
      (run (channelSize + 1) none (start stream) schedule).processed =
          streamTransactions stream ∧
        (run (channelSize + 1) none (start stream) schedule).events =
          (streamTransactions stream).flatMap (transactionEvents none) :=
  ⟨by decide, fun e => by cases e <;> decide,
    subscribe_pumpfun_returns_all _ _ _ _ (by decide) fun e => by cases e <;> decide⟩

theorem subscribe_pumpfun_stops_at_panic (capacity : Nat) (botWallet : Option Pubkey)
    (stream : List (Except String SubscribeUpdate)) (schedule : List Move) (i : Nat)
    (h : i < (streamTransactions stream).length)
    (panics : processPumpfunTransaction ((streamTransactions stream).get ⟨i, h⟩) botWallet =
      .panic) :
    (run capacity botWallet (start stream) schedule).processed.length ≤ i + 1 := by
  have inv := run_invariant capacity schedule _ (start_invariant botWallet stream)
  by_contra long
  have before := (List.dropLast_prefix _).trans ((List.prefix_append _ _).trans inv.sent)
  have inside : i < (run capacity botWallet (start stream) schedule).processed.dropLast.length := by
    simp only [List.length_dropLast]; omega
  apply inv.survived _ (List.getElem_mem inside)
  rw [before.getElem inside]
  exact panics

theorem subscribe_pumpfun_stops_at_short_trade :
    let stream : List (Except String SubscribeUpdate) :=
      [.ok ⟨some (.transaction ⟨some ⟨List.replicate 64 0, some (some ⟨none, some
          ["Program 6EF8rrecthR5Dkzon8Nwu78hRvfCKubJ14M5uBEwF6P invoke [1]",
            "Program log: Instruction: Buy", "Program data: AAAA",
            "Program 6EF8rrecthR5Dkzon8Nwu78hRvfCKubJ14M5uBEwF6P success"]⟩)⟩, 7⟩)⟩,
        .ok ⟨some (.transaction ⟨some ⟨List.replicate 64 0, some (some ⟨none, some []⟩)⟩, 8⟩)⟩]
    0 < (streamTransactions stream).length ∧
      processPumpfunTransaction ((streamTransactions stream).get ⟨0, by decide⟩) none = .panic ∧
      (run (channelSize + 1) none (start stream)
        (eagerSchedule [true, true, true])).processed.length ≤ 1 :=
  ⟨by decide, by decide,
    subscribe_pumpfun_stops_at_panic _ _ _ _ 0 (by decide) (by decide)⟩

end SubscribePumpfun

end PumpfunSdk
