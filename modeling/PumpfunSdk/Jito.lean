import PumpfunSdk.Codec.Base58
import PumpfunSdk.Codec.Base64

/-! `jito/common.rs`, `jito/searcher_client.rs` and the sending methods of `jito/mod.rs`: the
three fee clients submit a transaction, or a bundle or batch of them, and then wait for
confirmation with `poll_transaction_confirmation`. Every call to a service is an answer the
environment supplies; a loop guarded by a clock runs once for each answer that arrives before
its deadline, so running out of answers is the timeout branch. -/

namespace PumpfunSdk

open Outcome

structure Signature where
  bytes : List UInt8
  length_bytes : bytes.length = 64

instance instDecidableEqSignature : DecidableEq Signature := fun a b =>
  if h : a.bytes = b.bytes then isTrue (by cases a; cases b; cases h; rfl)
  else isFalse fun e => h (e ▸ rfl)

instance instReprSignature : Repr Signature := ⟨fun sig _ => repr sig.bytes⟩

def Signature.toString (sig : Signature) : String := Base58.encode sig.bytes

structure VersionedTransaction where
  signatures : List Signature
  deriving DecidableEq, Repr

def VersionedTransaction.getSignature (transaction : VersionedTransaction) : Outcome Signature :=
  index transaction.signatures 0

inductive UiTransactionEncoding where
  | binary
  | base64
  | base58
  | json
  | jsonParsed
  deriving DecidableEq, Repr

def serializeAndEncode (transaction : List UInt8) (encoding : UiTransactionEncoding) :
    Except String String :=
  match encoding with
  | .base58 => .ok (Base58.encode transaction)
  | .base64 => .ok (Base64.encode transaction)
  | _ => .error "Unsupported encoding"

def serializeTransactionAndEncode (serialized : Except String (List UInt8))
    (encoding : UiTransactionEncoding) : Except String String := do
  let serializedTx ← serialized
  serializeAndEncode serializedTx encoding

def serializeSmartTransactionAndEncode (transaction : VersionedTransaction)
    (serialized : Except String (List UInt8)) (encoding : UiTransactionEncoding) :
    Outcome (Except String (String × Signature)) := do
  let signature ← transaction.getSignature
  pure ((fun content => (content, signature)) <$> serializeTransactionAndEncode serialized encoding)

inductive TransactionConfirmationStatus where
  | processed
  | confirmed
  | finalized
  deriving DecidableEq, Repr

structure TransactionStatus where
  err : Option String
  confirmationStatus : Option TransactionConfirmationStatus
  deriving DecidableEq, Repr

abbrev SignatureStatuses := Except String (List (Option TransactionStatus))

/-- `poll_transaction_confirmation`. `answers` are the answers to the status requests of the
iterations that begin before the 15-second timeout, in order; once they are used up, the next
check of the clock returns the timeout error. `status.value[0]` panics on an empty list. A
status that is seen but neither failed nor confirmed is requested again at once; an unseen one
waits the 5-second interval first, which only bounds how many answers arrive in time. -/
def pollTransactionConfirmation (txtSig : Signature) :
    List SignatureStatuses → Outcome (Except String Signature)
  | [] => pure (.error ("Transaction " ++ txtSig.toString ++ "\x27s confirmation timed out"))
  | .error e :: _ => pure (.error e)
  | .ok value :: later => do
    match ← index value 0 with
    | some status =>
      if status.err.isNone && (status.confirmationStatus == some .confirmed ||
          status.confirmationStatus == some .finalized) then
        pure (.ok txtSig)
      else
        match status.err with
        | some err => pure (.error err)
        | none => pollTransactionConfirmation txtSig later
    | none => pollTransactionConfirmation txtSig later

section Poll

variable {txtSig sig : Signature} {answers : List SignatureStatuses}

theorem pollTransactionConfirmation_ok
    (polled : pollTransactionConfirmation txtSig answers = ret (.ok sig)) : sig = txtSig := by
  induction answers with
  | nil => cases polled
  | cons answer later ih =>
    rcases answer with e | _ | ⟨status, value⟩
    · cases polled
    · cases polled
    · simp only [pollTransactionConfirmation, index_cons_zero, ret_bind] at polled
      rcases status with _ | status
      · exact ih polled
      · dsimp only at polled
        split_ifs at polled
        · cases polled; rfl
        · cases err : status.err <;> simp only [err] at polled
          · exact ih polled
          · cases polled

theorem pollTransactionConfirmation_returns (answered : ∀ answer ∈ answers, answer ≠ .ok []) :
    Outcome.Returns (pollTransactionConfirmation txtSig answers) := by
  induction answers with
  | nil => exact ⟨_, rfl⟩
  | cons answer later ih =>
    have rest := ih fun a member => answered a (List.mem_cons_of_mem _ member)
    rcases answer with e | _ | ⟨status, value⟩
    · exact ⟨_, rfl⟩
    · exact absurd rfl (answered _ (List.mem_cons_self _ _))
    · simp only [pollTransactionConfirmation, index_cons_zero, ret_bind]
      rcases status with _ | status
      · exact rest
      · dsimp only
        split_ifs
        · exact ⟨_, rfl⟩
        · cases status.err
          · exact rest
          · exact ⟨_, rfl⟩

end Poll

def confirmationPass (answers : Nat → List SignatureStatuses) :
    Nat → List Signature → List Signature → Outcome (List Signature)
  | _, [], signatures => pure signatures
  | i, signature :: snapshot, signatures => do
    match ← pollTransactionConfirmation signature (answers i) with
    | .ok sig => confirmationPass answers (i + 1) snapshot (signatures ++ [sig])
    | .error _ => confirmationPass answers (i + 1) snapshot signatures

/-- The `while` loop of `send_bundle_with_confirmation` and of NextBlock's
`send_transactions`: `passes` passes begin before the 10-second timeout, and `answers k` are
the answers of the polls of the `k`-th. -/
def confirmationLoop (answers : Nat → Nat → List SignatureStatuses) :
    Nat → Nat → List Signature → Outcome (List Signature)
  | _, 0, signatures => pure signatures
  | k, passes + 1, signatures => do
    let signatures ← confirmationPass (answers k) 0 signatures signatures
    confirmationLoop answers (k + 1) passes signatures

def sendBundleNoWait (transactions : List VersionedTransaction) (sent : Except String Unit) :
    Outcome (Except String (List Signature)) := do
  let signatures ← transactions.mapM VersionedTransaction.getSignature
  pure ((fun _ => signatures) <$> sent)

def sendBundleWithConfirmation (transactions : List VersionedTransaction)
    (sent : Except String Unit) (answers : Nat → Nat → List SignatureStatuses) (passes : Nat) :
    Outcome (Except String (List Signature)) := do
  match ← sendBundleNoWait transactions sent with
  | .error e => pure (.error e)
  | .ok signatures => .ok <$> confirmationLoop answers 0 passes signatures

def JitoClient.sendTransactions (transactions : List VersionedTransaction)
    (sent : Except String Unit) (answers : Nat → Nat → List SignatureStatuses) (passes : Nat) :
    Outcome (Except String (List Signature)) :=
  sendBundleWithConfirmation transactions sent answers passes

def encodeTransactions (serialized : Nat → Except String (List UInt8)) :
    Nat → List VersionedTransaction → Outcome (Except String (List Signature))
  | _, [] => pure (.ok [])
  | i, transaction :: transactions => do
    match ← serializeSmartTransactionAndEncode transaction (serialized i) .base64 with
    | .error e => pure (.error e)
    | .ok (_, signature) =>
      (fun rest => (signature :: ·) <$> rest) <$> encodeTransactions serialized (i + 1) transactions

def NextBlockClient.sendTransactions (transactions : List VersionedTransaction)
    (serialized : Nat → Except String (List UInt8)) (posted : Except String Unit)
    (answers : Nat → Nat → List SignatureStatuses) (passes : Nat) :
    Outcome (Except String (List Signature)) := do
  match ← encodeTransactions serialized 0 transactions with
  | .error e => pure (.error e)
  | .ok signatures =>
    match posted with
    | .error e => pure (.error e)
    | .ok () => .ok <$> confirmationLoop answers 0 passes signatures

section Pass

variable {answers : Nat → List SignatureStatuses} {i : Nat} {snapshot signatures result : List Signature}

theorem confirmationPass_appends (passed : confirmationPass answers i snapshot signatures = ret result) :
    ∃ confirmed, List.Sublist confirmed snapshot ∧ result = signatures ++ confirmed := by
  induction snapshot generalizing i signatures with
  | nil => cases passed; exact ⟨[], .slnil, by simp⟩
  | cons signature snapshot ih =>
    rw [confirmationPass] at passed
    obtain ⟨polled, poll, next⟩ := bind_eq_ret.mp passed
    rcases polled with _ | sig
    · obtain ⟨confirmed, sub, rfl⟩ := ih next
      exact ⟨confirmed, sub.cons _, rfl⟩
    · obtain rfl := pollTransactionConfirmation_ok poll
      obtain ⟨confirmed, sub, rfl⟩ := ih next
      exact ⟨sig :: confirmed, sub.cons₂ _, by simp⟩

theorem confirmationPass_returns (answered : ∀ i, ∀ answer ∈ answers i, answer ≠ .ok []) :
    Outcome.Returns (confirmationPass answers i snapshot signatures) := by
  induction snapshot generalizing i signatures with
  | nil => exact ⟨_, rfl⟩
  | cons signature snapshot ih =>
    apply Outcome.Returns.bind (pollTransactionConfirmation_returns (answered i))
    rintro (_ | _) _ <;> exact ih

theorem confirmationPass_of_confirms
    (confirms : ∀ i sig, pollTransactionConfirmation sig (answers i) = ret (.ok sig)) :
    confirmationPass answers i snapshot signatures = ret (signatures ++ snapshot) := by
  induction snapshot generalizing i signatures with
  | nil => simp [confirmationPass]
  | cons signature snapshot ih => simp [confirmationPass, confirms, ih]

end Pass

section Loop

variable {answers : Nat → Nat → List SignatureStatuses} {k passes : Nat}
  {signatures result : List Signature}

theorem confirmationLoop_repeats (looped : confirmationLoop answers k passes signatures = ret result) :
    ∃ repeats, result = signatures ++ repeats ∧ ∀ s ∈ repeats, s ∈ signatures := by
  induction passes generalizing k signatures with
  | zero => cases looped; exact ⟨[], by simp, by simp⟩
  | succ passes ih =>
    rw [confirmationLoop] at looped
    obtain ⟨after, passed, next⟩ := bind_eq_ret.mp looped
    obtain ⟨confirmed, sub, rfl⟩ := confirmationPass_appends passed
    obtain ⟨repeats, rfl, within⟩ := ih next
    refine ⟨confirmed ++ repeats, by simp, fun s member => ?_⟩
    rcases List.mem_append.mp member with early | late
    · exact sub.subset early
    · exact (List.mem_append.mp (within s late)).elim id fun c => sub.subset c

theorem confirmationLoop_returns (answered : ∀ k i, ∀ answer ∈ answers k i, answer ≠ .ok []) :
    Outcome.Returns (confirmationLoop answers k passes signatures) := by
  induction passes generalizing k signatures with
  | zero => exact ⟨_, rfl⟩
  | succ passes ih => exact (confirmationPass_returns (answered k)).bind fun _ _ => ih

theorem confirmationLoop_of_confirms
    (confirms : ∀ k i sig, pollTransactionConfirmation sig (answers k i) = ret (.ok sig)) :
    confirmationLoop answers k passes signatures =
      ret ((fun signatures => signatures ++ signatures)^[passes] signatures) := by
  induction passes generalizing k signatures with
  | zero => rfl
  | succ passes ih =>
    simp only [confirmationLoop, confirmationPass_of_confirms (confirms k), ret_bind, ih,
      Function.iterate_succ_apply]

theorem count_iterate_double (s : Signature) (passes : Nat) (signatures : List Signature) :
    ((fun signatures => signatures ++ signatures)^[passes] signatures).count s =
      signatures.count s * 2 ^ passes := by
  induction passes generalizing signatures with
  | zero => simp
  | succ passes ih =>
    rw [Function.iterate_succ_apply, ih, List.count_append, pow_succ]
    ring

end Loop

/-- The `while` loop of the NextBlock and ZeroSlot `send_transaction`: polls until one returns
a signature; `polls` are the answers of the polls that begin before the 10-second timeout.
After the loop the submitted signature is returned. -/
def awaitConfirmation (signature : Signature) :
    List (List SignatureStatuses) → Outcome Signature
  | [] => pure signature
  | answers :: polls => do
    match ← pollTransactionConfirmation signature answers with
    | .ok sig => pure sig
    | .error _ => awaitConfirmation signature polls

/-- What the services answer to one NextBlock or ZeroSlot `send_transaction`: `bincode`'s
serialization of the transaction, the result of the submission (`post_submit_v2`, or the HTTP
post and the decoding of its JSON reply), and the answers of the polls. -/
structure Submission where
  serialized : Except String (List UInt8)
  posted : Except String Unit
  polls : List (List SignatureStatuses)

def submitAndAwait (transaction : VersionedTransaction) (submission : Submission) :
    Outcome (Except String Signature) := do
  match ← serializeSmartTransactionAndEncode transaction submission.serialized .base64 with
  | .error e => pure (.error e)
  | .ok (_, signature) =>
    match submission.posted with
    | .error e => pure (.error e)
    | .ok () => .ok <$> awaitConfirmation signature submission.polls

def NextBlockClient.sendTransaction (transaction : VersionedTransaction)
    (submission : Submission) : Outcome (Except String Signature) :=
  submitAndAwait transaction submission

def ZeroSlotClient.sendTransaction (transaction : VersionedTransaction)
    (submission : Submission) : Outcome (Except String Signature) :=
  submitAndAwait transaction submission

def ZeroSlotClient.sendTransactions (submissions : Nat → Submission) :
    Nat → List VersionedTransaction → Outcome (Except String (List Signature))
  | _, [] => pure (.ok [])
  | i, transaction :: transactions => do
    match ← ZeroSlotClient.sendTransaction transaction (submissions i) with
    | .error e => pure (.error e)
    | .ok signature =>
      (fun rest => (signature :: ·) <$> rest) <$> ZeroSlotClient.sendTransactions submissions (i + 1) transactions

def JitoClient.sendTransaction (transaction : VersionedTransaction) (sent : Except String Unit)
    (answers : Nat → Nat → List SignatureStatuses) (passes : Nat) :
    Outcome (Except String Signature) := do
  match ← sendBundleWithConfirmation [transaction] sent answers passes with
  | .error e => pure (.error e)
  | .ok signatures =>
    pure (match signatures.head? with
      | some sig => .ok sig
      | none => .error "Failed to send transaction")

section Send

variable {transaction : VersionedTransaction} {signature sig : Signature}
  {serialized : Except String (List UInt8)} {content : String}

theorem serializeSmartTransactionAndEncode_ok {encoding : UiTransactionEncoding}
    (encoded : serializeSmartTransactionAndEncode transaction serialized encoding =
      ret (.ok (content, signature))) :
    transaction.getSignature = ret signature := by
  obtain ⟨first, got, encoded⟩ := bind_eq_ret.mp encoded
  cases serialized <;> cases encoding <;> cases encoded <;> exact got

theorem serializeSmartTransactionAndEncode_base64 (got : transaction.getSignature = ret signature) :
    serializeSmartTransactionAndEncode transaction serialized .base64 =
      ret ((fun bytes => (Base64.encode bytes, signature)) <$> serialized) := by
  rw [serializeSmartTransactionAndEncode, got, ret_bind]
  cases serialized <;> rfl

theorem awaitConfirmation_ok {polls : List (List SignatureStatuses)}
    (awaited : awaitConfirmation signature polls = ret sig) : sig = signature := by
  induction polls with
  | nil => cases awaited; rfl
  | cons answers polls ih =>
    rw [awaitConfirmation] at awaited
    obtain ⟨polled, poll, next⟩ := bind_eq_ret.mp awaited
    rcases polled with _ | confirmed
    · exact ih next
    · cases next; exact pollTransactionConfirmation_ok poll

theorem awaitConfirmation_of_answered {polls : List (List SignatureStatuses)}
    (answered : ∀ answers ∈ polls, ∀ answer ∈ answers, answer ≠ .ok []) :
    awaitConfirmation signature polls = ret signature := by
  have returns : Outcome.Returns (awaitConfirmation signature polls) := by
    induction polls with
    | nil => exact ⟨_, rfl⟩
    | cons answers polls ih =>
      apply Outcome.Returns.bind (pollTransactionConfirmation_returns (answered answers (List.mem_cons_self _ _)))
      rintro (_ | _) _
      · exact ih fun a member => answered a (List.mem_cons_of_mem _ member)
      · exact ⟨_, rfl⟩
  obtain ⟨sig, awaited⟩ := returns
  obtain rfl := awaitConfirmation_ok awaited
  exact awaited

theorem submitAndAwait_ok {submission : Submission}
    (submitted : submitAndAwait transaction submission = ret (.ok sig)) :
    transaction.getSignature = ret sig := by
  obtain ⟨encoded, encoding, awaiting⟩ := bind_eq_ret.mp submitted
  rcases encoded with _ | ⟨content, signature⟩
  · cases awaiting
  · have got := serializeSmartTransactionAndEncode_ok encoding
    rcases posted : submission.posted with _ | _ <;> simp only [posted] at awaiting
    · cases awaiting
    · obtain ⟨_, awaited, same⟩ := bind_eq_ret.mp awaiting
      cases same
      rwa [awaitConfirmation_ok awaited]

theorem submitAndAwait_of_answered {submission : Submission} (got : transaction.getSignature = ret sig)
    (answered : ∀ answers ∈ submission.polls, ∀ answer ∈ answers, answer ≠ .ok []) :
    submitAndAwait transaction submission =
      ret ((fun _ => sig) <$> (submission.serialized >>= fun _ => submission.posted)) := by
  obtain ⟨serialized, posted, polls⟩ := submission
  rcases serialized with _ | bytes
  · simp [submitAndAwait, serializeSmartTransactionAndEncode_base64 got]
  · rcases posted with _ | _ <;>
      simp [submitAndAwait, serializeSmartTransactionAndEncode_base64 got,
        awaitConfirmation_of_answered answered]

end Send

section Clients

variable {transactions : List VersionedTransaction} {firsts result : List Signature}

theorem sendBundleNoWait_ok {sent : Except String Unit}
    (submitted : sendBundleNoWait transactions sent = ret (.ok firsts)) :
    transactions.mapM VersionedTransaction.getSignature = ret firsts := by
  obtain ⟨signatures, signed, same⟩ := bind_eq_ret.mp submitted
  cases sent <;> cases same
  exact signed

theorem sendBundleNoWait_of_signed {sent : Except String Unit}
    (signed : transactions.mapM VersionedTransaction.getSignature = ret firsts) :
    sendBundleNoWait transactions sent = ret ((fun _ => firsts) <$> sent) := by
  rw [sendBundleNoWait, signed, ret_bind]; rfl

theorem encodeTransactions_ok {serialized : Nat → Except String (List UInt8)} {i : Nat}
    (encoded : encodeTransactions serialized i transactions = ret (.ok firsts)) :
    transactions.mapM VersionedTransaction.getSignature = ret firsts := by
  induction transactions generalizing i firsts with
  | nil => cases encoded; rfl
  | cons transaction transactions ih =>
    rw [encodeTransactions] at encoded
    obtain ⟨one, encodedOne, rest⟩ := bind_eq_ret.mp encoded
    rcases one with _ | ⟨content, signature⟩
    · cases rest
    · obtain ⟨others, encodedRest, same⟩ := bind_eq_ret.mp rest
      rcases others with _ | others <;> cases same
      simp only [List.mapM_cons, serializeSmartTransactionAndEncode_ok encodedOne, ih encodedRest,
        ret_bind, pure_eq]

theorem encodeTransactions_of_serialized {serialized : Nat → Except String (List UInt8)} {i : Nat}
    (encodes : ∀ i, ∃ bytes, serialized i = .ok bytes)
    (signed : transactions.mapM VersionedTransaction.getSignature = ret firsts) :
    encodeTransactions serialized i transactions = ret (.ok firsts) := by
  induction transactions generalizing i firsts with
  | nil => cases signed; rfl
  | cons transaction transactions ih =>
    rw [List.mapM_cons] at signed
    obtain ⟨signature, got, rest⟩ := bind_eq_ret.mp signed
    obtain ⟨others, signedRest, same⟩ := bind_eq_ret.mp rest
    cases same
    obtain ⟨bytes, serializedOk⟩ := encodes i
    simp [encodeTransactions, serializeSmartTransactionAndEncode_base64 got, serializedOk, ih signedRest]

theorem ZeroSlotClient.sendTransactions_ok {submissions : Nat → Submission} {i : Nat}
    (sent : ZeroSlotClient.sendTransactions submissions i transactions = ret (.ok result)) :
    transactions.mapM VersionedTransaction.getSignature = ret result := by
  induction transactions generalizing i result with
  | nil => cases sent; rfl
  | cons transaction transactions ih =>
    rw [ZeroSlotClient.sendTransactions] at sent
    obtain ⟨one, sentOne, rest⟩ := bind_eq_ret.mp sent
    rcases one with _ | signature
    · cases rest
    · obtain ⟨others, sentRest, same⟩ := bind_eq_ret.mp rest
      rcases others with _ | others <;> cases same
      simp only [List.mapM_cons, submitAndAwait_ok sentOne, ih sentRest, ret_bind, pure_eq]

theorem send_transactions_return_submitted_signatures (transactions : List VersionedTransaction) :
    (∀ sent answers passes result,
      JitoClient.sendTransactions transactions sent answers passes = ret (.ok result) →
      ∃ firsts repeats, transactions.mapM VersionedTransaction.getSignature = ret firsts ∧
        result = firsts ++ repeats ∧ ∀ s ∈ repeats, s ∈ firsts) ∧
    (∀ serialized posted answers passes result,
      NextBlockClient.sendTransactions transactions serialized posted answers passes =
        ret (.ok result) →
      ∃ firsts repeats, transactions.mapM VersionedTransaction.getSignature = ret firsts ∧
        result = firsts ++ repeats ∧ ∀ s ∈ repeats, s ∈ firsts) ∧
    (∀ submissions result,
      ZeroSlotClient.sendTransactions submissions 0 transactions = ret (.ok result) →
      transactions.mapM VersionedTransaction.getSignature = ret result) := by
  refine ⟨fun sent answers passes result sentOk => ?_, fun serialized posted answers passes result sentOk => ?_,
    fun _ _ sentOk => ZeroSlotClient.sendTransactions_ok sentOk⟩
  · obtain ⟨submitted, submittedOk, looped⟩ := bind_eq_ret.mp sentOk
    rcases submitted with _ | firsts
    · cases looped
    · obtain ⟨result, looped, same⟩ := bind_eq_ret.mp looped
      cases same
      obtain ⟨repeats, repeated⟩ := confirmationLoop_repeats looped
      exact ⟨firsts, repeats, sendBundleNoWait_ok submittedOk, repeated⟩
  · obtain ⟨encoded, encodedOk, looped⟩ := bind_eq_ret.mp sentOk
    rcases encoded with _ | firsts
    · cases looped
    · rcases posted with _ | _
      · cases looped
      · obtain ⟨result, looped, same⟩ := bind_eq_ret.mp looped
        cases same
        obtain ⟨repeats, repeated⟩ := confirmationLoop_repeats looped
        exact ⟨firsts, repeats, encodeTransactions_ok encodedOk, repeated⟩

theorem send_transactions_double_per_confirmed_pass (transactions : List VersionedTransaction)
    (firsts : List Signature)
    (signed : transactions.mapM VersionedTransaction.getSignature = ret firsts)
    (serialized : Nat → Except String (List UInt8)) (encodes : ∀ i, ∃ bytes, serialized i = .ok bytes)
    (answers : Nat → Nat → List SignatureStatuses)
    (confirms : ∀ k i sig, pollTransactionConfirmation sig (answers k i) = ret (.ok sig))
    (passes : Nat) :
    (∃ result, JitoClient.sendTransactions transactions (.ok ()) answers passes = ret (.ok result) ∧
      ∀ s, result.count s = firsts.count s * 2 ^ passes) ∧
    (∃ result, NextBlockClient.sendTransactions transactions serialized (.ok ()) answers passes =
        ret (.ok result) ∧
      ∀ s, result.count s = firsts.count s * 2 ^ passes) := by
  have looped := @confirmationLoop_of_confirms answers 0 passes firsts confirms
  refine ⟨⟨_, ?_, fun s => count_iterate_double s passes firsts⟩,
    ⟨_, ?_, fun s => count_iterate_double s passes firsts⟩⟩
  · simp [JitoClient.sendTransactions, sendBundleWithConfirmation, sendBundleNoWait_of_signed signed, looped]
  · simp [NextBlockClient.sendTransactions, encodeTransactions_of_serialized encodes signed, looped]

theorem send_transactions_double_per_confirmed_pass_finalized :
    let sig : Signature := ⟨List.replicate 64 0, rfl⟩
    let finalized : Nat → Nat → List SignatureStatuses :=
      fun _ _ => [.ok [some ⟨none, some .finalized⟩]]
    [(⟨[sig]⟩ : VersionedTransaction)].mapM VersionedTransaction.getSignature = ret [sig] ∧
    (∀ _ : Nat, ∃ bytes, (.ok [] : Except String (List UInt8)) = .ok bytes) ∧
    (∀ k i : Nat, ∀ sig, pollTransactionConfirmation sig (finalized k i) = ret (.ok sig)) ∧
    ((∃ result, JitoClient.sendTransactions [⟨[sig]⟩] (.ok ()) finalized 2 = ret (.ok result) ∧
        ∀ s, result.count s = [sig].count s * 2 ^ 2) ∧
      (∃ result, NextBlockClient.sendTransactions [⟨[sig]⟩] (fun _ => .ok []) (.ok ()) finalized 2 =
          ret (.ok result) ∧
        ∀ s, result.count s = [sig].count s * 2 ^ 2)) :=
  ⟨rfl, fun _ => ⟨[], rfl⟩, fun _ _ _ => rfl,
    send_transactions_double_per_confirmed_pass [⟨[⟨List.replicate 64 0, rfl⟩]⟩]
      [⟨List.replicate 64 0, rfl⟩] rfl (fun _ => .ok []) (fun _ => ⟨[], rfl⟩)
      (fun _ _ => [.ok [some ⟨none, some .finalized⟩]]) (fun _ _ _ => rfl) 2⟩

theorem send_transaction_ignores_confirmation (transaction : VersionedTransaction) (sig : Signature)
    (got : transaction.getSignature = ret sig) :
    (∀ sent answers passes, (∀ k i, ∀ answer ∈ answers k i, answer ≠ .ok []) →
      JitoClient.sendTransaction transaction sent answers passes = ret ((fun _ => sig) <$> sent)) ∧
    (∀ submission : Submission, (∀ answers ∈ submission.polls, ∀ answer ∈ answers, answer ≠ .ok []) →
      NextBlockClient.sendTransaction transaction submission =
        ret ((fun _ => sig) <$> (submission.serialized >>= fun _ => submission.posted)) ∧
      ZeroSlotClient.sendTransaction transaction submission =
        ret ((fun _ => sig) <$> (submission.serialized >>= fun _ => submission.posted))) := by
  refine ⟨fun sent answers passes answered => ?_, fun submission answered =>
    ⟨submitAndAwait_of_answered got answered, submitAndAwait_of_answered got answered⟩⟩
  have signed : [transaction].mapM VersionedTransaction.getSignature = ret [sig] := by
    simp only [List.mapM_cons, List.mapM_nil, got, ret_bind, pure_eq]
  rcases sent with e | _
  · simp [JitoClient.sendTransaction, sendBundleWithConfirmation, sendBundleNoWait_of_signed signed]
  · obtain ⟨result, looped⟩ := @confirmationLoop_returns answers 0 passes [sig] answered
    obtain ⟨repeats, rfl, _⟩ := confirmationLoop_repeats looped
    simp [JitoClient.sendTransaction, sendBundleWithConfirmation, sendBundleNoWait_of_signed signed, looped]

theorem send_transaction_ignores_confirmation_timed_out :
    let sig : Signature := ⟨List.replicate 64 0, rfl⟩
    VersionedTransaction.getSignature ⟨[sig]⟩ = ret sig ∧
    JitoClient.sendTransaction ⟨[sig]⟩ (.ok ()) (fun _ _ => []) 3 = ret (.ok sig) :=
  ⟨rfl, (send_transaction_ignores_confirmation ⟨[⟨List.replicate 64 0, rfl⟩]⟩
    ⟨List.replicate 64 0, rfl⟩ rfl).1 (.ok ()) (fun _ _ => []) 3 (by simp)⟩

end Clients

end PumpfunSdk
