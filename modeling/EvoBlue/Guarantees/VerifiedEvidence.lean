import EvoBlue.Source.ClientService

/-!
# Verified only with evidence

Every response of the service is built after the last await of its request from the
cache and from what the adapter said in that request. The cache is cleared or the
configuration matched in between, without an await, so that a verdict which other
requests leave behind is never shown next to a configuration that does not back it.
-/

namespace EvoBlue.Guarantees

open EvoBlue.Kernel EvoBlue.Source

/-- `verified` is shown only with a matching entry. -/
def ShowsEvidence : ServiceReturn → Prop
  | .operation result => result.handshake = .verified → result.entryMatchesCurrent = some true
  | .statuses clients =>
    ∀ client ∈ clients, client.handshake = .verified → client.entryMatchesCurrent = some true

/-- A routine of the service that ends with a value of `post`, or raises. -/
abbrev Serves {α : Type} (post : ServiceState → α → Prop) (state : ServiceState)
    (task : ServiceTask α) : Prop :=
  Attempt.Follows (interleaved ServiceAwait ServiceAnswer serveService) post (fun _ _ => True) state task

section

variable {α β : Type} {post : ServiceState → α → Prop} {state : ServiceState}

theorem serves_now {request : ServiceNow} {next : ServiceReply request → ServiceTask α}
    (goes : Serves post (serveService request state).2 (next (serveService request state).1)) :
    Serves post state (ServiceTask.now request >>= next) := by
  apply Attempt.follows_call trivial
  intro answer after moved
  have same : serveService request state = (answer, after) := moved
  rw [same] at goes
  exact goes

theorem serves_wait {request : ServiceAwait} {next : ServiceAnswer request → ServiceTask α}
    (goes : ∀ answer after, Serves post after (next answer)) :
    Serves post state (ServiceTask.wait request >>= next) := by
  apply Attempt.follows_call trivial
  intro answer after _
  exact goes answer after

theorem serves_adapter {outcome : Except AdapterError β} :
    Serves (fun _ _ => True) state (ServiceTask.adapter outcome) := by
  cases outcome with
  | ok value => exact Attempt.follows_pure trivial
  | error error => exact Attempt.follows_throw trivial

theorem serves_findSpec {client : Text} :
    Serves (fun _ spec => spec.clientId = client) state (findSpec client) := by
  unfold findSpec
  cases found : clientSpecs.find? fun spec => spec.clientId = client with
  | none => exact Attempt.follows_throw trivial
  | some spec =>
    have named := List.find?_some found
    rw [decide_eq_true_eq] at named
    exact Attempt.follows_pure named

theorem serves_writableSpec {client : Text} :
    Serves (fun _ spec => spec.clientId = client) state (writableSpec client) := by
  unfold writableSpec
  apply Attempt.follows_bind serves_findSpec
  intro after spec named
  split
  · exact Attempt.follows_throw trivial
  · exact Attempt.follows_pure named

/-- The lock is nothing to the verdicts. -/
theorem serves_holdingLock {client : Text} {body : ServiceTask β}
    {middle : (Text → Option HandshakeVerdict) → β → Prop}
    (holds : ∀ state, Serves (fun after value => middle after.verdicts value) state body) :
    Serves (fun after value => middle after.verdicts value) state (holdingLock client body) := by
  unfold holdingLock
  apply serves_now
  split
  · exact Attempt.follows_throw trivial
  · apply serves_now
    have tried : ∀ state, Serves (fun after value => middle after.verdicts value) state
        (tryCatch body fun error => do
          ServiceTask.now (.release client)
          throw error) := by
      intro state
      apply Attempt.follows_tryCatch (holds state)
      intro after error _
      apply serves_now
      exact Attempt.follows_throw trivial
    apply Attempt.follows_bind (tried _)
    intro after value there
    apply serves_now
    exact Attempt.follows_pure there

theorem serves_handshake {client : Text} :
    Serves (fun _ _ => True) state (runHandshake client) := by
  unfold runHandshake
  apply serves_wait
  intro (ended, checkedAt) after
  have judged : Serves (fun _ _ => True) after (judgeHandshake ended) := by
    unfold judgeHandshake
    split <;> trivial
  apply Attempt.follows_bind judged
  intro later verdict _
  apply serves_now
  exact Attempt.follows_pure trivial

theorem serves_engineOnline {env : ServiceEnv} :
    Serves (fun _ _ => True) state (engineOnline env) := by
  unfold engineOnline
  split
  · exact Attempt.follows_pure trivial
  · apply serves_wait
    intro answer after
    split <;> trivial

theorem serves_cachedVerdict {client : Text} :
    Serves (fun _ verdict => verdict.1 = .verified →
        ∃ cached, state.verdicts client = some cached ∧ cached.state = .verified) state
      (cachedVerdict client) := by
  unfold cachedVerdict
  apply serves_now
  split
  · apply Attempt.follows_pure
    intro impossible
    cases impossible
  next cached there =>
    apply Attempt.follows_pure
    intro verified
    exact ⟨cached, there, verified⟩

/-- `_reconciled_verdict` hands on a verified verdict only for a matching entry. -/
theorem serves_reconciled {client : Text} {target : TargetState} :
    Serves (fun _ verdict => verdict.1 = .verified → target.entryMatchesCurrent = some true) state
      (reconciledVerdict client target) := by
  unfold reconciledVerdict
  apply serves_now
  split
  next cached there =>
    split
    · apply serves_now
      apply Attempt.follows_pure
      intro impossible
      cases impossible
    next backed =>
      apply Attempt.follows_mono serves_cachedVerdict
      · intro after verdict shown verified
        obtain ⟨other, again, isVerified⟩ := shown verified
        have same : cached = other := Option.some.inj (there.symm.trans again)
        subst same
        by_contra unmatched
        exact backed ⟨isVerified, unmatched⟩
      · exact fun _ _ _ => trivial
  next absent =>
    apply Attempt.follows_mono serves_cachedVerdict
    · intro after verdict shown verified
      obtain ⟨other, again, _⟩ := shown verified
      cases again.symm.trans absent
    · exact fun _ _ _ => trivial

/-- What `install` and `verify` rely on when they show the cached verdict. -/
def Evidence (client : Text) (outcome : OperationOutcome)
    (verdicts : Text → Option HandshakeVerdict) : Prop :=
  outcome.entryMatchesCurrent = some true ∨ verdicts client = none

theorem evidence_forgotten {client : Text} {outcome : OperationOutcome} {state : ServiceState} :
    Evidence client outcome (serveService (.forget client) state).2.verdicts :=
  .inr (by simp [serveService])

theorem serves_verdictFor {client : Text} {outcome : OperationOutcome} {evidence : Bool}
    (matched : evidence = true → outcome.entryMatchesCurrent = some true) :
    Serves (fun after _ => Evidence client outcome after.verdicts) state
      (verdictFor client outcome evidence) := by
  unfold verdictFor
  split
  next there =>
    apply Attempt.follows_mono serves_handshake
    · exact fun _ _ _ => .inl (matched there)
    · exact fun _ _ _ => trivial
  next =>
    apply serves_now
    exact Attempt.follows_pure evidence_forgotten

/-- The response of a mutation. -/
theorem serves_operationResult {env : ServiceEnv} {spec : ClientSpec} {operation message : Text}
    {outcome : OperationOutcome} {verdict : VerdictPair} {copyable : Bool}
    {backupName restoredFrom safetyBackup : Option Text} {removedTarget : Option Bool}
    (evidence : Evidence spec.clientId outcome state.verdicts) :
    Serves (fun _ result => ShowsEvidence (.operation result)) state
      (operationResult env spec operation outcome verdict copyable message backupName restoredFrom
        safetyBackup removedTarget) := by
  unfold operationResult
  apply Attempt.follows_bind serves_cachedVerdict
  intro after (shown, reason, checkedAt) cached
  apply Attempt.follows_pure
  intro verified
  rcases evidence with matched | forgotten
  · exact matched
  · obtain ⟨other, there, _⟩ := cached verified
    cases forgotten.symm.trans there

/-! ## The operations -/

/-- What a mutation does while it holds the lock. -/
theorem serves_locked {client : Text} {body : ServiceTask (OperationOutcome × VerdictPair)}
    (holds : ∀ state, Serves (fun after pair => Evidence client pair.1 after.verdicts) state body) :
    Serves (fun after pair => Evidence client pair.1 after.verdicts) state
      (holdingLock client body) :=
  @serves_holdingLock _ state client body (fun verdicts pair => Evidence client pair.1 verdicts) holds

theorem serves_install {env : ServiceEnv} {client : Text} {force : Bool} :
    Serves (fun _ result => ShowsEvidence (.operation result)) state (installClient env client force) := by
  unfold installClient
  apply Attempt.follows_bind serves_writableSpec
  intro after spec named
  subst named
  apply Attempt.follows_bind (serves_locked ?_)
  · intro after pair evidence
    exact serves_operationResult evidence
  · intro state
    apply serves_wait
    intro answer after
    apply Attempt.follows_bind serves_adapter
    intro after outcome _
    apply Attempt.follows_bind (serves_verdictFor of_decide_eq_true)
    intro after verdict evidence
    exact Attempt.follows_pure evidence

theorem serves_verify {env : ServiceEnv} {client : Text} :
    Serves (fun _ result => ShowsEvidence (.operation result)) state (verifyClient env client) := by
  unfold verifyClient
  apply Attempt.follows_bind serves_findSpec
  intro after spec named
  subst named
  apply serves_wait
  intro answer after
  apply Attempt.follows_bind serves_adapter
  intro after outcome _
  apply Attempt.follows_bind (serves_verdictFor fun both => (of_decide_eq_true both).2)
  intro after verdict evidence
  exact serves_operationResult evidence

theorem serves_remove {env : ServiceEnv} {client : Text} {confirm : Bool} :
    Serves (fun _ result => ShowsEvidence (.operation result)) state (removeClient env client confirm) := by
  unfold removeClient
  apply Attempt.follows_bind serves_findSpec
  intro after _ _
  split
  · exact Attempt.follows_throw trivial
  apply Attempt.follows_bind serves_writableSpec
  intro after spec named
  subst named
  apply Attempt.follows_bind (serves_locked ?_)
  · intro after pair evidence
    exact serves_operationResult evidence
  · intro state
    apply serves_wait
    intro answer after
    apply Attempt.follows_bind serves_adapter
    intro after outcome _
    apply serves_now
    exact Attempt.follows_pure evidence_forgotten

theorem serves_restore {env : ServiceEnv} {client backupName : Text} {confirm : Bool} :
    Serves (fun _ result => ShowsEvidence (.operation result)) state
      (restoreClient env client backupName confirm) := by
  unfold restoreClient
  apply Attempt.follows_bind serves_findSpec
  intro after _ _
  split
  · exact Attempt.follows_throw trivial
  apply Attempt.follows_bind serves_writableSpec
  intro after spec named
  subst named
  apply Attempt.follows_bind (serves_locked ?_)
  · intro after pair evidence
    exact serves_operationResult evidence
  · intro state
    apply serves_wait
    intro answer after
    apply Attempt.follows_bind serves_adapter
    intro after outcome _
    apply serves_now
    exact Attempt.follows_pure evidence_forgotten

theorem serves_status {env : ServiceEnv} {client : Text} :
    Serves (fun _ status => ShowsEvidence (.statuses [status])) state (statusOf env client) := by
  unfold statusOf
  apply Attempt.follows_bind serves_findSpec
  intro after spec _
  apply serves_wait
  intro answer after
  apply Attempt.follows_bind serves_adapter
  intro after target _
  apply Attempt.follows_bind serves_reconciled
  intro after verdict backed
  apply Attempt.follows_bind serves_engineOnline
  intro after online _
  apply Attempt.follows_pure
  intro status mem
  rw [List.mem_singleton.1 mem]
  exact backed

theorem serves_listFrom {online : Option Bool} {specs : List ClientSpec} :
    Serves (fun _ statuses => ShowsEvidence (.statuses statuses)) state (listFrom online specs) := by
  induction specs generalizing state with
  | nil =>
    apply Attempt.follows_pure
    intro status mem
    cases mem
  | cons spec rest ih =>
    unfold listFrom
    apply serves_wait
    intro answer after
    apply Attempt.follows_bind serves_adapter
    intro after target _
    apply Attempt.follows_bind serves_reconciled
    intro after verdict backed
    apply Attempt.follows_bind ih
    intro after others kept
    apply Attempt.follows_pure
    intro status mem
    rcases List.mem_cons.1 mem with rfl | later
    · exact backed
    · exact kept status later

theorem serves_listStatus {env : ServiceEnv} :
    Serves (fun _ statuses => ShowsEvidence (.statuses statuses)) state (listStatus env) := by
  unfold listStatus
  apply Attempt.follows_bind serves_engineOnline
  intro after online _
  exact serves_listFrom

theorem serves_routine (env : ServiceEnv) (op : ServiceOp) (state : ServiceState) :
    Serves (fun _ => ShowsEvidence) state (serviceRoutine env op) := by
  cases op with
  | install client force =>
    exact Attempt.follows_bind serves_install fun _ _ backed => Attempt.follows_pure backed
  | verify client =>
    exact Attempt.follows_bind serves_verify fun _ _ backed => Attempt.follows_pure backed
  | remove client confirm =>
    exact Attempt.follows_bind serves_remove fun _ _ backed => Attempt.follows_pure backed
  | restore client backupName confirm =>
    exact Attempt.follows_bind serves_restore fun _ _ backed => Attempt.follows_pure backed
  | status client =>
    exact Attempt.follows_bind serves_status fun _ _ backed => Attempt.follows_pure backed
  | listStatus =>
    exact Attempt.follows_bind serves_listStatus fun _ _ backed => Attempt.follows_pure backed

end

/-- In every run of the loop, with any requests in any order, whatever the adapters, the
handshakes and the probe answer: no response shows `verified` without a matching entry. -/
theorem verified_backed (env : ServiceEnv) (shared : ServiceState)
    (turns : List (LoopTurn ServiceOp ServiceAwait ServiceAnswer)) :
    ∀ task ∈ (run (Loop.turn serveService fun op => (serviceRoutine env op).run)
        { shared } turns).tasks,
      ∀ value, task.result = some (.ok value) → ShowsEvidence value := by
  intro task mem value ended
  have post := @loop_results _ _ _ _ _ _ _ serveService
    (Attempt.Ends (fun _ => ShowsEvidence) (fun _ _ => True) shared)
    (fun op => (serviceRoutine env op).run) (fun op state => serves_routine env op state) shared turns
    task mem _ ended
  exact post

def plainServiceEnv : ServiceEnv where
  copyableText _ := []
  copyableSteps _ := []
  hasProbe := false

/-- The entry matches, and the handshake succeeds. -/
def matchedAnswers : ∀ request, ServiceAnswer request
  | .install _ _ | .verify _ | .remove _ | .restore _ _ =>
    .ok { performed := false, installed := some true, entryMatchesCurrent := some true }
  | .state _ => .ok ⟨true, some true, some true, some true, some 0, 0⟩
  | .handshake => (.answered true [], 1)
  | .probe => .answered none

/-- Two requests; the first waits for its handshake while the second starts. -/
def verifyTurns : List (LoopTurn ServiceOp ServiceAwait ServiceAnswer) :=
  [.start (.verify (text "codex")), .resume 0 matchedAnswers, .start (.status (text "codex")),
    .resume 0 matchedAnswers]

def showsVerified : Option (Except ServiceError ServiceReturn) → Bool
  | some (.ok (.operation result)) => result.handshake = .verified
  | _ => false

theorem verified_backed_verify :
    ∃ result, (∃ task ∈ (run (Loop.turn serveService fun op =>
          (serviceRoutine plainServiceEnv op).run) { shared := {} } verifyTurns).tasks,
        task.result = some (.ok (.operation result))) ∧
      result.handshake = .verified ∧ result.entryMatchesCurrent = some true := by
  have shown : ((run (Loop.turn serveService fun op => (serviceRoutine plainServiceEnv op).run)
      { shared := {} } verifyTurns).tasks.any fun task => showsVerified task.result) = true := by
    decide +kernel
  obtain ⟨task, mem, shown⟩ := List.any_eq_true.1 shown
  unfold showsVerified at shown
  split at shown
  next result ended =>
    have verified := of_decide_eq_true shown
    exact ⟨result, ⟨task, mem, ended⟩, verified,
      verified_backed plainServiceEnv {} verifyTurns task mem (.operation result) ended verified⟩
  next => cases shown

end EvoBlue.Guarantees
