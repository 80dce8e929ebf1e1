import EvoBlue.Kernel.Runs
import EvoBlue.Source.PipelineWorkers
import EvoBlue.Source.StageExits

/-!
# The rows of a working pipeline

Seven columns of a job are coupled, and ten operations each write some of them.
`RowFormed` says how they hang together, `WorkerFormed` what a worker may assume
while its lease lasts: the job is still in the status of the stage it executes.
Together they are kept by every event.
-/

namespace EvoBlue.Source

open EvoBlue.Kernel

/-- How status, stage, lease, attempts and due time of a job hang together. -/
structure RowFormed (row : Job) : Prop where
  leased : row.leaseOwner = none ↔ row.leaseExpiresAt = none
  attempts : row.attempt ≤ row.maxAttempts
  running : row.status.isRunning = true → row.stage = some row.status
  retrying : row.status = .retryWait →
    row.leaseOwner = none ∧ row.nextRetryAt.isSome = true ∧
      ∃ stage, row.stage = some stage ∧ stage.isRunning = true
  waiting : row.status = .waitingForModel →
    row.leaseOwner = none ∧ row.stage = some .transcribing
  queued : row.status = .queued → row.leaseOwner = none ∧ row.stage = none

namespace RowFormed

variable {row : Job}

/-- A finished job: only its lease and its attempts are asked for. -/
theorem of_terminal (terminal : row.status.isTerminal = true) (owner : row.leaseOwner = none)
    (expiry : row.leaseExpiresAt = none) (attempts : row.attempt ≤ row.maxAttempts) :
    RowFormed row where
  leased := by simp [owner, expiry]
  attempts := attempts
  running running := by
    rw [isTerminal_not_running terminal] at running
    cases running
  retrying retries := by
    rw [retries] at terminal
    cases terminal
  waiting waits := by
    rw [waits] at terminal
    cases terminal
  queued queued := by
    rw [queued] at terminal
    cases terminal

theorem of_running (running : row.status.isRunning = true) (stage : row.stage = some row.status)
    (leased : row.leaseOwner = none ↔ row.leaseExpiresAt = none)
    (attempts : row.attempt ≤ row.maxAttempts) : RowFormed row where
  leased := leased
  attempts := attempts
  running _ := stage
  retrying retries := by
    rw [retries] at running
    cases running
  waiting waits := by
    rw [waits] at running
    cases running
  queued queued := by
    rw [queued] at running
    cases running

/-- A job under a lease is running or finished. -/
theorem not_idle (formed : RowFormed row) {owner : String} (owned : row.leaseOwner = some owner) :
    row.status ≠ .retryWait ∧ row.status ≠ .waitingForModel ∧ row.status ≠ .queued := by
  refine ⟨fun retries => ?_, fun waits => ?_, fun queued => ?_⟩
  · rw [(formed.retrying retries).1] at owned
    cases owned
  · rw [(formed.waiting waits).1] at owned
    cases owned
  · rw [(formed.queued queued).1] at owned
    cases owned

/-- A write that leaves status, stage, attempts and due time alone. -/
theorem released (formed : RowFormed row) (now : Time) : RowFormed (releasedRow now row) where
  leased := by simp [releasedRow]
  attempts := formed.attempts
  running := formed.running
  retrying retries := ⟨rfl, (formed.retrying retries).2⟩
  waiting waits := ⟨rfl, (formed.waiting waits).2⟩
  queued queued := ⟨rfl, (formed.queued queued).2⟩

theorem renewed (formed : RowFormed row) {owner : String} (owned : row.leaseOwner = some owner)
    (now leaseSeconds : Time) : RowFormed (renewedRow now leaseSeconds row) where
  leased := by simp [renewedRow, owned]
  attempts := formed.attempts
  running := formed.running
  retrying := formed.retrying
  waiting := formed.waiting
  queued := formed.queued

theorem displayed (formed : RowFormed row) (update : DisplayUpdate) :
    RowFormed (displayedRow update row) := by
  obtain ⟨title, platform, subtitleProbe, same⟩ := displayedRow_frame update row
  rw [same]
  exact ⟨formed.leased, formed.attempts, formed.running, formed.retrying, formed.waiting,
    formed.queued⟩

theorem submitted (submission : Submission) (fingerprint url : String) (id : Nat) :
    RowFormed (submittedJob submission fingerprint url id) where
  leased := Iff.rfl.trans (by simp [submittedJob])
  attempts := Nat.zero_le 3
  running running := by cases running
  retrying retries := by cases retries
  waiting waits := by cases waits
  queued _ := ⟨rfl, rfl⟩

/-- The status a claim enters is running, and is the stage the job is in. -/
theorem claimStatus (formed : RowFormed row) {now : Time}
    (claimable : claimableWhere now row = true) :
    (claimStatus row).1.isRunning = true ∧ (claimStatus row).2 = some (claimStatus row).1 := by
  unfold claimableWhere at claimable
  simp only [Bool.and_eq_true, Bool.or_eq_true, decide_eq_true_eq] at claimable
  rcases claimable.2 with (queued | ⟨retries, _⟩) | ⟨running, _⟩
  · simp [EvoBlue.Source.claimStatus, queued, JobStatus.isRunning, runningStates, JobStatus.all,
      terminalJobStatuses]
  · obtain ⟨stage, stored, running⟩ := (formed.retrying retries).2.2
    simp [EvoBlue.Source.claimStatus, retries, stored, running]
  · have other : row.status ≠ .queued ∧ row.status ≠ .retryWait := by
      constructor <;> (intro same; rw [same] at running; cases running)
    simp [EvoBlue.Source.claimStatus, other.1, other.2, running]

theorem claimed (formed : RowFormed row) (owner : String) (leaseSeconds : Time) {now : Time}
    (claimable : claimableWhere now row = true) :
    RowFormed (claimChange row owner leaseSeconds now row) := by
  have entered := formed.claimStatus claimable
  have spare : row.attempt < row.maxAttempts := by
    simp only [claimableWhere, Bool.and_eq_true, decide_eq_true_eq] at claimable
    exact claimable.1
  exact of_running entered.1 entered.2 (by simp [claimChange, claimedRow]) spare

end RowFormed

/-! ## The transition table, once more -/

theorem isRunning_of_retry {src : JobStatus} (valid : isValidTransition src .retryWait = true) :
    src.isRunning = true := by
  cases src <;> first | rfl | cases valid

/-- A move with an artifact leads into a running stage. -/
theorem stageProducts_artifact {src target : JobStatus} {artifactType : String}
    (listed : (src, target, some artifactType) ∈ stageProducts) : target.isRunning = true := by
  simp only [stageProducts, List.mem_cons, Prod.mk.injEq, List.not_mem_nil, or_false] at listed
  rcases listed with h | h | h | h | h | h | h | h | h | h | h <;>
    first | (rw [h.2.1]; rfl) | cases h.2.2

/-- A move without one leads into a stage, into the park, or to the end. -/
theorem stageProducts_plain {src target : JobStatus} (listed : (src, target, none) ∈ stageProducts) :
    target = .downloadingAudio ∨ src = .transcribing ∧ target = .waitingForModel ∨
      target = .completed := by
  simp only [stageProducts, List.mem_cons, Prod.mk.injEq, List.not_mem_nil, or_false, reduceCtorEq,
    and_false, false_or] at listed
  rcases listed with h | h | h
  · exact .inl h.2.1
  · exact .inr (.inl ⟨h.1, h.2.1⟩)
  · exact .inr (.inr h.2.1)

/-! ## What an outcome's branch leaves -/

theorem leaseGuard_iff {job row : Job} {owner : String} {now : Time} :
    leaseGuard job owner now row = true ↔
      row.id = job.id ∧ row.status = job.status ∧ row.leaseOwner = some owner ∧
        leaseLive row now = true := by
  simp [leaseGuard, and_assoc]

theorem failedRow_formed {row : Job} (formed : RowFormed row) {retryable : Bool}
    (valid : isValidTransition row.status (failureStatus retryable) = true)
    {nextRetryAt : Option Time} (due : retryable = true → nextRetryAt.isSome = true)
    (errorCode : String) (errorDetail : Option String) (now : Time) :
    RowFormed (failedRow (failureStatus retryable) errorCode errorDetail retryable nextRetryAt now
      row) := by
  cases retryable with
  | false => exact .of_terminal rfl rfl rfl formed.attempts
  | true =>
    have running := isRunning_of_retry valid
    exact
      { leased := by simp [failedRow]
        attempts := formed.attempts
        running := fun runs => by cases runs
        retrying := fun _ => ⟨rfl, due rfl, row.status, formed.running running, running⟩
        waiting := fun waits => by cases waits
        queued := fun queued => by cases queued }

theorem committedRow_formed {row : Job} (formed : RowFormed row) {owner : String}
    (owned : row.leaseOwner = some owner) (view : Job) {target : JobStatus}
    (running : target.isRunning = true) (now leaseSeconds : Time) (progress : Option Int) :
    RowFormed (commitValues view target now leaseSeconds progress row) := by
  have open_ : target.isTerminal = false := by
    cases terminal : target.isTerminal with
    | false => rfl
    | true =>
      rw [isTerminal_not_running terminal] at running
      cases running
  refine .of_running running ?_ ?_ formed.attempts
  · simp [commitValues, committedRow, running]
  · simp [commitValues, committedRow, open_, owned]

theorem advancedRow_formed {row view : Job} (formed : RowFormed row) (seen : RowFormed view)
    {owner : String} (owned : row.leaseOwner = some owner) (pendingCancel : Option Time)
    {target : JobStatus}
    (plain : target = .downloadingAudio ∨
      view.status = .transcribing ∧ target = .waitingForModel ∨ target = .completed)
    (now leaseSeconds : Time) (progress : Option Int) :
    RowFormed (advanceValues view pendingCancel target now leaseSeconds none progress row) := by
  rcases plain with rfl | ⟨transcribing, rfl⟩ | rfl
  · exact .of_running rfl rfl (by simp [advanceValues, advancedRow, owned, JobStatus.isTerminal,
      terminalJobStatuses]) formed.attempts
  · have staged : view.stage = some .transcribing := by
      rw [← transcribing]
      exact seen.running (by rw [transcribing]; rfl)
    cases pendingCancel with
    | some requested => exact .of_terminal rfl rfl rfl formed.attempts
    | none =>
      exact
        { leased := by simp [advanceValues, advancedRow]
          attempts := formed.attempts
          running := fun runs => by cases runs
          retrying := fun retries => by cases retries
          waiting := fun _ => ⟨rfl, staged⟩
          queued := fun queued => by cases queued }
  · exact .of_terminal rfl rfl rfl formed.attempts

theorem retryDueAt_some (nextRetryAt : Option Time) (now : Time) :
    (retryDueAt nextRetryAt true now).isSome = true := by
  cases nextRetryAt <;> rfl

/-- Applying an outcome of the stage the job is in leaves the row well formed. -/
theorem outcomeValues_formed {env : HandlerEnv} {handled view row displayed : Job}
    {outcome : StageOutcome} (returnable : Returnable env handled outcome)
    (stage : row.status = handled.status) (formed : RowFormed displayed) (seen : RowFormed view)
    (sameStatus : displayed.status = row.status) (sameOwner : displayed.leaseOwner = row.leaseOwner)
    {owner : String} {now : Time} (held : leaseGuard view owner now row = true)
    (legal : OutcomeLegal view outcome) (leaseSeconds dueNow : Time) :
    RowFormed (outcomeValues view row leaseSeconds dueNow now outcome displayed) := by
  obtain ⟨_, current, owned, _⟩ := leaseGuard_iff.1 held
  rw [← sameOwner] at owned
  unfold outcomeValues
  by_cases reported : outcome.errorCode = some "CANCELLED_BY_USER"
  · rw [if_pos reported]
    exact .of_terminal rfl rfl rfl formed.attempts
  · rw [if_neg reported]
    have valid := legal.resolve_left reported
    rw [← current, ← sameStatus] at valid
    unfold outcomeTarget at valid
    rcases returnable with failed | ⟨noError, _, target, targeted, listed, _⟩
    · obtain ⟨errorCode, failure⟩ := Option.isSome_iff_exists.1 failed
      rw [failure] at valid ⊢
      refine failedRow_formed formed valid (fun retryable => ?_) errorCode _ now
      rw [retryable]
      exact retryDueAt_some _ _
    · rw [noError, targeted]
      cases registers : outcome.artifact with
      | some artifact =>
        rw [registers] at listed
        exact committedRow_formed formed owned view (stageProducts_artifact listed) now leaseSeconds
          _
      | none =>
        rw [registers] at listed
        refine advancedRow_formed formed seen owned row.cancelRequestedAt ?_ now leaseSeconds _
        rw [← current, stage]
        exact stageProducts_plain listed

theorem cancelRequestedRow_formed {row : Job} (formed : RowFormed row) (now : Time) :
    RowFormed (cancelRequestedRow (isIdle row) now row) := by
  unfold cancelRequestedRow
  split
  · exact .of_terminal rfl rfl rfl formed.attempts
  · exact ⟨formed.leased, formed.attempts, formed.running, formed.retrying, formed.waiting,
      formed.queued⟩

theorem advancedRow_leaseOwner {toStatus : JobStatus} {newStage : Option JobStatus} {progress : Int}
    {cancelLanded : Bool} {leaseSeconds now : Time} {row : Job} {owner : String}
    (owned : (advancedRow toStatus newStage progress cancelLanded leaseSeconds now row).leaseOwner =
      some owner) : row.leaseOwner = some owner := by
  simp only [advancedRow] at owned
  split at owned
  · cases owned
  · exact owned

/-- Where an outcome of a handler leaves its job. -/
inductive OutcomeEnd (outcome : StageOutcome) (row stored after : Job) : Prop
  | cancelled (status : after.status = .cancelled)
  | failed (reported : outcome.errorCode.isSome = true)
      (other : outcome.errorCode ≠ some "CANCELLED_BY_USER")
      (status : after.status = failureStatus outcome.retryable) (stage : after.stage = stored.stage)
  | moved (onwards : after.status.isRunning = true ∨ after.status = .completed)
  | parked (noError : outcome.errorCode = none) (targeted : outcome.target = some .waitingForModel)
      (uncancelled : row.cancelRequestedAt = none) (status : after.status = .waitingForModel)

theorem outcomeValues_end {env : HandlerEnv} {handled : Job} {outcome : StageOutcome}
    (returnable : Returnable env handled outcome) (view row stored : Job)
    (leaseSeconds dueNow now : Time) :
    OutcomeEnd outcome row stored
      (outcomeValues view row leaseSeconds dueNow now outcome stored) := by
  unfold outcomeValues
  by_cases reported : outcome.errorCode = some "CANCELLED_BY_USER"
  · rw [if_pos reported]
    exact .cancelled rfl
  · rw [if_neg reported]
    rcases returnable with failed | ⟨noError, _, target, targeted, listed, _⟩
    · obtain ⟨errorCode, failure⟩ := Option.isSome_iff_exists.1 failed
      rw [failure]
      exact .failed failed reported rfl rfl
    · rw [noError, targeted]
      cases registers : outcome.artifact with
      | some artifact =>
        rw [registers] at listed
        exact .moved (.inl (stageProducts_artifact listed))
      | none =>
        rw [registers] at listed
        rcases stageProducts_plain listed with rfl | ⟨_, rfl⟩ | rfl
        · exact .moved (.inl rfl)
        · cases requested : row.cancelRequestedAt with
          | some at_ => exact .cancelled rfl
          | none => exact .parked noError targeted requested rfl
        · exact .moved (.inr rfl)

/-- The branch that parks a job: the stage asked for it, and nobody had cancelled. -/
theorem OutcomeEnd.waiting {outcome : StageOutcome} {row stored after : Job}
    (ends : OutcomeEnd outcome row stored after) (waits : after.status = .waitingForModel) :
    outcome.errorCode = none ∧ outcome.target = some .waitingForModel ∧
      row.cancelRequestedAt = none := by
  cases ends with
  | cancelled status => rw [status] at waits; cases waits
  | failed reported other status =>
    rw [status] at waits
    unfold failureStatus at waits
    split at waits <;> cases waits
  | moved onwards => rw [waits] at onwards; rcases onwards with h | h <;> cases h
  | parked noError targeted uncancelled => exact ⟨noError, targeted, uncancelled⟩

/-- The branch that leaves a job to its retry. -/
theorem OutcomeEnd.retryWait {outcome : StageOutcome} {row stored after : Job}
    (ends : OutcomeEnd outcome row stored after) (retries : after.status = .retryWait) :
    outcome.errorCode.isSome = true ∧ outcome.errorCode ≠ some "CANCELLED_BY_USER" ∧
      outcome.retryable = true ∧ after.stage = stored.stage := by
  cases ends with
  | cancelled status => rw [status] at retries; cases retries
  | failed reported other status stage =>
    rw [status] at retries
    unfold failureStatus at retries
    split at retries
    next retryable => exact ⟨reported, other, retryable, stage⟩
    next => cases retries
  | moved onwards => rw [retries] at onwards; rcases onwards with h | h <;> cases h
  | parked _ _ _ status => rw [status] at retries; cases retries

theorem OutcomeEnd.not_queued {outcome : StageOutcome} {row stored after : Job}
    (ends : OutcomeEnd outcome row stored after) : after.status ≠ .queued := by
  intro queued
  cases ends with
  | cancelled status => rw [status] at queued; cases queued
  | failed reported other status =>
    rw [status] at queued
    unfold failureStatus at queued
    split at queued <;> cases queued
  | moved onwards => rw [queued] at onwards; rcases onwards with h | h <;> cases h
  | parked _ _ _ status => rw [status] at queued; cases queued

/-- No outcome hands the job to another owner. -/
theorem outcomeValues_leaseOwner {view row stored : Job} {leaseSeconds dueNow now : Time}
    {outcome : StageOutcome} {owner : String}
    (owned : (outcomeValues view row leaseSeconds dueNow now outcome stored).leaseOwner =
      some owner) : stored.leaseOwner = some owner := by
  unfold outcomeValues at owned
  by_cases reported : outcome.errorCode = some "CANCELLED_BY_USER"
  · rw [if_pos reported] at owned
    cases owned
  · rw [if_neg reported] at owned
    cases error : outcome.errorCode with
    | some errorCode =>
      simp only [error] at owned
      cases owned
    | none =>
      cases targeted : outcome.target with
      | none =>
        simp only [error, targeted] at owned
        cases owned
      | some target =>
        cases registers : outcome.artifact with
        | some artifact =>
          simp only [error, targeted, registers, commitValues, committedRow] at owned
          split at owned
          · cases owned
          · exact owned
        | none =>
          simp only [error, targeted, registers] at owned
          exact advancedRow_leaseOwner owned

theorem identityMapped_formed {job row : Job} (jobFormed : RowFormed job)
    (rowFormed : RowFormed row) : RowFormed (identityMapped (some job) row) := by
  unfold identityMapped
  simp only
  split
  · exact jobFormed
  · exact rowFormed

/-! ## Workers -/

/-- While the owner holds the lease of the job, the job is in this status. -/
def Tenant (jobs : JobsDb) (owner jobId : String) (status : JobStatus) : Prop :=
  ∀ row, jobs.findJob jobId = some row → row.leaseOwner = some owner → row.status = status

def JobsFormed (jobs : JobsDb) : Prop := ∀ row ∈ jobs.jobs, RowFormed row

def SnapshotFormed (snapshot : Option PipelineDb) : Prop := ∀ db ∈ snapshot, JobsFormed db.jobs

theorem snapshotFormed_none : SnapshotFormed none := fun _ absent => nomatch absent

/-- What a worker may rely on. -/
def WorkerFormed (config : PipelineConfig) (jobs : JobsDb) (owner : String) (run : WorkerRun) :
    Prop :=
  SnapshotFormed run.snapshot ∧
    match run.stage with
    | .handling job rest => RowFormed job ∧ Tenant jobs owner job.jobId job.status ∧
        rest.Yields (fun _ _ => True) (Returnable config.handlers job)
    | .returned job outcome => RowFormed job ∧ ∃ handled : Job,
        Tenant jobs owner job.jobId handled.status ∧ Returnable config.handlers handled outcome
    | .failing _ loaded _ => ∀ job ∈ loaded, RowFormed job

structure PipelineFormed (config : PipelineConfig) (pipeline : Pipeline) : Prop where
  keyed : pipeline.db.jobs.Keyed
  rows : JobsFormed pipeline.db.jobs
  workers : ∀ owner run, pipeline.workers owner = some run →
    WorkerFormed config pipeline.db.jobs owner run

namespace Pipeline

variable {config : PipelineConfig} {pipeline : Pipeline}

/-- Nobody takes a job from a worker that keeps its lease, nor moves it on. -/
theorem RowMove.tenant {owner : String} {run : WorkerRun} {event : PipelineEvent} {row after : Job}
    (working : pipeline.workers owner = some run) (unsettled : Unsettled owner run event)
    (moved : RowMove config pipeline event row after) (owned : after.leaseOwner = some owner) :
    row.leaseOwner = some owner ∧ after.status = row.status := by
  cases moved with
  | unchanged => exact ⟨owned, rfl⟩
  | claimed free =>
    cases owned
    rw [free] at working
    cases working
  | cancelRequested now active =>
    unfold cancelRequestedRow at owned ⊢
    split at owned
    · cases owned
    next busy =>
      rw [if_neg busy]
      exact ⟨owned, rfl⟩
  | pinned => exact ⟨owned, rfl⟩
  | renewed => exact ⟨owned, rfl⟩
  | @settled actor dueNow now job _ displayed view outcome snapshot returned own shown viewed held =>
    have keeps : displayed.leaseOwner = row.leaseOwner := by
      obtain ⟨title, platform, subtitleProbe, same⟩ :=
        displayedRow_frame (outcomeDisplay outcome) row
      rw [shown, same]
    have mine : row.leaseOwner = some owner := keeps ▸ outcomeValues_leaseOwner owned
    obtain ⟨_, _, holder, _⟩ := leaseGuard_iff.1 held
    rw [mine] at holder
    cases holder
    rw [returned] at working
    cases working
    rcases unsettled with other | ⟨_, _, handling⟩
    · exact absurd rfl (other dueNow now)
    · cases handling
  | _ => cases owned

/-- What every move of a row keeps, given what its worker may rely on. -/
theorem RowMove.formed {event : PipelineEvent} {row after : Job} (keyed : pipeline.db.jobs.Keyed)
    (workers : ∀ owner run, pipeline.workers owner = some run →
      WorkerFormed config pipeline.db.jobs owner run)
    (mem : row ∈ pipeline.db.jobs.jobs)
    (moved : RowMove config pipeline event row after) (formed : RowFormed row) :
    RowFormed after := by
  cases moved with
  | unchanged => exact formed
  | claimed free claimable => exact formed.claimed _ _ claimable
  | recovered => exact formed.released _
  | cancelRequested now active => exact cancelRequestedRow_formed formed now
  | resumed now waits => exact .of_running rfl rfl (by simp [resumedRow]) formed.attempts
  | landed now dangling => exact .of_terminal rfl rfl rfl formed.attempts
  | exhausted now spent => exact .of_terminal rfl rfl rfl formed.attempts
  | pinned =>
    exact ⟨formed.leased, formed.attempts, formed.running, formed.retrying, formed.waiting,
      formed.queued⟩
  | @renewed _ owner now _ held =>
    have owned : row.leaseOwner = some owner := by
      simp only [ownerGuard, Bool.and_eq_true, decide_eq_true_eq] at held
      exact held.1.2
    exact formed.renewed owned _ _
  | @settled owner dueNow now job _ displayed view outcome snapshot returned own shown viewed held
      legal =>
    obtain ⟨_, jobFormed, handled, tenant, returnable⟩ := workers owner _ returned
    obtain ⟨title, platform, subtitleProbe, same⟩ :=
      displayedRow_frame (outcomeDisplay outcome) row
    have owned := (leaseGuard_iff.1 held).2.2.1
    have stage := tenant row (own ▸ keyed.findJob_of_mem mem) owned
    subst shown viewed
    exact outcomeValues_formed returnable stage (formed.displayed _)
      (identityMapped_formed jobFormed (formed.displayed _)) (by rw [same]) (by rw [same]) held
      legal _ _
  | broken => exact .of_terminal rfl rfl rfl formed.attempts

theorem rows_step (formed : PipelineFormed config pipeline) (event : PipelineEvent) :
    JobsFormed (pipeline.step config event).db.jobs := by
  intro after mem
  have found := (@step_keyed config _ formed.keyed event).findJob_of_mem mem
  cases before : pipeline.db.jobs.findJob after.jobId with
  | none =>
    obtain ⟨submission, fingerprint, url, id, _, rfl⟩ := step_unknown formed.keyed before found
    exact .submitted submission fingerprint url id
  | some row =>
    obtain ⟨moved, foundMoved, move⟩ := @step_moved config _ formed.keyed event _ _ before
    rw [found] at foundMoved
    cases foundMoved
    have memRow := JobsDb.mem_of_findJob before
    exact move.formed formed.keyed formed.workers memRow (formed.rows row memRow)

/-- What a worker knows of its job stays true until it writes itself. -/
theorem tenant_step (keyed : pipeline.db.jobs.Keyed) {owner : String} {run : WorkerRun}
    {event : PipelineEvent} (working : pipeline.workers owner = some run)
    (unsettled : Unsettled owner run event) {jobId : String} {status : JobStatus}
    (tenant : Tenant pipeline.db.jobs owner jobId status) :
    Tenant (pipeline.step config event).db.jobs owner jobId status := by
  intro after found owned
  cases before : pipeline.db.jobs.findJob jobId with
  | none =>
    obtain ⟨submission, fingerprint, url, id, _, rfl⟩ := step_unknown keyed before found
    cases owned
  | some row =>
    obtain ⟨moved, foundMoved, move⟩ := @step_moved config _ keyed event _ _ before
    rw [found] at foundMoved
    cases foundMoved
    obtain ⟨held, same⟩ := move.tenant working unsettled owned
    rw [same]
    exact tenant row before held

theorem beginStage_formed {jobs : JobsDb} {job : Job} {run : WorkerRun} {owner : String}
    (formed : RowFormed job) (found : jobs.findJob job.jobId = some job)
    (begins : beginStage config job = some run) : WorkerFormed config jobs owner run := by
  unfold beginStage at begins
  split at begins
  · cases begins
  · split at begins
    next handler handles =>
      cases begins
      refine ⟨snapshotFormed_none, formed, fun row stored _ => ?_,
        productionHandler_yields handles⟩
      rw [found] at stored
      cases stored
      rfl
    next =>
      cases begins
      refine ⟨snapshotFormed_none, ?_⟩
      rintro _ ⟨⟩
      exact formed

/-- A session reads the tables as they are, or goes on reading what it read. -/
theorem answerCall_snapshot (pipeline : Pipeline) (owner : String) (job : Job)
    (snapshot : Option PipelineDb) (now : Time) (outside : ∀ call, Answer call) (call : Call) :
    ∀ db ∈ (answerCall config pipeline owner job snapshot now outside call).snapshot,
      db ∈ snapshot ∨ db = pipeline.db := by
  intro db reads
  have taken : db ∈ some (snapshot.getD pipeline.db) → db ∈ snapshot ∨ db = pipeline.db := by
    rintro ⟨⟩
    cases snapshot with
    | none => exact .inr rfl
    | some db => exact .inl rfl
  cases call <;> first | exact taken reads | exact .inl reads | cases reads

theorem answered_formed (formed : PipelineFormed config pipeline) {snapshot : Option PipelineDb}
    (seen : SnapshotFormed snapshot) (owner : String) (job : Job) (now : Time)
    (outside : ∀ call, Answer call) (call : Call) :
    SnapshotFormed (answerCall config pipeline owner job snapshot now outside call).snapshot := by
  intro db reads
  rcases answerCall_snapshot pipeline owner job snapshot now outside call db reads with old | rfl
  · exact seen db old
  · exact formed.rows

theorem worker_step (formed : PipelineFormed config pipeline) (event : PipelineEvent)
    {owner : String} {run : WorkerRun}
    (works : (pipeline.step config event).workers owner = some run) :
    WorkerFormed config (pipeline.step config event).db.jobs owner run := by
  have moves := @step_worker config _ formed.keyed owner event
  rw [works] at moves
  cases moves with
  | unchanged working quiet =>
    obtain ⟨seen, stage⟩ := formed.workers owner run working
    refine ⟨seen, ?_⟩
    split
    next job rest handling =>
      rw [handling] at stage
      exact ⟨stage.1, tenant_step formed.keyed working quiet.unsettled stage.2.1, stage.2.2⟩
    next job outcome returned =>
      rw [returned] at stage
      obtain ⟨jobFormed, handled, tenant, returnable⟩ := stage
      exact ⟨jobFormed, handled, tenant_step formed.keyed working quiet.unsettled tenant, returnable⟩
    next job loaded detail failing =>
      rw [failing] at stage
      exact stage
  | begun found begins =>
    exact beginStage_formed (rows_step formed event _ (JobsDb.mem_of_findJob found)) found begins
  | @answered now outside job call next snapshot value working given =>
    obtain ⟨seen, jobFormed, tenant, yields⟩ := formed.workers owner _ working
    refine ⟨answered_formed formed seen owner job now outside call, jobFormed, ?_, yields.2 value trivial⟩
    exact tenant_step formed.keyed working (.inr ⟨_, _, rfl⟩) tenant
  | @broke _ job _ _ inTransaction working =>
    refine ⟨snapshotFormed_none, fun loaded held => ?_⟩
    cases inTransaction with
    | true => cases held
    | false =>
      cases held
      exact (formed.workers owner _ working).2.1
  | @refreshed job row outcome snapshot working found =>
    obtain ⟨seen, _, tenant, yields⟩ := formed.workers owner _ working
    have view : JobsFormed (snapshot.getD pipeline.db).jobs := by
      cases snapshot with
      | none => exact formed.rows
      | some db => exact seen db rfl
    refine ⟨?_, view row (JobsDb.mem_of_findJob found), job, ?_, yields outcome rfl⟩
    · rintro _ ⟨⟩
      exact view
    · rw [JobsDb.jobId_of_findJob found]
      exact tenant_step formed.keyed working (.inr ⟨_, _, rfl⟩) tenant

/-- One event. -/
theorem formed_step (formed : PipelineFormed config pipeline) (event : PipelineEvent) :
    PipelineFormed config (pipeline.step config event) where
  keyed := step_keyed formed.keyed event
  rows := rows_step formed event
  workers _ _ works := worker_step formed event works

theorem formed_empty (config : PipelineConfig) : PipelineFormed config {} where
  keyed := .empty
  rows := fun _ mem => nomatch mem
  workers := fun _ _ works => nomatch works

/-- Every run. -/
theorem formed_after (config : PipelineConfig) (events : List PipelineEvent) :
    PipelineFormed config (after config events) :=
  @run_invariant _ _ (step config) (PipelineFormed config)
    (fun _ event formed => formed_step formed event) _ (formed_empty config) events

/-- A property of rows that submissions establish and admitted events keep holds
of every job after every run of admitted events. -/
theorem after_rows {admits : Pipeline → PipelineEvent → Prop} {kept : Job → Prop}
    (begins : ∀ submission fingerprint url id, kept (submittedJob submission fingerprint url id))
    (moves : ∀ pipeline event row after, PipelineFormed config pipeline → admits pipeline event →
      row ∈ pipeline.db.jobs.jobs → RowMove config pipeline event row after → kept row → kept after)
    {events : List PipelineEvent} (meets : Meets (step config) admits {} events) :
    ∀ row ∈ (after config events).db.jobs.jobs, kept row := by
  refine (@run_of_meets _ _ (step config) admits (fun pipeline => PipelineFormed config pipeline ∧
    ∀ row ∈ pipeline.db.jobs.jobs, kept row) ?_ _ _ ⟨formed_empty config, ?_⟩ meets).2
  · intro pipeline event admitted ⟨formed, all⟩
    have formedAfter := formed_step formed event
    refine ⟨formedAfter, fun row mem => ?_⟩
    have found := formedAfter.keyed.findJob_of_mem mem
    cases before : pipeline.db.jobs.findJob row.jobId with
    | none =>
      obtain ⟨submission, fingerprint, url, id, _, rfl⟩ := step_unknown formed.keyed before found
      exact begins submission fingerprint url id
    | some old =>
      obtain ⟨moved, foundMoved, move⟩ := @step_moved config _ formed.keyed event _ _ before
      rw [found] at foundMoved
      cases foundMoved
      have memOld := JobsDb.mem_of_findJob before
      exact moves pipeline event old row formed admitted memOld move (all old memOld)
  · intro row mem
    cases mem

end Pipeline

end EvoBlue.Source
