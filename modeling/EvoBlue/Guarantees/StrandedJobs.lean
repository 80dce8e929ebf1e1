import EvoBlue.Source.JobMoves
import EvoBlue.Source.Worker

/-!
# Stranded jobs in a running engine

A job is stranded when it is neither finished nor parked, no live lease covers
it, and no clock reading would let `claim_next_job` select it. The attempt
counter is compared only when a job is claimed; a retry, a lease that runs out
and a resumed park do not look at it. Only a restart fails such a job.

The runs are those of a running engine: the operations of the workers and of the
API at the clock, and the clock moving on. A worker that dies takes no further
part.
-/

namespace EvoBlue.Guarantees

open EvoBlue.Kernel EvoBlue.Source

/-- `worker_lease_seconds`, which the settings require to be positive. -/
structure LeaseTerm where
  seconds : Time
  positive : 0 < seconds

structure RunningEngine where
  clock : Time
  db : JobsDb

/-- The operations a running engine performs, each at the clock. -/
inductive EngineOp where
  | submitVideo (submission : Submission)
  | claimNextJob (owner : String)
  | renewLease (jobId owner : String)
  | advanceJob (jobId owner : String) (toStatus : JobStatus) (progress : Option Int)
  | commitArtifactAndAdvance (jobId owner : String) (toStatus : JobStatus)
      (artifact : ArtifactRecord) (progress : Option Int)
  | markFailure (jobId owner errorCode : String) (retryable : Bool) (nextRetryAt : Option Time)
      (errorDetail : Option String)
  | markCancelled (jobId owner : String)
  | requestCancellation (jobId : String)
  | resumeWaitingJobs (modelId : String)
  | pinJobAsrRoute (jobId owner providerId modelId modelVersion : String)
      (recommendationModelId : Option String)
  | saveArtifactInline (jobId owner stage artifactType inputFingerprint : String)
      (schemaVersion : Nat) (payloadJson : String)

/-- The repository operation, at a clock reading. -/
def EngineOp.at (term : LeaseTerm) (now : Time) : EngineOp → JobOp
  | .submitVideo submission => .submitVideo { submission with now := now }
  | .claimNextJob owner => .claimNextJob owner term.seconds now
  | .renewLease jobId owner => .renewLease jobId owner now term.seconds
  | .advanceJob jobId owner toStatus progress =>
    .advanceJob jobId owner toStatus now term.seconds none progress
  | .commitArtifactAndAdvance jobId owner toStatus artifact progress =>
    .commitArtifactAndAdvance jobId owner toStatus now term.seconds artifact progress
  | .markFailure jobId owner errorCode retryable nextRetryAt errorDetail =>
    .markFailure jobId owner now errorCode retryable (retryDueAt nextRetryAt retryable now)
      errorDetail
  | .markCancelled jobId owner => .markCancelled jobId owner now
  | .requestCancellation jobId => .requestCancellation jobId now
  | .resumeWaitingJobs modelId => .resumeWaitingJobs modelId now
  | .pinJobAsrRoute jobId owner providerId modelId modelVersion recommendationModelId =>
    .pinJobAsrRoute jobId owner now providerId modelId modelVersion recommendationModelId
  | .saveArtifactInline jobId owner stage artifactType inputFingerprint schemaVersion payloadJson =>
    .saveArtifactInline jobId owner now stage artifactType inputFingerprint schemaVersion payloadJson

inductive EngineLabel where
  | tick (reading : Time)
  | perform (op : EngineOp)

variable (env : SubmitEnv) (term : LeaseTerm)

def engineStep (engine : RunningEngine) : EngineLabel → RunningEngine
  | .tick reading => { engine with clock := max engine.clock reading }
  | .perform op => { engine with db := jobStep env engine.db (op.at term engine.clock) }

/-- Neither finished nor waiting for a model. -/
def Active (row : Job) : Prop := row.status.isTerminal = false ∧ row.status ≠ .waitingForModel

/-- An active job is under a live lease or will be selectable. -/
def NoStrandedJob (engine : RunningEngine) : Prop :=
  ∀ row ∈ engine.db.jobs, Active row →
    leaseLive row engine.clock = true ∨
      ∃ later, engine.clock ≤ later ∧ claimableWhere later row = true

/-- Attempts are left, and a retry has a due time. -/
def Reclaimable (row : Job) : Prop :=
  row.attempt < row.maxAttempts ∧ (row.status = .retryWait → row.nextRetryAt.isSome)

/-- The steps that do not strand a job: no lease runs out in a last permitted
attempt, no such attempt ends in a retryable failure, and no resumed job has
used its attempts up. -/
def Unstranding (engine : RunningEngine) : EngineLabel → Prop
  | .tick reading => ∀ row ∈ engine.db.jobs, Active row → leaseLive row engine.clock = true →
      leaseLive row (max engine.clock reading) = true ∨ Reclaimable row
  | .perform (.markFailure jobId owner _ true _ _) => ∀ row, engine.db.findJob jobId = some row →
      leaseGuard row owner engine.clock row = true → row.attempt < row.maxAttempts
  | .perform (.resumeWaitingJobs modelId) => ∀ row ∈ engine.db.jobs,
      isResumable modelId row = true → row.attempt < row.maxAttempts
  | .perform _ => True

/-- Selectable at some later time is the same as having attempts left, and a due
time when it is a retry. -/
theorem claimable_later_iff {row : Job} (active : Active row) (clock : Time) :
    (∃ later, clock ≤ later ∧ claimableWhere later row = true) ↔ Reclaimable row := by
  constructor
  · rintro ⟨later, _, selected⟩
    unfold claimableWhere at selected
    simp only [Bool.and_eq_true, Bool.or_eq_true, decide_eq_true_eq] at selected
    refine ⟨selected.1, fun waits => ?_⟩
    rcases selected.2 with (queued | due) | running
    · rw [queued] at waits
      cases waits
    · cases stored : row.nextRetryAt with
      | none =>
        rw [stored] at due
        cases due.2
      | some _ => rfl
    · rw [waits] at running
      exact absurd running.1 (by decide)
  · rintro ⟨spare, scheduled⟩
    -- Late enough for the due time and for the end of the lease.
    let later := max clock (max (row.nextRetryAt.getD clock) (row.leaseExpiresAt.getD clock))
    refine ⟨later, le_max_left _ _, ?_⟩
    have dueLater : ∀ due, row.nextRetryAt = some due → due ≤ later := by
      intro due stored
      simp [later, stored]
    have freeLater : ∀ expiry, row.leaseExpiresAt = some expiry → expiry ≤ later := by
      intro expiry stored
      simp [later, stored]
    unfold claimableWhere
    simp only [Bool.and_eq_true, Bool.or_eq_true, decide_eq_true_eq]
    refine ⟨spare, ?_⟩
    by_cases queued : row.status = .queued
    · exact .inl (.inl queued)
    · by_cases waits : row.status = .retryWait
      · obtain ⟨due, stored⟩ := Option.isSome_iff_exists.1 (scheduled waits)
        refine .inl (.inr ⟨waits, ?_⟩)
        rw [stored]
        exact decide_eq_true (dueLater due stored)
      · refine .inr ⟨?_, ?_⟩
        · obtain ⟨open_, unparked⟩ := active
          revert queued waits unparked open_
          cases row.status <;> decide
        · cases stored : row.leaseExpiresAt with
          | none => rfl
          | some expiry => exact decide_eq_true (freeLater expiry stored)

/-- What every row of an engine without stranded jobs satisfies. -/
def Tended (clock : Time) (row : Job) : Prop :=
  Active row → leaseLive row clock = true ∨ Reclaimable row

theorem noStrandedJob_iff (engine : RunningEngine) :
    NoStrandedJob engine ↔ ∀ row ∈ engine.db.jobs, Tended engine.clock row := by
  unfold NoStrandedJob Tended
  refine forall₃_congr fun row mem active => ?_
  rw [claimable_later_iff active]

theorem tended_leased {row : Job} {clock : Time}
    (leased : row.leaseExpiresAt = some (clock + term.seconds)) : Tended clock row := by
  intro _
  left
  unfold leaseLive
  rw [leased]
  have positive := term.positive
  simp [positive]

theorem tended_inactive {row : Job} {clock : Time} (inactive : ¬ Active row) : Tended clock row :=
  fun active => absurd active inactive

theorem advanceValues_lease (job : Job) (pendingCancel : Option Time) (toStatus : JobStatus)
    (now leaseSeconds : Time) (stage : Option JobStatus) (progress : Option Int) (row : Job) :
    let after := advanceValues job pendingCancel toStatus now leaseSeconds stage progress row
    ¬ Active after ∨ after.leaseExpiresAt = some (now + leaseSeconds) := by
  unfold advanceValues advancedRow Active
  simp only
  generalize (if (decide (toStatus = .waitingForModel) && pendingCancel.isSome) = true then
    JobStatus.cancelled else toStatus) = target
  by_cases releases : (target.isTerminal || decide (target = .waitingForModel)) = true
  · left
    simp only [Bool.or_eq_true, decide_eq_true_eq] at releases
    rintro ⟨open_, unparked⟩
    rcases releases with terminal | parked
    · rw [terminal] at open_
      cases open_
    · exact unparked parked
  · exact .inr (if_neg releases)

theorem commitValues_lease (job : Job) (toStatus : JobStatus) (now leaseSeconds : Time)
    (progress : Option Int) (row : Job) :
    let after := commitValues job toStatus now leaseSeconds progress row
    ¬ Active after ∨ after.leaseExpiresAt = some (now + leaseSeconds) := by
  unfold commitValues committedRow Active
  simp only
  by_cases terminal : toStatus.isTerminal = true
  · left
    rintro ⟨open_, _⟩
    rw [terminal] at open_
    cases open_
  · exact .inr (if_neg terminal)

theorem retryDueAt_scheduled (nextRetryAt : Option Time) (now : Time) :
    (retryDueAt nextRetryAt true now).isSome = true := by
  cases nextRetryAt <;> rfl

/-- One admitted operation leaves a tended job tended. -/
theorem moved_tended {engine : RunningEngine} {op : EngineOp}
    (admitted : Unstranding engine (.perform op)) (keyed : engine.db.Keyed) {row after : Job}
    (mem : row ∈ engine.db.jobs) (moved : Moved (op.at term engine.clock) row after)
    (tended : Tended engine.clock row) : Tended engine.clock after := by
  have found := keyed.findJob_of_mem mem
  cases op with
  | submitVideo submission =>
    cases moved with
    | same => exact tended
  | claimNextJob owner =>
    cases moved with
    | same => exact tended
    | claimedNext _ _ claimable => exact tended_leased term rfl
  | renewLease jobId owner =>
    cases moved with
    | same => exact tended
    | renewed _ held => exact tended_leased term rfl
  | advanceJob jobId owner toStatus progress =>
    cases moved with
    | same => exact tended
    | advanced _ _ _ valid held =>
      rcases advanceValues_lease row row.cancelRequestedAt toStatus engine.clock term.seconds none
        progress row with inactive | leased
      · exact tended_inactive inactive
      · exact tended_leased term leased
  | commitArtifactAndAdvance jobId owner toStatus artifact progress =>
    cases moved with
    | same => exact tended
    | committed _ _ _ valid held =>
      rcases commitValues_lease row toStatus engine.clock term.seconds progress row with
        inactive | leased
      · exact tended_inactive inactive
      · exact tended_leased term leased
  | markFailure jobId owner errorCode retryable nextRetryAt errorDetail =>
    cases moved with
    | same => exact tended
    | failedOrRetried _ _ _ valid held =>
      cases retryable with
      | false => exact tended_inactive fun active => by cases active.1
      | true =>
        exact fun _ => .inr
          ⟨admitted row found held, fun _ => retryDueAt_scheduled nextRetryAt engine.clock⟩
  | markCancelled jobId owner =>
    cases moved with
    | same => exact tended
    | cancelled held => exact tended_inactive fun active => by cases active.1
  | requestCancellation jobId =>
    cases moved with
    | same => exact tended
    | cancelRequested _ active =>
      unfold cancelRequestedRow
      split
      · exact tended_inactive fun active => by cases active.1
      · exact tended
  | resumeWaitingJobs modelId =>
    cases moved with
    | same => exact tended
    | resumed _ waits => exact fun _ => .inr ⟨admitted row mem waits, fun retries => by cases retries⟩
  | pinJobAsrRoute jobId owner providerId modelId modelVersion recommendationModelId =>
    cases moved with
    | same => exact tended
    | pinned _ _ _ _ held => exact tended
  | saveArtifactInline jobId owner stage artifactType inputFingerprint schemaVersion payloadJson =>
    cases moved with
    | same => exact tended

theorem tended_submitted (submission : Submission) (fingerprint url : String) (id : Nat)
    (clock : Time) : Tended clock (submittedJob submission fingerprint url id) :=
  fun _ => .inr ⟨Nat.zero_lt_succ 2, fun retries => by cases retries⟩

/-- An admitted step keeps the tables keyed and strands no job. -/
theorem engineStep_tended {engine : RunningEngine} {label : EngineLabel}
    (admitted : Unstranding engine label)
    (kept : engine.db.Keyed ∧ ∀ row ∈ engine.db.jobs, Tended engine.clock row) :
    (engineStep env term engine label).db.Keyed ∧
      ∀ row ∈ (engineStep env term engine label).db.jobs,
        Tended (engineStep env term engine label).clock row := by
  obtain ⟨keyed, tended⟩ := kept
  cases label with
  | tick reading =>
    refine ⟨keyed, fun row mem active => ?_⟩
    rcases tended row mem active with live | reclaimable
    · exact admitted row mem active live
    · exact .inr reclaimable
  | perform op =>
    have keyedAfter := jobStep_keyed env keyed (op.at term engine.clock)
    refine ⟨keyedAfter, fun after memAfter => ?_⟩
    have foundAfter := keyedAfter.findJob_of_mem memAfter
    have effect := exec_effect env keyed (op.at term engine.clock)
    cases found : engine.db.findJob after.jobId with
    | none =>
      obtain ⟨submission, fingerprint, url, _, same⟩ := effect.unknown found foundAfter
      rw [same]
      exact tended_submitted submission fingerprint url _ _
    | some row =>
      have mem := JobsDb.mem_of_findJob found
      obtain ⟨after', foundAfter', moved⟩ := effect.moved keyed found
      obtain rfl : after' = after := Option.some.inj (foundAfter'.symm.trans foundAfter)
      exact moved_tended term admitted keyed mem moved (tended row mem)

/-- In a run whose steps all meet the condition, no state has a stranded job. -/
theorem no_stranded_job (start : Time) (labels : List EngineLabel)
    (admitted : Meets (engineStep env term) Unstranding ⟨start, {}⟩ labels) :
    NoStrandedJob (run (engineStep env term) ⟨start, {}⟩ labels) := by
  rw [noStrandedJob_iff]
  refine (@run_of_meets _ _ (engineStep env term) Unstranding
    (fun engine => engine.db.Keyed ∧ ∀ row ∈ engine.db.jobs, Tended engine.clock row)
    (fun engine label admits kept => engineStep_tended env term admits kept) _ _ ?_ admitted).2
  exact ⟨.empty, fun _ mem => nomatch mem⟩

/-- The default lease of a minute. -/
def minuteLease : LeaseTerm := ⟨60, by decide +kernel⟩

/-- A first attempt that ends in a transient failure. -/
def firstRetry : List EngineLabel :=
  [.perform (.submitVideo (sampleSubmission "job-1" 0)), .perform (.claimNextJob "worker-a"),
    .perform (.markFailure "job-1" "worker-a" "NETWORK_ERROR" true none none)]

theorem no_stranded_job_retried :
    NoStrandedJob (run (engineStep sampleEnv minuteLease) ⟨0, {}⟩ firstRetry) := by
  refine no_stranded_job sampleEnv minuteLease 0 firstRetry ⟨trivial, trivial, ?_, trivial⟩
  intro row found held
  have spare : (((run (engineStep sampleEnv minuteLease) ⟨0, {}⟩ (firstRetry.take 2)).db.findJob
      "job-1").all fun row => row.attempt < row.maxAttempts) = true := by
    decide +kernel
  have found' : (run (engineStep sampleEnv minuteLease) ⟨0, {}⟩ (firstRetry.take 2)).db.findJob
      "job-1" = some row := found
  rw [found'] at spare
  exact of_decide_eq_true spare

/-- Three workers die one after the other: the third attempt's lease runs out,
and the job is neither held nor ever selectable again. -/
def threeDeaths : List EngineLabel :=
  [.perform (.submitVideo (sampleSubmission "job-1" 0)), .perform (.claimNextJob "worker-a"),
    .tick 61, .perform (.claimNextJob "worker-b"), .tick 122, .perform (.claimNextJob "worker-c"),
    .tick 183]

theorem third_death_strands :
    ¬ ∀ labels, NoStrandedJob (run (engineStep sampleEnv minuteLease) ⟨0, {}⟩ labels) := by
  intro stated
  have tended := (noStrandedJob_iff _).1 (stated threeDeaths)
  have reached : ∃ row ∈ (run (engineStep sampleEnv minuteLease) ⟨0, {}⟩ threeDeaths).db.jobs,
      row.status = .fetchingMetadata ∧ row.attempt = 3 ∧ row.maxAttempts = 3 ∧
        leaseLive row (run (engineStep sampleEnv minuteLease) ⟨0, {}⟩ threeDeaths).clock =
          false := by
    decide +kernel
  obtain ⟨row, mem, status, attempt, maxAttempts, dead⟩ := reached
  rcases tended row mem ⟨by rw [status]; rfl, by rw [status]; decide⟩ with live | ⟨spare, _⟩
  · rw [dead] at live
    cases live
  · omega

end EvoBlue.Guarantees
