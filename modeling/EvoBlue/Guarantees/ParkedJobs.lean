import EvoBlue.Source.PipelineRows

/-!
# Jobs that are parked or waiting

What the pipeline promises about a job that nobody executes: a job parked for a
model can run once it is resumed, and no idle job carries a cancellation. Both
hold in the runs that keep away from one branch each.
-/

namespace EvoBlue.Guarantees

open EvoBlue.Kernel EvoBlue.Source EvoBlue.Source.Pipeline

variable {config : PipelineConfig} {pipeline : Pipeline}

/-- The outcome an event settles, and the row, held under a live lease, it settles it on. -/
def settling (pipeline : Pipeline) : PipelineEvent → Option (StageOutcome × Job)
  | .settle owner _ now =>
    match pipeline.workers owner with
    | some ⟨.returned job outcome, _⟩ =>
      ((pipeline.db.jobs.findJob job.jobId).filter fun row =>
        row.leaseOwner = some owner && leaseLive row now).map fun row => (outcome, row)
    | _ => none
  | _ => none

/-- A row that moves by an outcome is one the worker was settling. -/
theorem settling_of_held (keyed : pipeline.db.jobs.Keyed) {owner : String} (dueNow : Time)
    {now : Time} {job row view : Job} {outcome : StageOutcome} {snapshot : Option PipelineDb}
    (mem : row ∈ pipeline.db.jobs.jobs)
    (returned : pipeline.workers owner = some ⟨.returned job outcome, snapshot⟩)
    (own : row.jobId = job.jobId) (held : leaseGuard view owner now row = true) :
    settling pipeline (.settle owner dueNow now) = some (outcome, row) := by
  obtain ⟨_, _, owned, live⟩ := leaseGuard_iff.1 held
  have found := keyed.findJob_of_mem mem
  rw [own] at found
  simp [settling, returned, found, owned, live]

/-! ## Resumed jobs -/

/-- The event parks a job on its last attempt. -/
def ParksSpent (pipeline : Pipeline) (event : PipelineEvent) : Prop :=
  ∃ settled ∈ settling pipeline event, settled.1.errorCode = none ∧
    settled.1.target = some .waitingForModel ∧ settled.2.cancelRequestedAt = none ∧
    settled.2.maxAttempts ≤ settled.2.attempt

instance (pipeline : Pipeline) (event : PipelineEvent) : Decidable (ParksSpent pipeline event) :=
  inferInstanceAs (Decidable (∃ _ ∈ _, _))

/-- Every job a resume moves can be claimed at once. -/
def ResumedCanRun (config : PipelineConfig) (pipeline : Pipeline) : Prop :=
  ∀ modelId now, ∀ row ∈ pipeline.db.jobs.jobs, isResumable modelId row = true →
    ∃ resumed,
      (pipeline.step config (.resumeWaitingJobs modelId now)).db.jobs.findJob row.jobId =
        some resumed ∧
      resumed.status = .transcribing ∧ resumed.leaseOwner = none ∧
        resumed.attempt < resumed.maxAttempts ∧ ∀ t, claimableWhere t resumed = true

/-- A parked job has an attempt left. -/
def ParkedWithSpare (row : Job) : Prop :=
  row.status = .waitingForModel → row.attempt < row.maxAttempts

theorem rowMove_parkedWithSpare (formed : PipelineFormed config pipeline) {event : PipelineEvent}
    (unspent : ¬ ParksSpent pipeline event) {row after : Job} (mem : row ∈ pipeline.db.jobs.jobs)
    (moved : RowMove config pipeline event row after) (spare : ParkedWithSpare row) :
    ParkedWithSpare after := by
  intro waits
  cases moved with
  | unchanged => exact spare waits
  | claimed free claimable =>
    have running := ((formed.rows row mem).claimStatus claimable).1
    change (claimStatus row).1 = .waitingForModel at waits
    rw [waits] at running
    cases running
  | recovered => exact spare waits
  | cancelRequested now active =>
    unfold cancelRequestedRow at waits ⊢
    split at waits
    · cases waits
    next busy =>
      rw [if_neg busy]
      exact spare waits
  | pinned => exact spare waits
  | renewed => exact spare waits
  | @settled owner dueNow now job _ displayed view outcome snapshot returned own shown viewed held =>
    obtain ⟨_, _, handled, _, returnable⟩ := formed.workers owner _ returned
    obtain ⟨noError, target, uncancelled⟩ :=
      (outcomeValues_end returnable _ _ _ _ _ _).waiting waits
    obtain ⟨_, _, _, _, _, _, _, _, _, _, same⟩ :=
      outcomeValues_frame view row config.leaseSeconds dueNow now outcome displayed
    obtain ⟨title, platform, subtitleProbe, frame⟩ :=
      displayedRow_frame (outcomeDisplay outcome) row
    have settles := settling_of_held formed.keyed dueNow mem returned own held
    rw [same, shown, frame]
    refine Nat.lt_of_not_le fun spent => unspent ?_
    exact ⟨_, settles, noError, target, uncancelled, spent⟩
  | _ => cases waits

/-- What a resume does to a job it selects. -/
theorem resumed_findJob (keyed : pipeline.db.jobs.Keyed) {row : Job}
    (mem : row ∈ pipeline.db.jobs.jobs) {modelId : String} (waits : isResumable modelId row = true)
    (now : Time) :
    (pipeline.step config (.resumeWaitingJobs modelId now)).db.jobs.findJob row.jobId =
      some (resumedRow now row) := by
  have swept : (pipeline.step config (.resumeWaitingJobs modelId now)).db.jobs =
      pipeline.db.jobs.sweep (isResumable modelId) (resumedRow now) := rfl
  have keeps : ∀ row, (resumedRow now row).jobId = row.jobId := fun _ => rfl
  rw [swept, JobsDb.findJob_sweep _ _ keeps, keyed.findJob_of_mem mem]
  simp [waits]

theorem resumedRow_claimable (now t : Time) (row : Job) :
    claimableWhere t (resumedRow now row) = decide (row.attempt < row.maxAttempts) := by
  rw [Bool.eq_iff_iff]
  simp [claimableWhere, resumedRow, JobStatus.isRunning, runningStates, JobStatus.all,
    terminalJobStatuses]
  exact decide_eq_true_iff

/-- A resumed job can run if, and only if, it was not parked on its last attempt. -/
theorem resumedCanRun_iff (keyed : pipeline.db.jobs.Keyed) :
    ResumedCanRun config pipeline ↔ ∀ modelId, ∀ row ∈ pipeline.db.jobs.jobs,
      isResumable modelId row = true → row.attempt < row.maxAttempts := by
  constructor
  · intro runs modelId row mem waits
    obtain ⟨resumed, found, _, _, spare, _⟩ := runs modelId 0 row mem waits
    rw [resumed_findJob keyed mem waits] at found
    cases found
    exact spare
  · intro spare modelId now row mem waits
    refine ⟨_, resumed_findJob keyed mem waits now, rfl, rfl, spare modelId row mem waits, fun t => ?_⟩
    rw [resumedRow_claimable]
    exact decide_eq_true (spare modelId row mem waits)

/-- In every run in which no job is parked on its last attempt, every job that a
resume moves can be claimed at once, in every state the run reaches. -/
theorem resumed_jobs_run (config : PipelineConfig) (events : List PipelineEvent)
    (unspent : Meets (step config) (fun pipeline event => ¬ ParksSpent pipeline event) {} events) :
    ResumedCanRun config (after config events) := by
  rw [resumedCanRun_iff (formed_after config events).keyed]
  have all := @after_rows config (fun pipeline event => ¬ ParksSpent pipeline event) ParkedWithSpare
    (fun _ _ _ _ waits => nomatch waits)
    (fun _ _ _ _ formed unspent mem moved => rowMove_parkedWithSpare formed unspent mem moved)
    events unspent
  intro modelId row mem waits
  simp only [isResumable, Bool.and_eq_true, decide_eq_true_eq] at waits
  exact all row mem waits.1.1

/-- The job parks on its first attempt. -/
def firstAttemptPark : List PipelineEvent :=
  [.submitVideo (sampleSubmission "job-1" 0), .claim "worker-a" 1] ++ sampleWork "worker-a" 2

theorem resumed_jobs_run_first :
    Meets (step sampleConfig) (fun pipeline event => ¬ ParksSpent pipeline event) {}
      firstAttemptPark ∧
    ResumedCanRun sampleConfig (after sampleConfig firstAttemptPark) := by
  have unspent : Meets (step sampleConfig) (fun pipeline event => ¬ ParksSpent pipeline event) {}
      firstAttemptPark := by
    decide +kernel
  exact ⟨unspent, resumed_jobs_run sampleConfig firstAttemptPark unspent⟩

/-- Two workers die at the start, and the third one gets as far as the park. -/
def lastAttemptPark : List PipelineEvent :=
  [.submitVideo (sampleSubmission "job-1" 0), .claim "worker-a" 1, .die "worker-a",
    .claim "worker-b" 100, .die "worker-b", .claim "worker-c" 200] ++ sampleWork "worker-c" 201

/-- The model is installed, the job resumed, and no worker ever selects it. -/
theorem spent_job_is_resumed :
    ¬ ∀ config events, ResumedCanRun config (after config events) := by
  intro stated
  have runs := (resumedCanRun_iff (formed_after sampleConfig lastAttemptPark).keyed).1
    (stated sampleConfig lastAttemptPark) "sensevoice-small-int8"
  have parked : ∃ row ∈ (after sampleConfig lastAttemptPark).db.jobs.jobs,
      isResumable "sensevoice-small-int8" row = true ∧ row.attempt = 3 ∧ row.maxAttempts = 3 := by
    decide +kernel
  obtain ⟨row, mem, waits, attempt, maxAttempts⟩ := parked
  have spare := runs row mem waits
  omega

/-! ## Cancelled jobs -/

/-- The event leaves a job to its retry although its cancellation was requested. -/
def RetriesCancelled (pipeline : Pipeline) (event : PipelineEvent) : Prop :=
  ∃ settled ∈ settling pipeline event, settled.1.errorCode.isSome = true ∧
    settled.1.errorCode ≠ some "CANCELLED_BY_USER" ∧ settled.1.retryable = true ∧
    settled.2.cancelRequestedAt.isSome = true

instance (pipeline : Pipeline) (event : PipelineEvent) :
    Decidable (RetriesCancelled pipeline event) :=
  inferInstanceAs (Decidable (∃ _ ∈ _, _))

/-- No job in `queued`, `retry_wait` or `waiting_for_model` has a cancellation requested. -/
def NoIdleCancellation (pipeline : Pipeline) : Prop :=
  ∀ row ∈ pipeline.db.jobs.jobs, isIdle row = true → row.cancelRequestedAt = none

theorem isIdle_iff (row : Job) :
    isIdle row = true ↔
      row.status = .queued ∨ row.status = .retryWait ∨ row.status = .waitingForModel := by
  simp [isIdle]

theorem not_idle_of_running {row : Job} (running : row.status.isRunning = true) :
    isIdle row = false := by
  refine Bool.eq_false_iff.2 fun idle => ?_
  rcases (isIdle_iff row).1 idle with h | h | h <;> (rw [h] at running; cases running)

theorem rowMove_idleCancellation (formed : PipelineFormed config pipeline) {event : PipelineEvent}
    (lets : ¬ RetriesCancelled pipeline event) {row after : Job}
    (mem : row ∈ pipeline.db.jobs.jobs) (moved : RowMove config pipeline event row after)
    (quiet : isIdle row = true → row.cancelRequestedAt = none) (idle : isIdle after = true) :
    after.cancelRequestedAt = none := by
  cases moved with
  | unchanged => exact quiet idle
  | claimed free claimable =>
    rw [not_idle_of_running ((formed.rows row mem).claimStatus claimable).1] at idle
    cases idle
  | recovered => exact quiet idle
  | cancelRequested now active =>
    unfold cancelRequestedRow at idle ⊢
    split at idle
    · cases idle
    next busy => exact absurd idle busy
  | resumed => cases idle
  | pinned => exact quiet idle
  | renewed => exact quiet idle
  | @settled owner dueNow now job _ displayed view outcome snapshot returned own shown viewed held =>
    obtain ⟨_, _, handled, _, returnable⟩ := formed.workers owner _ returned
    have ends := outcomeValues_end returnable view row displayed config.leaseSeconds dueNow now
    have settles := settling_of_held formed.keyed dueNow mem returned own held
    have kept : (outcomeValues view row config.leaseSeconds dueNow now outcome
        displayed).cancelRequestedAt = row.cancelRequestedAt := by
      obtain ⟨_, _, _, _, _, _, _, _, _, _, same⟩ :=
        outcomeValues_frame view row config.leaseSeconds dueNow now outcome displayed
      rw [same, shown]
      exact cancelRequestedAt_displayed _ row
    rw [kept]
    rcases (isIdle_iff _).1 idle with queued | retries | waits
    · exact absurd queued ends.not_queued
    · obtain ⟨reported, other, retryable, _⟩ := ends.retryWait retries
      cases requested : row.cancelRequestedAt with
      | none => rfl
      | some at_ =>
        refine absurd ?_ lets
        exact ⟨_, settles, reported, other, retryable, by rw [requested]; rfl⟩
    · exact (ends.waiting waits).2.2
  | _ => cases idle

/-- In every run in which no job whose cancellation was requested is left to its
retry, no idle job has a cancellation requested, in every state the run reaches. -/
theorem cancelled_jobs_not_parked (config : PipelineConfig) (events : List PipelineEvent)
    (lets : Meets (step config) (fun pipeline event => ¬ RetriesCancelled pipeline event) {}
      events) : NoIdleCancellation (after config events) := by
  refine @after_rows config (fun pipeline event => ¬ RetriesCancelled pipeline event)
    (fun row => isIdle row = true → row.cancelRequestedAt = none) (fun _ _ _ _ _ => rfl) ?_
    events lets
  intro pipeline event row after formed lets mem moved quiet
  exact rowMove_idleCancellation formed lets mem moved quiet

/-- The cancellation comes while the job is being transcribed, and is consumed by the park. -/
def cancelledPark : List PipelineEvent :=
  [.submitVideo (sampleSubmission "job-1" 0), .claim "worker-a" 1,
    .requestCancellation "job-1" 2] ++ sampleWork "worker-a" 3

theorem cancelled_jobs_not_parked_consumed :
    Meets (step sampleConfig) (fun pipeline event => ¬ RetriesCancelled pipeline event) {}
      cancelledPark ∧
    NoIdleCancellation (after sampleConfig cancelledPark) := by
  have lets : Meets (step sampleConfig) (fun pipeline event => ¬ RetriesCancelled pipeline event)
      {} cancelledPark := by
    decide +kernel
  exact ⟨lets, cancelled_jobs_not_parked sampleConfig cancelledPark lets⟩

/-- The cancellation comes while the metadata is being fetched, the fetch fails
for want of a network, and the job is left to its retry. -/
def cancelledRetry : List PipelineEvent :=
  [.submitVideo (sampleSubmission "job-1" 0), .claim "worker-a" 1,
    .requestCancellation "job-1" 2, .answer "worker-a" 3 lostNetwork, .refresh "worker-a",
    .settle "worker-a" 3 4]

theorem cancelled_job_is_retried :
    ¬ ∀ config events, NoIdleCancellation (after config events) := by
  intro stated
  have waiting : ∃ row ∈ (after sampleConfig cancelledRetry).db.jobs.jobs,
      row.status = .retryWait ∧ row.cancelRequestedAt = some 2 := by
    decide +kernel
  obtain ⟨row, mem, retries, requested⟩ := waiting
  have none := stated sampleConfig cancelledRetry row mem ((isIdle_iff row).2 (.inr (.inl retries)))
  rw [requested] at none
  cases none

end EvoBlue.Guarantees
