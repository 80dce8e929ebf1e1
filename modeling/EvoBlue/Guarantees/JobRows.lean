import EvoBlue.Source.PipelineRows

/-!
# The columns of a job hang together

In every run of the pipeline the coupled columns of every job agree. Attempts are
counted by claims alone, and a job that waits for its retry goes back to the
stage it failed in.
-/

namespace EvoBlue.Guarantees

open EvoBlue.Kernel EvoBlue.Source EvoBlue.Source.Pipeline

variable {config : PipelineConfig} {pipeline : Pipeline}

/-! ## One event -/

/-- The row of a claimed job: leased to the owner, one attempt further. -/
def ClaimedBy (owner : String) (row after : Job) : Prop :=
  after.attempt = row.attempt + 1 ∧ after.leaseOwner = some owner ∧ after.status.isRunning = true

/-- Attempts change at a claim, by one. -/
theorem rowMove_attempt {event : PipelineEvent} {row after : Job} (formed : RowFormed row)
    (moved : RowMove config pipeline event row after) :
    after.attempt = row.attempt ∨
      ∃ owner now, event = .claim owner now ∧ ClaimedBy owner row after := by
  cases moved with
  | @claimed owner now _ free claimable =>
    exact .inr ⟨owner, now, rfl, rfl, rfl, (formed.claimStatus claimable).1⟩
  | cancelRequested now active =>
    unfold cancelRequestedRow
    split <;> exact .inl rfl
  | @settled owner dueNow now job _ displayed view outcome snapshot returned own shown =>
    obtain ⟨_, _, _, _, _, _, _, _, _, _, same⟩ :=
      outcomeValues_frame view row config.leaseSeconds dueNow now outcome displayed
    obtain ⟨title, platform, subtitleProbe, frame⟩ :=
      displayedRow_frame (outcomeDisplay outcome) row
    rw [same, shown, frame]
    exact .inl rfl
  | _ => exact .inl rfl

/-- A job comes to wait for a retry from the stage it is in, and waits for that stage. -/
theorem rowMove_retryWait (formed : PipelineFormed config pipeline) {event : PipelineEvent}
    {row after : Job} (mem : row ∈ pipeline.db.jobs.jobs)
    (moved : RowMove config pipeline event row after) (retries : after.status = .retryWait) :
    row.status = .retryWait ∧ after.stage = row.stage ∨
      row.status.isRunning = true ∧ after.stage = some row.status := by
  have rowFormed := formed.rows row mem
  cases moved with
  | unchanged => exact .inl ⟨retries, rfl⟩
  | claimed free claimable =>
    have running := (rowFormed.claimStatus claimable).1
    change (claimStatus row).1 = .retryWait at retries
    rw [retries] at running
    cases running
  | recovered => exact .inl ⟨retries, rfl⟩
  | cancelRequested now active =>
    unfold cancelRequestedRow at retries ⊢
    split at retries
    · cases retries
    next busy =>
      rw [if_neg busy]
      exact .inl ⟨retries, rfl⟩
  | pinned => exact .inl ⟨retries, rfl⟩
  | renewed => exact .inl ⟨retries, rfl⟩
  | @settled owner dueNow now job _ displayed view outcome snapshot returned own shown viewed held
      legal =>
    obtain ⟨_, _, handled, _, returnable⟩ := formed.workers owner _ returned
    obtain ⟨reported, other, retryable, stage⟩ :=
      (outcomeValues_end returnable _ _ _ _ _ _).retryWait retries
    obtain ⟨_, current, _⟩ := leaseGuard_iff.1 held
    obtain ⟨title, platform, subtitleProbe, frame⟩ :=
      displayedRow_frame (outcomeDisplay outcome) row
    obtain ⟨errorCode, failure⟩ := Option.isSome_iff_exists.1 reported
    have valid := legal.resolve_left other
    simp only [outcomeTarget, failure, failureStatus, retryable, if_true, ← current] at valid
    have running := isRunning_of_retry valid
    refine .inr ⟨running, ?_⟩
    rw [stage, shown, frame]
    exact rowFormed.running running
  | _ => cases retries

/-- The claim that ends a wait enters the stage the job waited for. -/
theorem rowMove_reenters {owner : String} {now : Time} {row after : Job} (formed : RowFormed row)
    (waits : row.status = .retryWait)
    (moved : RowMove config pipeline (.claim owner now) row after)
    (leaves : after.status ≠ .retryWait) :
    some after.status = row.stage ∧ after.stage = row.stage := by
  obtain ⟨stage, stored, _⟩ := (formed.retrying waits).2.2
  cases moved with
  | claimed free claimable =>
    simp [claimChange, claimedRow, claimStatus, waits, stored]
  | unchanged => exact absurd waits leaves
  | renewed => exact absurd waits leaves

/-! ## Runs -/

/-- The job failed in this stage and has been waiting for its retry ever since. -/
def FailedIn (config : PipelineConfig) (events : List PipelineEvent) (jobId : String)
    (stage : JobStatus) : Prop :=
  ∃ past event later row, events = past ++ event :: later ∧
    (after config past).db.jobs.findJob jobId = some row ∧
    row.status = stage ∧ stage.isRunning = true ∧
    ∀ since, since <+: later → ∃ waiting,
      (after config (past ++ event :: since)).db.jobs.findJob jobId = some waiting ∧
        waiting.status = .retryWait

theorem failedIn_later {events : List PipelineEvent} {jobId : String} {stage : JobStatus}
    (failed : FailedIn config events jobId stage) (event : PipelineEvent) {row : Job}
    (found : (after config (events ++ [event])).db.jobs.findJob jobId = some row)
    (waits : row.status = .retryWait) : FailedIn config (events ++ [event]) jobId stage := by
  obtain ⟨past, failure, later, before, rfl, foundBefore, status, running, since⟩ := failed
  refine ⟨past, failure, later ++ [event], before, ?_, foundBefore, status, running,
    fun passed within => ?_⟩
  · simp
  · rcases List.prefix_concat_iff.1 within with rfl | earlier
    · refine ⟨row, ?_, waits⟩
      rw [← found]
      simp
    · exact since passed earlier

/-- A job that waits for a retry waits in the stage it failed in. -/
theorem retry_stage (config : PipelineConfig) (events : List PipelineEvent) {jobId : String}
    {row : Job} (found : (after config events).db.jobs.findJob jobId = some row)
    (waits : row.status = .retryWait) :
    ∃ stage, row.stage = some stage ∧ FailedIn config events jobId stage := by
  suffices all : ∀ jobId row, (after config events).db.jobs.findJob jobId = some row →
      row.status = .retryWait → ∃ stage, row.stage = some stage ∧ FailedIn config events jobId stage
    from all jobId row found waits
  refine @run_history _ _ (step config) {} (fun past pipeline => ∀ jobId row,
    pipeline.db.jobs.findJob jobId = some row → row.status = .retryWait →
      ∃ stage, row.stage = some stage ∧ FailedIn config past jobId stage) ?_ ?_ events
  · intro jobId row found
    cases found
  · intro past event ih jobId row found waits
    have formed := formed_after config past
    have foundAfter : (after config (past ++ [event])).db.jobs.findJob jobId = some row := by
      unfold after
      rw [run_concat]
      exact found
    cases before : (after config past).db.jobs.findJob jobId with
    | none =>
      obtain ⟨submission, fingerprint, url, id, _, rfl⟩ := step_unknown formed.keyed before found
      cases waits
    | some old =>
      obtain ⟨moved, foundMoved, move⟩ := @step_moved config _ formed.keyed event _ _ before
      rw [show moved = row from Option.some.inj (foundMoved.symm.trans found)] at move
      rcases rowMove_retryWait formed (JobsDb.mem_of_findJob before) move waits with
        ⟨waited, same⟩ | ⟨running, stage⟩
      · obtain ⟨stage, stored, failed⟩ := ih jobId old before waited
        exact ⟨stage, same.trans stored, failedIn_later failed event foundAfter waits⟩
      · refine ⟨old.status, stage, past, event, [], old, rfl, before, rfl, running, ?_⟩
        intro since within
        rw [List.prefix_nil.1 within]
        exact ⟨row, foundAfter, waits⟩

/-- In every state of every run, for every job: the columns agree; the next event
leaves the attempts alone unless it claims the job, which adds one; a job waiting
for a retry is in the stage it failed in; and the claim that ends the wait enters
exactly that stage. -/
theorem job_rows_formed (config : PipelineConfig) (events : List PipelineEvent) (jobId : String)
    (row : Job) (found : (after config events).db.jobs.findJob jobId = some row) :
    RowFormed row ∧
      (∀ event next, (after config (events ++ [event])).db.jobs.findJob jobId = some next →
        next.attempt = row.attempt ∨
          ∃ owner now, event = .claim owner now ∧ ClaimedBy owner row next) ∧
      (row.status = .retryWait →
        ∃ stage, row.stage = some stage ∧ FailedIn config events jobId stage ∧
          ∀ owner now next,
            (after config (events ++ [.claim owner now])).db.jobs.findJob jobId = some next →
            next.status ≠ .retryWait → next.status = stage ∧ next.stage = some stage) := by
  have formed := formed_after config events
  have rowFormed := formed.rows row (JobsDb.mem_of_findJob found)
  have moves : ∀ event next, (after config (events ++ [event])).db.jobs.findJob jobId = some next →
      RowMove config (after config events) event row next := by
    intro event next foundNext
    obtain ⟨moved, foundMoved, move⟩ := @step_moved config _ formed.keyed event _ _ found
    unfold after at foundNext
    rw [run_concat] at foundNext
    exact Option.some.inj (foundMoved.symm.trans foundNext) ▸ move
  refine ⟨rowFormed, fun event next foundNext => ?_, fun waits => ?_⟩
  · exact rowMove_attempt rowFormed (moves event next foundNext)
  · obtain ⟨stage, stored, failed⟩ := retry_stage config events found waits
    refine ⟨stage, stored, failed, fun owner now next foundNext leaves => ?_⟩
    obtain ⟨status, same⟩ :=
      rowMove_reenters rowFormed waits (moves (.claim owner now) next foundNext) leaves
    rw [stored] at status same
    exact ⟨Option.some.inj status, same⟩

def retriedRun : List PipelineEvent :=
  [.submitVideo (sampleSubmission "job-1" 0), .claim "worker-a" 1,
    .answer "worker-a" 2 lostNetwork, .refresh "worker-a", .settle "worker-a" 3 4]

theorem job_rows_formed_retried :
    ∃ row, (after sampleConfig retriedRun).db.jobs.findJob "job-1" = some row ∧
      row.status = .retryWait ∧ row.stage = some .fetchingMetadata ∧ RowFormed row := by
  have there : ((after sampleConfig retriedRun).db.jobs.findJob "job-1").any (fun row =>
      row.status = .retryWait && row.stage = some .fetchingMetadata) = true := by
    decide +kernel
  obtain ⟨row, found, waits⟩ := (Option.any_eq_true _ _).1 there
  simp only [Bool.and_eq_true, decide_eq_true_eq] at waits
  exact ⟨row, found, waits.1, waits.2,
    (job_rows_formed sampleConfig retriedRun "job-1" row found).1⟩

end EvoBlue.Guarantees
