import EvoBlue.Source.JobMoves

/-!
# Finished jobs stay finished

Every path into a terminal state clears the lease, and every write that does not
consult the transition table asks for a live one. So a finished job is released,
and from then on no operation changes its row.

One argument breaks this. `advance_job` stores a caller's `stage` as it is, a
retry re-enters the stored stage, and so a claim could set a terminal status
together with an owner. The runs below are those where no caller names a
terminal stage.
-/

namespace EvoBlue.Guarantees

open EvoBlue.Kernel EvoBlue.Source

/-- A finished job has no owner and no lease. -/
def Released (row : Job) : Prop :=
  row.status.isTerminal = true → row.leaseOwner = none ∧ row.leaseExpiresAt = none

/-- The stage a retry would re-enter is not a terminal one. -/
def StageOpen (row : Job) : Prop := ∀ stage, row.stage = some stage → stage.isTerminal = false

/-- The operation does not ask `advance_job` to store a terminal stage. -/
def KeepsStageOpen : JobOp → Prop
  | .advanceJob _ _ _ _ _ (some stage) _ => stage.isTerminal = false
  | _ => True

theorem claimStatus_open {row : Job} {now : Time} (opens : StageOpen row)
    (claimable : isClaimable row now = true) :
    (claimStatus row).1.isTerminal = false ∧
      ∀ stage, (claimStatus row).2 = some stage → stage.isTerminal = false := by
  have active : row.status.isTerminal = false := by
    unfold isClaimable at claimable
    split at claimable
    · cases claimable
    · split at claimable
      · cases claimable
      next active => exact Bool.eq_false_iff.2 active
  unfold claimStatus
  split
  · exact ⟨rfl, by rintro _ ⟨⟩; rfl⟩
  · split
    · have staged : (row.stage.getD .fetchingMetadata).isTerminal = false := by
        cases stored : row.stage with
        | none => rfl
        | some stage => exact opens stage stored
      exact ⟨staged, by rintro _ ⟨⟩; exact staged⟩
    · exact ⟨active, by rintro _ ⟨⟩; exact active⟩

theorem released_advanceValues (job : Job) (pendingCancel : Option Time) (toStatus : JobStatus)
    (now leaseSeconds : Time) (stage : Option JobStatus) (progress : Option Int) (row : Job) :
    Released (advanceValues job pendingCancel toStatus now leaseSeconds stage progress row) := by
  intro terminal
  unfold advanceValues advancedRow at terminal ⊢
  simp only at terminal ⊢
  rw [terminal]
  simp

theorem released_commitValues (job : Job) (toStatus : JobStatus) (now leaseSeconds : Time)
    (progress : Option Int) (row : Job) :
    Released (commitValues job toStatus now leaseSeconds progress row) := by
  intro terminal
  unfold commitValues committedRow at terminal ⊢
  simp only at terminal ⊢
  rw [terminal]
  simp

theorem stageOpen_of_running {target : JobStatus} {stored : Option JobStatus}
    (opens : ∀ stage, stored = some stage → stage.isTerminal = false) :
    ∀ stage, (if target.isRunning then some target else stored) = some stage →
      stage.isTerminal = false := by
  intro stage
  split
  next running =>
    rintro ⟨⟩
    cases terminal : target.isTerminal with
    | false => rfl
    | true =>
      rw [isTerminal_not_running terminal] at running
      cases running
  next => exact opens stage

/-- Every admitted move keeps a job released and its stage open. -/
theorem moved_released {op : JobOp} {row after : Job} (admitted : KeepsStageOpen op)
    (moved : Moved op row after) (kept : Released row ∧ StageOpen row) :
    Released after ∧ StageOpen after := by
  obtain ⟨released, opens⟩ := kept
  cases moved with
  | same => exact ⟨released, opens⟩
  | claimed owner leaseSeconds claimable =>
    have claim := claimStatus_open opens claimable
    refine ⟨fun terminal => ?_, claim.2⟩
    have clash : (claimStatus row).1.isTerminal = true := terminal
    rw [claim.1] at clash
    cases clash
  | claimedNext owner leaseSeconds claimable =>
    have claim := claimStatus_open opens (claimableWhere_isClaimable claimable)
    refine ⟨fun terminal => ?_, claim.2⟩
    have clash : (claimStatus row).1.isTerminal = true := terminal
    rw [claim.1] at clash
    cases clash
  | recovered stale => exact ⟨fun _ => ⟨rfl, rfl⟩, opens⟩
  | advanced leaseSeconds stage progress valid held =>
    refine ⟨released_advanceValues _ _ _ _ _ _ _ _, ?_⟩
    cases stage with
    | some stage =>
      rintro _ ⟨⟩
      exact admitted
    | none => exact stageOpen_of_running opens
  | committed leaseSeconds artifact progress valid held =>
    exact ⟨released_commitValues _ _ _ _ _ _, stageOpen_of_running opens⟩
  | failedOrRetried errorCode nextRetryAt errorDetail valid held =>
    exact ⟨fun _ => ⟨rfl, rfl⟩, opens⟩
  | cancelled held => exact ⟨fun _ => ⟨rfl, rfl⟩, opens⟩
  | cancelRequested now active =>
    unfold cancelRequestedRow
    split
    · exact ⟨fun _ => ⟨rfl, rfl⟩, opens⟩
    · refine ⟨fun terminal => ?_, opens⟩
      have clash : row.status.isTerminal = true := terminal
      rw [active] at clash
      cases clash
  | resumed now waits => exact ⟨fun _ => ⟨rfl, rfl⟩, by rintro _ ⟨⟩; rfl⟩
  | landed now dangling => exact ⟨fun _ => ⟨rfl, rfl⟩, opens⟩
  | exhausted now spent => exact ⟨fun _ => ⟨rfl, rfl⟩, opens⟩
  | pinned providerId modelId modelVersion recommendationModelId held => exact ⟨released, opens⟩
  | renewed leaseSeconds held =>
    refine ⟨fun terminal => ?_, opens⟩
    have free := released terminal
    simp [ownerGuard, leaseLive, free.2] at held

/-- A released finished job is not moved by any operation. -/
theorem moved_terminal {op : JobOp} {row after : Job} (moved : Moved op row after)
    (terminal : row.status.isTerminal = true) (released : Released row) : after = row := by
  have free := released terminal
  have unclaimable : ∀ now, isClaimable row now = false := by
    intro now
    simp [isClaimable, terminal]
  cases moved with
  | same => rfl
  | claimed owner leaseSeconds claimable =>
    rw [unclaimable] at claimable
    cases claimable
  | claimedNext owner leaseSeconds claimable =>
    have claimable := claimableWhere_isClaimable claimable
    rw [unclaimable] at claimable
    cases claimable
  | recovered stale => simp [isStale, terminal] at stale
  | advanced leaseSeconds stage progress valid held => simp [leaseGuard, leaseLive, free.2] at held
  | committed leaseSeconds artifact progress valid held =>
    simp [leaseGuard, leaseLive, free.2] at held
  | failedOrRetried errorCode nextRetryAt errorDetail valid held =>
    simp [leaseGuard, leaseLive, free.2] at held
  | cancelled held => simp [leaseGuard, leaseLive, free.2] at held
  | cancelRequested now active =>
    rw [terminal] at active
    cases active
  | resumed now waits =>
    simp only [isResumable, Bool.and_eq_true, decide_eq_true_eq] at waits
    rw [waits.1.1] at terminal
    cases terminal
  | landed now dangling =>
    simp only [isDangling, Bool.and_eq_true, decide_eq_true_eq] at dangling
    rw [dangling.1] at terminal
    cases terminal
  | exhausted now spent =>
    simp only [isExhausted, Bool.and_eq_true, Bool.or_eq_true, decide_eq_true_eq] at spent
    rcases spent.1 with waits | running
    · rw [waits] at terminal
      cases terminal
    · rw [isTerminal_not_running terminal] at running
      cases running
  | pinned providerId modelId modelVersion recommendationModelId held =>
    simp [pinGuard, leaseLive, free.2] at held
  | renewed leaseSeconds held => simp [ownerGuard, leaseLive, free.2] at held

theorem released_submitted (submission : Submission) (fingerprint url : String) (id : Nat) :
    Released (submittedJob submission fingerprint url id) ∧
      StageOpen (submittedJob submission fingerprint url id) :=
  ⟨fun _ => ⟨rfl, rfl⟩, fun _ staged => nomatch staged⟩

variable (env : SubmitEnv)

theorem jobsAfter_released {ops : List JobOp} (admitted : ∀ op ∈ ops, KeepsStageOpen op)
    {jobId : String} {row : Job} (found : (jobsAfter env ops).findJob jobId = some row) :
    Released row :=
  (jobsAfter_rows env (fun submission fingerprint url id =>
    released_submitted submission fingerprint url id)
    (fun _ _ _ admits moved kept => moved_released admits moved kept) admitted found).1

/-- From a released finished job on, whatever is run leaves its row alone. -/
theorem run_terminal {db : JobsDb} (keyed : db.Keyed) {jobId : String} {row : Job}
    (found : db.findJob jobId = some row) (terminal : row.status.isTerminal = true)
    (released : Released row) (later : List JobOp) :
    (run (jobStep env) db later).findJob jobId = some row := by
  induction later generalizing db with
  | nil => exact found
  | cons op later ih =>
    obtain ⟨after, foundAfter, moved⟩ := (exec_effect env keyed op).moved keyed found
    rw [moved_terminal moved terminal released] at foundAfter
    exact ih (jobStep_keyed env keyed op) foundAfter

/-- In every state a run reaches, a finished job has no owner and no lease, and
whatever follows leaves its row as it is. -/
theorem terminal_job_absorbing (ops : List JobOp) (admitted : ∀ op ∈ ops, KeepsStageOpen op)
    (row : Job) (reached : row ∈ (jobsAfter env ops).jobs)
    (terminal : row.status.isTerminal = true) :
    row.leaseOwner = none ∧ row.leaseExpiresAt = none ∧
      ∀ later, (jobsAfter env (ops ++ later)).findJob row.jobId = some row := by
  have keyed := jobsAfter_keyed env ops
  have found := keyed.findJob_of_mem reached
  have released := jobsAfter_released env admitted found
  refine ⟨(released terminal).1, (released terminal).2, fun later => ?_⟩
  unfold jobsAfter
  rw [run_append]
  exact run_terminal env keyed found terminal released later

/-- A job cancelled while it is queued. -/
theorem terminal_job_absorbing_cancelled :
    ∃ row ∈ (jobsAfter sampleEnv
        [.submitVideo (sampleSubmission "job-1" 0), .requestCancellation "job-1" 1]).jobs,
      row.status = .cancelled ∧ row.leaseOwner = none ∧ row.leaseExpiresAt = none ∧
        ∀ later, (jobsAfter sampleEnv ([.submitVideo (sampleSubmission "job-1" 0),
          .requestCancellation "job-1" 1] ++ later)).findJob row.jobId = some row := by
  have reached : ∃ row ∈ (jobsAfter sampleEnv
      [.submitVideo (sampleSubmission "job-1" 0), .requestCancellation "job-1" 1]).jobs,
      row.status = .cancelled := by
    decide +kernel
  obtain ⟨row, mem, status⟩ := reached
  exact ⟨row, mem, status, terminal_job_absorbing sampleEnv _ (by simp [KeepsStageOpen]) row mem
    (by rw [status]; rfl)⟩

/-- With a terminal `stage` handed to `advance_job`, a claim after the retry
completes the job and leaves it owned. -/
theorem terminal_job_owned :
    ∃ row ∈ (jobsAfter sampleEnv
        [.submitVideo (sampleSubmission "job-1" 0),
          .claimJob "job-1" "worker-a" 60 1,
          .advanceJob "job-1" "worker-a" .fetchingSubtitles 2 60 (some .completed) none,
          .markFailure "job-1" "worker-a" 3 "NETWORK_ERROR" true (some 4) none,
          .claimJob "job-1" "worker-b" 60 5]).jobs,
      row.status = .completed ∧ row.leaseOwner = some "worker-b" ∧
        row.leaseExpiresAt = some 65 := by
  decide +kernel

end EvoBlue.Guarantees
