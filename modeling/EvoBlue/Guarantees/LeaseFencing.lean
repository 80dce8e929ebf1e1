import EvoBlue.Guarantees.TerminalJobs

/-!
# Lease fencing

Seven writes ask for a live lease of their owner. Each of them succeeds only in
the tenure of its owner: the owner claimed the job, and nothing that ends a
tenure has happened to the job since. A write refused for want of the lease
leaves the tables as they were.

`Tenure` is a predicate on the past of a run, with the events that end a tenure
as a parameter.
-/

namespace EvoBlue.Guarantees

open EvoBlue.Kernel EvoBlue.Source

/-- Job, owner and clock reading of the writes that need a lease. -/
def leaseUse : JobOp → Option (String × String × Time)
  | .advanceJob jobId owner _ now _ _ _ => some (jobId, owner, now)
  | .commitArtifactAndAdvance jobId owner _ now _ _ _ => some (jobId, owner, now)
  | .markFailure jobId owner now _ _ _ _ => some (jobId, owner, now)
  | .markCancelled jobId owner now => some (jobId, owner, now)
  | .pinJobAsrRoute jobId owner now _ _ _ _ => some (jobId, owner, now)
  | .saveArtifactInline jobId owner now _ _ _ _ _ => some (jobId, owner, now)
  | .renewLease jobId owner now _ => some (jobId, owner, now)
  | _ => none

def Succeeded : Except JobError Reply → Prop
  | .ok (.flag held) => held = true
  | .ok _ => True
  | .error _ => False

/-- `LeaseLostError`, or `False` from `renew_lease`. -/
def LostLease : Except JobError Reply → Prop
  | .ok (.flag held) => held = false
  | .error (.leaseLost _) => True
  | _ => False

/-- The owner an operation claims for. -/
def claimant : JobOp → Option String
  | .claimJob _ owner _ _ => some owner
  | .claimNextJob owner _ _ => some owner
  | _ => none

variable (env : SubmitEnv)

/-- The operation claims the job for the owner. -/
def Claims (db : JobsDb) (op : JobOp) (jobId owner : String) : Prop :=
  claimant op = some owner ∧
    ∃ row, (exec env op db).1 = .ok (.maybeJob (some row)) ∧ row.jobId = jobId

/-- The operation moves the job into the status. -/
def Enters (db : JobsDb) (op : JobOp) (jobId : String) (status : JobStatus) : Prop :=
  ∃ row after, db.findJob jobId = some row ∧ (jobStep env db op).findJob jobId = some after ∧
    row.status ≠ status ∧ after.status = status

def Finishes (db : JobsDb) (op : JobOp) (jobId : String) : Prop :=
  ∃ status, status.isTerminal = true ∧ Enters env db op jobId status

/-- The operation is a `recover_stale_jobs` that released the job's lease. -/
def Recovers (db : JobsDb) (op : JobOp) (jobId : String) : Prop :=
  ∃ now row after, op = .recoverStaleJobs now ∧ db.findJob jobId = some row ∧
    (jobStep env db op).findJob jobId = some after ∧
    row.leaseExpiresAt ≠ none ∧ after.leaseExpiresAt = none

/-- Another claim, a park by `advance_job`, an end, a retry by `mark_failure`,
or a recovery of the lease. -/
def EndsTenure (db : JobsDb) (op : JobOp) (jobId : String) : Prop :=
  (∃ owner, Claims env db op jobId owner) ∨
    ((∃ owner now leaseSeconds stage progress,
        op = .advanceJob jobId owner .waitingForModel now leaseSeconds stage progress) ∧
      Enters env db op jobId .waitingForModel) ∨
    Finishes env db op jobId ∨
    ((∃ owner now errorCode nextRetryAt errorDetail,
        op = .markFailure jobId owner now errorCode true nextRetryAt errorDetail) ∧
      Enters env db op jobId .retryWait) ∨
    Recovers env db op jobId

/-- In this past the owner claimed the job, and no event in `ends` has happened
to it since that claim. -/
inductive Tenure (ends : JobsDb → JobOp → String → Prop) (jobId owner : String) :
    List JobOp → Prop
  | claimed {past : List JobOp} {op : JobOp} (claims : Claims env (jobsAfter env past) op jobId owner) :
      Tenure ends jobId owner (past ++ [op])
  | lasts {past : List JobOp} {op : JobOp} (tenure : Tenure ends jobId owner past)
      (unended : ¬ ends (jobsAfter env past) op jobId) : Tenure ends jobId owner (past ++ [op])

theorem tenure_concat {ends : JobsDb → JobOp → String → Prop} {jobId owner : String}
    {past : List JobOp} {op : JobOp} (tenure : Tenure env ends jobId owner (past ++ [op])) :
    Claims env (jobsAfter env past) op jobId owner ∨
      Tenure env ends jobId owner past ∧ ¬ ends (jobsAfter env past) op jobId := by
  generalize same : past ++ [op] = whole at tenure
  cases tenure with
  | claimed claims =>
    obtain ⟨rfl, last⟩ := List.append_inj' same rfl
    cases last
    exact .inl claims
  | lasts tenure unended =>
    obtain ⟨rfl, last⟩ := List.append_inj' same rfl
    cases last
    exact .inr ⟨tenure, unended⟩

section

variable {env} {db : JobsDb}

/-- A claim leaves the job to its claimant. -/
theorem claims_owner (keyed : db.Keyed) {op : JobOp} {jobId owner : String}
    (claims : Claims env db op jobId owner) {after : Job}
    (found : (jobStep env db op).findJob jobId = some after) : after.leaseOwner = some owner := by
  obtain ⟨claimantOp, row, replied, rfl⟩ := claims
  have effect := exec_effect env keyed op
  rw [replied] at effect
  unfold jobStep at found
  generalize (exec env op db).2 = tables at effect found
  have owned : ∀ {target : Job} {leaseSeconds now : Time}, target ∈ db.jobs →
      (db.modifyJob target.id (claimChange target owner leaseSeconds now)).findJob target.jobId =
        some after → after.leaseOwner = some owner := by
    intro target leaseSeconds now mem foundTarget
    have keeps : ∀ row, (claimChange target owner leaseSeconds now row).jobId = row.jobId :=
      fun _ => rfl
    rw [JobsDb.findJob_modified (keyed.findJob_of_mem mem) keeps] at foundTarget
    cases foundTarget
    rfl
  cases effect with
  | claimed mem other leaseSeconds claimable =>
    cases claimantOp
    exact owned mem found
  | claimedNext mem other leaseSeconds claimable =>
    cases claimantOp
    exact owned mem found
  | cancelFinished mem now terminal => cases claimantOp
  | cancelRequested mem now active computed => cases claimantOp

/-- A claiming operation that changes a job's row claims that job. -/
theorem claims_of_changed (keyed : db.Keyed) {op : JobOp} {jobId owner : String}
    (claimantOp : claimant op = some owner) {row after : Job} (found : db.findJob jobId = some row)
    (foundAfter : (jobStep env db op).findJob jobId = some after) (changed : after ≠ row) :
    Claims env db op jobId owner := by
  refine ⟨claimantOp, ?_⟩
  have effect := exec_effect env keyed op
  unfold jobStep at foundAfter
  generalize (exec env op db).1 = reply at effect ⊢
  generalize (exec env op db).2 = tables at effect foundAfter
  have unchanged : tables = db → False := by
    rintro rfl
    exact changed (Option.some.inj (foundAfter.symm.trans found))
  have hit : ∀ {target : Job} {change : Job → Job}, target ∈ db.jobs →
      (∀ row, (change row).jobId = row.jobId) → tables = db.modifyJob target.id change →
      (change target).jobId = jobId := by
    rintro target change mem keeps rfl
    rw [JobsDb.findJob_modifyJob db keeps, found] at foundAfter
    by_cases same : row.id = target.id
    · rw [keeps, ← keyed.eq_of_id (JobsDb.mem_of_findJob found) mem same]
      exact JobsDb.jobId_of_findJob found
    · rw [Option.map_some, if_neg same] at foundAfter
      exact absurd (Option.some.inj foundAfter).symm changed
  cases effect with
  | claimed mem other leaseSeconds claimable => exact ⟨_, rfl, hit mem (by intro; rfl) rfl⟩
  | claimedNext mem other leaseSeconds claimable => exact ⟨_, rfl, hit mem (by intro; rfl) rfl⟩
  | raised | unclaimed | nothingReady => exact (unchanged rfl).elim
  | _ => cases claimantOp

/-- `advance_job` releases the owner when it ends or parks the job, and keeps
it otherwise. -/
theorem advanceValues_owner (job : Job) (pendingCancel : Option Time) (toStatus : JobStatus)
    (now leaseSeconds : Time) (stage : Option JobStatus) (progress : Option Int) (row : Job) :
    let after := advanceValues job pendingCancel toStatus now leaseSeconds stage progress row
    after.leaseOwner = none ∨
      after.leaseOwner = row.leaseOwner ∧ after.status ≠ .waitingForModel := by
  unfold advanceValues advancedRow
  simp only
  generalize (if (decide (toStatus = .waitingForModel) && pendingCancel.isSome) = true then
    JobStatus.cancelled else toStatus) = target
  by_cases releases : (target.isTerminal || decide (target = .waitingForModel)) = true
  · exact .inl (if_pos releases)
  · refine .inr ⟨if_neg releases, fun parked => releases ?_⟩
    rw [parked]
    rfl

/-- An owner after an operation that does not claim the job was one before. -/
theorem owner_kept (keyed : db.Keyed) {op : JobOp} {jobId : String} {row after : Job}
    (found : db.findJob jobId = some row) (foundAfter : (jobStep env db op).findJob jobId = some after)
    (unclaimed : ∀ owner, ¬ Claims env db op jobId owner) (moved : Moved op row after)
    {owner : String} (owned : after.leaseOwner = some owner) : row.leaseOwner = some owner := by
  by_cases changed : after = row
  · rw [← changed]
    exact owned
  · cases moved with
    | same => exact owned
    | claimed other leaseSeconds claimable =>
      exact absurd (claims_of_changed keyed rfl found foundAfter changed) (unclaimed other)
    | claimedNext other leaseSeconds claimable =>
      exact absurd (claims_of_changed keyed rfl found foundAfter changed) (unclaimed other)
    | advanced leaseSeconds stage progress valid held =>
      rcases advanceValues_owner row row.cancelRequestedAt _ _ leaseSeconds stage progress row with
        released | ⟨kept, _⟩
      · rw [released] at owned
        cases owned
      · rw [← kept]
        exact owned
    | committed leaseSeconds artifact progress valid held =>
      simp only [commitValues, committedRow] at owned
      split at owned
      · cases owned
      · exact owned
    | cancelRequested now active =>
      unfold cancelRequestedRow at owned
      split at owned
      · cases owned
      · exact owned
    | pinned providerId modelId modelVersion recommendationModelId held => exact owned
    | renewed leaseSeconds held => exact owned
    | recovered | failedOrRetried | cancelled | resumed | landed | exhausted => cases owned

/-- A job an operation other than a claim finishes is left without an owner. -/
theorem finished_unowned {op : JobOp} {row after : Job} (moved : Moved op row after)
    (unclaimed : claimant op = none) (entered : row.status ≠ after.status)
    (terminal : after.status.isTerminal = true) : after.leaseOwner = none := by
  cases moved with
  | claimed | claimedNext => cases unclaimed
  | advanced leaseSeconds stage progress valid held =>
    exact (released_advanceValues _ _ _ _ _ _ _ _ terminal).1
  | committed leaseSeconds artifact progress valid held =>
    exact (released_commitValues _ _ _ _ _ _ terminal).1
  | cancelRequested now active =>
    unfold cancelRequestedRow at entered ⊢
    split
    · rfl
    next busy =>
      rw [if_neg busy] at entered
      exact absurd rfl entered
  | same | pinned | renewed => exact absurd rfl entered
  | recovered | failedOrRetried | cancelled | resumed | landed | exhausted => rfl

/-- No event that ends a tenure leaves the job owned, a claim apart. -/
theorem ended_unowned (keyed : db.Keyed) {op : JobOp} {jobId : String} {row after : Job}
    (found : db.findJob jobId = some row) (foundAfter : (jobStep env db op).findJob jobId = some after)
    (moved : Moved op row after) (unclaimed : ∀ owner, ¬ Claims env db op jobId owner)
    (ended : EndsTenure env db op jobId) : after.leaseOwner = none := by
  have entering : ∀ {status}, Enters env db op jobId status →
      row.status ≠ status ∧ after.status = status := by
    rintro status ⟨row', after', foundRow, foundAfter', differs, entered⟩
    rw [found] at foundRow
    rw [foundAfter] at foundAfter'
    cases foundRow
    cases foundAfter'
    exact ⟨differs, entered⟩
  rcases ended with ⟨owner, claims⟩ | ⟨⟨owner, now, leaseSeconds, stage, progress, rfl⟩, parks⟩ |
    ⟨status, terminal, finishes⟩ | ⟨⟨owner, now, errorCode, nextRetryAt, errorDetail, rfl⟩, retries⟩ |
    ⟨now, row', after', rfl, foundRow, foundAfter', leased, free⟩
  · exact absurd claims (unclaimed owner)
  · obtain ⟨differs, parked⟩ := entering parks
    cases moved with
    | same => exact absurd parked differs
    | advanced leaseSeconds stage progress valid held =>
      rcases advanceValues_owner row row.cancelRequestedAt .waitingForModel now leaseSeconds stage
        progress row with released | ⟨_, elsewhere⟩
      · exact released
      · exact absurd parked elsewhere
  · obtain ⟨differs, entered⟩ := entering finishes
    subst entered
    cases claimantOp : claimant op with
    | none => exact finished_unowned moved claimantOp differs terminal
    | some owner =>
      have changed : after ≠ row := by
        rintro rfl
        exact differs rfl
      exact absurd (claims_of_changed keyed claimantOp found foundAfter changed) (unclaimed owner)
  · obtain ⟨differs, retried⟩ := entering retries
    cases moved with
    | same => exact absurd retried differs
    | failedOrRetried => rfl
  · rw [found] at foundRow
    rw [foundAfter] at foundAfter'
    cases foundRow
    cases foundAfter'
    cases moved with
    | same => exact absurd free leased
    | recovered => rfl

end

/-- The owner of a job is in its tenure. -/
theorem owner_tenure (past : List JobOp) {jobId owner : String} {row : Job}
    (found : (jobsAfter env past).findJob jobId = some row) (owned : row.leaseOwner = some owner) :
    Tenure env (EndsTenure env) jobId owner past := by
  refine @run_history _ _ (jobStep env) {} (fun past db => ∀ jobId owner row,
    db.findJob jobId = some row → row.leaseOwner = some owner →
      Tenure env (EndsTenure env) jobId owner past) ?_ ?_ past jobId owner row found owned
  · intro jobId owner row found
    cases found
  · intro past op ih jobId owner after foundAfter owned
    have keyed := jobsAfter_keyed env past
    have effect := exec_effect env keyed op
    cases found : (jobsAfter env past).findJob jobId with
    | none =>
      obtain ⟨submission, fingerprint, url, _, rfl⟩ := effect.unknown found foundAfter
      cases owned
    | some row =>
      obtain ⟨after', foundAfter', moved⟩ := effect.moved keyed found
      obtain rfl : after' = after := Option.some.inj (foundAfter'.symm.trans foundAfter)
      by_cases claimed : ∃ other, Claims env (jobsAfter env past) op jobId other
      · obtain ⟨other, claims⟩ := claimed
        have owner' := claims_owner keyed claims foundAfter
        rw [owned] at owner'
        cases owner'
        exact .claimed claims
      · have unclaimed : ∀ other, ¬ Claims env (jobsAfter env past) op jobId other :=
          fun other claims => claimed ⟨other, claims⟩
        have before := owner_kept keyed found foundAfter unclaimed moved owned
        refine .lasts (ih jobId owner row found before) fun ended => ?_
        rw [ended_unowned keyed found foundAfter moved unclaimed ended] at owned
        cases owned

/-- The job is leased to the owner beyond the clock reading. -/
def HeldBeyond (db : JobsDb) (jobId owner : String) (now : Time) : Prop :=
  ∃ row expiry, db.findJob jobId = some row ∧ row.leaseOwner = some owner ∧
    row.leaseExpiresAt = some expiry ∧ now < expiry

/-- A write that needs a lease succeeds only on a job leased to its owner beyond
the clock reading it was given. -/
theorem succeeded_held {db : JobsDb} (keyed : db.Keyed) {op : JobOp} {jobId owner : String}
    {now : Time} (uses : leaseUse op = some (jobId, owner, now))
    (succeeded : Succeeded (exec env op db).1) : HeldBeyond db jobId owner now := by
  have effect := exec_effect env keyed op
  generalize (exec env op db).1 = reply at effect succeeded
  generalize (exec env op db).2 = after at effect
  have live : ∀ {row : Job}, row ∈ db.jobs → row.jobId = jobId → row.leaseOwner = some owner →
      leaseLive row now = true → HeldBeyond db jobId owner now := by
    rintro row mem rfl owned alive
    unfold leaseLive at alive
    split at alive
    next expiry stored =>
      exact ⟨row, expiry, keyed.findJob_of_mem mem, owned, stored, by simpa using alive⟩
    next => cases alive
  have guarded : ∀ {row : Job}, row ∈ db.jobs → row.jobId = jobId →
      leaseGuard row owner now row = true → HeldBeyond db jobId owner now := by
    intro row mem named held
    simp only [leaseGuard, Bool.and_eq_true, decide_eq_true_eq] at held
    exact live mem named held.1.2 held.2
  cases effect with
  | raised => exact succeeded.elim
  | advanced mem leaseSeconds stage progress valid held =>
    cases uses
    exact guarded mem rfl held
  | committed mem leaseSeconds artifact progress valid held =>
    cases uses
    exact guarded mem rfl held
  | failedOrRetried mem errorCode nextRetryAt errorDetail valid held =>
    cases uses
    exact guarded mem rfl held
  | cancelled mem held =>
    cases uses
    exact guarded mem rfl held
  | pinned mem providerId modelId modelVersion recommendationModelId held =>
    cases uses
    simp only [pinGuard, Bool.and_eq_true, decide_eq_true_eq] at held
    exact live mem rfl held.1.2 held.2
  | notRenewed => cases succeeded
  | renewed mem leaseSeconds held =>
    cases uses
    simp only [ownerGuard, Bool.and_eq_true, decide_eq_true_eq] at held
    exact live mem rfl held.1.2 held.2
  | checkpointed mem stage artifactType inputFingerprint schemaVersion payloadJson held =>
    cases uses
    simp only [ownerGuard, Bool.and_eq_true, decide_eq_true_eq] at held
    exact live mem rfl held.1.2 held.2
  | _ => cases uses

theorem lostLease_unchanged {db : JobsDb} (keyed : db.Keyed) {op : JobOp}
    (lost : LostLease (exec env op db).1) : (exec env op db).2 = db := by
  have effect := exec_effect env keyed op
  generalize (exec env op db).1 = reply at effect lost
  generalize (exec env op db).2 = after at effect ⊢
  cases effect with
  | raised | notRenewed => rfl
  | renewed => cases lost
  | _ => exact lost.elim

/-- Lease fencing, over every history of operations. -/
theorem lease_fencing (past : List JobOp) (op : JobOp) (jobId owner : String) (now : Time)
    (uses : leaseUse op = some (jobId, owner, now)) :
    (Succeeded (exec env op (jobsAfter env past)).1 →
      Tenure env (EndsTenure env) jobId owner past ∧
        HeldBeyond (jobsAfter env past) jobId owner now) ∧
    (LostLease (exec env op (jobsAfter env past)).1 →
      (exec env op (jobsAfter env past)).2 = jobsAfter env past) := by
  have keyed := jobsAfter_keyed env past
  refine ⟨fun succeeded => ?_, lostLease_unchanged env keyed⟩
  have held := succeeded_held env keyed uses succeeded
  obtain ⟨row, expiry, found, owned, leased, later⟩ := held
  exact ⟨owner_tenure env past found owned, row, expiry, found, owned, leased, later⟩

/-- A submitted job claimed by one worker. -/
def claimedHistory : List JobOp :=
  [.submitVideo (sampleSubmission "job-1" 0), .claimJob "job-1" "worker-a" 60 1]

theorem lease_fencing_renewed :
    Tenure sampleEnv (EndsTenure sampleEnv) "job-1" "worker-a" claimedHistory ∧
      HeldBeyond (jobsAfter sampleEnv claimedHistory) "job-1" "worker-a" 20 := by
  have renewed : (exec sampleEnv (.renewLease "job-1" "worker-a" 20 60)
      (jobsAfter sampleEnv claimedHistory)).1 = .ok (.flag true) := by
    decide +kernel
  exact (lease_fencing sampleEnv claimedHistory (.renewLease "job-1" "worker-a" 20 60) "job-1"
    "worker-a" 20 rfl).1 (by rw [renewed]; rfl)

/-- The stronger reading: no move into `waiting_for_model` or `retry_wait` at
all since the claim. -/
def EndsTenureAnyhow (env : SubmitEnv) (db : JobsDb) (op : JobOp) (jobId : String) : Prop :=
  (∃ owner, Claims env db op jobId owner) ∨ Enters env db op jobId .waitingForModel ∨
    Finishes env db op jobId ∨ Enters env db op jobId .retryWait ∨ Recovers env db op jobId

/-- `advance_job` into `retry_wait` keeps the lease: the job is retried, and its
owner still renews. -/
theorem retried_still_leased :
    ¬ ∀ past op jobId owner now, leaseUse op = some (jobId, owner, now) →
      Succeeded (exec sampleEnv op (jobsAfter sampleEnv past)).1 →
        Tenure sampleEnv (EndsTenureAnyhow sampleEnv) jobId owner past := by
  intro stated
  let retry : JobOp := .advanceJob "job-1" "worker-a" .retryWait 2 60 none none
  have renewed : (exec sampleEnv (.renewLease "job-1" "worker-a" 20 60)
      (jobsAfter sampleEnv (claimedHistory ++ [retry]))).1 = .ok (.flag true) := by
    decide +kernel
  have tenure := stated (claimedHistory ++ [retry]) (.renewLease "job-1" "worker-a" 20 60) "job-1"
    "worker-a" 20 rfl (by rw [renewed]; rfl)
  rcases tenure_concat sampleEnv tenure with ⟨claims, _⟩ | ⟨_, unended⟩
  · cases claims
  · refine unended (.inr (.inr (.inr (.inl ?_))))
    have entered : ((jobsAfter sampleEnv claimedHistory).findJob "job-1").any
          (fun row => row.status ≠ .retryWait) = true ∧
        ((jobStep sampleEnv (jobsAfter sampleEnv claimedHistory) retry).findJob "job-1").any
          (fun row => row.status = .retryWait) = true := by
      decide +kernel
    obtain ⟨row, found, differs⟩ := (Option.any_eq_true _ _).1 entered.1
    obtain ⟨after, foundAfter, status⟩ := (Option.any_eq_true _ _).1 entered.2
    exact ⟨row, after, found, foundAfter, by simpa using differs, by simpa using status⟩

end EvoBlue.Guarantees
