import EvoBlue.Source.JobOperations

/-!
# What each repository script does

The scripts executed symbolically: first inside an open immediate transaction,
where a worker also calls them, then as operations of their own.
-/

namespace EvoBlue.Source

open EvoBlue.Kernel

@[simp] theorem identityMapped_none (row : Job) : identityMapped none row = row := rfl

@[simp] theorem identityMapped_id (loaded : Option Job) (row : Job) :
    (identityMapped loaded row).id = row.id := by
  cases loaded with
  | none => rfl
  | some held =>
    unfold identityMapped
    by_cases same : held.id = row.id <;> simp [same]

section

variable {α : Type} (durable working : JobsDb) (wrote : Bool)

@[simp] theorem updateJobs_bind_run (guard : Job → Bool) (values : Job → Job)
    (next : List Nat → JobTx α) :
    (updateJobs guard values >>= next).run ⟨durable, working, .immediate, wrote⟩ =
      (next ((working.jobs.filter guard).map (·.id))).run
        ⟨durable, working.sweep guard values, .immediate, true⟩ := rfl

@[simp] theorem getJob_bind_run (loaded : Option Job) (jobId : String)
    (next : Option Job → JobTx α) :
    (getJob loaded jobId >>= next).run ⟨durable, working, .immediate, wrote⟩ =
      (next ((working.findJob jobId).map (identityMapped loaded))).run
        ⟨durable, working, .immediate, wrote⟩ := rfl

theorem getJob_closed (loaded : Option Job) (jobId : String) :
    (getJob loaded jobId).run ⟨durable, working, .closed, wrote⟩ =
      (.ok ((durable.findJob jobId).map (identityMapped loaded)),
        ⟨durable, durable, .deferred, false⟩) := rfl

theorem getRequired_closed {jobId : String} {row : Job} (found : durable.findJob jobId = some row) :
    (getRequired jobId).run ⟨durable, working, .closed, wrote⟩ =
      (.ok row, ⟨durable, durable, .deferred, false⟩) := by
  exact (Tx.bind_of_ok (getJob_closed durable working wrote none jobId) _).trans (by simp [found])

end

namespace JobsDb

variable {db : JobsDb}

theorem findJob_map (db : JobsDb) {change : Job → Job} (keeps : ∀ row, (change row).jobId = row.jobId)
    (jobId : String) :
    ({ db with jobs := db.jobs.map change } : JobsDb).findJob jobId =
      (db.findJob jobId).map change := by
  unfold findJob
  rw [List.find?_map]
  congr 2
  funext row
  simp [keeps]

theorem findJob_modifyJob (db : JobsDb) {change : Job → Job}
    (keeps : ∀ row, (change row).jobId = row.jobId) (id : Nat) (jobId : String) :
    (db.modifyJob id change).findJob jobId =
      (db.findJob jobId).map fun row => if row.id = id then change row else row := by
  refine findJob_map db (fun row => ?_) jobId
  split <;> simp [keeps]

theorem findJob_modified {jobId : String} {row : Job} (found : db.findJob jobId = some row)
    {change : Job → Job} (keeps : ∀ row, (change row).jobId = row.jobId) :
    (db.modifyJob row.id change).findJob jobId = some (change row) := by
  rw [findJob_modifyJob db keeps, found]
  simp

theorem findJob_sweep (db : JobsDb) (guard : Job → Bool) {values : Job → Job}
    (keeps : ∀ row, (values row).jobId = row.jobId) (jobId : String) :
    (db.sweep guard values).findJob jobId =
      (db.findJob jobId).map fun row => if guard row then values row else row := by
  refine findJob_map db (fun row => ?_) jobId
  split <;> simp [keeps]

end JobsDb

section Cas

variable {durable working : JobsDb} {wrote : Bool}

/-- A guarded update that names the row and accepts it hits that row alone. -/
theorem updateJobs_hit {α : Type} (keyed : working.Keyed) {row : Job} (mem : row ∈ working.jobs)
    {guard : Job → Bool} {values : Job → Job} (hit : guard row = true)
    (named : ∀ other ∈ working.jobs, guard other = true → other.id = row.id)
    (next : List Nat → JobTx α) :
    (updateJobs guard values >>= next).run ⟨durable, working, .immediate, wrote⟩ =
      (next [row.id]).run ⟨durable, working.modifyJob row.id values, .immediate, true⟩ := by
  have ids : (working.jobs.filter guard).map (·.id) = [row.id] := by
    have nodup : ((working.jobs.filter guard).map (·.id)).Nodup :=
      keyed.ids.sublist (List.filter_sublist.map _)
    have kept : row.id ∈ (working.jobs.filter guard).map (·.id) :=
      List.mem_map_of_mem (List.mem_filter.2 ⟨mem, hit⟩)
    have all : ∀ id ∈ (working.jobs.filter guard).map (·.id), id = row.id := by
      intro id memId
      obtain ⟨other, memOther, rfl⟩ := List.mem_map.1 memId
      exact named other (List.mem_filter.1 memOther).1 (List.mem_filter.1 memOther).2
    rw [List.eq_replicate_of_mem all] at nodup ⊢
    have most := List.nodup_replicate.1 nodup
    have least := List.length_pos_of_mem kept
    rw [show ((working.jobs.filter guard).map (·.id)).length = 1 by omega]
    rfl
  rw [updateJobs_bind_run, ids, keyed.sweep_eq_modifyJob mem hit named]

/-- A guarded update that names a row and rejects it hits nothing. -/
theorem updateJobs_miss {α : Type} (keyed : working.Keyed) {row : Job} (mem : row ∈ working.jobs)
    {guard : Job → Bool} {values : Job → Job} (missed : guard row = false)
    (named : ∀ other ∈ working.jobs, guard other = true → other.id = row.id)
    (next : List Nat → JobTx α) :
    (updateJobs guard values >>= next).run ⟨durable, working, .immediate, wrote⟩ =
      (next []).run ⟨durable, working, .immediate, true⟩ := by
  have rejected : ∀ other ∈ working.jobs, guard other = false := by
    intro other memOther
    cases accepted : guard other with
    | false => rfl
    | true =>
      rw [keyed.eq_of_id memOther mem (named other memOther accepted), missed] at accepted
      cases accepted
  rw [updateJobs_bind_run, JobsDb.sweep_eq_self rejected,
    List.filter_eq_nil_iff.2 fun other memOther => by simp [rejected other memOther]]
  rfl

/-- A compare-and-swap write of one row, inside an immediate transaction: it
commits when the guard accepts the stored row, and otherwise rolls everything
back and reports the lease as lost. -/
theorem cas_write (keyed : working.Keyed) {jobId : String} {row : Job}
    (found : working.findJob jobId = some row) {guard : Job → Bool} {values : Job → Job}
    (named : ∀ other, guard other = true → other.id = row.id)
    (keeps : ∀ other, (values other).jobId = other.jobId) :
    (updateJobs guard values >>= commitOrLeaseLost jobId).run
        ⟨durable, working, .immediate, wrote⟩ =
      if guard row then
        (.ok (values row), ⟨working.modifyJob row.id values, working.modifyJob row.id values,
          .deferred, false⟩)
      else (.error (.leaseLost jobId), ⟨durable, durable, .closed, false⟩) := by
  have mem := JobsDb.mem_of_findJob found
  cases hit : guard row with
  | false =>
    rw [updateJobs_miss keyed mem hit fun other _ => named other]
    rfl
  | true =>
    rw [updateJobs_hit keyed mem hit fun other _ => named other]
    exact getRequired_closed _ _ _ (JobsDb.findJob_modified found keeps)

theorem leaseGuard_id {job other : Job} {owner : String} {now : Time}
    (accepted : leaseGuard job owner now other = true) : other.id = job.id := by
  unfold leaseGuard at accepted
  simp only [Bool.and_eq_true, decide_eq_true_eq] at accepted
  exact accepted.1.1.1

theorem ownerGuard_jobId {jobId owner : String} {now : Time} {other : Job}
    (accepted : ownerGuard jobId owner now other = true) : other.jobId = jobId := by
  unfold ownerGuard at accepted
  simp only [Bool.and_eq_true, decide_eq_true_eq] at accepted
  exact accepted.1.1

/-- A stage write under the lease, for the instance the session holds. -/
theorem lease_write (keyed : working.Keyed) {jobId : String} {row job : Job}
    (found : working.findJob jobId = some row) (same : job.id = row.id) (owner : String) (now : Time) {values : Job → Job}
    (keeps : ∀ other, (values other).jobId = other.jobId) :
    (updateJobs (leaseGuard job owner now) values >>=
        commitOrLeaseLost jobId).run ⟨durable, working, .immediate, wrote⟩ =
      if leaseGuard job owner now row then
        (.ok (values row), ⟨working.modifyJob row.id values, working.modifyJob row.id values,
          .deferred, false⟩)
      else (.error (.leaseLost jobId), ⟨durable, durable, .closed, false⟩) := by
  refine cas_write keyed found (fun other accepted => ?_) keeps
  rw [leaseGuard_id accepted, same]

theorem advanceJob_missing {jobId : String} (missing : working.findJob jobId = none)
    (loaded : Option Job) (owner : String) (toStatus : JobStatus) (now leaseSeconds : Time)
    (stage : Option JobStatus) (progress : Option Int) :
    (advanceJob loaded jobId owner toStatus now leaseSeconds stage progress).run
        ⟨durable, working, .immediate, wrote⟩ =
      (.error (.keyError jobId), ⟨durable, working, .immediate, wrote⟩) := by
  unfold advanceJob
  rw [Tx.ensureImmediate_inside, getJob_bind_run, missing]
  rfl

theorem advanceJob_found (keyed : working.Keyed) {jobId : String} {row job : Job}
    (found : working.findJob jobId = some row) {loaded : Option Job}
    (view : identityMapped loaded row = job) (owner : String)
    (toStatus : JobStatus) (now leaseSeconds : Time) (stage : Option JobStatus)
    (progress : Option Int) :
    (advanceJob loaded jobId owner toStatus now leaseSeconds stage progress).run
        ⟨durable, working, .immediate, wrote⟩ =
      let values := advanceValues job row.cancelRequestedAt toStatus now leaseSeconds stage progress
      if isValidTransition job.status toStatus then
        if leaseGuard job owner now row then
          (.ok (values row), ⟨working.modifyJob row.id values, working.modifyJob row.id values,
            .deferred, false⟩)
        else (.error (.leaseLost jobId), ⟨durable, durable, .closed, false⟩)
      else (.error (.transitionError job.status toStatus),
        ⟨durable, working, .immediate, wrote⟩) := by
  have same : job.id = row.id := by rw [← view, identityMapped_id]
  unfold advanceJob validateTransition
  rw [Tx.ensureImmediate_inside, getJob_bind_run, found, Option.map_some, view]
  simp only
  split
  · have own : (working.jobs.find? fun other => other.id = job.id) = some row := by
      rw [same]
      exact keyed.find_id (JobsDb.mem_of_findJob found)
    rw [Tx.pure_bind_run, Tx.read_bind_run, Tx.begun_immediate]
    simp only [own, Option.bind_some]
    exact lease_write keyed found same owner now fun _ => rfl
  · rfl

@[simp] theorem registerArtifact_jobs (db : JobsDb) (jobId : String) (now : Time)
    (artifact : ArtifactRecord) : (db.registerArtifact jobId now artifact).jobs = db.jobs := by
  unfold JobsDb.registerArtifact
  split <;> rfl

theorem registerArtifact_findJob (db : JobsDb) (jobId other : String) (now : Time)
    (artifact : ArtifactRecord) :
    (db.registerArtifact jobId now artifact).findJob other = db.findJob other := by
  unfold JobsDb.findJob
  rw [registerArtifact_jobs]

theorem commitArtifactAndAdvance_missing {jobId : String} (missing : working.findJob jobId = none)
    (loaded : Option Job) (owner : String) (toStatus : JobStatus) (now leaseSeconds : Time)
    (artifact : ArtifactRecord) (progress : Option Int) :
    (commitArtifactAndAdvance loaded jobId owner toStatus now leaseSeconds artifact progress).run
        ⟨durable, working, .immediate, wrote⟩ =
      (.error (.keyError jobId), ⟨durable, working, .immediate, wrote⟩) := by
  unfold commitArtifactAndAdvance
  rw [Tx.ensureImmediate_inside, getJob_bind_run, missing]
  rfl

theorem commitArtifactAndAdvance_found {jobId : String} (now : Time) (artifact : ArtifactRecord)
    (keyed : (working.registerArtifact jobId now artifact).Keyed) {row job : Job}
    (found : working.findJob jobId = some row) {loaded : Option Job}
    (view : identityMapped loaded row = job) (owner : String)
    (toStatus : JobStatus) (leaseSeconds : Time) (progress : Option Int) :
    (commitArtifactAndAdvance loaded jobId owner toStatus now leaseSeconds artifact progress).run
        ⟨durable, working, .immediate, wrote⟩ =
      let values := commitValues job toStatus now leaseSeconds progress
      let after := (working.registerArtifact jobId now artifact).modifyJob row.id values
      if isValidTransition job.status toStatus then
        if leaseGuard job owner now row then (.ok (values row), ⟨after, after, .deferred, false⟩)
        else (.error (.leaseLost jobId), ⟨durable, durable, .closed, false⟩)
      else (.error (.transitionError job.status toStatus),
        ⟨durable, working, .immediate, wrote⟩) := by
  have same : job.id = row.id := by rw [← view, identityMapped_id]
  unfold commitArtifactAndAdvance validateTransition
  rw [Tx.ensureImmediate_inside, getJob_bind_run, found, Option.map_some, view]
  simp only
  split
  · rw [Tx.pure_bind_run, Tx.write_bind_run, Tx.begun_immediate]
    refine lease_write keyed ?_ same owner now fun _ => rfl
    rw [registerArtifact_findJob, found]
  · rfl

theorem markFailure_missing {jobId : String} (missing : working.findJob jobId = none)
    (loaded : Option Job) (owner : String) (now : Time) (errorCode : String) (retryable : Bool)
    (nextRetryAt : Option Time) (errorDetail : Option String) :
    (markFailure loaded jobId owner now errorCode retryable nextRetryAt errorDetail).run
        ⟨durable, working, .immediate, wrote⟩ =
      (.error (.keyError jobId), ⟨durable, working, .immediate, wrote⟩) := by
  unfold markFailure
  rw [Tx.ensureImmediate_inside, getJob_bind_run, missing]
  rfl

theorem markFailure_found (keyed : working.Keyed) {jobId : String} {row job : Job}
    (found : working.findJob jobId = some row) {loaded : Option Job}
    (view : identityMapped loaded row = job) (owner : String) (now : Time)
    (errorCode : String) (retryable : Bool) (nextRetryAt : Option Time)
    (errorDetail : Option String) :
    (markFailure loaded jobId owner now errorCode retryable nextRetryAt errorDetail).run
        ⟨durable, working, .immediate, wrote⟩ =
      let values :=
        failedRow (failureStatus retryable) errorCode errorDetail retryable nextRetryAt now
      if isValidTransition job.status (failureStatus retryable) then
        if leaseGuard job owner now row then
          (.ok (values row), ⟨working.modifyJob row.id values, working.modifyJob row.id values,
            .deferred, false⟩)
        else (.error (.leaseLost jobId), ⟨durable, durable, .closed, false⟩)
      else (.error (.transitionError job.status (failureStatus retryable)),
        ⟨durable, working, .immediate, wrote⟩) := by
  have same : job.id = row.id := by rw [← view, identityMapped_id]
  unfold markFailure validateTransition
  rw [Tx.ensureImmediate_inside, getJob_bind_run, found, Option.map_some, view]
  simp only
  split
  · rw [Tx.pure_bind_run]
    exact lease_write keyed found same owner now fun _ => rfl
  · rfl

theorem markCancelled_missing {jobId : String} (missing : working.findJob jobId = none)
    (loaded : Option Job) (owner : String) (now : Time) :
    (markCancelled loaded jobId owner now).run ⟨durable, working, .immediate, wrote⟩ =
      (.error (.keyError jobId), ⟨durable, working, .immediate, wrote⟩) := by
  unfold markCancelled
  rw [Tx.ensureImmediate_inside, getJob_bind_run, missing]
  rfl

theorem markCancelled_found (keyed : working.Keyed) {jobId : String} {row job : Job}
    (found : working.findJob jobId = some row) {loaded : Option Job}
    (view : identityMapped loaded row = job) (owner : String)
    (now : Time) :
    (markCancelled loaded jobId owner now).run ⟨durable, working, .immediate, wrote⟩ =
      if leaseGuard job owner now row then
        (.ok (cancelledRow now row), ⟨working.modifyJob row.id (cancelledRow now),
          working.modifyJob row.id (cancelledRow now), .deferred, false⟩)
      else (.error (.leaseLost jobId), ⟨durable, durable, .closed, false⟩) := by
  have same : job.id = row.id := by rw [← view, identityMapped_id]
  unfold markCancelled
  rw [Tx.ensureImmediate_inside, getJob_bind_run, found, Option.map_some, view]
  exact lease_write keyed found same owner now fun _ => rfl

theorem pinJobAsrRoute_missing {jobId : String} (missing : working.findJob jobId = none)
    (loaded : Option Job) (owner : String) (now : Time)
    (providerId modelId modelVersion : String) (recommendationModelId : Option String) :
    (pinJobAsrRoute loaded jobId owner now providerId modelId modelVersion recommendationModelId).run
        ⟨durable, working, .immediate, wrote⟩ =
      (.error (.keyError jobId), ⟨durable, working, .immediate, wrote⟩) := by
  unfold pinJobAsrRoute
  rw [Tx.ensureImmediate_inside, getJob_bind_run, missing]
  rfl

theorem pinJobAsrRoute_found (keyed : working.Keyed) {jobId : String} {row : Job}
    (found : working.findJob jobId = some row) (loaded : Option Job) (owner : String) (now : Time)
    (providerId modelId modelVersion : String) (recommendationModelId : Option String) :
    (pinJobAsrRoute loaded jobId owner now providerId modelId modelVersion recommendationModelId).run
        ⟨durable, working, .immediate, wrote⟩ =
      let values := pinnedRow providerId modelId modelVersion recommendationModelId now
      if pinGuard row owner now row then
        (.ok (values row), ⟨working.modifyJob row.id values, working.modifyJob row.id values,
          .deferred, false⟩)
      else (.error (.leaseLost jobId), ⟨durable, durable, .closed, false⟩) := by
  unfold pinJobAsrRoute
  rw [Tx.ensureImmediate_inside, getJob_bind_run, found]
  have same : pinGuard (identityMapped loaded row) owner now = pinGuard row owner now := by
    unfold pinGuard
    rw [identityMapped_id]
  simp only [Option.map_some, same]
  refine cas_write keyed found (fun other accepted => ?_) fun _ => rfl
  unfold pinGuard at accepted
  simp only [Bool.and_eq_true, decide_eq_true_eq] at accepted
  exact accepted.1.1.1

theorem claimJob_missing {jobId : String} (missing : working.findJob jobId = none)
    (loaded : Option Job) (owner : String) (leaseSeconds now : Time) :
    (claimJob loaded jobId owner leaseSeconds now).run ⟨durable, working, .immediate, wrote⟩ =
      (.ok none, ⟨durable, working, .immediate, wrote⟩) := by
  unfold claimJob
  rw [Tx.ensureImmediate_inside, getJob_bind_run, missing]
  rfl

theorem claimJob_found (keyed : working.Keyed) {jobId : String} {row : Job}
    (found : working.findJob jobId = some row) {loaded : Option Job}
    (current : identityMapped loaded row = row) (owner : String) (leaseSeconds now : Time) :
    (claimJob loaded jobId owner leaseSeconds now).run ⟨durable, working, .immediate, wrote⟩ =
      let values := claimedRow (claimStatus row).1 (claimStatus row).2 owner leaseSeconds now
      if isClaimable row now then
        (.ok (some (values row)), ⟨working.modifyJob row.id values,
          working.modifyJob row.id values, .deferred, false⟩)
      else (.ok none, ⟨durable, working, .immediate, wrote⟩) := by
  have mem := JobsDb.mem_of_findJob found
  have named : ∀ other ∈ working.jobs, claimGuard row other = true → other.id = row.id := by
    intro other _ accepted
    simp only [claimGuard, Bool.and_eq_true, decide_eq_true_eq] at accepted
    exact accepted.1.1
  have keeps : ∀ other, (claimedRow (claimStatus row).1 (claimStatus row).2 owner leaseSeconds now
      other).jobId = other.jobId := fun _ => rfl
  unfold claimJob
  rw [Tx.ensureImmediate_inside, getJob_bind_run, found, Option.map_some, current]
  cases claimable : isClaimable row now with
  | false => simp [claimable]
  | true =>
    simp only [claimable, Bool.not_true, Bool.false_eq_true, if_false, if_true]
    rw [updateJobs_hit keyed mem (by simp [claimGuard]) named]
    simp only [List.head?_cons, Tx.commit_bind_run, Tx.committed_wrote, getJob_closed]
    rw [JobsDb.findJob_modified found keeps]
    rfl

theorem requestCancellation_missing {jobId : String} (missing : working.findJob jobId = none)
    (now : Time) :
    (requestCancellation none jobId now).run ⟨durable, working, .immediate, wrote⟩ =
      (.ok none, ⟨durable, working, .immediate, wrote⟩) := by
  unfold requestCancellation
  rw [Tx.ensureImmediate_inside, getJob_bind_run, missing]
  rfl

theorem requestCancellation_found (keyed : working.Keyed) {jobId : String} {row : Job}
    (found : working.findJob jobId = some row) (now : Time) :
    (requestCancellation none jobId now).run ⟨durable, working, .immediate, wrote⟩ =
      let values := cancelRequestedRow (isIdle row) now
      if row.status.isTerminal then (.ok (some row), ⟨durable, working, .immediate, wrote⟩)
      else (.ok (some (values row)), ⟨working.modifyJob row.id values,
        working.modifyJob row.id values, .deferred, false⟩) := by
  have mem := JobsDb.mem_of_findJob found
  have named : ∀ other ∈ working.jobs, cancelGuard row other = true → other.id = row.id := by
    intro other _ accepted
    simp only [cancelGuard, Bool.and_eq_true, decide_eq_true_eq] at accepted
    exact accepted.1
  have keeps : ∀ other, (cancelRequestedRow (isIdle row) now other).jobId = other.jobId := by
    intro other
    unfold cancelRequestedRow
    split <;> rfl
  unfold requestCancellation
  rw [Tx.ensureImmediate_inside, getJob_bind_run, found, Option.map_some, identityMapped_none]
  cases terminal : row.status.isTerminal with
  | true => simp [terminal]
  | false =>
    simp only [terminal, Bool.false_eq_true, if_false]
    rw [updateJobs_hit keyed mem (by simp [cancelGuard]) named]
    simp only [List.head?_cons, Tx.commit_bind_run, Tx.committed_wrote]
    exact Tx.bind_of_ok (getRequired_closed _ _ _ (JobsDb.findJob_modified found keeps)) _

theorem ownerGuard_named (keyed : working.Keyed) {jobId : String} {row : Job}
    (found : working.findJob jobId = some row) (owner : String) (now : Time) :
    ∀ other ∈ working.jobs, ownerGuard jobId owner now other = true → other.id = row.id := by
  intro other memOther accepted
  refine congrArg Job.id (keyed.eq_of_jobId memOther (JobsDb.mem_of_findJob found) ?_)
  rw [ownerGuard_jobId accepted, JobsDb.jobId_of_findJob found]

theorem renewLease_found (keyed : working.Keyed) {jobId : String} {row : Job}
    (found : working.findJob jobId = some row) (owner : String) (now leaseSeconds : Time) :
    (renewLease jobId owner now leaseSeconds).run ⟨durable, working, .immediate, wrote⟩ =
      let values := renewedRow now leaseSeconds
      if ownerGuard jobId owner now row then
        (.ok true, ⟨working.modifyJob row.id values, working.modifyJob row.id values, .closed,
          false⟩)
      else (.ok false, ⟨durable, durable, .closed, false⟩) := by
  have mem := JobsDb.mem_of_findJob found
  have named := ownerGuard_named keyed found owner now
  unfold renewLease
  rw [Tx.ensureImmediate_inside]
  cases held : ownerGuard jobId owner now row with
  | false =>
    rw [updateJobs_miss keyed mem held named]
    rfl
  | true =>
    rw [updateJobs_hit keyed mem held named]
    rfl

/-- No guarded update hits a job that does not exist. -/
theorem ownerGuard_missing {jobId : String} (missing : working.findJob jobId = none)
    (owner : String) (now : Time) : working.jobs.filter (ownerGuard jobId owner now) = [] := by
  refine List.filter_eq_nil_iff.2 fun other memOther accepted => ?_
  have absent := List.find?_eq_none.1 missing other memOther
  exact absent (by simp [ownerGuard_jobId accepted])

theorem renewLease_missing {jobId : String} (missing : working.findJob jobId = none)
    (owner : String) (now leaseSeconds : Time) :
    (renewLease jobId owner now leaseSeconds).run ⟨durable, working, .immediate, wrote⟩ =
      (.ok false, ⟨durable, durable, .closed, false⟩) := by
  unfold renewLease
  rw [Tx.ensureImmediate_inside, updateJobs_bind_run, ownerGuard_missing missing]
  rfl

theorem saveArtifactInline_found (keyed : working.Keyed) {jobId : String} {row : Job}
    (found : working.findJob jobId = some row) (owner : String) (now : Time)
    (stage artifactType inputFingerprint : String) (schemaVersion : Nat) (payloadJson : String) :
    (saveArtifactInline jobId owner now stage artifactType inputFingerprint schemaVersion payloadJson).run
        ⟨durable, working, .immediate, wrote⟩ =
      let after := working.upsertCheckpoint jobId now stage artifactType inputFingerprint
        schemaVersion payloadJson
      if ownerGuard jobId owner now row then (.ok (), ⟨after, after, .closed, false⟩)
      else (.error (.leaseLost jobId), ⟨durable, durable, .closed, false⟩) := by
  have mem := JobsDb.mem_of_findJob found
  have named := ownerGuard_named keyed found owner now
  unfold saveArtifactInline
  rw [Tx.ensureImmediate_inside]
  cases held : ownerGuard jobId owner now row with
  | false =>
    rw [updateJobs_miss keyed mem held named]
    rfl
  | true =>
    rw [updateJobs_hit keyed mem held named, JobsDb.modifyJob_self]
    rfl

theorem saveArtifactInline_missing {jobId : String} (missing : working.findJob jobId = none)
    (owner : String) (now : Time) (stage artifactType inputFingerprint : String)
    (schemaVersion : Nat) (payloadJson : String) :
    (saveArtifactInline jobId owner now stage artifactType inputFingerprint schemaVersion payloadJson).run
        ⟨durable, working, .immediate, wrote⟩ =
      (.error (.leaseLost jobId), ⟨durable, durable, .closed, false⟩) := by
  unfold saveArtifactInline
  rw [Tx.ensureImmediate_inside, updateJobs_bind_run, ownerGuard_missing missing]
  rfl

end Cas

end EvoBlue.Source
