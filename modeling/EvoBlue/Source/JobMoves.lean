import EvoBlue.Kernel.Runs
import EvoBlue.Source.JobEffects

/-!
# What an operation does to one job

`Moved op row after` lists the ways operation `op` can change the row of one
job. Jobs are never deleted, so every job of the tables moves, at every step,
to a row of the same key.
-/

namespace EvoBlue.Source

open EvoBlue.Kernel

namespace JobsDb.Keyed

variable {db : JobsDb}

theorem mapped (keyed : db.Keyed) {change : Job → Job}
    (ids : ∀ row ∈ db.jobs, (change row).id = row.id)
    (jobIds : ∀ row ∈ db.jobs, (change row).jobId = row.jobId) :
    ({ db with jobs := db.jobs.map change } : JobsDb).Keyed where
  ids := by
    have same : (db.jobs.map change).map (·.id) = db.jobs.map (·.id) := by
      rw [List.map_map]
      exact List.map_congr_left ids
    rw [same]
    exact keyed.ids
  jobIds := by
    have same : (db.jobs.map change).map (·.jobId) = db.jobs.map (·.jobId) := by
      rw [List.map_map]
      exact List.map_congr_left jobIds
    rw [same]
    exact keyed.jobIds
  fresh := by
    intro row mem
    obtain ⟨old, memOld, rfl⟩ := List.mem_map.1 mem
    rw [ids old memOld]
    exact keyed.fresh old memOld
  artifactKeys := keyed.artifactKeys
  artifactIds := keyed.artifactIds
  artifactFresh := keyed.artifactFresh

theorem modified (keyed : db.Keyed) (id : Nat) {change : Job → Job}
    (ids : ∀ row, (change row).id = row.id) (jobIds : ∀ row, (change row).jobId = row.jobId) :
    (db.modifyJob id change).Keyed :=
  keyed.mapped (fun row _ => by split <;> simp [ids]) (fun row _ => by split <;> simp [jobIds])

theorem swept (keyed : db.Keyed) (guard : Job → Bool) {values : Job → Job}
    (ids : ∀ row, (values row).id = row.id) (jobIds : ∀ row, (values row).jobId = row.jobId) :
    (db.sweep guard values).Keyed :=
  keyed.mapped (fun row _ => by split <;> simp [ids]) (fun row _ => by split <;> simp [jobIds])

theorem added (keyed : db.Keyed) {job : Nat → Job} (id : (job db.nextJobId).id = db.nextJobId)
    (new : db.findJob (job db.nextJobId).jobId = none) : (db.withJob job).Keyed where
  ids := by
    unfold JobsDb.withJob
    simp only [List.map_append, List.map_cons, List.map_nil]
    refine List.nodup_append.2 ⟨keyed.ids, List.nodup_singleton _, fun old memOld other memNew => ?_⟩
    rintro rfl
    obtain ⟨row, mem, rfl⟩ := List.mem_map.1 memOld
    have bound := keyed.fresh row mem
    rw [List.mem_singleton.1 memNew, id] at bound
    omega
  jobIds := by
    unfold JobsDb.withJob
    simp only [List.map_append, List.map_cons, List.map_nil]
    refine List.nodup_append.2
      ⟨keyed.jobIds, List.nodup_singleton _, fun old memOld other memNew => ?_⟩
    rintro rfl
    obtain ⟨row, mem, rfl⟩ := List.mem_map.1 memOld
    have absent := List.find?_eq_none.1 new row mem
    exact absent (by simpa using List.mem_singleton.1 memNew)
  fresh := by
    intro row mem
    unfold JobsDb.withJob at mem ⊢
    simp only [List.mem_append, List.mem_singleton] at mem ⊢
    rcases mem with old | rfl
    · have bound := keyed.fresh row old
      omega
    · omega
  artifactKeys := keyed.artifactKeys
  artifactIds := keyed.artifactIds
  artifactFresh := keyed.artifactFresh

theorem checkpointed (keyed : db.Keyed) (jobId : String) (now : Time)
    (stage artifactType inputFingerprint : String) (schemaVersion : Nat) (payloadJson : String) :
    (db.upsertCheckpoint jobId now stage artifactType inputFingerprint schemaVersion
      payloadJson).Keyed := by
  unfold JobsDb.upsertCheckpoint
  split
  next existing found =>
    refine ⟨keyed.ids, keyed.jobIds, keyed.fresh, ?_, ?_, fun row mem => ?_⟩
    · rw [List.map_map, List.map_congr_left fun row _ => ?_]
      · exact keyed.artifactKeys
      · simp only [Function.comp]
        split <;> rfl
    · rw [List.map_map, List.map_congr_left fun row _ => ?_]
      · exact keyed.artifactIds
      · simp only [Function.comp]
        split <;> rfl
    · obtain ⟨old, memOld, rfl⟩ := List.mem_map.1 mem
      have bound := keyed.artifactFresh old memOld
      split <;> exact bound
  next missing => exact keyed.inserted now missing

theorem empty : ({} : JobsDb).Keyed where
  ids := List.nodup_nil
  jobIds := List.nodup_nil
  fresh := fun _ mem => nomatch mem
  artifactKeys := List.nodup_nil
  artifactIds := List.nodup_nil
  artifactFresh := fun _ mem => nomatch mem

end JobsDb.Keyed

theorem cancelRequestedRow_id (idle : Bool) (now : Time) (row : Job) :
    (cancelRequestedRow idle now row).id = row.id := by
  unfold cancelRequestedRow
  split <;> rfl

theorem cancelRequestedRow_jobId (idle : Bool) (now : Time) (row : Job) :
    (cancelRequestedRow idle now row).jobId = row.jobId := by
  unfold cancelRequestedRow
  split <;> rfl

/-- The keys survive every operation. -/
theorem Effect.keyed {db after : JobsDb} {op : JobOp} {reply : Except JobError Reply}
    (effect : Effect db op reply after) (keyed : db.Keyed) : after.Keyed := by
  cases effect with
  | submitted submission fingerprint url new => exact keyed.added rfl new
  | claimed mem owner leaseSeconds claimable => exact keyed.modified _ (fun _ => rfl) fun _ => rfl
  | claimedNext mem owner leaseSeconds claimable =>
    exact keyed.modified _ (fun _ => rfl) fun _ => rfl
  | recovered now => exact keyed.swept _ (fun _ => rfl) fun _ => rfl
  | advanced mem leaseSeconds stage progress valid held computed =>
    subst computed
    exact keyed.modified _ (fun _ => rfl) fun _ => rfl
  | committed mem leaseSeconds artifact progress valid held computed =>
    subst computed
    exact (keyed.registered _ _ artifact).modified _ (fun _ => rfl) fun _ => rfl
  | failedOrRetried mem errorCode nextRetryAt errorDetail valid held computed =>
    subst computed
    exact keyed.modified _ (fun _ => rfl) fun _ => rfl
  | cancelled mem held => exact keyed.modified _ (fun _ => rfl) fun _ => rfl
  | cancelRequested mem now active computed =>
    subst computed
    exact keyed.modified _ (cancelRequestedRow_id _ now) (cancelRequestedRow_jobId _ now)
  | resumed modelId now => exact keyed.swept _ (fun _ => rfl) fun _ => rfl
  | landed now => exact keyed.swept _ (fun _ => rfl) fun _ => rfl
  | exhausted now => exact keyed.swept _ (fun _ => rfl) fun _ => rfl
  | pinned mem providerId modelId modelVersion recommendationModelId held computed =>
    subst computed
    exact keyed.modified _ (fun _ => rfl) fun _ => rfl
  | renewed mem leaseSeconds held => exact keyed.modified _ (fun _ => rfl) fun _ => rfl
  | checkpointed mem stage artifactType inputFingerprint schemaVersion payloadJson held =>
    exact keyed.checkpointed _ _ stage artifactType inputFingerprint schemaVersion payloadJson
  | _ => exact keyed

/-- How an operation may change the row of one job. -/
inductive Moved : JobOp → Job → Job → Prop
  | same (op : JobOp) (row : Job) : Moved op row row
  | claimed {row : Job} (owner : String) (leaseSeconds : Time) {now : Time}
      (claimable : isClaimable row now = true) :
      Moved (.claimJob row.jobId owner leaseSeconds now) row
        (claimChange row owner leaseSeconds now row)
  | claimedNext {row : Job} (owner : String) (leaseSeconds : Time) {now : Time}
      (claimable : claimableWhere now row = true) :
      Moved (.claimNextJob owner leaseSeconds now) row (claimChange row owner leaseSeconds now row)
  | recovered {row : Job} {now : Time} (stale : isStale now row = true) :
      Moved (.recoverStaleJobs now) row (releasedRow now row)
  | advanced {row : Job} {owner : String} {toStatus : JobStatus} {now : Time} (leaseSeconds : Time)
      (stage : Option JobStatus) (progress : Option Int)
      (valid : isValidTransition row.status toStatus = true)
      (held : leaseGuard row owner now row = true) :
      Moved (.advanceJob row.jobId owner toStatus now leaseSeconds stage progress) row
        (advanceValues row row.cancelRequestedAt toStatus now leaseSeconds stage progress row)
  | committed {row : Job} {owner : String} {toStatus : JobStatus} {now : Time} (leaseSeconds : Time)
      (artifact : ArtifactRecord) (progress : Option Int)
      (valid : isValidTransition row.status toStatus = true)
      (held : leaseGuard row owner now row = true) :
      Moved (.commitArtifactAndAdvance row.jobId owner toStatus now leaseSeconds artifact progress)
        row (commitValues row toStatus now leaseSeconds progress row)
  | failedOrRetried {row : Job} {owner : String} {now : Time} (errorCode : String)
      {retryable : Bool} (nextRetryAt : Option Time) (errorDetail : Option String)
      (valid : isValidTransition row.status (failureStatus retryable) = true)
      (held : leaseGuard row owner now row = true) :
      Moved (.markFailure row.jobId owner now errorCode retryable nextRetryAt errorDetail) row
        (failedRow (failureStatus retryable) errorCode errorDetail retryable nextRetryAt now row)
  | cancelled {row : Job} {owner : String} {now : Time}
      (held : leaseGuard row owner now row = true) :
      Moved (.markCancelled row.jobId owner now) row (cancelledRow now row)
  | cancelRequested {row : Job} (now : Time) (active : row.status.isTerminal = false) :
      Moved (.requestCancellation row.jobId now) row (cancelRequestedRow (isIdle row) now row)
  | resumed {row : Job} {modelId : String} (now : Time) (waits : isResumable modelId row = true) :
      Moved (.resumeWaitingJobs modelId now) row (resumedRow now row)
  | landed {row : Job} (now : Time) (dangling : isDangling row = true) :
      Moved (.landDanglingCancellations now) row (landedRow now row)
  | exhausted {row : Job} (now : Time) (spent : isExhausted row = true) :
      Moved (.failExhaustedRetries now) row (exhaustedRow now row)
  | pinned {row : Job} {owner : String} {now : Time} (providerId modelId modelVersion : String)
      (recommendationModelId : Option String) (held : pinGuard row owner now row = true) :
      Moved (.pinJobAsrRoute row.jobId owner now providerId modelId modelVersion
          recommendationModelId) row
        (pinnedRow providerId modelId modelVersion recommendationModelId now row)
  | renewed {row : Job} {owner : String} {now : Time} (leaseSeconds : Time)
      (held : ownerGuard row.jobId owner now row = true) :
      Moved (.renewLease row.jobId owner now leaseSeconds) row (renewedRow now leaseSeconds row)

section

variable {db : JobsDb}

/-- A write to one row moves that job, and no other. -/
theorem moved_modifyJob (keyed : db.Keyed) {target row : Job} (memTarget : target ∈ db.jobs)
    (mem : row ∈ db.jobs) {op : JobOp} {change : Job → Job}
    (moves : Moved op target (change target)) :
    Moved op row (if row.id = target.id then change row else row) := by
  by_cases same : row.id = target.id
  · rw [if_pos same, keyed.eq_of_id mem memTarget same]
    exact moves
  · rw [if_neg same]
    exact .same op row

theorem findJob_registered_modifyJob (db : JobsDb) (owner jobId : String) (now : Time)
    (artifact : ArtifactRecord) (id : Nat) (change : Job → Job) :
    ((db.registerArtifact owner now artifact).modifyJob id change).findJob jobId =
      (db.modifyJob id change).findJob jobId := by
  unfold JobsDb.findJob JobsDb.modifyJob
  rw [registerArtifact_jobs]

theorem Effect.moved {after : JobsDb} {op : JobOp} {reply : Except JobError Reply}
    (effect : Effect db op reply after) (keyed : db.Keyed) {jobId : String} {row : Job}
    (found : db.findJob jobId = some row) :
    ∃ row', after.findJob jobId = some row' ∧ Moved op row row' := by
  have mem := JobsDb.mem_of_findJob found
  have unchanged : ∃ row', db.findJob jobId = some row' ∧ Moved op row row' :=
    ⟨row, found, .same op row⟩
  have written : ∀ {target : Job} {change : Job → Job}, target ∈ db.jobs →
      (∀ row, (change row).jobId = row.jobId) → Moved op target (change target) →
      ∃ row', (db.modifyJob target.id change).findJob jobId = some row' ∧ Moved op row row' := by
    intro target change memTarget keeps moves
    refine ⟨_, ?_, moved_modifyJob keyed memTarget mem moves⟩
    rw [JobsDb.findJob_modifyJob db keeps, found]
    rfl
  have sweeps : ∀ {guard : Job → Bool} {values : Job → Job},
      (∀ row, (values row).jobId = row.jobId) →
      (guard row = true → Moved op row (values row)) →
      ∃ row', (db.sweep guard values).findJob jobId = some row' ∧ Moved op row row' := by
    intro guard values keeps moves
    refine ⟨if guard row then values row else row, ?_, ?_⟩
    · rw [JobsDb.findJob_sweep db guard keeps, found]
      rfl
    · split
      next hit => exact moves hit
      next => exact .same op row
  cases effect with
  | submitted submission fingerprint url new =>
    refine ⟨row, ?_, .same _ row⟩
    rw [JobsDb.findJob_withJob, found]
    rfl
  | claimed memTarget owner leaseSeconds claimable =>
    exact written memTarget (fun _ => rfl) (.claimed owner leaseSeconds claimable)
  | claimedNext memTarget owner leaseSeconds claimable =>
    exact written memTarget (fun _ => rfl) (.claimedNext owner leaseSeconds claimable)
  | recovered now => exact sweeps (fun _ => rfl) .recovered
  | advanced memTarget leaseSeconds stage progress valid held computed =>
    subst computed
    exact written memTarget (fun _ => rfl) (.advanced leaseSeconds stage progress valid held)
  | committed memTarget leaseSeconds artifact progress valid held computed =>
    subst computed
    simp only [findJob_registered_modifyJob]
    exact written memTarget (fun _ => rfl) (.committed leaseSeconds artifact progress valid held)
  | failedOrRetried memTarget errorCode nextRetryAt errorDetail valid held computed =>
    subst computed
    exact written memTarget (fun _ => rfl)
      (.failedOrRetried errorCode nextRetryAt errorDetail valid held)
  | cancelled memTarget held => exact written memTarget (fun _ => rfl) (.cancelled held)
  | cancelRequested memTarget now active computed =>
    subst computed
    exact written memTarget (cancelRequestedRow_jobId _ now) (.cancelRequested now active)
  | resumed modelId now => exact sweeps (fun _ => rfl) (.resumed now)
  | landed now => exact sweeps (fun _ => rfl) (.landed now)
  | exhausted now => exact sweeps (fun _ => rfl) (.exhausted now)
  | pinned memTarget providerId modelId modelVersion recommendationModelId held computed =>
    subst computed
    exact written memTarget (fun _ => rfl)
      (.pinned providerId modelId modelVersion recommendationModelId held)
  | renewed memTarget leaseSeconds held =>
    exact written memTarget (fun _ => rfl) (.renewed leaseSeconds held)
  | checkpointed memTarget stage artifactType inputFingerprint schemaVersion payloadJson held =>
    refine ⟨row, ?_, .same _ row⟩
    rw [← found]
    unfold JobsDb.findJob JobsDb.upsertCheckpoint
    split <;> rfl
  | _ => exact unchanged

/-- Only a submission adds a job. -/
theorem Effect.unknown {after : JobsDb} {op : JobOp} {reply : Except JobError Reply}
    (effect : Effect db op reply after) {jobId : String} (unknown : db.findJob jobId = none)
    {row : Job} (found : after.findJob jobId = some row) :
    ∃ submission fingerprint url, op = .submitVideo submission ∧
      row = submittedJob submission fingerprint url db.nextJobId := by
  have kept : ∀ {change : Job → Job}, (∀ row, (change row).jobId = row.jobId) →
      ∀ id, (db.modifyJob id change).findJob jobId = none := by
    intro change keeps id
    rw [JobsDb.findJob_modifyJob db keeps, unknown]
    rfl
  have swept : ∀ {values : Job → Job}, (∀ row, (values row).jobId = row.jobId) →
      ∀ guard, (db.sweep guard values).findJob jobId = none := by
    intro values keeps guard
    rw [JobsDb.findJob_sweep db guard keeps, unknown]
    rfl
  have absurdity : after.findJob jobId = none → ∃ submission fingerprint url,
      op = .submitVideo submission ∧
        row = submittedJob submission fingerprint url db.nextJobId := by
    intro none
    rw [none] at found
    cases found
  cases effect with
  | submitted submission fingerprint url new =>
    rw [JobsDb.findJob_withJob, unknown] at found
    refine ⟨submission, fingerprint, url, rfl, ?_⟩
    simp only [Option.none_or] at found
    split at found
    · exact (Option.some.inj found).symm
    · cases found
  | claimed memTarget owner leaseSeconds claimable => exact absurdity (kept (by intro; rfl) _)
  | claimedNext memTarget owner leaseSeconds claimable => exact absurdity (kept (by intro; rfl) _)
  | recovered now => exact absurdity (swept (by intro; rfl) _)
  | advanced memTarget leaseSeconds stage progress valid held computed =>
    subst computed
    exact absurdity (kept (by intro; rfl) _)
  | committed memTarget leaseSeconds artifact progress valid held computed =>
    subst computed
    refine absurdity ?_
    rw [findJob_registered_modifyJob]
    exact kept (by intro; rfl) _
  | failedOrRetried memTarget errorCode nextRetryAt errorDetail valid held computed =>
    subst computed
    exact absurdity (kept (by intro; rfl) _)
  | cancelled memTarget held => exact absurdity (kept (by intro; rfl) _)
  | cancelRequested memTarget now active computed =>
    subst computed
    exact absurdity (kept (cancelRequestedRow_jobId _ now) _)
  | resumed modelId now => exact absurdity (swept (by intro; rfl) _)
  | landed now => exact absurdity (swept (by intro; rfl) _)
  | exhausted now => exact absurdity (swept (by intro; rfl) _)
  | pinned memTarget providerId modelId modelVersion recommendationModelId held computed =>
    subst computed
    exact absurdity (kept (by intro; rfl) _)
  | renewed memTarget leaseSeconds held => exact absurdity (kept (by intro; rfl) _)
  | checkpointed memTarget stage artifactType inputFingerprint schemaVersion payloadJson held =>
    refine absurdity ?_
    rw [← unknown]
    unfold JobsDb.findJob JobsDb.upsertCheckpoint
    split <;> rfl
  | _ => exact absurdity unknown

end

/-! ## Runs of operations -/

/-- One operation as a step of the tables. -/
def jobStep (env : SubmitEnv) (db : JobsDb) (op : JobOp) : JobsDb := (exec env op db).2

/-- The tables after a list of operations on an empty database. -/
def jobsAfter (env : SubmitEnv) (ops : List JobOp) : JobsDb := run (jobStep env) {} ops

section

variable (env : SubmitEnv)

theorem jobStep_keyed {db : JobsDb} (keyed : db.Keyed) (op : JobOp) :
    (jobStep env db op).Keyed := (exec_effect env keyed op).keyed keyed

theorem jobsAfter_keyed (ops : List JobOp) : (jobsAfter env ops).Keyed :=
  @run_invariant _ _ (jobStep env) JobsDb.Keyed (fun _ op keyed => jobStep_keyed env keyed op) _
    .empty ops

/-- A property of rows that submissions establish and admitted moves keep holds
of every job of every run of admitted operations. -/
theorem jobsAfter_rows {admits : JobOp → Prop} {kept : Job → Prop}
    (begins : ∀ submission fingerprint url id, kept (submittedJob submission fingerprint url id))
    (moves : ∀ op row row', admits op → Moved op row row' → kept row → kept row')
    {ops : List JobOp} (admitted : ∀ op ∈ ops, admits op) {jobId : String} {row : Job}
    (found : (jobsAfter env ops).findJob jobId = some row) : kept row := by
  have all : (∀ op ∈ ops, admits op) → ∀ jobId row,
      (jobsAfter env ops).findJob jobId = some row → kept row := by
    refine @run_history _ _ (jobStep env) {} (fun past db => (∀ op ∈ past, admits op) →
      ∀ jobId row, db.findJob jobId = some row → kept row) ?_ ?_ ops
    · intro _ jobId row found
      cases found
    · intro past op ih admitted jobId row' found'
      have keyed : (jobsAfter env past).Keyed := jobsAfter_keyed env past
      have effect := exec_effect env keyed op
      cases before : (jobsAfter env past).findJob jobId with
      | none =>
        obtain ⟨submission, fingerprint, url, _, rfl⟩ := effect.unknown before found'
        exact begins _ _ _ _
      | some row =>
        obtain ⟨row'', found'', moved⟩ := effect.moved keyed before
        have same : row'' = row' := Option.some.inj (found''.symm.trans found')
        subst same
        exact moves op row row'' (admitted op (by simp)) moved
          (ih (fun op mem => admitted op (by simp [mem])) jobId row before)
  exact all admitted jobId row found

end

end EvoBlue.Source
