import EvoBlue.Source.JobScripts

/-!
# All an operation can do

`Effect db op reply after`: operation `op` on the tables `db` may reply `reply`
and leave the tables `after`. There is one case for each way out of a script,
with the guard that leads there.
-/

namespace EvoBlue.Source

open EvoBlue.Kernel

/-- The rows a sweep reports: the ones it changed, as they are afterwards. -/
def JobsDb.swept (db : JobsDb) (guard : Job → Bool) (values : Job → Job) : List Job :=
  (db.sweep guard values).jobs.filter fun row =>
    ((db.jobs.filter guard).map (·.id)).contains row.id

def isStale (now : Time) (row : Job) : Bool := leaseExpired row now && !row.status.isTerminal

/-- The row of a successful claim. -/
def claimChange (row : Job) (owner : String) (leaseSeconds now : Time) : Job → Job :=
  claimedRow (claimStatus row).1 (claimStatus row).2 owner leaseSeconds now

inductive Effect (db : JobsDb) : JobOp → Except JobError Reply → JobsDb → Prop
  /-- Whatever raises leaves the tables alone. -/
  | raised (op : JobOp) (error : JobError) : Effect db op (.error error) db
  | reused (submission : Submission) (job : Job) :
      Effect db (.submitVideo submission) (.ok (.submitted job true)) db
  | submitted (submission : Submission) (fingerprint url : String)
      (new : db.findJob submission.newJobId = none) :
      Effect db (.submitVideo submission)
        (.ok (.submitted (submittedJob submission fingerprint url db.nextJobId) false))
        (db.withJob (submittedJob submission fingerprint url))
  | unclaimed (jobId owner : String) (leaseSeconds now : Time) :
      Effect db (.claimJob jobId owner leaseSeconds now) (.ok (.maybeJob none)) db
  | claimed {row : Job} (mem : row ∈ db.jobs) (owner : String) (leaseSeconds : Time) {now : Time}
      (claimable : isClaimable row now = true) :
      Effect db (.claimJob row.jobId owner leaseSeconds now)
        (.ok (.maybeJob (some (claimChange row owner leaseSeconds now row))))
        (db.modifyJob row.id (claimChange row owner leaseSeconds now))
  | nothingReady (owner : String) (leaseSeconds now : Time)
      (none : ∀ row ∈ db.jobs, claimableWhere now row = false) :
      Effect db (.claimNextJob owner leaseSeconds now) (.ok (.maybeJob .none)) db
  | claimedNext {row : Job} (mem : row ∈ db.jobs) (owner : String) (leaseSeconds : Time)
      {now : Time} (claimable : claimableWhere now row = true) :
      Effect db (.claimNextJob owner leaseSeconds now)
        (.ok (.maybeJob (some (claimChange row owner leaseSeconds now row))))
        (db.modifyJob row.id (claimChange row owner leaseSeconds now))
  | recovered (now : Time) :
      Effect db (.recoverStaleJobs now) (.ok (.jobs (db.swept (isStale now) (releasedRow now))))
        (db.sweep (isStale now) (releasedRow now))
  | advanced {row : Job} (mem : row ∈ db.jobs) {owner : String} {toStatus : JobStatus} {now : Time}
      (leaseSeconds : Time) (stage : Option JobStatus) (progress : Option Int)
      (valid : isValidTransition row.status toStatus = true)
      (held : leaseGuard row owner now row = true)
      {values : Job → Job}
      (computed : values =
        advanceValues row row.cancelRequestedAt toStatus now leaseSeconds stage progress) :
      Effect db (.advanceJob row.jobId owner toStatus now leaseSeconds stage progress)
        (.ok (.job (values row))) (db.modifyJob row.id values)
  | committed {row : Job} (mem : row ∈ db.jobs) {owner : String} {toStatus : JobStatus}
      {now : Time} (leaseSeconds : Time) (artifact : ArtifactRecord) (progress : Option Int)
      (valid : isValidTransition row.status toStatus = true)
      (held : leaseGuard row owner now row = true)
      {values : Job → Job}
      (computed : values = commitValues row toStatus now leaseSeconds progress) :
      Effect db (.commitArtifactAndAdvance row.jobId owner toStatus now leaseSeconds artifact progress)
        (.ok (.job (values row)))
        ((db.registerArtifact row.jobId now artifact).modifyJob row.id values)
  | failedOrRetried {row : Job} (mem : row ∈ db.jobs) {owner : String} {now : Time}
      (errorCode : String) {retryable : Bool} (nextRetryAt : Option Time)
      (errorDetail : Option String)
      (valid : isValidTransition row.status (failureStatus retryable) = true)
      (held : leaseGuard row owner now row = true)
      {values : Job → Job}
      (computed : values =
        failedRow (failureStatus retryable) errorCode errorDetail retryable nextRetryAt now) :
      Effect db (.markFailure row.jobId owner now errorCode retryable nextRetryAt errorDetail)
        (.ok (.job (values row))) (db.modifyJob row.id values)
  | cancelled {row : Job} (mem : row ∈ db.jobs) {owner : String} {now : Time}
      (held : leaseGuard row owner now row = true) :
      Effect db (.markCancelled row.jobId owner now) (.ok (.job (cancelledRow now row)))
        (db.modifyJob row.id (cancelledRow now))
  | cancelUnknown (jobId : String) (now : Time) (unknown : db.findJob jobId = none) :
      Effect db (.requestCancellation jobId now) (.ok (.maybeJob none)) db
  | cancelFinished {row : Job} (mem : row ∈ db.jobs) (now : Time)
      (terminal : row.status.isTerminal = true) :
      Effect db (.requestCancellation row.jobId now) (.ok (.maybeJob (some row))) db
  | cancelRequested {row : Job} (mem : row ∈ db.jobs) (now : Time)
      (active : row.status.isTerminal = false)
      {values : Job → Job}
      (computed : values = cancelRequestedRow (isIdle row) now) :
      Effect db (.requestCancellation row.jobId now) (.ok (.maybeJob (some (values row))))
        (db.modifyJob row.id values)
  | resumed (modelId : String) (now : Time) :
      Effect db (.resumeWaitingJobs modelId now)
        (.ok (.jobIds ((db.jobs.filter fun row =>
          ((db.jobs.filter (isResumable modelId)).map (·.id)).contains row.id).map (·.jobId))))
        (db.sweep (isResumable modelId) (resumedRow now))
  | landed (now : Time) :
      Effect db (.landDanglingCancellations now) (.ok (.jobs (db.swept isDangling (landedRow now))))
        (db.sweep isDangling (landedRow now))
  | exhausted (now : Time) :
      Effect db (.failExhaustedRetries now) (.ok (.jobs (db.swept isExhausted (exhaustedRow now))))
        (db.sweep isExhausted (exhaustedRow now))
  | pinned {row : Job} (mem : row ∈ db.jobs) {owner : String} {now : Time}
      (providerId modelId modelVersion : String) (recommendationModelId : Option String)
      (held : pinGuard row owner now row = true)
      {values : Job → Job}
      (computed : values =
        pinnedRow providerId modelId modelVersion recommendationModelId now) :
      Effect db (.pinJobAsrRoute row.jobId owner now providerId modelId modelVersion
          recommendationModelId) (.ok (.job (values row))) (db.modifyJob row.id values)
  | notRenewed (jobId owner : String) (now leaseSeconds : Time) :
      Effect db (.renewLease jobId owner now leaseSeconds) (.ok (.flag false)) db
  | renewed {row : Job} (mem : row ∈ db.jobs) {owner : String} {now : Time} (leaseSeconds : Time)
      (held : ownerGuard row.jobId owner now row = true) :
      Effect db (.renewLease row.jobId owner now leaseSeconds) (.ok (.flag true))
        (db.modifyJob row.id (renewedRow now leaseSeconds))
  | checkpointed {row : Job} (mem : row ∈ db.jobs) {owner : String} {now : Time}
      (stage artifactType inputFingerprint : String) (schemaVersion : Nat) (payloadJson : String)
      (held : ownerGuard row.jobId owner now row = true) :
      Effect db (.saveArtifactInline row.jobId owner now stage artifactType inputFingerprint
          schemaVersion payloadJson) (.ok .done)
        (db.upsertCheckpoint row.jobId now stage artifactType inputFingerprint schemaVersion
          payloadJson)

/-! ## Claims -/

/-- What the selection of `claim_next_job` finds, `claim_job` may claim. -/
theorem claimableWhere_isClaimable {now : Time} {row : Job}
    (selected : claimableWhere now row = true) : isClaimable row now = true := by
  unfold claimableWhere at selected
  unfold isClaimable
  simp only [Bool.and_eq_true, Bool.or_eq_true, decide_eq_true_eq] at selected
  obtain ⟨spare, ready⟩ := selected
  rw [if_neg (by omega)]
  rcases ready with (queued | ⟨waits, due⟩) | ⟨running, free⟩
  · rw [queued]
    rfl
  · rw [waits]
    exact due
  · have shape : row.status.isTerminal = false ∧ row.status ≠ .queued ∧ row.status ≠ .retryWait := by
      revert running
      cases row.status <;> decide
    rw [shape.1, if_neg (by decide), if_neg shape.2.1, if_neg shape.2.2]
    exact free

theorem JobsDb.mem_claimCandidates {db : JobsDb} {now : Time} {row : Job}
    (mem : row ∈ db.claimCandidates now) : row ∈ db.jobs ∧ claimableWhere now row = true := by
  have selected := List.mem_of_mem_take mem
  rw [List.mem_mergeSort] at selected
  exact List.mem_filter.1 selected

theorem JobsDb.claimCandidates_nil {db : JobsDb} {now : Time} (empty : db.claimCandidates now = []) :
    ∀ row ∈ db.jobs, claimableWhere now row = false := by
  intro row mem
  cases selected : claimableWhere now row with
  | false => rfl
  | true =>
    have kept : row ∈ (db.jobs.filter (claimableWhere now)).mergeSort claimOrder :=
      List.mem_mergeSort.2 (List.mem_filter.2 ⟨mem, selected⟩)
    have taken := List.take_eq_nil_iff.1 empty
    rcases taken with zero | none
    · cases zero
    · rw [none] at kept
      cases kept

/-- The first candidate's claim succeeds: nothing wrote between the selection
and the update. -/
theorem claimNextJob_apply {db : JobsDb} (keyed : db.Keyed) (owner : String)
    (leaseSeconds now : Time) :
    Tx.atomically (claimNextJob owner leaseSeconds now) db =
      match db.claimCandidates now with
      | [] => (.ok none, db)
      | row :: _ =>
        (.ok (some (claimChange row owner leaseSeconds now row)),
          db.modifyJob row.id (claimChange row owner leaseSeconds now)) := by
  unfold claimNextJob
  rw [Tx.atomically_guarded, Tx.read_bind_run, Tx.begun_immediate]
  cases candidates : db.claimCandidates now with
  | nil => rfl
  | cons row rest =>
    obtain ⟨mem, selected⟩ := JobsDb.mem_claimCandidates
      (show row ∈ db.claimCandidates now by simp [candidates])
    have current : identityMapped (some row) row = row := by simp [identityMapped]
    have claim : (claimJob (some row) row.jobId owner leaseSeconds now).run
        ⟨db, db, .immediate, false⟩ = _ :=
      claimJob_found keyed (keyed.findJob_of_mem mem) current owner leaseSeconds now
    simp only [claimableWhere_isClaimable selected, if_true] at claim
    unfold claimFirst
    rw [Tx.bind_of_ok claim]
    rfl

/-! ## The scripts do nothing else -/

theorem findArtifact_none {db : JobsDb} {jobId artifactType inputFingerprint : String}
    (missing : db.findArtifact jobId artifactType inputFingerprint = none) :
    (jobId, artifactType, inputFingerprint) ∉
      db.artifacts.map fun row => (row.jobId, row.artifactType, row.inputFingerprint) := by
  intro taken
  obtain ⟨row, mem, same⟩ := List.mem_map.1 taken
  have absent := List.find?_eq_none.1 missing row mem
  simp only [Prod.mk.injEq] at same
  simp [same] at absent

theorem JobsDb.Keyed.inserted {db : JobsDb} (keyed : db.Keyed) {jobId : String} (now : Time)
    {record : ArtifactRecord}
    (missing : db.findArtifact jobId record.artifactType record.inputFingerprint = none) :
    (db.insertArtifact jobId now record).Keyed where
  ids := keyed.ids
  jobIds := keyed.jobIds
  fresh := keyed.fresh
  artifactKeys := by
    unfold JobsDb.insertArtifact
    simp only [List.map_append, List.map_cons, List.map_nil]
    exact List.nodup_append.2 ⟨keyed.artifactKeys, List.nodup_singleton _, fun key old other new => by
      rintro rfl
      rw [List.mem_singleton.1 new] at old
      exact findArtifact_none missing old⟩
  artifactIds := by
    unfold JobsDb.insertArtifact
    simp only [List.map_append, List.map_cons, List.map_nil]
    refine List.nodup_append.2 ⟨keyed.artifactIds, List.nodup_singleton _, fun id old other new => ?_⟩
    rintro rfl
    obtain ⟨row, mem, rfl⟩ := List.mem_map.1 old
    have bound := keyed.artifactFresh row mem
    rw [List.mem_singleton.1 new] at bound
    omega
  artifactFresh := by
    intro row mem
    unfold JobsDb.insertArtifact at mem ⊢
    simp only [List.mem_append, List.mem_singleton] at mem
    rcases mem with old | rfl
    · have bound := keyed.artifactFresh row old
      simp only
      omega
    · simp

theorem JobsDb.Keyed.registered {db : JobsDb} (keyed : db.Keyed) (jobId : String) (now : Time)
    (record : ArtifactRecord) : (db.registerArtifact jobId now record).Keyed := by
  unfold JobsDb.registerArtifact
  split
  next missing => exact keyed.inserted now missing
  next => exact keyed

theorem selectJobs_closed (durable working : JobsDb) (wrote : Bool)
    (ids : List Nat) :
    ((selectJobs ids).run ⟨durable, working, .closed, wrote⟩).1 =
        .ok (durable.jobs.filter fun row => ids.contains row.id) ∧
      ((selectJobs ids).run ⟨durable, working, .closed, wrote⟩).2.durable = durable := by
  unfold selectJobs
  cases ids with
  | nil => simp
  | cons id rest => exact ⟨rfl, rfl⟩

theorem sweep_script (db : JobsDb) (guard : Job → Bool) (values : Job → Job) :
    Tx.atomically (do
      beginImmediate
      let ids ← updateJobs guard values
      Tx.commit
      selectJobs ids) db = (.ok (db.swept guard values), db.sweep guard values) := by
  rw [Tx.atomically_guarded, updateJobs_bind_run, Tx.commit_bind_run]
  have selected := selectJobs_closed (db.sweep guard values) (db.sweep guard values) false
    ((db.jobs.filter guard).map (·.id))
  exact Prod.ext selected.1 selected.2

section

variable (env : SubmitEnv) {db : JobsDb}

theorem effect_of_run {α : Type} {op : JobOp} (wrap : α → Reply) (script : JobTx α)
    (runs : exec env op db = exec.reply wrap (Tx.atomically script db))
    {outcome : Except JobError α × Session JobsDb} (closed : script.run (.fresh db) = outcome)
    (effect : Effect db op (outcome.1.map wrap) outcome.2.durable) :
    Effect db op (exec env op db).1 (exec env op db).2 := by
  rw [runs]
  unfold exec.reply Tx.atomically
  rw [closed]
  exact effect

theorem effect_of_sweep {op : JobOp} (guard : Job → Bool) (values : Job → Job)
    (runs : exec env op db = exec.reply .jobs (Tx.atomically (do
      beginImmediate
      let ids ← updateJobs guard values
      Tx.commit
      selectJobs ids) db))
    (effect : Effect db op (.ok (.jobs (db.swept guard values))) (db.sweep guard values)) :
    Effect db op (exec env op db).1 (exec env op db).2 := by
  rw [runs, sweep_script]
  exact effect

theorem JobsDb.findJob_withJob (db : JobsDb) (job : Nat → Job) (jobId : String) :
    (db.withJob job).findJob jobId = (db.findJob jobId).or
      (if (job db.nextJobId).jobId = jobId then some (job db.nextJobId) else none) := by
  unfold JobsDb.findJob JobsDb.withJob
  rw [List.find?_append]
  congr 1
  by_cases same : (job db.nextJobId).jobId = jobId <;> simp [same]

theorem reuseOrAdd_effect (submission : Submission) (fingerprint url : String) :
    Effect db (.submitVideo submission)
      (((reuseOrAdd submission fingerprint url).run ⟨db, db, .immediate, false⟩).1.map fun submitted =>
        .submitted submitted.1 submitted.2)
      ((reuseOrAdd submission fingerprint url).run ⟨db, db, .immediate, false⟩).2.durable := by
  unfold reuseOrAdd
  rw [Tx.read_bind_run, Tx.begun_immediate]
  cases reusable : db.findReusable fingerprint submission.now submission.reuseWindowSeconds with
  | some existing => exact .reused submission existing
  | none =>
    simp only
    unfold addJob
    rw [Tx.bind_assoc_run, Tx.read_bind_run, Tx.begun_immediate]
    simp only
    cases taken : db.findJob submission.newJobId with
    | some other =>
      simp only [submittedJob, taken, Option.isSome_some, if_true, Tx.bind_assoc_run,
        Tx.rollback_bind_run, Tx.raise_bind_run]
      exact .raised _ _
    | none =>
      have created : (db.withJob (submittedJob submission fingerprint url)).findJob
          submission.newJobId = some (submittedJob submission fingerprint url db.nextJobId) := by
        rw [JobsDb.findJob_withJob, taken]
        simp [submittedJob]
      simp only [submittedJob, taken, Option.isSome_none, Bool.false_eq_true, if_false,
        Tx.write_bind_run, Tx.begun_immediate, Tx.commit_bind_run, Tx.committed_wrote]
      rw [Tx.bind_of_ok (getRequired_closed _ _ _ created)]
      exact .submitted submission fingerprint url taken

theorem submitVideo_effect (submission : Submission) :
    Effect db (.submitVideo submission) (exec env (.submitVideo submission) db).1
      (exec env (.submitVideo submission) db).2 := by
  change Effect db _ (exec.reply _ (Tx.atomically (submitVideo env submission) db)).1
    (exec.reply _ (Tx.atomically (submitVideo env submission) db)).2
  unfold submitVideo
  cases env.detectVideo submission.url with
  | error errorCode => exact .raised _ _
  | ok ref => exact reuseOrAdd_effect submission _ ref.url

theorem claimJob_effect (keyed : db.Keyed) (jobId owner : String) (leaseSeconds now : Time) :
    let op : JobOp := .claimJob jobId owner leaseSeconds now
    Effect db op (exec env op db).1 (exec env op db).2 := by
  intro op
  cases found : db.findJob jobId with
  | none =>
    refine effect_of_run env _ (claimJob none jobId owner leaseSeconds now) rfl
      (claimJob_missing found none owner leaseSeconds now) ?_
    exact .unclaimed jobId owner leaseSeconds now
  | some row =>
    refine effect_of_run env _ (claimJob none jobId owner leaseSeconds now) rfl
      (claimJob_found keyed found rfl owner leaseSeconds now) ?_
    obtain rfl := JobsDb.jobId_of_findJob found
    cases claimable : isClaimable row now with
    | false => exact .unclaimed _ _ _ _
    | true => exact .claimed (JobsDb.mem_of_findJob found) owner leaseSeconds claimable

theorem claimNextJob_effect (keyed : db.Keyed) (owner : String) (leaseSeconds now : Time) :
    let op : JobOp := .claimNextJob owner leaseSeconds now
    Effect db op (exec env op db).1 (exec env op db).2 := by
  intro op
  change Effect db _ (exec.reply _ (Tx.atomically (claimNextJob owner leaseSeconds now) db)).1
    (exec.reply _ (Tx.atomically (claimNextJob owner leaseSeconds now) db)).2
  rw [claimNextJob_apply keyed]
  cases candidates : db.claimCandidates now with
  | nil => exact .nothingReady owner leaseSeconds now (JobsDb.claimCandidates_nil candidates)
  | cons row rest =>
    obtain ⟨mem, selected⟩ := JobsDb.mem_claimCandidates
      (show row ∈ db.claimCandidates now by simp [candidates])
    exact .claimedNext mem owner leaseSeconds selected

theorem advanceJob_effect (keyed : db.Keyed) (jobId owner : String) (toStatus : JobStatus)
    (now leaseSeconds : Time) (stage : Option JobStatus) (progress : Option Int) :
    let op : JobOp := .advanceJob jobId owner toStatus now leaseSeconds stage progress
    Effect db op (exec env op db).1 (exec env op db).2 := by
  intro op
  cases found : db.findJob jobId with
  | none =>
    exact effect_of_run env _ _ rfl
      (advanceJob_missing found none owner toStatus now leaseSeconds stage progress) (.raised _ _)
  | some row =>
    obtain rfl := JobsDb.jobId_of_findJob found
    have mem := JobsDb.mem_of_findJob found
    have ran : (advanceJob none row.jobId owner toStatus now leaseSeconds stage progress).run
        ⟨db, db, .immediate, false⟩ = _ :=
      advanceJob_found keyed found rfl owner toStatus now leaseSeconds stage progress
    split at ran
    next valid =>
      split at ran
      next held =>
        exact effect_of_run env _ _ rfl ran
          (.advanced mem leaseSeconds stage progress valid held rfl)
      next => exact effect_of_run env _ _ rfl ran (.raised _ _)
    next => exact effect_of_run env _ _ rfl ran (.raised _ _)

theorem commitArtifactAndAdvance_effect (keyed : db.Keyed) (jobId owner : String)
    (toStatus : JobStatus) (now leaseSeconds : Time) (artifact : ArtifactRecord)
    (progress : Option Int) :
    let op : JobOp :=
      .commitArtifactAndAdvance jobId owner toStatus now leaseSeconds artifact progress
    Effect db op (exec env op db).1 (exec env op db).2 := by
  intro op
  cases found : db.findJob jobId with
  | none =>
    exact effect_of_run env _ _ rfl (commitArtifactAndAdvance_missing found none owner toStatus
      now leaseSeconds artifact progress) (.raised _ _)
  | some row =>
    obtain rfl := JobsDb.jobId_of_findJob found
    have mem := JobsDb.mem_of_findJob found
    have ran : (commitArtifactAndAdvance none row.jobId owner toStatus now leaseSeconds artifact
        progress).run ⟨db, db, .immediate, false⟩ = _ :=
      commitArtifactAndAdvance_found now artifact (keyed.registered row.jobId now artifact) found
        rfl owner toStatus leaseSeconds progress
    split at ran
    next valid =>
      split at ran
      next held =>
        exact effect_of_run env _ _ rfl ran
          (.committed mem leaseSeconds artifact progress valid held rfl)
      next => exact effect_of_run env _ _ rfl ran (.raised _ _)
    next => exact effect_of_run env _ _ rfl ran (.raised _ _)

theorem markFailure_effect (keyed : db.Keyed) (jobId owner : String) (now : Time)
    (errorCode : String) (retryable : Bool) (nextRetryAt : Option Time)
    (errorDetail : Option String) :
    let op : JobOp := .markFailure jobId owner now errorCode retryable nextRetryAt errorDetail
    Effect db op (exec env op db).1 (exec env op db).2 := by
  intro op
  cases found : db.findJob jobId with
  | none =>
    exact effect_of_run env _ _ rfl (markFailure_missing found none owner now errorCode retryable
      nextRetryAt errorDetail) (.raised _ _)
  | some row =>
    obtain rfl := JobsDb.jobId_of_findJob found
    have mem := JobsDb.mem_of_findJob found
    have ran : (markFailure none row.jobId owner now errorCode retryable nextRetryAt errorDetail).run
        ⟨db, db, .immediate, false⟩ = _ :=
      markFailure_found keyed found rfl owner now errorCode retryable nextRetryAt errorDetail
    split at ran
    next valid =>
      split at ran
      next held =>
        exact effect_of_run env _ _ rfl ran
          (.failedOrRetried mem errorCode nextRetryAt errorDetail valid held rfl)
      next => exact effect_of_run env _ _ rfl ran (.raised _ _)
    next => exact effect_of_run env _ _ rfl ran (.raised _ _)

theorem markCancelled_effect (keyed : db.Keyed) (jobId owner : String) (now : Time) :
    let op : JobOp := .markCancelled jobId owner now
    Effect db op (exec env op db).1 (exec env op db).2 := by
  intro op
  cases found : db.findJob jobId with
  | none =>
    exact effect_of_run env _ _ rfl (markCancelled_missing found none owner now) (.raised _ _)
  | some row =>
    obtain rfl := JobsDb.jobId_of_findJob found
    have ran : (markCancelled none row.jobId owner now).run ⟨db, db, .immediate, false⟩ = _ :=
      markCancelled_found keyed found rfl owner now
    split at ran
    next held =>
      exact effect_of_run env _ _ rfl ran (.cancelled (JobsDb.mem_of_findJob found) held)
    next => exact effect_of_run env _ _ rfl ran (.raised _ _)

theorem requestCancellation_effect (keyed : db.Keyed) (jobId : String) (now : Time) :
    let op : JobOp := .requestCancellation jobId now
    Effect db op (exec env op db).1 (exec env op db).2 := by
  intro op
  cases found : db.findJob jobId with
  | none =>
    exact effect_of_run env _ _ rfl (requestCancellation_missing found now)
      (.cancelUnknown jobId now found)
  | some row =>
    obtain rfl := JobsDb.jobId_of_findJob found
    have mem := JobsDb.mem_of_findJob found
    have ran : (requestCancellation none row.jobId now).run ⟨db, db, .immediate, false⟩ = _ :=
      requestCancellation_found keyed found now
    simp only at ran
    split at ran
    next terminal => exact effect_of_run env _ _ rfl ran (.cancelFinished mem now terminal)
    next active =>
      exact effect_of_run env _ _ rfl ran
        (.cancelRequested mem now (Bool.eq_false_iff.2 active) rfl)

theorem pinJobAsrRoute_effect (keyed : db.Keyed) (jobId owner : String) (now : Time)
    (providerId modelId modelVersion : String) (recommendationModelId : Option String) :
    let op : JobOp :=
      .pinJobAsrRoute jobId owner now providerId modelId modelVersion recommendationModelId
    Effect db op (exec env op db).1 (exec env op db).2 := by
  intro op
  cases found : db.findJob jobId with
  | none =>
    exact effect_of_run env _ _ rfl (pinJobAsrRoute_missing found none owner now providerId modelId
      modelVersion recommendationModelId) (.raised _ _)
  | some row =>
    obtain rfl := JobsDb.jobId_of_findJob found
    have ran : (pinJobAsrRoute none row.jobId owner now providerId modelId modelVersion
        recommendationModelId).run ⟨db, db, .immediate, false⟩ = _ :=
      pinJobAsrRoute_found keyed found none owner now providerId modelId modelVersion
        recommendationModelId
    simp only at ran
    split at ran
    next held =>
      exact effect_of_run env _ _ rfl ran (.pinned (JobsDb.mem_of_findJob found) providerId modelId
        modelVersion recommendationModelId held rfl)
    next => exact effect_of_run env _ _ rfl ran (.raised _ _)

theorem renewLease_effect (keyed : db.Keyed) (jobId owner : String) (now leaseSeconds : Time) :
    let op : JobOp := .renewLease jobId owner now leaseSeconds
    Effect db op (exec env op db).1 (exec env op db).2 := by
  intro op
  cases found : db.findJob jobId with
  | none =>
    exact effect_of_run env _ _ rfl (renewLease_missing found owner now leaseSeconds)
      (.notRenewed jobId owner now leaseSeconds)
  | some row =>
    obtain rfl := JobsDb.jobId_of_findJob found
    have ran : (renewLease row.jobId owner now leaseSeconds).run ⟨db, db, .immediate, false⟩ = _ :=
      renewLease_found keyed found owner now leaseSeconds
    simp only at ran
    split at ran
    next held =>
      exact effect_of_run env _ _ rfl ran
        (.renewed (JobsDb.mem_of_findJob found) leaseSeconds held)
    next => exact effect_of_run env _ _ rfl ran (.notRenewed _ _ _ _)

theorem saveArtifactInline_effect (keyed : db.Keyed) (jobId owner : String) (now : Time)
    (stage artifactType inputFingerprint : String) (schemaVersion : Nat) (payloadJson : String) :
    let op : JobOp :=
      .saveArtifactInline jobId owner now stage artifactType inputFingerprint schemaVersion payloadJson
    Effect db op (exec env op db).1 (exec env op db).2 := by
  intro op
  cases found : db.findJob jobId with
  | none =>
    exact effect_of_run env _ _ rfl (saveArtifactInline_missing found owner now stage artifactType
      inputFingerprint schemaVersion payloadJson) (.raised _ _)
  | some row =>
    obtain rfl := JobsDb.jobId_of_findJob found
    have ran : (saveArtifactInline row.jobId owner now stage artifactType inputFingerprint
        schemaVersion payloadJson).run ⟨db, db, .immediate, false⟩ = _ :=
      saveArtifactInline_found keyed found owner now stage artifactType inputFingerprint
        schemaVersion payloadJson
    simp only at ran
    split at ran
    next held =>
      exact effect_of_run env _ _ rfl ran (.checkpointed (JobsDb.mem_of_findJob found) stage
        artifactType inputFingerprint schemaVersion payloadJson held)
    next => exact effect_of_run env _ _ rfl ran (.raised _ _)

/-- Whatever an operation does is one of the effects. -/
theorem exec_effect (keyed : db.Keyed) (op : JobOp) :
    Effect db op (exec env op db).1 (exec env op db).2 := by
  cases op with
  | submitVideo submission => exact submitVideo_effect env submission
  | claimJob => exact claimJob_effect env keyed _ _ _ _
  | claimNextJob => exact claimNextJob_effect env keyed _ _ _
  | recoverStaleJobs now => exact effect_of_sweep env (isStale now) _ rfl (.recovered now)
  | advanceJob => exact advanceJob_effect env keyed _ _ _ _ _ _ _
  | commitArtifactAndAdvance => exact commitArtifactAndAdvance_effect env keyed _ _ _ _ _ _ _
  | markFailure => exact markFailure_effect env keyed _ _ _ _ _ _ _
  | markCancelled => exact markCancelled_effect env keyed _ _ _
  | requestCancellation => exact requestCancellation_effect env keyed _ _
  | resumeWaitingJobs modelId now => exact .resumed modelId now
  | landDanglingCancellations now => exact effect_of_sweep env isDangling _ rfl (.landed now)
  | failExhaustedRetries now => exact effect_of_sweep env isExhausted _ rfl (.exhausted now)
  | pinJobAsrRoute => exact pinJobAsrRoute_effect env keyed _ _ _ _ _ _ _
  | renewLease => exact renewLease_effect env keyed _ _ _ _
  | saveArtifactInline => exact saveArtifactInline_effect env keyed _ _ _ _ _ _ _ _

end

end EvoBlue.Source
