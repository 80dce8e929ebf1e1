import EvoBlue.Source.Submit

/-!
# One operation on the job tables

Every repository operation that writes jobs, run as one immediate transaction
in a session of its own, as a step from database to database. `Effect` says all
that such a step can do, and `exec_effect` that the scripts of the source do
nothing else: the guarantees about jobs are read off `Effect`.
-/

namespace EvoBlue.Source

open EvoBlue.Kernel

inductive JobOp where
  | submitVideo (submission : Submission)
  | claimJob (jobId owner : String) (leaseSeconds now : Time)
  | claimNextJob (owner : String) (leaseSeconds now : Time)
  | recoverStaleJobs (now : Time)
  | advanceJob (jobId owner : String) (toStatus : JobStatus) (now leaseSeconds : Time)
      (stage : Option JobStatus) (progress : Option Int)
  | commitArtifactAndAdvance (jobId owner : String) (toStatus : JobStatus)
      (now leaseSeconds : Time) (artifact : ArtifactRecord) (progress : Option Int)
  | markFailure (jobId owner : String) (now : Time) (errorCode : String) (retryable : Bool)
      (nextRetryAt : Option Time) (errorDetail : Option String)
  | markCancelled (jobId owner : String) (now : Time)
  | requestCancellation (jobId : String) (now : Time)
  | resumeWaitingJobs (modelId : String) (now : Time)
  | landDanglingCancellations (now : Time)
  | failExhaustedRetries (now : Time)
  | pinJobAsrRoute (jobId owner : String) (now : Time)
      (providerId modelId modelVersion : String) (recommendationModelId : Option String)
  | renewLease (jobId owner : String) (now leaseSeconds : Time)
  | saveArtifactInline (jobId owner : String) (now : Time)
      (stage artifactType inputFingerprint : String) (schemaVersion : Nat) (payloadJson : String)
  deriving DecidableEq, Repr

/-- What an operation returns. -/
inductive Reply where
  | submitted (job : Job) (reused : Bool)
  | job (job : Job)
  | maybeJob (job : Option Job)
  | jobs (jobs : List Job)
  | jobIds (ids : List String)
  | flag (held : Bool)
  | done
  deriving DecidableEq, Repr

/-- The operation in a fresh session: its result and the durable tables after it. -/
def exec (env : SubmitEnv) : JobOp → JobsDb → Except JobError Reply × JobsDb
  | .submitVideo submission, db =>
    reply (fun (job, reused) => .submitted job reused) (Tx.atomically (submitVideo env submission) db)
  | .claimJob jobId owner leaseSeconds now, db =>
    reply .maybeJob (Tx.atomically (claimJob none jobId owner leaseSeconds now) db)
  | .claimNextJob owner leaseSeconds now, db =>
    reply .maybeJob (Tx.atomically (claimNextJob owner leaseSeconds now) db)
  | .recoverStaleJobs now, db => reply .jobs (Tx.atomically (recoverStaleJobs now) db)
  | .advanceJob jobId owner toStatus now leaseSeconds stage progress, db =>
    reply .job
      (Tx.atomically (advanceJob none jobId owner toStatus now leaseSeconds stage progress) db)
  | .commitArtifactAndAdvance jobId owner toStatus now leaseSeconds artifact progress, db =>
    reply .job (Tx.atomically
      (commitArtifactAndAdvance none jobId owner toStatus now leaseSeconds artifact progress) db)
  | .markFailure jobId owner now errorCode retryable nextRetryAt errorDetail, db =>
    reply .job (Tx.atomically
      (markFailure none jobId owner now errorCode retryable nextRetryAt errorDetail) db)
  | .markCancelled jobId owner now, db =>
    reply .job (Tx.atomically (markCancelled none jobId owner now) db)
  | .requestCancellation jobId now, db =>
    reply .maybeJob (Tx.atomically (requestCancellation none jobId now) db)
  | .resumeWaitingJobs modelId now, db =>
    reply .jobIds (Tx.atomically (resumeWaitingJobs modelId now) db)
  | .landDanglingCancellations now, db =>
    reply .jobs (Tx.atomically (landDanglingCancellations now) db)
  | .failExhaustedRetries now, db => reply .jobs (Tx.atomically (failExhaustedRetries now) db)
  | .pinJobAsrRoute jobId owner now providerId modelId modelVersion recommendationModelId, db =>
    reply .job (Tx.atomically (pinJobAsrRoute none jobId owner now providerId modelId modelVersion
      recommendationModelId) db)
  | .renewLease jobId owner now leaseSeconds, db =>
    reply .flag (Tx.atomically (renewLease jobId owner now leaseSeconds) db)
  | .saveArtifactInline jobId owner now stage artifactType inputFingerprint schemaVersion payload,
      db =>
    reply (fun _ => .done) (Tx.atomically (saveArtifactInline jobId owner now stage artifactType
      inputFingerprint schemaVersion payload) db)
where
  reply {α : Type} (wrap : α → Reply) (result : Except JobError α × JobsDb) :
      Except JobError Reply × JobsDb :=
    (result.1.map wrap, result.2)

/-! ## Keyed tables -/

/-- The keys the schema declares: row ids and job ids are unique, row ids are
not reused, and a job has one artifact a type and fingerprint. -/
structure JobsDb.Keyed (db : JobsDb) : Prop where
  ids : (db.jobs.map (·.id)).Nodup
  jobIds : (db.jobs.map (·.jobId)).Nodup
  fresh : ∀ row ∈ db.jobs, row.id < db.nextJobId
  artifactKeys :
    (db.artifacts.map fun row => (row.jobId, row.artifactType, row.inputFingerprint)).Nodup
  artifactIds : (db.artifacts.map (·.id)).Nodup
  artifactFresh : ∀ row ∈ db.artifacts, row.id < db.nextArtifactId

namespace JobsDb

/-- One row changed in place. -/
def modifyJob (db : JobsDb) (id : Nat) (change : Job → Job) : JobsDb :=
  { db with jobs := db.jobs.map fun row => if row.id = id then change row else row }

/-- A sweep: every row the guard accepts is changed. -/
def sweep (db : JobsDb) (guard : Job → Bool) (values : Job → Job) : JobsDb :=
  { db with jobs := updatedRows guard values db.jobs }

variable {db : JobsDb}

theorem Keyed.eq_of_id (keyed : db.Keyed) {a b : Job} (memA : a ∈ db.jobs) (memB : b ∈ db.jobs)
    (same : a.id = b.id) : a = b :=
  List.inj_on_of_nodup_map keyed.ids memA memB same

theorem Keyed.eq_of_jobId (keyed : db.Keyed) {a b : Job} (memA : a ∈ db.jobs) (memB : b ∈ db.jobs)
    (same : a.jobId = b.jobId) : a = b :=
  List.inj_on_of_nodup_map keyed.jobIds memA memB same

theorem mem_of_findJob {jobId : String} {row : Job} (found : db.findJob jobId = some row) :
    row ∈ db.jobs := List.mem_of_find?_eq_some found

theorem jobId_of_findJob {jobId : String} {row : Job} (found : db.findJob jobId = some row) :
    row.jobId = jobId := by
  simpa using List.find?_some found

theorem Keyed.findJob_of_mem (keyed : db.Keyed) {row : Job} (mem : row ∈ db.jobs) :
    db.findJob row.jobId = some row := by
  cases found : db.findJob row.jobId with
  | none => simpa using List.find?_eq_none.1 found row mem
  | some other =>
    rw [keyed.eq_of_jobId (mem_of_findJob found) mem (jobId_of_findJob found)]

theorem Keyed.find_id (keyed : db.Keyed) {row : Job} (mem : row ∈ db.jobs) :
    (db.jobs.find? fun other => other.id = row.id) = some row := by
  cases found : db.jobs.find? fun other => other.id = row.id with
  | none => simpa using List.find?_eq_none.1 found row mem
  | some other =>
    rw [keyed.eq_of_id (List.mem_of_find?_eq_some found) mem (by simpa using List.find?_some found)]

/-- On keyed tables a guard that names the row id changes that row alone. -/
theorem Keyed.sweep_eq_modifyJob (keyed : db.Keyed) {row : Job} (mem : row ∈ db.jobs)
    {guard : Job → Bool} {values : Job → Job} (hit : guard row = true)
    (named : ∀ other ∈ db.jobs, guard other = true → other.id = row.id) :
    db.sweep guard values = db.modifyJob row.id values := by
  unfold sweep modifyJob updatedRows
  congr 1
  refine List.map_congr_left fun other memOther => ?_
  by_cases same : other.id = row.id
  · rw [keyed.eq_of_id memOther mem same, hit]
    simp
  · have missed : guard other = false := by
      cases accepted : guard other
      · rfl
      · exact absurd (named other memOther accepted) same
    simp [missed, same]

/-- A sweep that rejects every row changes nothing. -/
theorem sweep_eq_self {guard : Job → Bool} {values : Job → Job}
    (rejected : ∀ row ∈ db.jobs, guard row = false) : db.sweep guard values = db := by
  have same : updatedRows guard values db.jobs = db.jobs := by
    unfold updatedRows
    conv_rhs => rw [← List.map_id db.jobs]
    exact List.map_congr_left fun row mem => by simp [rejected row mem]
  unfold sweep
  rw [same]

theorem modifyJob_self (db : JobsDb) (id : Nat) : (db.modifyJob id fun row => row) = db := by
  simp [modifyJob]

end JobsDb

end EvoBlue.Source
