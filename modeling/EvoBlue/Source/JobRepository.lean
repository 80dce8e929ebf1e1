import EvoBlue.Kernel.Transaction
import EvoBlue.Source.JobStates
import Mathlib.Algebra.Order.Field.Rat
import Mathlib.Data.List.Dedup

/-!
# Job persistence and single-owner leases

`storage/repository.py`, the job half: the rows of `jobs` and `job_artifacts`,
and the functions that read and write them. Every function is a transaction
script with the statements of the source in the order of the source. An
`UPDATE .. WHERE .. RETURNING id` is `updateJobs`, which returns the ids it hit.

The ORM session hands out the instance it already holds for a row instead of a
fresh copy. Functions that load a job take that instance as `loaded`; a session
of its own has none.
-/

namespace EvoBlue.Source

open EvoBlue.Kernel

/-- Clock readings and durations in seconds. Finite floats are rationals. -/
abbrev Time := ℚ

structure Job where
  id : Nat
  jobId : String
  requestFingerprint : String
  url : String
  mode : String
  asr : String
  language : Option String
  asrProviderId : Option String := none
  asrModelId : Option String := none
  asrModelVersion : Option String := none
  asrRecommendationModelId : Option String := none
  configFingerprint : String
  title : Option String := none
  platform : Option String := none
  subtitleProbe : Option String := none
  status : JobStatus
  stage : Option JobStatus := none
  progress : Int := 0
  attempt : Nat := 0
  maxAttempts : Nat := 3
  leaseOwner : Option String := none
  leaseExpiresAt : Option Time := none
  cancelRequestedAt : Option Time := none
  nextRetryAt : Option Time := none
  errorCode : Option String := none
  errorDetail : Option String := none
  retryable : Bool := false
  createdAt : Time
  updatedAt : Time
  deriving DecidableEq, Repr

inductive StorageKind where
  | inlineJson
  | file
  deriving DecidableEq, Repr

/-- A stage artifact to register atomically with the state transition. -/
structure ArtifactRecord where
  stage : String
  artifactType : String
  inputFingerprint : String
  schemaVersion : Nat
  storageKind : StorageKind
  payloadJson : Option String := none
  relativePath : Option String := none
  contentHash : Option String := none
  byteSize : Option Nat := none
  deriving DecidableEq, Repr

structure JobArtifact extends ArtifactRecord where
  id : Nat
  jobId : String
  createdAt : Time
  updatedAt : Time
  deriving DecidableEq, Repr

/-- The tables `jobs` and `job_artifacts` with their next row ids. -/
structure JobsDb where
  jobs : List Job := []
  nextJobId : Nat := 1
  artifacts : List JobArtifact := []
  nextArtifactId : Nat := 1
  deriving DecidableEq, Repr

inductive JobError where
  /-- `KeyError`: no job with the id. -/
  | keyError (jobId : String)
  /-- `TransitionError`. -/
  | transitionError (src dst : JobStatus)
  /-- `LeaseLostError`. -/
  | leaseLost (jobId : String)
  /-- A unique constraint of the schema. -/
  | integrityError
  /-- `RuntimeError` of `ensure_immediate_transaction`. -/
  | beginRefused
  /-- `RuntimeError` of a row that vanished after its own write. -/
  | vanished (jobId : String)
  /-- `PlatformError` of `detect_video`. -/
  | platformError (errorCode : String)
  deriving DecidableEq, Repr

abbrev JobTx := Tx JobsDb JobError

/-- `_begin_immediate`. -/
abbrev beginImmediate : JobTx Unit := Tx.ensureImmediate .beginRefused

def JobsDb.findJob (db : JobsDb) (jobId : String) : Option Job :=
  db.jobs.find? fun row => row.jobId = jobId

/-- The instance the session returns for a selected row. -/
def identityMapped (loaded : Option Job) (row : Job) : Job :=
  match loaded with
  | some held => if held.id = row.id then held else row
  | none => row

/-- `_get`. -/
def getJob (loaded : Option Job) (jobId : String) : JobTx (Option Job) := do
  let db ← Tx.read
  return (db.findJob jobId).map (identityMapped loaded)

/-- `_get_required`: a job that must exist because we just wrote it. -/
def getRequired (jobId : String) : JobTx Job := do
  match ← getJob none jobId with
  | none => Tx.raise (.vanished jobId)
  | some job => return job

/-- The rows an update with this guard leaves. -/
def updatedRows (guard : Job → Bool) (values : Job → Job) (rows : List Job) : List Job :=
  rows.map fun row => if guard row then values row else row

/-- `UPDATE jobs SET values WHERE guard RETURNING id`. -/
def updateJobs (guard : Job → Bool) (values : Job → Job) : JobTx (List Nat) := do
  let db ← Tx.read
  Tx.write fun db => { db with jobs := updatedRows guard values db.jobs }
  return (db.jobs.filter guard).map (·.id)

def JobsDb.findArtifact (db : JobsDb) (jobId artifactType inputFingerprint : String) :
    Option JobArtifact :=
  db.artifacts.find? fun row =>
    row.jobId = jobId ∧ row.artifactType = artifactType ∧ row.inputFingerprint = inputFingerprint

def JobsDb.insertArtifact (db : JobsDb) (jobId : String) (now : Time) (record : ArtifactRecord) :
    JobsDb :=
  { db with
    artifacts := db.artifacts ++
      [{ record with id := db.nextArtifactId, jobId, createdAt := now, updatedAt := now }]
    nextArtifactId := db.nextArtifactId + 1 }

/-! ## Claims -/

def isClaimable (job : Job) (now : Time) : Bool :=
  if job.attempt ≥ job.maxAttempts then false
  else if job.status.isTerminal then false
  else if job.status = .queued then true
  else if job.status = .retryWait then
    match job.nextRetryAt with
    | some nextRetryAt => nextRetryAt ≤ now
    | none => false
  else
    -- A running stage whose lease is missing or expired can be taken over.
    match job.leaseExpiresAt with
    | some expiry => expiry ≤ now
    | none => true

def claimStatus (job : Job) : JobStatus × Option JobStatus :=
  if job.status = .queued then (.fetchingMetadata, some .fetchingMetadata)
  else if job.status = .retryWait then
    let stage := job.stage.getD .fetchingMetadata
    (stage, some stage)
  else (job.status, some job.status)

def claimableWhere (now : Time) (row : Job) : Bool :=
  row.attempt < row.maxAttempts &&
    (row.status = .queued ||
      (row.status = .retryWait &&
        match row.nextRetryAt with
        | some nextRetryAt => nextRetryAt ≤ now
        | none => false) ||
      (row.status.isRunning &&
        match row.leaseExpiresAt with
        | some expiry => expiry ≤ now
        | none => true))

/-- The columns a successful claim sets. -/
def claimedRow (newStatus : JobStatus) (newStage : Option JobStatus) (owner : String)
    (leaseSeconds now : Time) (row : Job) : Job :=
  { row with
    status := newStatus
    stage := newStage
    leaseOwner := some owner
    leaseExpiresAt := some (now + leaseSeconds)
    attempt := row.attempt + 1
    updatedAt := now }

def claimGuard (job row : Job) : Bool :=
  row.id = job.id && row.status = job.status && row.leaseExpiresAt = job.leaseExpiresAt

def claimJob (loaded : Option Job) (jobId owner : String) (leaseSeconds now : Time) :
    JobTx (Option Job) := do
  beginImmediate
  match ← getJob loaded jobId with
  | none => return none
  | some job =>
    if !isClaimable job now then return none
    else
      let ids ← updateJobs (claimGuard job)
        (claimedRow (claimStatus job).1 (claimStatus job).2 owner leaseSeconds now)
      match ids.head? with
      | none => do
        Tx.rollback
        return none
      | some _ => do
        Tx.commit
        getJob none jobId

/-- The order of `claim_next_job`: oldest first, the row id breaks ties. -/
def claimOrder (a b : Job) : Bool :=
  a.createdAt < b.createdAt || (a.createdAt = b.createdAt && a.id ≤ b.id)

def JobsDb.claimCandidates (db : JobsDb) (now : Time) : List Job :=
  ((db.jobs.filter (claimableWhere now)).mergeSort claimOrder).take 16

def claimFirst (owner : String) (leaseSeconds now : Time) : List Job → JobTx (Option Job)
  | [] => return none
  | candidate :: rest => do
    match ← claimJob (some candidate) candidate.jobId owner leaseSeconds now with
    | some claimed => return some claimed
    | none => claimFirst owner leaseSeconds now rest

def claimNextJob (owner : String) (leaseSeconds now : Time) : JobTx (Option Job) := do
  beginImmediate
  let db ← Tx.read
  claimFirst owner leaseSeconds now (db.claimCandidates now)

/-- The rows of the ids a sweep returned. -/
def selectJobs (ids : List Nat) : JobTx (List Job) := do
  if ids.isEmpty then return []
  else
    let db ← Tx.read
    return db.jobs.filter fun row => ids.contains row.id

/-- `lease_expires_at IS NOT NULL AND lease_expires_at <= now`. -/
def leaseExpired (row : Job) (now : Time) : Bool :=
  match row.leaseExpiresAt with
  | some expiry => expiry ≤ now
  | none => false

/-- `lease_expires_at IS NOT NULL AND lease_expires_at > now`. -/
def leaseLive (row : Job) (now : Time) : Bool :=
  match row.leaseExpiresAt with
  | some expiry => expiry > now
  | none => false

def releasedRow (now : Time) (row : Job) : Job :=
  { row with leaseOwner := none, leaseExpiresAt := none, updatedAt := now }

def recoverStaleJobs (now : Time) : JobTx (List Job) := do
  beginImmediate
  let ids ← updateJobs (fun row => leaseExpired row now && !row.status.isTerminal)
    (releasedRow now)
  Tx.commit
  selectJobs ids

/-! ## Writes under a lease -/

/-- The compare-and-swap guard of a stage write: the row the instance `job`
stands for, in the status that instance shows, leased to `owner` beyond `now`. -/
def leaseGuard (job : Job) (owner : String) (now : Time) (row : Job) : Bool :=
  row.id = job.id && row.status = job.status && row.leaseOwner = some owner && leaseLive row now

/-- Commit if the guarded update hit its row, else roll back and raise. -/
def commitOrLeaseLost (jobId : String) (ids : List Nat) : JobTx Job := do
  match ids.head? with
  | none => do
    Tx.rollback
    Tx.raise (.leaseLost jobId)
  | some _ => do
    Tx.commit
    getRequired jobId

/-- `validate_transition`. -/
def validateTransition (src dst : JobStatus) : JobTx Unit :=
  if isValidTransition src dst then pure () else Tx.raise (.transitionError src dst)

/-- The columns `advance_job` sets: a terminal target and the park release the
lease, any other target renews it. -/
def advancedRow (toStatus : JobStatus) (newStage : Option JobStatus) (progress : Int)
    (cancelLanded : Bool) (leaseSeconds now : Time) (row : Job) : Job :=
  { row with
    status := toStatus
    stage := newStage
    progress := progress
    errorCode := if cancelLanded then some "CANCELLED_BY_USER" else none
    errorDetail := none
    retryable := false
    updatedAt := now
    leaseOwner :=
      if toStatus.isTerminal || toStatus = .waitingForModel then none else row.leaseOwner
    leaseExpiresAt :=
      if toStatus.isTerminal || toStatus = .waitingForModel then none
      else some (now + leaseSeconds) }

/-- The values `advance_job` computes before its update. `job` is the instance
the session holds; `pendingCancel` is read from the row, which may be newer. -/
def advanceValues (job : Job) (pendingCancel : Option Time) (toStatus : JobStatus)
    (now leaseSeconds : Time) (stage : Option JobStatus) (progress : Option Int) : Job → Job :=
  let cancelLanded := toStatus = .waitingForModel && pendingCancel.isSome
  let target := if cancelLanded then .cancelled else toStatus
  let newStage :=
    match stage with
    | some stage => some stage
    | none => if target.isRunning then some target else job.stage
  advancedRow target newStage (progress.getD job.progress) cancelLanded leaseSeconds now

def advanceJob (loaded : Option Job) (jobId owner : String) (toStatus : JobStatus)
    (now leaseSeconds : Time) (stage : Option JobStatus) (progress : Option Int) : JobTx Job := do
  beginImmediate
  match ← getJob loaded jobId with
  | none => Tx.raise (.keyError jobId)
  | some job =>
    validateTransition job.status toStatus
    let db ← Tx.read
    let pendingCancel := (db.jobs.find? fun row => row.id = job.id).bind (·.cancelRequestedAt)
    let ids ← updateJobs (leaseGuard job owner now)
      (advanceValues job pendingCancel toStatus now leaseSeconds stage progress)
    commitOrLeaseLost jobId ids

def maxAttemptsExceeded : String := "MAX_ATTEMPTS_EXCEEDED"

def isExhausted (row : Job) : Bool :=
  (row.status = .retryWait || row.status.isRunning) && row.attempt ≥ row.maxAttempts

def exhaustedRow (now : Time) (row : Job) : Job :=
  { row with
    status := .failed
    errorCode := some maxAttemptsExceeded
    retryable := false
    leaseOwner := none
    leaseExpiresAt := none
    nextRetryAt := none
    updatedAt := now }

def failExhaustedRetries (now : Time) : JobTx (List Job) := do
  beginImmediate
  let ids ← updateJobs isExhausted (exhaustedRow now)
  Tx.commit
  selectJobs ids

def isDangling (row : Job) : Bool :=
  row.status = .waitingForModel && row.cancelRequestedAt.isSome

def landedRow (now : Time) (row : Job) : Job :=
  { row with
    status := .cancelled
    errorCode := some "CANCELLED_BY_USER"
    retryable := false
    leaseOwner := none
    leaseExpiresAt := none
    updatedAt := now }

def landDanglingCancellations (now : Time) : JobTx (List Job) := do
  beginImmediate
  let ids ← updateJobs isDangling (landedRow now)
  Tx.commit
  selectJobs ids

/-- The columns `mark_failure` sets. -/
def failedRow (toStatus : JobStatus) (errorCode : String) (errorDetail : Option String)
    (retryable : Bool) (nextRetryAt : Option Time) (now : Time) (row : Job) : Job :=
  { row with
    status := toStatus
    errorCode := some errorCode
    errorDetail := errorDetail
    retryable := retryable
    nextRetryAt := if retryable then nextRetryAt else none
    leaseOwner := none
    leaseExpiresAt := none
    updatedAt := now }

/-- The status a failure leads to. -/
def failureStatus (retryable : Bool) : JobStatus := if retryable then .retryWait else .failed

def markFailure (loaded : Option Job) (jobId owner : String) (now : Time) (errorCode : String)
    (retryable : Bool) (nextRetryAt : Option Time) (errorDetail : Option String) : JobTx Job := do
  beginImmediate
  match ← getJob loaded jobId with
  | none => Tx.raise (.keyError jobId)
  | some job =>
    let toStatus := failureStatus retryable
    validateTransition job.status toStatus
    let ids ← updateJobs (leaseGuard job owner now)
      (failedRow toStatus errorCode errorDetail retryable nextRetryAt now)
    commitOrLeaseLost jobId ids

def pinGuard (job : Job) (owner : String) (now : Time) (row : Job) : Bool :=
  row.id = job.id && row.status = .transcribing && row.leaseOwner = some owner && leaseLive row now

def pinnedRow (providerId modelId modelVersion : String) (recommendationModelId : Option String)
    (now : Time) (row : Job) : Job :=
  { row with
    asrProviderId := some providerId
    asrModelId := some modelId
    asrModelVersion := some modelVersion
    asrRecommendationModelId := recommendationModelId
    updatedAt := now }

def pinJobAsrRoute (loaded : Option Job) (jobId owner : String) (now : Time)
    (providerId modelId modelVersion : String) (recommendationModelId : Option String) :
    JobTx Job := do
  beginImmediate
  match ← getJob loaded jobId with
  | none => Tx.raise (.keyError jobId)
  | some job =>
    let ids ← updateJobs (pinGuard job owner now)
      (pinnedRow providerId modelId modelVersion recommendationModelId now)
    commitOrLeaseLost jobId ids

/-- `list_waiting_model_ids`, a `SELECT DISTINCT`. -/
def JobsDb.waitingModelIds (db : JobsDb) : List String :=
  ((db.jobs.filter fun row => row.status = .waitingForModel).filterMap
    (·.asrRecommendationModelId)).dedup

def isResumable (modelId : String) (row : Job) : Bool :=
  row.status = .waitingForModel && row.asrRecommendationModelId = some modelId &&
    row.cancelRequestedAt.isNone

def resumedRow (now : Time) (row : Job) : Job :=
  { row with
    status := .transcribing
    stage := some .transcribing
    asrRecommendationModelId := none
    errorCode := none
    errorDetail := none
    retryable := false
    leaseOwner := none
    leaseExpiresAt := none
    updatedAt := now }

def resumeWaitingJobs (modelId : String) (now : Time) : JobTx (List String) := do
  beginImmediate
  let db ← Tx.read
  let ids ← updateJobs (isResumable modelId) (resumedRow now)
  Tx.commit
  return (db.jobs.filter fun row => ids.contains row.id).map (·.jobId)

/-- The columns `commit_artifact_and_advance` sets: only a terminal target
releases the lease. -/
def committedRow (toStatus : JobStatus) (newStage : Option JobStatus) (progress : Int)
    (leaseSeconds now : Time) (row : Job) : Job :=
  { row with
    status := toStatus
    stage := newStage
    progress := progress
    errorCode := none
    errorDetail := none
    retryable := false
    updatedAt := now
    leaseOwner := if toStatus.isTerminal then none else row.leaseOwner
    leaseExpiresAt := if toStatus.isTerminal then none else some (now + leaseSeconds) }

/-- The values `commit_artifact_and_advance` computes before its update. -/
def commitValues (job : Job) (toStatus : JobStatus) (now leaseSeconds : Time)
    (progress : Option Int) : Job → Job :=
  let newStage := if toStatus.isRunning then some toStatus else job.stage
  committedRow toStatus newStage (progress.getD job.progress) leaseSeconds now

/-- Registering an artifact under a key that exists is a no-op. -/
def JobsDb.registerArtifact (db : JobsDb) (jobId : String) (now : Time)
    (artifact : ArtifactRecord) : JobsDb :=
  match db.findArtifact jobId artifact.artifactType artifact.inputFingerprint with
  | none => db.insertArtifact jobId now artifact
  | some _ => db

def commitArtifactAndAdvance (loaded : Option Job) (jobId owner : String) (toStatus : JobStatus)
    (now leaseSeconds : Time) (artifact : ArtifactRecord) (progress : Option Int) : JobTx Job := do
  beginImmediate
  match ← getJob loaded jobId with
  | none => Tx.raise (.keyError jobId)
  | some job =>
    validateTransition job.status toStatus
    Tx.write fun db => db.registerArtifact jobId now artifact
    let ids ← updateJobs (leaseGuard job owner now)
      (commitValues job toStatus now leaseSeconds progress)
    commitOrLeaseLost jobId ids

/-- The guard of the writes that only ask for the lease, not for a status. -/
def ownerGuard (jobId owner : String) (now : Time) (row : Job) : Bool :=
  row.jobId = jobId && row.leaseOwner = some owner && leaseLive row now

def renewedRow (now leaseSeconds : Time) (row : Job) : Job :=
  { row with leaseExpiresAt := some (now + leaseSeconds), updatedAt := now }

def renewLease (jobId owner : String) (now leaseSeconds : Time) : JobTx Bool := do
  beginImmediate
  let ids ← updateJobs (ownerGuard jobId owner now) (renewedRow now leaseSeconds)
  match ids.head? with
  | none => do
    Tx.rollback
    return false
  | some _ => do
    Tx.commit
    return true

/-- Insert a checkpoint, or refresh the payload of the one that exists. -/
def JobsDb.upsertCheckpoint (db : JobsDb) (jobId : String) (now : Time) (stage artifactType
    inputFingerprint : String) (schemaVersion : Nat) (payloadJson : String) : JobsDb :=
  match db.findArtifact jobId artifactType inputFingerprint with
  | some existing =>
    { db with
      artifacts := db.artifacts.map fun row =>
        if row.id = existing.id then
          { row with payloadJson := some payloadJson, updatedAt := now }
        else row }
  | none =>
    db.insertArtifact jobId now
      { stage, artifactType, inputFingerprint, schemaVersion, storageKind := .inlineJson,
        payloadJson := some payloadJson }

def saveArtifactInline (jobId owner : String) (now : Time) (stage artifactType inputFingerprint :
    String) (schemaVersion : Nat) (payloadJson : String) : JobTx Unit := do
  beginImmediate
  -- A no-op update: it only asks whether the lease is still held.
  let ids ← updateJobs (ownerGuard jobId owner now) fun row => { row with updatedAt := row.updatedAt }
  match ids.head? with
  | none => do
    Tx.rollback
    Tx.raise (.leaseLost jobId)
  | some _ => do
    Tx.write fun db =>
      db.upsertCheckpoint jobId now stage artifactType inputFingerprint schemaVersion payloadJson
    Tx.commit

def cancelledRow (now : Time) (row : Job) : Job :=
  { row with
    status := .cancelled
    errorCode := some "CANCELLED_BY_USER"
    leaseOwner := none
    leaseExpiresAt := none
    updatedAt := now }

def markCancelled (loaded : Option Job) (jobId owner : String) (now : Time) : JobTx Job := do
  beginImmediate
  match ← getJob loaded jobId with
  | none => Tx.raise (.keyError jobId)
  | some job =>
    let ids ← updateJobs (leaseGuard job owner now) (cancelledRow now)
    commitOrLeaseLost jobId ids

/-- The columns a cancellation request sets: an idle job is cancelled at once,
a running one is flagged. -/
def cancelRequestedRow (idle : Bool) (now : Time) (row : Job) : Job :=
  if idle then
    { row with
      cancelRequestedAt := some now
      updatedAt := now
      status := .cancelled
      errorCode := some "CANCELLED_BY_USER"
      retryable := false
      nextRetryAt := none
      leaseOwner := none
      leaseExpiresAt := none }
  else { row with cancelRequestedAt := some now, updatedAt := now }

def isIdle (job : Job) : Bool :=
  ([.queued, .retryWait, .waitingForModel] : List JobStatus).contains job.status

def cancelGuard (job row : Job) : Bool := row.id = job.id && row.status = job.status

def requestCancellation (loaded : Option Job) (jobId : String) (now : Time) :
    JobTx (Option Job) := do
  beginImmediate
  match ← getJob loaded jobId with
  | none => return none
  | some job =>
    if job.status.isTerminal then return some job
    else
      let ids ← updateJobs (cancelGuard job) (cancelRequestedRow (isIdle job) now)
      match ids.head? with
      | none => do
        Tx.rollback
        getJob none jobId
      | some _ => do
        Tx.commit
        let job ← getRequired jobId
        return some job

end EvoBlue.Source
