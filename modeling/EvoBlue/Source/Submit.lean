import EvoBlue.Source.JobRepository

/-!
# Submitting a video

`application/submit.py`. URL detection and SHA-256 are parameters: a submission
only uses the canonical URL, and compares fingerprints. The new job id is an
argument, since `uuid4` may return any.
-/

namespace EvoBlue.Source

open EvoBlue.Kernel

structure VideoRef where
  platform : String
  videoId : String
  url : String
  deriving DecidableEq, Repr

/-- What a submission takes from elsewhere: `detect_video`, whose error is a
code, and the hexadecimal SHA-256 digest of a text. -/
structure SubmitEnv where
  detectVideo : String → Except String VideoRef
  sha256 : String → String

def computeRequestFingerprint (sha256 : String → String) (canonicalUrl mode asr : String)
    (language : Option String) (configFingerprint : String) : String :=
  sha256 ("|".intercalate [canonicalUrl, mode, asr, language.getD "", configFingerprint])

def computeConfigFingerprint (sha256 : String → String) (provider model baseUrl asrProvider : String) :
    String :=
  sha256 s!"pipeline-v1|report-v1|chunks-4000|{provider}|{baseUrl}|{model}|{asrProvider}"

/-- The first row of an `ORDER BY key DESC LIMIT 1`. -/
def latestBy (key : Job → Time) (rows : List Job) : Option Job :=
  (rows.mergeSort fun a b => key b ≤ key a).head?

/-- `_find_reusable`. -/
def JobsDb.findReusable (db : JobsDb) (fingerprint : String) (now reuseWindowSeconds : Time) :
    Option Job :=
  match latestBy (·.createdAt) (db.jobs.filter fun row =>
      row.requestFingerprint = fingerprint && !row.status.isTerminal) with
  | some active => some active
  | none =>
    latestBy (·.updatedAt) (db.jobs.filter fun row =>
      row.requestFingerprint = fingerprint && row.status = .completed &&
        row.updatedAt ≥ now - reuseWindowSeconds)

structure Submission where
  url : String
  mode : String := "auto"
  asr : String := "auto"
  language : Option String := none
  configFingerprint : String
  now : Time
  reuseWindowSeconds : Time
  newJobId : String
  deriving DecidableEq, Repr

/-- The row `submit_video` adds; the columns it does not name take the defaults
of the schema. -/
def submittedJob (submission : Submission) (fingerprint canonicalUrl : String) (id : Nat) : Job :=
  { id
    jobId := submission.newJobId
    requestFingerprint := fingerprint
    url := canonicalUrl
    mode := submission.mode
    asr := submission.asr
    language := submission.language
    configFingerprint := submission.configFingerprint
    status := .queued
    maxAttempts := 3
    createdAt := submission.now
    updatedAt := submission.now }

/-- The tables with one more job; `job` gets its row id. -/
def JobsDb.withJob (db : JobsDb) (job : Nat → Job) : JobsDb :=
  { db with jobs := db.jobs ++ [job db.nextJobId], nextJobId := db.nextJobId + 1 }

/-- `session.add(job)` and its flush; `job_id` is unique. -/
def addJob (job : Nat → Job) : JobTx Unit := do
  let db ← Tx.read
  if (db.findJob (job db.nextJobId).jobId).isSome then
    Tx.rollback
    Tx.raise .integrityError
  else Tx.write fun db => db.withJob job

/-- The lookup and the insert, under the write lock. -/
def reuseOrAdd (submission : Submission) (fingerprint canonicalUrl : String) :
    JobTx (Job × Bool) := do
  let db ← Tx.read
  match db.findReusable fingerprint submission.now submission.reuseWindowSeconds with
  | some existing => do
    Tx.commit
    return (existing, true)
  | none => do
    addJob (submittedJob submission fingerprint canonicalUrl)
    Tx.commit
    let created ← getRequired submission.newJobId
    return (created, false)

def submitVideo (env : SubmitEnv) (submission : Submission) : JobTx (Job × Bool) := do
  match env.detectVideo submission.url with
  | .error errorCode => Tx.raise (.platformError errorCode)
  | .ok ref => do
    let fingerprint := computeRequestFingerprint env.sha256 ref.url submission.mode submission.asr
      submission.language submission.configFingerprint
    Tx.rollback
    beginImmediate
    reuseOrAdd submission fingerprint ref.url

/-- URL detection and SHA-256 at one submission, enough to run the model on it. -/
def sampleEnv : SubmitEnv where
  detectVideo url :=
    if url = "https://www.bilibili.com/video/BV1GJ411x7h7" then
      .ok ⟨"bilibili", "BV1GJ411x7h7", url⟩
    else .error "INVALID_URL"
  sha256 text :=
    if text = "https://www.bilibili.com/video/BV1GJ411x7h7|auto|auto||cfg" then
      "ffdefcaecb6392907e33482f936a20ea4dad68b3e4c08fd640512decd4d23ff0"
    else ""

def sampleSubmission (jobId : String) (now : Time) : Submission where
  url := "https://www.bilibili.com/video/BV1GJ411x7h7"
  configFingerprint := "cfg"
  now := now
  reuseWindowSeconds := 3600
  newJobId := jobId

end EvoBlue.Source
