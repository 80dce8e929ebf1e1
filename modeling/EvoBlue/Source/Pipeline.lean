import EvoBlue.Kernel.Runs
import EvoBlue.Source.JobOperations
import EvoBlue.Source.StageHandlers

/-!
# The pipeline at work

`run_worker_once` of `runtime/worker.py` with the production handlers, any number
of workers of different owners, and what goes on beside them: submissions, cancel
requests, resumes, the startup sweeps, and the providers and install records that
come and go. One event is one await of one task.

A worker's session reads from the snapshot its open transaction took at its first
read, until the transaction ends. Writes are immediate transactions on the current
tables.
-/

namespace EvoBlue.Source

open EvoBlue.Kernel

structure PipelineDb where
  jobs : JobsDb := {}
  /-- The model ids with an install record. -/
  installations : List String := []

structure PipelineConfig where
  submit : SubmitEnv
  handlers : HandlerEnv
  asrProviderId : String
  leaseSeconds : Time

/-- Where a worker stands after it claimed a job; `job` is the instance its
session holds. -/
inductive WorkerStage where
  | handling (job : Job) (rest : Stage)
  | returned (job : Job) (outcome : StageOutcome)
  /-- No handler, or an exception: the failure is still to be recorded. There is no `loaded`
  instance once a rollback has expired it. -/
  | failing (job : Job) (loaded : Option Job) (detail : String)

structure WorkerRun where
  stage : WorkerStage
  snapshot : Option PipelineDb := none

structure Pipeline where
  db : PipelineDb := {}
  providers : List String := []
  workers : String → Option WorkerRun := fun _ => none

inductive PipelineEvent where
  | submitVideo (submission : Submission)
  | requestCancellation (jobId : String) (now : Time)
  | resumeWaitingJobs (modelId : String) (now : Time)
  | recoverStaleJobs (now : Time)
  | failExhaustedRetries (now : Time)
  | landDanglingCancellations (now : Time)
  /-- The registry now holds these providers. -/
  | register (providers : List String)
  | install (modelId : String)
  | uninstall (modelId : String)
  /-- A worker without a job calls `claim_next_job`. -/
  | claim (owner : String) (now : Time)
  /-- The call the handler waits for is answered; `outside` says what the world would. -/
  | answer (owner : String) (now : Time) (outside : ∀ call, Answer call)
  /-- The call raises something the handler does not catch. -/
  | raise (owner : String)
  /-- The handler has ended, and the worker refreshes its instance. -/
  | refresh (owner : String)
  /-- The worker writes what the stage came to. -/
  | settle (owner : String) (dueNow now : Time)
  | heartbeat (owner : String) (now : Time)
  /-- The worker dies, or is cancelled. -/
  | die (owner : String)

namespace Pipeline

variable (config : PipelineConfig)

def setWorker (pipeline : Pipeline) (owner : String) (run : Option WorkerRun) : Pipeline :=
  { pipeline with workers := fun other => if other = owner then run else pipeline.workers other }

/-- One repository operation in a session of its own. -/
def perform (pipeline : Pipeline) (op : JobOp) : Pipeline :=
  { pipeline with
    db := { pipeline.db with jobs := (exec config.submit op pipeline.db.jobs).2 } }

/-- The top of the worker's loop; a job in a terminal state ends the run. -/
def beginStage (job : Job) : Option WorkerRun :=
  if job.status.isTerminal then none
  else
    match productionHandler config.handlers config.asrProviderId job with
    | some handler => some ⟨.handling job handler, none⟩
    | none => some ⟨.failing job (some job) "no handler for stage", none⟩

def claim (pipeline : Pipeline) (owner : String) (now : Time) : Pipeline :=
  match pipeline.workers owner with
  | some _ => pipeline
  | none =>
    let op := JobOp.claimNextJob owner config.leaseSeconds now
    let after := pipeline.perform config op
    match (exec config.submit op pipeline.db.jobs).1 with
    | .ok (.maybeJob (some job)) => after.setWorker owner (beginStage config job)
    | _ => after

/-- What answering a call comes to. -/
structure Answered (call : Call) where
  /-- `none` when the call raises. -/
  answer : Option (Answer call)
  db : PipelineDb
  snapshot : Option PipelineDb

/-- A job operation on the worker's session: it ends the open transaction. -/
def operate (db : PipelineDb) (op : JobOp) : Except JobError Reply × PipelineDb :=
  let result := exec config.submit op db.jobs
  (result.1, { db with jobs := result.2 })

def replyDone : Except JobError Reply → Option Unit
  | .ok _ => some ()
  | .error _ => none

def replyFlag : Except JobError Reply → Option Bool
  | .ok (.flag held) => some held
  | _ => none

/-- The answer to a call of the handler of `job`. -/
def answerCall (pipeline : Pipeline) (owner : String) (job : Job) (snapshot : Option PipelineDb)
    (now : Time) (outside : ∀ call, Answer call) : (call : Call) → Answered call
  | .commit => ⟨some (), pipeline.db, none⟩
  | .getArtifact artifactType inputFingerprint =>
    let view := snapshot.getD pipeline.db
    ⟨some (view.jobs.findArtifact job.jobId artifactType inputFingerprint), pipeline.db, some view⟩
  | .getInstallations =>
    let view := snapshot.getD pipeline.db
    ⟨some view.installations, pipeline.db, some view⟩
  | .pinJobAsrRoute providerId modelId modelVersion recommendationModelId =>
    let result := operate config pipeline.db
      (.pinJobAsrRoute job.jobId owner now providerId modelId modelVersion recommendationModelId)
    ⟨replyDone result.1, result.2, none⟩
  | .saveArtifactInline stage artifactType inputFingerprint schemaVersion payloadJson =>
    let result := operate config pipeline.db
      (.saveArtifactInline job.jobId owner now stage artifactType inputFingerprint schemaVersion
        payloadJson)
    ⟨replyDone result.1, result.2, none⟩
  | .renewLease =>
    let result := operate config pipeline.db
      (.renewLease job.jobId owner now config.leaseSeconds)
    ⟨replyFlag result.1, result.2, snapshot⟩
  | .isCancelled =>
    ⟨some ((pipeline.db.jobs.findJob job.jobId).any fun row => row.cancelRequestedAt.isSome),
      pipeline.db, snapshot⟩
  | .listProviders =>
    ⟨some (pipeline.providers.mergeSort fun a b => decide (a ≤ b)), pipeline.db, snapshot⟩
  | .getProvider providerId =>
    ⟨some (pipeline.providers.contains providerId), pipeline.db, snapshot⟩
  | .indexReport columns body => ⟨some (outside (.indexReport columns body)), pipeline.db, none⟩
  | elsewhere => ⟨some (outside elsewhere), pipeline.db, snapshot⟩

/-- The call works on the worker's session, in a transaction of it. -/
def onSession : Call → Bool
  | .commit | .getArtifact _ _ | .getInstallations | .pinJobAsrRoute _ _ _ _
  | .saveArtifactInline _ _ _ _ _ | .indexReport _ _ => true
  | _ => false

/-- An exception has reached the worker, and `sess.rollback()` expires the session's
instances when a transaction was open. -/
def failed (job : Job) (inTransaction : Bool) : WorkerRun :=
  ⟨.failing job (if inTransaction then none else some job) "unexpected exception", none⟩

def answer (pipeline : Pipeline) (owner : String) (now : Time)
    (outside : ∀ call, Answer call) : Pipeline :=
  match pipeline.workers owner with
  | some ⟨.handling job (.ask call next), snapshot⟩ =>
    let answered := answerCall config pipeline owner job snapshot now outside call
    let after := { pipeline with db := answered.db }
    match answered.answer with
    | some value => after.setWorker owner (some ⟨.handling job (next value), answered.snapshot⟩)
    | none => after.setWorker owner (some (failed job (snapshot.isSome || onSession call)))
  | _ => pipeline

def raise (pipeline : Pipeline) (owner : String) : Pipeline :=
  match pipeline.workers owner with
  | some ⟨.handling job (.ask call _), snapshot⟩ =>
    pipeline.setWorker owner (some (failed job (snapshot.isSome || onSession call)))
  | _ => pipeline

def refresh (pipeline : Pipeline) (owner : String) : Pipeline :=
  match pipeline.workers owner with
  | some ⟨.handling job (.done (.returned outcome)), snapshot⟩ =>
    let view := snapshot.getD pipeline.db
    pipeline.setWorker owner
      ((view.jobs.findJob job.jobId).map fun row => ⟨.returned row outcome, some view⟩)
  | some ⟨.handling job (.done .raised), snapshot⟩ =>
    pipeline.setWorker owner (some (failed job snapshot.isSome))
  | _ => pipeline

/-- The next stage of a job that was moved on, if there is one. -/
def afterOutcome (outcome : StageOutcome) (job : Job) : Option WorkerRun :=
  if outcome.errorCode.isSome || outcome.target.isNone then none
  else if job.status = .waitingForModel then none
  else beginStage config job

def settle (pipeline : Pipeline) (owner : String) (dueNow now : Time) : Pipeline :=
  match pipeline.workers owner with
  | some ⟨.returned job outcome, snapshot⟩ =>
    let view := snapshot.getD pipeline.db
    let result := (applyOutcome job owner config.leaseSeconds dueNow now outcome).run
      ⟨pipeline.db.jobs, view.jobs, .deferred, false⟩
    let after := { pipeline with db := { pipeline.db with jobs := result.2.durable } }
    match result.1 with
    | .ok moved => after.setWorker owner (afterOutcome config outcome moved)
    -- `LeaseLostError` and the like end the run.
    | .error _ => after.setWorker owner none
  -- `job.job_id` of an expired instance raises `MissingGreenlet`, and nothing is recorded.
  | some ⟨.failing _ none _, _⟩ => pipeline.setWorker owner none
  | some ⟨.failing job (some loaded) detail, _⟩ =>
    let result := (immediateWrite (markFailure (some loaded) job.jobId owner now missingHandlerError
      false none (some detail))).run (.fresh pipeline.db.jobs)
    { pipeline with db := { pipeline.db with jobs := result.2.durable } }.setWorker owner none
  | _ => pipeline

/-- The heartbeat of a worker renews the lease of its job in its own session. -/
def heartbeat (pipeline : Pipeline) (owner : String) (now : Time) : Pipeline :=
  match pipeline.workers owner with
  | some ⟨.handling job _, _⟩ =>
    pipeline.perform config (.renewLease job.jobId owner now config.leaseSeconds)
  | _ => pipeline

def step (pipeline : Pipeline) : PipelineEvent → Pipeline
  | .submitVideo submission => pipeline.perform config (.submitVideo submission)
  | .requestCancellation jobId now => pipeline.perform config (.requestCancellation jobId now)
  | .resumeWaitingJobs modelId now => pipeline.perform config (.resumeWaitingJobs modelId now)
  | .recoverStaleJobs now => pipeline.perform config (.recoverStaleJobs now)
  | .failExhaustedRetries now => pipeline.perform config (.failExhaustedRetries now)
  | .landDanglingCancellations now => pipeline.perform config (.landDanglingCancellations now)
  | .register providers => { pipeline with providers }
  | .install modelId =>
    { pipeline with
      db := { pipeline.db with installations := modelId :: pipeline.db.installations } }
  | .uninstall modelId =>
    { pipeline with
      db := { pipeline.db with
              installations := pipeline.db.installations.filter fun id => id ≠ modelId } }
  | .claim owner now => pipeline.claim config owner now
  | .answer owner now outside => pipeline.answer config owner now outside
  | .raise owner => pipeline.raise owner
  | .refresh owner => pipeline.refresh owner
  | .settle owner dueNow now => pipeline.settle config owner dueNow now
  | .heartbeat owner now => pipeline.heartbeat config owner now
  | .die owner => pipeline.setWorker owner none

/-- The pipeline after a list of events on an empty database. -/
def after (events : List PipelineEvent) : Pipeline := run (step config) {} events

end Pipeline

/-! ## A video without subtitles -/

def sampleUrl : String := "https://www.bilibili.com/video/BV1GJ411x7h7"

/-- What the handlers compute on the way to a transcription of the sample video. -/
def sampleHandlers : HandlerEnv where
  report :=
    { unicode := ⟨fun _ c _ => [c], fun _ => none, fun t => t⟩
      jsonDepth := 1000
      sha256 data :=
        if data = utf8 sampleUrl then
          text "421eb344521c317ff2dbc5616490e15a7a06eea0e11cfee271e6de9557d8e04d"
        else if data = utf8 "RIFF" then
          text "a40ff3d5900fb7698b8c865041347cb49eccedc8f93945f89629ad104aaecce4"
        else text "e3b0c44298fc1c149afbf4c8996fb92427ae41e4649b934ca495991b7852b855" }
  detectVideo url := .ok ⟨"bilibili", "BV1GJ411x7h7", url⟩
  metadataToJson metadata :=
    "\x7b\"video_id\": \"" ++ metadata.videoId ++ "\", \"platform\": \"" ++ metadata.platform ++
      "\", \"title\": \"" ++ metadata.title ++ "\", \"author\": \"" ++ metadata.author ++
      "\", \"duration\": null, \"published_at\": null\x7d"
  metadataFromJson _ := none
  transcriptToJson _ := ""
  transcriptFromJson _ := none
  segmentsToJson _ := "[]"
  segmentsFromJson _ := some []
  textsToJson _ := "[]"
  textsFromJson _ := some []
  segmentKey _ := ""
  cleanTranscript transcript := transcript
  chunkTranscript _ := []
  synthesisPrompt _ := ""
  parseSynthesis _ := .error ⟨"INTERNAL_ERROR", "not JSON"⟩
  httpUrl url := some (text url)

def sampleConfig : PipelineConfig where
  submit := sampleEnv
  handlers := sampleHandlers
  asrProviderId := "sherpa-onnx-standard"
  leaseSeconds := 60

/-- A platform that has the metadata and the audio, and no subtitles. -/
def sampleAnswers : ∀ call, Answer call
  | .commit => ()
  | .getArtifact _ _ => none
  | .getInstallations => []
  | .pinJobAsrRoute _ _ _ _ => ()
  | .saveArtifactInline _ _ _ _ _ => ()
  | .renewLease => true
  | .isCancelled => false
  | .listProviders => []
  | .getProvider _ => false
  | .inspect _ => ⟨"", "", []⟩
  | .fetchMetadata ref => .ok { videoId := ref.videoId, platform := ref.platform, title := "T" }
  | .fetchTranscript _ => .error ⟨⟨"SUBTITLE_MISSING", "no subtitles"⟩, false⟩
  | .downloadAudio _ => .ok (utf8 "RIFF")
  | .writeFile _ content => .written (sha256Hex sampleHandlers content) content.length
  | .readFile _ _ => utf8 "RIFF"
  | .transcribe _ _ _ _ => ⟨[], .error ⟨⟨"ASR_FAILED", "no speech"⟩, false⟩⟩
  | .complete _ => .error ⟨⟨"LLM_UNREACHABLE", "no model"⟩, true⟩
  | .utcNow => { year := 2024, month := 1, day := 1, offset := some 0, inRange := by decide }
  | .writeReport _ _ _ => .error ⟨"REPORT_CONFLICT", "no directory"⟩
  | .readReport _ _ => .error ⟨"INDEX_FAILED", "no file"⟩
  | .indexReport _ _ => ()

/-- The platform cannot be reached. -/
def lostNetwork : ∀ call, Answer call
  | .fetchMetadata _ => .error ⟨⟨"NETWORK_ERROR", "connection reset"⟩, true⟩
  | call => sampleAnswers call

/-- A stage with this many calls, to its settlement. -/
def sampleStage (owner : String) (calls : Nat) (now : Time) : List PipelineEvent :=
  List.replicate calls (.answer owner now sampleAnswers) ++ [.refresh owner, .settle owner now now]

/-- The stages from the metadata to the transcription, where the job parks. -/
def sampleWork (owner : String) (now : Time) : List PipelineEvent :=
  sampleStage owner 1 now ++ sampleStage owner 1 now ++ sampleStage owner 2 now ++
    sampleStage owner 4 now

end EvoBlue.Source
