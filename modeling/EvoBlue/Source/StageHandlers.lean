import EvoBlue.Kernel.Process
import EvoBlue.Source.AsrRouting
import EvoBlue.Source.Rebuild
import EvoBlue.Source.ReportRenderer
import EvoBlue.Source.ReportWriter
import EvoBlue.Source.Worker

/-!
# Stage handlers

`runtime/handlers.py`: each handler as a process whose calls are the awaits of
the source. Statements on the worker's session, the provider registry and the
lease are answered by the engine; platforms, models, files and clocks may answer
anything. An exception the handler does not catch ends it in `raised`.

The texts a stage stores are computed by pure functions of the source that this
development does not look into; they are parameters.
-/

namespace EvoBlue.Source

open EvoBlue.Kernel

structure VideoMetadata where
  videoId : String
  platform : String
  title : String
  author : String := ""
  duration : Option Time := none
  publishedAt : Option String := none
  deriving DecidableEq, Repr

/-- `TranscriptSegment` and `ASRSegment`. -/
structure Segment where
  start : Time
  stop : Time
  text : String
  deriving DecidableEq, Repr

structure Transcript where
  segments : List Segment := []
  language : String := ""
  source : String := ""
  deriving DecidableEq, Repr

structure SynthesisResult where
  coreSummary : String
  keyTakeaways : List String
  timelineOutline : String
  contentAnalysis : String
  deriving DecidableEq, Repr

/-- `PlatformError`, `SynthesisError`. -/
structure CodedError where
  errorCode : String
  message : String
  deriving DecidableEq, Repr

/-- `AdapterError`, `LLMError`, `ASRError`. -/
structure StageError extends CodedError where
  retryable : Bool := false
  deriving DecidableEq, Repr

structure AsrResult where
  segments : List Segment
  detectedLanguage : String := ""
  providerId : String
  deriving DecidableEq, Repr

/-- One `transcribe` call: the segments it reported one by one, and its end. -/
structure Transcription where
  reported : List Segment
  result : Except StageError AsrResult

structure AsrCapabilities where
  modelId : String
  modelVersion : String
  languages : List Text
  deriving DecidableEq

/-- What `write_file` and `os` may say. -/
inductive WriteFileResult where
  | written (contentHash : String) (byteSize : Nat)
  | osError (noSpace : Bool) (message : String)
  deriving DecidableEq, Repr

/-- The pure functions the handlers rely on. -/
structure HandlerEnv where
  report : ReportEnv
  detectVideo : String → Except CodedError VideoRef
  metadataToJson : VideoMetadata → String
  /-- The metadata a report takes from its artifact; a missing key raises. -/
  metadataFromJson : String → Option VideoMetadata
  transcriptToJson : Transcript → String
  transcriptFromJson : String → Option Transcript
  segmentsToJson : List Segment → String
  segmentsFromJson : String → Option (List Segment)
  textsToJson : List String → String
  textsFromJson : String → Option (List String)
  segmentKey : Segment → String
  cleanTranscript : Transcript → Transcript
  chunkTranscript : Transcript → List String
  synthesisPrompt : List String → String
  parseSynthesis : String → Except CodedError SynthesisResult
  /-- The validated spelling of a report's URL. -/
  httpUrl : String → Option Text

/-! ## Calls -/

inductive Call where
  /-- `session.commit()` outside a write: it closes the read transaction. -/
  | commit
  | getArtifact (artifactType inputFingerprint : String)
  | getInstallations
  | pinJobAsrRoute (providerId modelId modelVersion : String)
      (recommendationModelId : Option String)
  | saveArtifactInline (stage artifactType inputFingerprint : String) (schemaVersion : Nat)
      (payloadJson : String)
  | renewLease
  | isCancelled
  | listProviders
  | getProvider (providerId : String)
  | inspect (providerId : String)
  | fetchMetadata (ref : VideoRef)
  | fetchTranscript (ref : VideoRef)
  | downloadAudio (ref : VideoRef)
  | writeFile (relativePath : String) (content : Bytes)
  /-- `read_file_verified` of the artifact store. -/
  | readFile (relativePath contentHash : String)
  | transcribe (providerId : String) (audio : Bytes) (language : Option String)
      (resumeKeys : List String)
  | complete (prompt : String)
  | utcNow
  | writeReport (filename markdown : Text) (previousHash : Option Text)
  /-- `read_file_verified` of the report directory. -/
  | readReport (relativePath contentHash : Text)
  | indexReport (columns : EntryColumns) (body : FtsBodyTexts)

/-- What a call returns when it does not raise. -/
abbrev Answer : Call → Type
  | .commit => Unit
  | .getArtifact _ _ => Option JobArtifact
  | .getInstallations => List String
  | .pinJobAsrRoute _ _ _ _ => Unit
  | .saveArtifactInline _ _ _ _ _ => Unit
  | .renewLease => Bool
  | .isCancelled => Bool
  | .listProviders => List String
  | .getProvider _ => Bool
  | .inspect _ => AsrCapabilities
  | .fetchMetadata _ => Except StageError VideoMetadata
  | .fetchTranscript _ => Except StageError Transcript
  | .downloadAudio _ => Except StageError Bytes
  | .writeFile _ _ => WriteFileResult
  | .readFile _ _ => Bytes
  | .transcribe _ _ _ _ => Transcription
  | .complete _ => Except StageError String
  | .utcNow => DateTime
  | .writeReport _ _ _ => Except CodedError ReportWriteResult
  | .readReport _ _ => Except CodedError Bytes
  | .indexReport _ _ => Unit

/-- Code that awaits calls. -/
abbrev Await := Process Call Answer

namespace Await

abbrev commit : Await Unit := .call Call.commit

abbrev getArtifact (artifactType inputFingerprint : String) : Await (Option JobArtifact) :=
  .call (Call.getArtifact artifactType inputFingerprint)

abbrev getInstallations : Await (List String) := .call Call.getInstallations

abbrev pinJobAsrRoute (providerId modelId modelVersion : String)
    (recommendationModelId : Option String) : Await Unit :=
  .call (Call.pinJobAsrRoute providerId modelId modelVersion recommendationModelId)

abbrev saveArtifactInline (stage artifactType inputFingerprint : String) (schemaVersion : Nat)
    (payloadJson : String) : Await Unit :=
  .call (Call.saveArtifactInline stage artifactType inputFingerprint schemaVersion payloadJson)

abbrev renewLease : Await Bool := .call Call.renewLease

abbrev isCancelled : Await Bool := .call Call.isCancelled

abbrev listProviders : Await (List String) := .call Call.listProviders

abbrev getProvider (providerId : String) : Await Bool := .call (Call.getProvider providerId)

abbrev inspect (providerId : String) : Await AsrCapabilities := .call (Call.inspect providerId)

abbrev fetchMetadata (ref : VideoRef) : Await (Except StageError VideoMetadata) :=
  .call (Call.fetchMetadata ref)

abbrev fetchTranscript (ref : VideoRef) : Await (Except StageError Transcript) :=
  .call (Call.fetchTranscript ref)

abbrev downloadAudio (ref : VideoRef) : Await (Except StageError Bytes) :=
  .call (Call.downloadAudio ref)

abbrev writeFile (relativePath : String) (content : Bytes) : Await WriteFileResult :=
  .call (Call.writeFile relativePath content)

abbrev readFile (relativePath contentHash : String) : Await Bytes :=
  .call (Call.readFile relativePath contentHash)

abbrev transcribe (providerId : String) (audio : Bytes) (language : Option String)
    (resumeKeys : List String) : Await Transcription :=
  .call (Call.transcribe providerId audio language resumeKeys)

abbrev complete (prompt : String) : Await (Except StageError String) :=
  .call (Call.complete prompt)

abbrev utcNow : Await DateTime := .call Call.utcNow

abbrev writeReport (filename markdown : Text) (previousHash : Option Text) :
    Await (Except CodedError ReportWriteResult) :=
  .call (Call.writeReport filename markdown previousHash)

abbrev readReport (relativePath contentHash : Text) : Await (Except CodedError Bytes) :=
  .call (Call.readReport relativePath contentHash)

abbrev indexReport (columns : EntryColumns) (body : FtsBodyTexts) : Await Unit :=
  .call (Call.indexReport columns body)

end Await

/-- How a handler ends: with an outcome, or with an exception it did not catch. -/
inductive HandlerExit where
  | returned (outcome : StageOutcome)
  | raised
  deriving DecidableEq, Repr

abbrev Stage := Await HandlerExit

namespace Stage

def success (target : JobStatus) (artifact : Option ArtifactRecord)
    (displayUpdate : Option DisplayUpdate) : Stage :=
  .done (.returned (.success target none artifact displayUpdate))

def fatal (errorCode detail : String) : Stage :=
  .done (.returned (.fatal errorCode (some detail) none))

def raised : Stage := .done .raised

/-- Go on with a value an exception may keep from us. -/
def orRaise {α : Type} (value : Option α) (next : α → Stage) : Stage :=
  match value with
  | some value => next value
  | none => raised

end Stage

/-! ## Shared parts -/

def metadataArtifactType : String := "video_metadata"
def transcriptArtifactType : String := "platform_transcript"
def cleanedArtifactType : String := "cleaned_transcript"
def chunksArtifactType : String := "chunks"
def summariesArtifactType : String := "chunk_summaries"
def chunkSummaryArtifactType : String := "chunk_summary"
def reportArtifactType : String := "report"
def audioArtifactType : String := "audio"
def asrSegmentArtifactType : String := "asr_segment"

/-- `str.encode("utf-8")` of a string without surrogates. -/
def utf8 (s : String) : Bytes := (text s).flatMap encodedForm

def sha256Hex (env : HandlerEnv) (data : Bytes) : String := plainString (env.report.sha256 data)

/-- `_stage_fingerprint`. -/
def stageFingerprint (env : HandlerEnv) (value : String) : String := sha256Hex env (utf8 value)

/-- `_adapter_outcome`, `_llm_outcome`. -/
def errorOutcome (error : StageError) (displayUpdate : Option DisplayUpdate) : StageOutcome :=
  if error.retryable then .transient error.errorCode none (some error.message) displayUpdate
  else .fatal error.errorCode (some error.message) displayUpdate

/-- `_asr_outcome`. -/
def asrOutcome (error : StageError) : StageOutcome :=
  if error.errorCode = "ASR_CANCELLED" then .fatal "CANCELLED_BY_USER" (some "cancelled") none
  else errorOutcome error none

/-- Go on with the text of an artifact: its row's, or its file's. -/
def artifactText (artifact : Option JobArtifact) (next : Option String → Stage) : Stage :=
  match artifact with
  | none => next none
  | some artifact =>
    if artifact.storageKind = .inlineJson then next artifact.payloadJson
    else
      match artifact.relativePath, artifact.contentHash with
      | some relativePath, some contentHash => do
        let content ← Await.readFile relativePath contentHash
        Stage.orRaise (decodeUtf8 content) fun decoded => next (some (plainString decoded))
      | _, _ => next none

/-- `_load_json_artifact`. -/
def loadJsonArtifact (artifactType inputFingerprint : String) (next : Option String → Stage) :
    Stage := do
  let artifact ← Await.getArtifact artifactType inputFingerprint
  artifactText artifact next

/-- An inline artifact of schema version 1. -/
def inlineArtifact (stage artifactType inputFingerprint payloadJson : String) : ArtifactRecord where
  stage := stage
  artifactType := artifactType
  inputFingerprint := inputFingerprint
  schemaVersion := 1
  storageKind := .inlineJson
  payloadJson := some payloadJson

def fileArtifact (stage artifactType inputFingerprint relativePath contentHash : String)
    (byteSize : Nat) : ArtifactRecord where
  stage := stage
  artifactType := artifactType
  inputFingerprint := inputFingerprint
  schemaVersion := 1
  storageKind := .file
  relativePath := some relativePath
  contentHash := some contentHash
  byteSize := some byteSize

/-- Store `content` as a file of the job and go on with its artifact. -/
def storeFile (relativePath : String) (content : Bytes)
    (next : (contentHash : String) → (byteSize : Nat) → Stage) : Stage := do
  let result ← Await.writeFile relativePath content
  match result with
  | .osError noSpace message =>
    Stage.fatal (if noSpace then "DISK_SPACE_LOW" else "INTERNAL_ERROR") message
  | .written contentHash byteSize => next contentHash byteSize

/-! ## The handlers -/

def fetchingMetadataHandler (env : HandlerEnv) (job : Job) : Stage :=
  match env.detectVideo job.url with
  | .error error => Stage.fatal error.errorCode error.message
  | .ok ref => do
    let fetched ← Await.fetchMetadata ref
    match fetched with
    | .error error => .done (.returned (errorOutcome error none))
    | .ok metadata =>
      Stage.success .fetchingSubtitles
        (some (inlineArtifact "fetching_metadata" metadataArtifactType
          (stageFingerprint env job.url) (env.metadataToJson metadata)))
        (some [(.title, some metadata.title), (.platform, some metadata.platform)])

/-- What a failed subtitle fetch leads to. -/
def subtitleFailure (job : Job) (error : StageError) : Stage :=
  if error.errorCode = "SUBTITLE_MISSING" then
    let probeNone : DisplayUpdate := [(.subtitleProbe, some "none")]
    if job.asr = "disabled" then
      .done (.returned (.fatal "ASR_DISABLED" (some ("no subtitles and ASR disabled; " ++
        "some subtitles require a logged-in cookie browser")) (some probeNone)))
    else Stage.success .downloadingAudio none (some probeNone)
  else if error.errorCode = "SUBTITLE_UNAVAILABLE" then
    .done (.returned
      { errorCode := some error.errorCode
        errorDetail := some error.message
        retryable := error.retryable
        displayUpdate := some [(.subtitleProbe, some "unavailable")] })
  else .done (.returned (errorOutcome error none))

def fetchingSubtitlesHandler (env : HandlerEnv) (job : Job) : Stage :=
  match env.detectVideo job.url with
  | .error error => Stage.fatal error.errorCode error.message
  | .ok ref => do
    let fetched ← Await.fetchTranscript ref
    match fetched with
    | .error error => subtitleFailure job error
    | .ok transcript =>
      let content := utf8 (env.transcriptToJson transcript)
      let relativePath :=
        s!"{job.jobId}/{transcriptArtifactType}_{sha256Hex env content}.json"
      storeFile relativePath content fun contentHash byteSize =>
        Stage.success .cleaningTranscript
          (some (fileArtifact "fetching_subtitles" transcriptArtifactType
            (stageFingerprint env job.url) relativePath contentHash byteSize))
          (some [(.subtitleProbe, some "found")])

def downloadingAudioHandler (env : HandlerEnv) (job : Job) : Stage :=
  match env.detectVideo job.url with
  | .error error => Stage.fatal error.errorCode error.message
  | .ok ref => do
    let downloaded ← Await.downloadAudio ref
    match downloaded with
    | .error error => .done (.returned (errorOutcome error none))
    | .ok content =>
      let relativePath := s!"{job.jobId}/audio_{sha256Hex env content}.wav"
      storeFile relativePath content fun contentHash byteSize =>
        Stage.success .transcribing
          (some (fileArtifact "downloading_audio" audioArtifactType
            (stageFingerprint env job.url) relativePath contentHash byteSize)) none

/-- The options of the providers outside the catalog, in the order of their ids. -/
def customOptions : List String → Await (List ProviderOption)
  | [] => .done []
  | providerId :: rest => do
    let registered ← Await.getProvider providerId
    if registered then
      let capabilities ← Await.inspect providerId
      let options ← customOptions rest
      return { providerId, modelId := capabilities.modelId,
               modelVersion := capabilities.modelVersion, languages := capabilities.languages,
               installed := true } :: options
    else customOptions rest

/-- `_provider_options`. -/
def providerOptions : Await (List ProviderOption) := do
  let installedIds ← Await.listProviders
  let installedModels ← Await.getInstallations
  let builtin := builtinOptions installedIds installedModels
  let custom ← customOptions
    (installedIds.filter fun id => !(builtin.map (·.providerId)).contains id)
  return builtin ++ custom

/-- `checkpoint_segment` for the reported segments, in order. -/
def checkpointSegments (env : HandlerEnv) (fingerprint : String) (stored : List Segment) :
    (reported : List Segment) → Await Unit
  | [] => .done ()
  | segment :: rest => do
    let stored := stored ++ [segment]
    Await.saveArtifactInline "transcribing" asrSegmentArtifactType fingerprint 1
      (env.segmentsToJson stored)
    checkpointSegments env fingerprint stored rest

/-- The end of a transcription. -/
def transcribed (env : HandlerEnv) (job : Job) (fingerprint : String) (completed : List Segment) :
    Except StageError AsrResult → Stage
  | .error error => .done (.returned (asrOutcome error))
  | .ok result =>
    let language :=
      if result.detectedLanguage ≠ "" then result.detectedLanguage else job.language.getD ""
    let transcript : Transcript :=
      { segments := completed ++ result.segments, language, source := s!"{result.providerId}-asr" }
    Stage.success .cleaningTranscript
      (some (inlineArtifact "transcribing" transcriptArtifactType fingerprint
        (env.transcriptToJson transcript))) none

/-- Transcribe with a provider that is ready. -/
def transcribeAudio (env : HandlerEnv) (job : Job) (providerId : String) : Stage := do
  let fingerprint := stageFingerprint env job.url
  let audio ← Await.getArtifact audioArtifactType fingerprint
  match audio.bind (·.relativePath), audio.bind (·.contentHash) with
  | some relativePath, some contentHash => do
    let content ← Await.readFile relativePath contentHash
    let checkpoint ← Await.getArtifact asrSegmentArtifactType fingerprint
    let stored :=
      match checkpoint.bind (·.payloadJson) with
      | some payload => env.segmentsFromJson payload
      | none => some []
    Stage.orRaise stored fun completed => do
      Await.commit
      let transcription ← Await.transcribe providerId content job.language
        (completed.map env.segmentKey)
      checkpointSegments env fingerprint completed transcription.reported
      transcribed env job fingerprint completed transcription.result
  | _, _ => Stage.fatal "INTERNAL_ERROR" "missing audio artifact"

/-- After the pin: park, or transcribe with the provider if it is still there. -/
def routed (env : HandlerEnv) (job : Job) (decision : RoutingDecision) : Stage :=
  if decision.installed then do
    let registered ← Await.getProvider decision.providerId
    if registered then transcribeAudio env job decision.providerId
    else Stage.success .waitingForModel none none
  else Stage.success .waitingForModel none none

/-- `job.asr_provider_id or self._provider_id`. -/
def preferredProvider (job : Job) (asrProviderId : String) : String :=
  match job.asrProviderId with
  | some pinned => if pinned = "" then asrProviderId else pinned
  | none => asrProviderId

/-- Pin the route, then take it. -/
def pinRoute (env : HandlerEnv) (job : Job) (decision : RoutingDecision) : Stage := do
  Await.commit
  Await.pinJobAsrRoute decision.providerId decision.modelId decision.modelVersion
    (if decision.recommendation then some decision.modelId else none)
  routed env job decision

/-- `asr_provider_id` is the setting the handler was built with. -/
def transcribingHandler (env : HandlerEnv) (asrProviderId : String) (job : Job) : Stage := do
  let options ← providerOptions
  match routeAsr env.report.unicode job.language (preferredProvider job asrProviderId) options with
  | none => Stage.fatal "ASR_LANGUAGE_UNSUPPORTED" "no ASR provider supports the language"
  | some decision => pinRoute env job decision

def cleaningTranscriptHandler (env : HandlerEnv) (job : Job) : Stage :=
  let fingerprint := stageFingerprint env job.url
  loadJsonArtifact transcriptArtifactType fingerprint fun
    | none => Stage.fatal "INTERNAL_ERROR" "missing transcript artifact"
    | some raw =>
      Stage.orRaise (env.transcriptFromJson raw) fun transcript =>
        Stage.success .chunking
          (some (inlineArtifact "cleaning_transcript" cleanedArtifactType fingerprint
            (env.transcriptToJson (env.cleanTranscript transcript)))) none

def chunkingHandler (env : HandlerEnv) (job : Job) : Stage :=
  let fingerprint := stageFingerprint env job.url
  loadJsonArtifact cleanedArtifactType fingerprint fun
    | none => Stage.fatal "INTERNAL_ERROR" "missing cleaned transcript"
    | some raw =>
      Stage.orRaise (env.transcriptFromJson raw) fun transcript =>
        Stage.success .summarizingChunks
          (some (inlineArtifact "chunking" chunksArtifactType fingerprint
            (env.textsToJson (env.chunkTranscript transcript)))) none

/-- `_summary_prompt`. -/
def summaryPrompt (chunk : String) : String :=
  "Summarize the following transcript chunk concisely:\n\n" ++ chunk

/-- The checkpoint key of a chunk's summary. -/
def chunkFingerprint (env : HandlerEnv) (job : Job) (chunk : String) : String :=
  stageFingerprint env s!"{sha256Hex env (utf8 chunk)}|{job.configFingerprint}"

/-- The summary of one chunk, from its checkpoint or from the model. -/
def chunkSummary (env : HandlerEnv) (job : Job) (chunk : String) :
    Await (Except StageError String) := do
  let existing ← Await.getArtifact chunkSummaryArtifactType (chunkFingerprint env job chunk)
  Await.commit
  match existing.bind (·.payloadJson) with
  | some summary => return .ok summary
  | none => do
    let completed ← Await.complete (summaryPrompt chunk)
    match completed with
    | .error error => return .error error
    | .ok summary => do
      Await.saveArtifactInline "summarizing_chunks" chunkSummaryArtifactType
        (chunkFingerprint env job chunk) 1 summary
      return .ok summary

/-- The loop over the chunks. -/
def summarizeChunks (env : HandlerEnv) (job : Job) (summaries : List String) :
    (chunks : List String) → Stage
  | [] =>
    Stage.success .generatingReport
      (some (inlineArtifact "summarizing_chunks" summariesArtifactType
        (stageFingerprint env job.url) (env.textsToJson summaries))) none
  | chunk :: rest => do
    let cancelled ← Await.isCancelled
    if cancelled then Stage.fatal "CANCELLED_BY_USER" "cancelled"
    else
      let summarized ← chunkSummary env job chunk
      match summarized with
      | .error error => .done (.returned (errorOutcome error none))
      | .ok summary => do
        let renewed ← Await.renewLease
        if renewed then summarizeChunks env job (summaries ++ [summary]) rest
        else Stage.fatal "ENGINE_RESTARTED" "lease lost"

def summarizingChunksHandler (env : HandlerEnv) (job : Job) : Stage :=
  loadJsonArtifact chunksArtifactType (stageFingerprint env job.url) fun
    | none => Stage.fatal "INTERNAL_ERROR" "missing chunks artifact"
    | some raw =>
      Stage.orRaise (env.textsFromJson raw) fun chunks => do
        Await.commit
        summarizeChunks env job [] chunks

/-- `ReportDocument(..)`; `none` is a `ValidationError`. -/
def reportDocument (env : HandlerEnv) (job : Job) (metadata : VideoMetadata) (language : String)
    (synthesis : SynthesisResult) (analyzedAt : DateTime) : Option ReportDocument :=
  match env.httpUrl job.url with
  | none => none
  | some sourceUrl =>
    if checked : (text job.jobId ≠ [] ∧ text metadata.platform ≠ [] ∧
        text metadata.videoId ≠ [] ∧ text metadata.title ≠ []) ∧
        text job.mode ∈ summaryModes ∧ analyzedAt.offset.isSome = true then
      some
        { analysisId := text job.jobId
          sourceUrl
          platform := text metadata.platform
          videoId := text metadata.videoId
          title := text metadata.title
          author := text metadata.author
          analyzedAt
          summaryMode := text job.mode
          language := text language
          asrProvider := text (job.asrProviderId.getD "")
          asrModel := text (job.asrModelId.getD "")
          asrModelVersion := text (job.asrModelVersion.getD "")
          coreSummary := text synthesis.coreSummary
          keyTakeaways := synthesis.keyTakeaways.map text
          timelineOutline := text synthesis.timelineOutline
          contentAnalysis := text synthesis.contentAnalysis
          named := checked.1
          known := checked.2.1
          zoned := ⟨checked.2.2, by simp⟩ }
    else none

/-- Render the document, write it next to what an earlier attempt wrote, and
hand over its artifact. -/
def writeReportStage (env : HandlerEnv) (job : Job) (doc : ReportDocument) : Stage := do
  let fingerprint := stageFingerprint env job.url
  let markdown := renderMarkdown doc
  Stage.orRaise (encodeUtf8 markdown) fun content => do
    let filename := reportFilename env.report.unicode doc.title (text job.jobId)
      (env.report.sha256 content)
    let previous ← Await.getArtifact reportArtifactType fingerprint
    let written ← Await.writeReport filename markdown ((previous.bind (·.contentHash)).map text)
    match written with
    | .error error => Stage.fatal "REPORT_CONFLICT" error.message
    | .ok result =>
      Stage.success .indexing
        (some (fileArtifact "generating_report" reportArtifactType fingerprint
          (plainString result.path) (plainString result.contentHash) content.length)) none

/-- `synthesize`, and the report of what it returns. -/
def synthesizeReport (env : HandlerEnv) (job : Job) (metadata : VideoMetadata)
    (summaries : List String) (language : String) : Stage := do
  Await.commit
  let completed ← Await.complete (env.synthesisPrompt summaries)
  match completed with
  | .error error => .done (.returned (errorOutcome error none))
  | .ok raw =>
    match env.parseSynthesis raw with
    | .error error => Stage.fatal "INTERNAL_ERROR" error.message
    | .ok synthesis => do
      let analyzedAt ← Await.utcNow
      Stage.orRaise (reportDocument env job metadata language synthesis analyzedAt)
        (writeReportStage env job)

/-- The language of the cleaned transcript, if there is one. -/
def transcriptLanguage (env : HandlerEnv) : Option String → Option String
  | none => some ""
  | some raw => if raw = "" then some "" else (env.transcriptFromJson raw).map (·.language)

/-- Synthesize from the artifacts that were loaded. -/
def generateFrom (env : HandlerEnv) (job : Job) (metadataRaw summariesRaw : String) : Stage :=
  Stage.orRaise (env.metadataFromJson metadataRaw) fun metadata =>
    Stage.orRaise (env.textsFromJson summariesRaw) fun summaries =>
      loadJsonArtifact cleanedArtifactType (stageFingerprint env job.url) fun transcriptRaw =>
        Stage.orRaise (transcriptLanguage env transcriptRaw)
          (synthesizeReport env job metadata summaries)

def generatingReportHandler (env : HandlerEnv) (job : Job) : Stage :=
  let fingerprint := stageFingerprint env job.url
  loadJsonArtifact metadataArtifactType fingerprint fun metadataRaw =>
    loadJsonArtifact summariesArtifactType fingerprint fun summariesRaw =>
      match metadataRaw, summariesRaw with
      | some metadataRaw, some summariesRaw => generateFrom env job metadataRaw summariesRaw
      | _, _ => Stage.fatal "INTERNAL_ERROR" "missing metadata or summaries artifact"

/-- The diagnostic code as it is recorded. -/
def mdCodeValue : MdCode → String
  | .frontmatterInvalid => "MD_FRONTMATTER_INVALID"
  | .unknownSchemaVersion => "MD_UNKNOWN_SCHEMA_VERSION"
  | .missingField => "MD_MISSING_FIELD"
  | .bodyStructureInvalid => "MD_BODY_STRUCTURE_INVALID"
  | .encodingError => "MD_ENCODING_ERROR"
  | .emptyBody => "MD_EMPTY_BODY"

/-- Parse the report read back and index it. -/
def indexParsedReport (env : HandlerEnv) (job : Job) (artifact : JobArtifact)
    (relativePath contentHash : String) (content : Bytes) : Stage :=
  match decodeReportBytes env.report.toReaderEnv content with
  | .error (.markdown code) => Stage.fatal "INDEX_PARSE_FAILED" (mdCodeValue code)
  | .error _ => Stage.raised
  | .ok parsed => do
    let columns := indexColumns parsed (text job.jobId) (text relativePath) (text contentHash)
      artifact.byteSize .pipeline
    if columns.accepted env.report.unicode then do
      Await.commit
      Await.indexReport columns (bodyTexts parsed)
      Stage.success .completed none none
    else Stage.raised

def indexingHandler (env : HandlerEnv) (job : Job) : Stage := do
  let artifact ← Await.getArtifact reportArtifactType (stageFingerprint env job.url)
  match artifact with
  | none => Stage.fatal "INTERNAL_ERROR" "missing report artifact"
  | some artifact =>
    match artifact.relativePath, artifact.contentHash with
    | some relativePath, some contentHash => do
      let content ← Await.readReport (text relativePath) (text contentHash)
      match content with
      | .error error => Stage.fatal "INDEX_FAILED" error.message
      | .ok content => indexParsedReport env job artifact relativePath contentHash content
    | _, _ => Stage.fatal "INTERNAL_ERROR" "missing report artifact"

/-- `build_handlers`, by the status of the job. -/
def productionHandler (env : HandlerEnv) (asrProviderId : String) (job : Job) : Option Stage :=
  match job.status with
  | .fetchingMetadata => some (fetchingMetadataHandler env job)
  | .fetchingSubtitles => some (fetchingSubtitlesHandler env job)
  | .downloadingAudio => some (downloadingAudioHandler env job)
  | .transcribing => some (transcribingHandler env asrProviderId job)
  | .cleaningTranscript => some (cleaningTranscriptHandler env job)
  | .chunking => some (chunkingHandler env job)
  | .summarizingChunks => some (summarizingChunksHandler env job)
  | .generatingReport => some (generatingReportHandler env job)
  | .indexing => some (indexingHandler env job)
  | _ => none

end EvoBlue.Source
