import EvoBlue.Source.ChunkSummaries
import EvoBlue.Source.StageInputs

/-!
# Where the artifacts come from

What a handler stores, and what it indexes in the end, goes back to answers that the
platform, the transcription and the model gave for this job. The predicates say what
comes from which answers; `sourceTrust` is the discipline that every production handler
keeps.
-/

namespace EvoBlue.Source

open EvoBlue.Kernel

/-- What the submission of a job fixed. -/
structure VideoRequest where
  jobId : String
  url : String
  mode : String
  language : Option String
  configFingerprint : String
  deriving DecidableEq

def Job.request (job : Job) : VideoRequest where
  jobId := job.jobId
  url := job.url
  mode := job.mode
  language := job.language
  configFingerprint := job.configFingerprint

/-- A call with its answer. -/
abbrev Heard : Type := (call : Call) × Answer call

/-- An answer to a call. -/
abbrev heard (call : Call) (answer : Answer call) : Heard := ⟨call, answer⟩

/-! ## Sources -/

/-- The chunks that the transcript is cut into once it is cleaned. -/
def transcriptChunks (env : HandlerEnv) (transcript : Transcript) : List String :=
  env.chunkTranscript (env.cleanTranscript transcript)

section

variable (env : HandlerEnv) (request : VideoRequest) (facts : Set Heard)

/-- The platform gave the metadata of the video. -/
def SourceMetadata (metadata : VideoMetadata) : Prop :=
  ∃ ref, env.detectVideo request.url = .ok ref ∧ heard (.fetchMetadata ref) (.ok metadata) ∈ facts

/-- The platform gave the audio of the video. -/
def SourceAudio (audio : Bytes) : Prop :=
  ∃ ref, env.detectVideo request.url = .ok ref ∧ heard (.downloadAudio ref) (.ok audio) ∈ facts

/-- A transcription of that audio, in the language that was asked for. -/
def SourceTranscription (transcription : Transcription) : Prop :=
  ∃ providerId audio resumeKeys, SourceAudio env request facts audio ∧
    heard (.transcribe providerId audio request.language resumeKeys) transcription ∈ facts

/-- A transcription reported the segment. -/
def SourceSegment (segment : Segment) : Prop :=
  ∃ transcription, SourceTranscription env request facts transcription ∧
    segment ∈ transcription.reported

/-- The subtitles of the video, or what was transcribed: segments that were reported earlier,
and those of a transcription that ended. -/
inductive SourceTranscript : Transcript → Prop
  | subtitles {ref : VideoRef} {transcript : Transcript}
      (detected : env.detectVideo request.url = .ok ref)
      (told : heard (.fetchTranscript ref) (.ok transcript) ∈ facts) : SourceTranscript transcript
  | spoken {transcription : Transcription} {result : AsrResult} {earlier : List Segment}
      (told : SourceTranscription env request facts transcription)
      (ended : transcription.result = .ok result)
      (reported : ∀ segment ∈ earlier, SourceSegment env request facts segment) :
      SourceTranscript
        { segments := earlier ++ result.segments
          language := if result.detectedLanguage ≠ "" then result.detectedLanguage
            else request.language.getD ""
          source := s!"{result.providerId}-asr" }

/-- The model's summary of the chunk, or of another of these with the same checkpoint key. -/
def SourceSummary (chunks : List String) (chunk summary : String) : Prop :=
  ∃ (job : Job) (other : String), job.request = request ∧ other ∈ chunks ∧
    chunkFingerprint env job other = chunkFingerprint env job chunk ∧
    heard (.complete (summaryPrompt other)) (.ok summary) ∈ facts

/-- One summary for each chunk, in their order. -/
def SourceSummaries (chunks summaries : List String) : Prop :=
  List.Forall₂ (SourceSummary env request facts chunks) chunks summaries

/-- The model's synthesis of the summaries of the chunks of the transcript. -/
def SourceSynthesis (transcript : Transcript) (synthesis : SynthesisResult) : Prop :=
  ∃ summaries raw, SourceSummaries env request facts (transcriptChunks env transcript) summaries ∧
    heard (.complete (env.synthesisPrompt summaries)) (.ok raw) ∈ facts ∧
    env.parseSynthesis raw = .ok synthesis

/-- The report of the metadata, the language of a transcript and the synthesis of its chunks. -/
def SourceReport (doc : ReportDocument) : Prop :=
  ∃ (job : Job) (metadata : VideoMetadata) (transcript : Transcript) (synthesis : SynthesisResult)
    (analyzedAt : DateTime), job.request = request ∧ SourceMetadata env request facts metadata ∧
    SourceTranscript env request facts transcript ∧
    SourceSynthesis env request facts transcript synthesis ∧ heard .utcNow analyzedAt ∈ facts ∧
    reportDocument env job metadata transcript.language synthesis analyzedAt = some doc

/-- The columns and texts of an index entry are those of such a report, decoded as it is rendered. -/
def SourceEntry (columns : EntryColumns) (body : FtsBodyTexts) : Prop :=
  ∃ doc content parsed relativePath byteSize, SourceReport env request facts doc ∧
    encodeUtf8 (renderMarkdown doc) = some content ∧
    decodeReportBytes env.report.toReaderEnv content = .ok parsed ∧
    columns = indexColumns parsed (text request.jobId) relativePath (text (sha256Hex env content))
      byteSize .pipeline ∧
    body = bodyTexts parsed

end

/-! ## Artifacts -/

/-- The artifacts of a job, by their types. -/
inductive ArtifactKind where
  | metadata
  | transcript
  | cleaned
  | chunks
  | summaries
  | chunkSummary
  | report
  | audio
  | asrSegments
  deriving DecidableEq

def artifactKind (artifactType : String) : Option ArtifactKind :=
  if artifactType = metadataArtifactType then some .metadata
  else if artifactType = transcriptArtifactType then some .transcript
  else if artifactType = cleanedArtifactType then some .cleaned
  else if artifactType = chunksArtifactType then some .chunks
  else if artifactType = summariesArtifactType then some .summaries
  else if artifactType = chunkSummaryArtifactType then some .chunkSummary
  else if artifactType = reportArtifactType then some .report
  else if artifactType = audioArtifactType then some .audio
  else if artifactType = asrSegmentArtifactType then some .asrSegments
  else none

/-- The times of the segments are floats. -/
def Timed (isFloat : Time → Prop) (segments : List Segment) : Prop :=
  ∀ segment ∈ segments, isFloat segment.start ∧ isFloat segment.stop

section

variable (env : HandlerEnv) (isFloat : Time → Prop) (contents : Set Bytes)
  (request : VideoRequest) (facts : Set Heard)

/-- The row holds the transcript: its text, or the hash of its file. -/
def HoldsTranscript (artifact : JobArtifact) (transcript : Transcript) : Prop :=
  Timed isFloat transcript.segments ∧
    (artifact.storageKind = .inlineJson ∧
        artifact.payloadJson = some (env.transcriptToJson transcript) ∨
      artifact.storageKind = .file ∧ utf8 (env.transcriptToJson transcript) ∈ contents ∧
        artifact.contentHash = some (sha256Hex env (utf8 (env.transcriptToJson transcript))))

/-- The transcript of the job's row, as a stage has read it. -/
def ReadTranscript (transcript : Transcript) : Prop :=
  SourceTranscript env request facts transcript ∧ ∃ artifact,
    heard (.getArtifact transcriptArtifactType (stageFingerprint env request.url))
      (some artifact) ∈ facts ∧
    HoldsTranscript env isFloat contents artifact transcript

/-- All stages read one transcript. -/
def OneTranscript : Prop :=
  ∀ transcript other, ReadTranscript env isFloat contents request facts transcript →
    ReadTranscript env isFloat contents request facts other → transcript = other

/-- The text of an artifact of the type comes from these sources. -/
def SourceText (artifactType inputFingerprint raw : String) : Prop :=
  match artifactKind artifactType with
  | some .metadata => ∃ metadata, SourceMetadata env request facts metadata ∧
      (∀ x ∈ metadata.duration, isFloat x) ∧ raw = env.metadataToJson metadata
  | some .transcript => ∃ transcript, SourceTranscript env request facts transcript ∧
      Timed isFloat transcript.segments ∧ raw = env.transcriptToJson transcript
  | some .asrSegments => ∃ segments, (∀ segment ∈ segments, SourceSegment env request facts segment) ∧
      Timed isFloat segments ∧ raw = env.segmentsToJson segments
  | some .cleaned => ∃ transcript, ReadTranscript env isFloat contents request facts transcript ∧
      raw = env.transcriptToJson (env.cleanTranscript transcript)
  | some .chunks => ∃ transcript, ReadTranscript env isFloat contents request facts transcript ∧
      raw = env.textsToJson (transcriptChunks env transcript)
  | some .chunkSummary => ∃ (job : Job) (transcript : Transcript) (chunk : String),
      job.request = request ∧ ReadTranscript env isFloat contents request facts transcript ∧
      chunk ∈ transcriptChunks env transcript ∧
      inputFingerprint = chunkFingerprint env job chunk ∧
      heard (.complete (summaryPrompt chunk)) (.ok raw) ∈ facts
  | some .summaries => ∃ transcript summaries,
      ReadTranscript env isFloat contents request facts transcript ∧
      SourceSummaries env request facts (transcriptChunks env transcript) summaries ∧
      raw = env.textsToJson summaries
  | _ => True

/-- The file of an artifact of the type comes from these sources. What only has its text in
its row has no file. -/
def SourceFile (artifactType contentHash : String) : Prop :=
  match artifactKind artifactType with
  | some .transcript => ∃ transcript, SourceTranscript env request facts transcript ∧
      Timed isFloat transcript.segments ∧ utf8 (env.transcriptToJson transcript) ∈ contents ∧
      contentHash = sha256Hex env (utf8 (env.transcriptToJson transcript))
  | some .audio => ∃ audio, SourceAudio env request facts audio ∧ audio ∈ contents ∧
      contentHash = sha256Hex env audio
  | some .report => ∃ doc content, SourceReport env request facts doc ∧
      encodeUtf8 (renderMarkdown doc) = some content ∧ content ∈ contents ∧
      contentHash = sha256Hex env content
  | some .metadata | some .cleaned | some .chunks | some .summaries => False
  | _ => True

/-- Text and file of the artifact come from these sources. -/
structure SourceRecord (artifact : ArtifactRecord) : Prop where
  text : ∀ raw ∈ artifact.payloadJson,
    SourceText env isFloat contents request facts artifact.artifactType artifact.inputFingerprint raw
  file : ∀ contentHash ∈ artifact.contentHash,
    SourceFile env isFloat contents request facts artifact.artifactType contentHash

/-- What the rest of the world holds to: hashes are those of the contents, a file that is
read has the hash it is known by, and times are floats. -/
def Honest : (call : Call) → Answer call → Prop
  | .fetchMetadata _, fetched => ∀ metadata, fetched = .ok metadata →
      ∀ x ∈ metadata.duration, isFloat x
  | .fetchTranscript _, fetched => ∀ transcript, fetched = .ok transcript →
      Timed isFloat transcript.segments
  | .transcribe _ _ _ _, transcription => Timed isFloat transcription.reported ∧
      ∀ result, transcription.result = .ok result → Timed isFloat result.segments
  | .writeFile _ content, result => ∀ contentHash byteSize, result = .written contentHash byteSize →
      content ∈ contents ∧ contentHash = sha256Hex env content
  | .readFile _ contentHash, content => content ∈ contents ∧ sha256Hex env content = contentHash
  | .writeReport _ markdown _, result => ∀ written content, result = .ok written →
      encodeUtf8 markdown = some content →
      content ∈ contents ∧ written.contentHash = env.report.sha256 content
  | .readReport _ contentHash, read => ∀ content, read = .ok content →
      content ∈ contents ∧ env.report.sha256 content = contentHash
  | _, _ => True

end

/-! ## More is known later -/

section

variable {env : HandlerEnv} {isFloat : Time → Prop} {contents : Set Bytes}
  {request : VideoRequest} {facts more : Set Heard}

theorem SourceMetadata.mono (known : facts ⊆ more) {metadata : VideoMetadata}
    (source : SourceMetadata env request facts metadata) :
    SourceMetadata env request more metadata := by
  obtain ⟨ref, detected, told⟩ := source
  exact ⟨ref, detected, known told⟩

theorem SourceAudio.mono (known : facts ⊆ more) {audio : Bytes}
    (source : SourceAudio env request facts audio) : SourceAudio env request more audio := by
  obtain ⟨ref, detected, told⟩ := source
  exact ⟨ref, detected, known told⟩

theorem SourceTranscription.mono (known : facts ⊆ more) {transcription : Transcription}
    (source : SourceTranscription env request facts transcription) :
    SourceTranscription env request more transcription := by
  obtain ⟨providerId, audio, resumeKeys, downloaded, told⟩ := source
  exact ⟨providerId, audio, resumeKeys, downloaded.mono known, known told⟩

theorem SourceSegment.mono (known : facts ⊆ more) {segment : Segment}
    (source : SourceSegment env request facts segment) : SourceSegment env request more segment := by
  obtain ⟨transcription, told, reported⟩ := source
  exact ⟨transcription, told.mono known, reported⟩

theorem SourceTranscript.mono (known : facts ⊆ more) {transcript : Transcript}
    (source : SourceTranscript env request facts transcript) :
    SourceTranscript env request more transcript := by
  cases source with
  | subtitles detected told => exact .subtitles detected (known told)
  | spoken told ended reported =>
    exact .spoken (told.mono known) ended fun segment mem => (reported segment mem).mono known

theorem SourceSummary.mono (known : facts ⊆ more) {chunks : List String} {chunk summary : String}
    (source : SourceSummary env request facts chunks chunk summary) :
    SourceSummary env request more chunks chunk summary := by
  obtain ⟨job, other, asked, mem, key, told⟩ := source
  exact ⟨job, other, asked, mem, key, known told⟩

theorem SourceSummaries.mono (known : facts ⊆ more) {chunks summaries : List String}
    (source : SourceSummaries env request facts chunks summaries) :
    SourceSummaries env request more chunks summaries :=
  source.imp fun _ _ => SourceSummary.mono known

theorem SourceSynthesis.mono (known : facts ⊆ more) {transcript : Transcript}
    {synthesis : SynthesisResult} (source : SourceSynthesis env request facts transcript synthesis) :
    SourceSynthesis env request more transcript synthesis := by
  obtain ⟨summaries, raw, each, told, parsed⟩ := source
  exact ⟨summaries, raw, each.mono known, known told, parsed⟩

theorem SourceReport.mono (known : facts ⊆ more) {doc : ReportDocument}
    (source : SourceReport env request facts doc) : SourceReport env request more doc := by
  obtain ⟨job, metadata, transcript, synthesis, analyzedAt, asked, ofVideo, spoken, made, dated,
    built⟩ := source
  exact ⟨job, metadata, transcript, synthesis, analyzedAt, asked, ofVideo.mono known,
    spoken.mono known, made.mono known, known dated, built⟩

theorem SourceEntry.mono (known : facts ⊆ more) {columns : EntryColumns} {body : FtsBodyTexts}
    (source : SourceEntry env request facts columns body) :
    SourceEntry env request more columns body := by
  obtain ⟨doc, content, parsed, relativePath, byteSize, report, entry⟩ := source
  exact ⟨doc, content, parsed, relativePath, byteSize, report.mono known, entry⟩

theorem ReadTranscript.mono (known : facts ⊆ more) {transcript : Transcript}
    (source : ReadTranscript env isFloat contents request facts transcript) :
    ReadTranscript env isFloat contents request more transcript := by
  obtain ⟨told, artifact, read, holds⟩ := source
  exact ⟨told.mono known, artifact, known read, holds⟩

theorem ReadTranscript.timed {transcript : Transcript}
    (read : ReadTranscript env isFloat contents request facts transcript) :
    Timed isFloat transcript.segments := by
  obtain ⟨_, artifact, _, holds⟩ := read
  exact holds.1

theorem SourceText.mono (known : facts ⊆ more) {artifactType inputFingerprint raw : String}
    (source : SourceText env isFloat contents request facts artifactType inputFingerprint raw) :
    SourceText env isFloat contents request more artifactType inputFingerprint raw := by
  unfold SourceText at source ⊢
  split at source
  · obtain ⟨metadata, told, stored⟩ := source
    exact ⟨metadata, told.mono known, stored⟩
  · obtain ⟨transcript, told, stored⟩ := source
    exact ⟨transcript, told.mono known, stored⟩
  · obtain ⟨segments, told, stored⟩ := source
    exact ⟨segments, fun segment mem => (told segment mem).mono known, stored⟩
  · obtain ⟨transcript, read, stored⟩ := source
    exact ⟨transcript, read.mono known, stored⟩
  · obtain ⟨transcript, read, stored⟩ := source
    exact ⟨transcript, read.mono known, stored⟩
  · obtain ⟨job, transcript, chunk, asked, read, mem, key, told⟩ := source
    exact ⟨job, transcript, chunk, asked, read.mono known, mem, key, known told⟩
  · obtain ⟨transcript, summaries, read, each, stored⟩ := source
    exact ⟨transcript, summaries, read.mono known, each.mono known, stored⟩
  · trivial

theorem SourceFile.mono (known : facts ⊆ more) {artifactType contentHash : String}
    (source : SourceFile env isFloat contents request facts artifactType contentHash) :
    SourceFile env isFloat contents request more artifactType contentHash := by
  unfold SourceFile at source ⊢
  split at source
  · obtain ⟨transcript, told, stored⟩ := source
    exact ⟨transcript, told.mono known, stored⟩
  · obtain ⟨audio, told, stored⟩ := source
    exact ⟨audio, told.mono known, stored⟩
  · obtain ⟨doc, content, report, stored⟩ := source
    exact ⟨doc, content, report.mono known, stored⟩
  all_goals trivial

theorem SourceRecord.mono (known : facts ⊆ more) {artifact : ArtifactRecord}
    (source : SourceRecord env isFloat contents request facts artifact) :
    SourceRecord env isFloat contents request more artifact where
  text raw held := (source.text raw held).mono known
  file contentHash held := (source.file contentHash held).mono known

end

/-! ## The discipline of the handlers -/

section

variable (env : HandlerEnv) (isFloat : Time → Prop) (contents : Set Bytes) (job : Job)

/-- The row of a lookup: it is there when the stage needs it, and it has its sources. -/
def SourceRow (facts : Set Heard) : (call : Call) → Answer call → Prop
  | .getArtifact artifactType inputFingerprint, answer => ∀ artifact : JobArtifact,
      answer = some artifact → artifact.artifactType = artifactType ∧
        artifact.inputFingerprint = inputFingerprint ∧
        SourceRecord env isFloat contents job.request facts artifact.toArtifactRecord
  | _, _ => True

/-- A handler stores and indexes what has its sources among the answers it knows of. -/
def sourceTrust : Trust Call Answer Heard where
  permits facts
    | .saveArtifactInline _ artifactType inputFingerprint _ payloadJson =>
      SourceText env isFloat contents job.request facts artifactType inputFingerprint payloadJson
    | .indexReport columns body => SourceEntry env job.request facts columns body
    | _ => True
  reliable facts call answer := Stocked env job call answer ∧
    Honest env isFloat contents call answer ∧
    SourceRow env isFloat contents job facts call answer ∧
    OneTranscript env isFloat contents job.request facts
  learns call answer := {heard call answer}
  permits_mono {facts more call} known permitted := by
    cases call with
    | saveArtifactInline => exact SourceText.mono known permitted
    | indexReport => exact SourceEntry.mono known permitted
    | _ => trivial

/-- What the handler ends with has its sources. -/
def SourceExit (facts : Set Heard) (exit : HandlerExit) : Prop :=
  ∀ outcome, exit = .returned outcome → ∀ artifact ∈ outcome.artifact,
    SourceRecord env isFloat contents job.request facts artifact

/-- The stage keeps the discipline. -/
abbrev Stage.Sourced (facts : Set Heard) (stage : Stage) : Prop :=
  stage.Upholds (sourceTrust env isFloat contents job) (SourceExit env isFloat contents job) facts

end

end EvoBlue.Source
