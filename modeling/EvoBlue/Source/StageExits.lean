import EvoBlue.Source.StageHandlers

/-!
# What a stage may return

Whatever its calls are answered, a production handler ends with an exception, an
error outcome, or one of the moves of `stageProducts` with the artifact that
belongs to it.
-/

namespace EvoBlue.Source

open EvoBlue.Kernel

/-- The moves of the handlers: from, to, and the type of the artifact registered. -/
def stageProducts : List (JobStatus × JobStatus × Option String) :=
  [(.fetchingMetadata, .fetchingSubtitles, some metadataArtifactType),
    (.fetchingSubtitles, .downloadingAudio, none),
    (.fetchingSubtitles, .cleaningTranscript, some transcriptArtifactType),
    (.downloadingAudio, .transcribing, some audioArtifactType),
    (.transcribing, .waitingForModel, none),
    (.transcribing, .cleaningTranscript, some transcriptArtifactType),
    (.cleaningTranscript, .chunking, some cleanedArtifactType),
    (.chunking, .summarizingChunks, some chunksArtifactType),
    (.summarizingChunks, .generatingReport, some summariesArtifactType),
    (.generatingReport, .indexing, some reportArtifactType),
    (.indexing, .completed, none)]

/-- A later stage can read the artifact: its text is in the row, or the row
names its file. Audio and reports are files. -/
structure Readable (artifact : ArtifactRecord) : Prop where
  inline : artifact.storageKind = .inlineJson → artifact.payloadJson.isSome = true
  file : artifact.storageKind = .file →
    artifact.relativePath.isSome = true ∧ artifact.contentHash.isSome = true
  kind : artifact.artifactType = audioArtifactType ∨ artifact.artifactType = reportArtifactType →
    artifact.storageKind = .file

/-- The outcome is one of a handler of `job`. -/
def Returnable (env : HandlerEnv) (job : Job) (outcome : StageOutcome) : Prop :=
  outcome.errorCode.isSome = true ∨
    outcome.errorCode = none ∧ outcome.progress = none ∧
      ∃ target, outcome.target = some target ∧
        (job.status, target, outcome.artifact.map (·.artifactType)) ∈ stageProducts ∧
        ∀ artifact ∈ outcome.artifact,
          artifact.inputFingerprint = stageFingerprint env job.url ∧ Readable artifact

namespace Stage

/-- With answers that are all possible, the stage returns nothing but outcomes of `post`. -/
def Yields (possible : ∀ call, Answer call → Prop) (post : StageOutcome → Prop) (stage : Stage) :
    Prop :=
  stage.Keeps (fun _ => True) possible fun exit => ∀ outcome, exit = .returned outcome → post outcome

variable {possible : ∀ call, Answer call → Prop} {post : StageOutcome → Prop}

theorem yields_returned {outcome : StageOutcome} (holds : post outcome) :
    Yields possible post (.done (.returned outcome)) := by
  rintro _ ⟨⟩
  exact holds

theorem yields_raised : Yields possible post Stage.raised := fun _ raised => nomatch raised

theorem yields_orRaise {α : Type} {value : Option α} {next : α → Stage}
    (goes : ∀ found, value = some found → Yields possible post (next found)) :
    Yields possible post (Stage.orRaise value next) := by
  unfold Stage.orRaise
  split
  next found => exact goes _ rfl
  next => exact yields_raised

theorem yields_call {call : Call} {next : Answer call → Stage}
    (goes : ∀ answer, possible call answer → Yields possible post (next answer)) :
    Yields possible post (Process.call call >>= next) :=
  Process.keeps_call_bind trivial goes

/-- After code whose value does not matter. -/
theorem yields_bind {α : Type} {first : Await α} {next : α → Stage}
    (goes : ∀ value, Yields possible post (next value)) :
    Yields possible post (first >>= next) := by
  have silent : first.Keeps (fun _ => True) possible fun _ => True := by
    induction first with
    | done value => trivial
    | ask call rest ih => exact ⟨trivial, fun answer _ => ih answer⟩
  exact Process.keeps_bind silent fun value _ => goes value

end Stage

section

variable {env : HandlerEnv} {job : Job} {possible : ∀ call, Answer call → Prop}

theorem returnable_error {outcome : StageOutcome} (failed : outcome.errorCode.isSome = true) :
    Returnable env job outcome := .inl failed

theorem returnable_success {target : JobStatus} {displayUpdate : Option DisplayUpdate}
    (listed : (job.status, target, none) ∈ stageProducts) :
    Returnable env job (.success target none none displayUpdate) :=
  .inr ⟨rfl, rfl, target, rfl, listed, fun _ absent => nomatch absent⟩

theorem returnable_inline {target : JobStatus} {stage artifactType payloadJson : String}
    {displayUpdate : Option DisplayUpdate}
    (listed : (job.status, target, some artifactType) ∈ stageProducts)
    (kind : ¬ (artifactType = audioArtifactType ∨ artifactType = reportArtifactType)) :
    Returnable env job (.success target none
      (some (inlineArtifact stage artifactType (stageFingerprint env job.url) payloadJson))
      displayUpdate) := by
  refine .inr ⟨rfl, rfl, target, rfl, listed, ?_⟩
  rintro _ ⟨⟩
  exact ⟨rfl, ⟨fun _ => rfl, fun file => (by cases file), fun must => absurd must kind⟩⟩

theorem returnable_file {target : JobStatus} {stage artifactType relativePath contentHash : String}
    {byteSize : Nat} {displayUpdate : Option DisplayUpdate}
    (listed : (job.status, target, some artifactType) ∈ stageProducts) :
    Returnable env job (.success target none
      (some (fileArtifact stage artifactType (stageFingerprint env job.url) relativePath contentHash
        byteSize)) displayUpdate) := by
  refine .inr ⟨rfl, rfl, target, rfl, listed, ?_⟩
  rintro _ ⟨⟩
  exact ⟨rfl, ⟨fun inline => (by cases inline), fun _ => ⟨rfl, rfl⟩, fun _ => rfl⟩⟩

theorem errorOutcome_error (error : StageError) (displayUpdate : Option DisplayUpdate) :
    (errorOutcome error displayUpdate).errorCode.isSome = true := by
  unfold errorOutcome
  split <;> rfl

theorem asrOutcome_error (error : StageError) : (asrOutcome error).errorCode.isSome = true := by
  unfold asrOutcome
  split
  · rfl
  · exact errorOutcome_error error none

theorem yields_fatal {errorCode detail : String} :
    Stage.Yields possible (Returnable env job) (Stage.fatal errorCode detail) :=
  Stage.yields_returned (returnable_error rfl)

theorem yields_errorOutcome {error : StageError} {displayUpdate : Option DisplayUpdate} :
    Stage.Yields possible (Returnable env job)
      (.done (.returned (errorOutcome error displayUpdate))) :=
  Stage.yields_returned (returnable_error (errorOutcome_error error displayUpdate))

theorem loadJsonArtifact_yields {post : StageOutcome → Prop} {artifactType fingerprint : String}
    {next : Option String → Stage} (goes : ∀ loaded, Stage.Yields possible post (next loaded)) :
    Stage.Yields possible post (loadJsonArtifact artifactType fingerprint next) := by
  refine Stage.yields_call fun artifact _ => ?_
  unfold artifactText
  split
  · exact goes none
  · split
    · exact goes _
    · split
      · exact Stage.yields_call fun content _ => Stage.yields_orRaise fun decoded _ => goes _
      · exact goes none

theorem storeFile_yields {relativePath : String} {content : Bytes} {next : String → Nat → Stage}
    (goes : ∀ contentHash byteSize,
      Stage.Yields possible (Returnable env job) (next contentHash byteSize)) :
    Stage.Yields possible (Returnable env job) (storeFile relativePath content next) := by
  refine Stage.yields_call fun result _ => ?_
  cases result with
  | written contentHash byteSize => exact goes contentHash byteSize
  | osError noSpace message => exact yields_fatal

theorem fetchingMetadataHandler_yields (stage : job.status = .fetchingMetadata) :
    Stage.Yields possible (Returnable env job) (fetchingMetadataHandler env job) := by
  unfold fetchingMetadataHandler
  split
  · exact yields_fatal
  · refine Stage.yields_call fun fetched _ => ?_
    cases fetched with
    | error error => exact yields_errorOutcome
    | ok metadata =>
      exact Stage.yields_returned (returnable_inline (by rw [stage]; decide) (by decide))

theorem fetchingSubtitlesHandler_yields (stage : job.status = .fetchingSubtitles) :
    Stage.Yields possible (Returnable env job) (fetchingSubtitlesHandler env job) := by
  unfold fetchingSubtitlesHandler
  split
  · exact yields_fatal
  · refine Stage.yields_call fun fetched _ => ?_
    cases fetched with
    | error error =>
      simp only [subtitleFailure]
      split
      · split
        · exact Stage.yields_returned (returnable_error rfl)
        · exact Stage.yields_returned (returnable_success (by rw [stage]; decide))
      · split
        · exact Stage.yields_returned (returnable_error rfl)
        · exact yields_errorOutcome
    | ok transcript =>
      exact storeFile_yields fun _ _ =>
        Stage.yields_returned (returnable_file (by rw [stage]; decide))

theorem downloadingAudioHandler_yields (stage : job.status = .downloadingAudio) :
    Stage.Yields possible (Returnable env job) (downloadingAudioHandler env job) := by
  unfold downloadingAudioHandler
  split
  · exact yields_fatal
  · refine Stage.yields_call fun downloaded _ => ?_
    cases downloaded with
    | error error => exact yields_errorOutcome
    | ok content =>
      exact storeFile_yields fun _ _ =>
        Stage.yields_returned (returnable_file (by rw [stage]; decide))

theorem transcribeAudio_yields (stage : job.status = .transcribing) (providerId : String) :
    Stage.Yields possible (Returnable env job) (transcribeAudio env job providerId) := by
  refine Stage.yields_call fun audio _ => ?_
  split
  · refine Stage.yields_call fun content _ => Stage.yields_call fun checkpoint _ => ?_
    refine Stage.yields_orRaise fun completed _ => Stage.yields_call fun _ _ => ?_
    refine Stage.yields_call fun transcription _ => Stage.yields_bind fun _ => ?_
    unfold transcribed
    split
    · exact Stage.yields_returned (returnable_error (asrOutcome_error _))
    · exact Stage.yields_returned (returnable_inline (by rw [stage]; decide) (by decide))
  · exact yields_fatal

theorem routed_yields (stage : job.status = .transcribing) (decision : RoutingDecision) :
    Stage.Yields possible (Returnable env job) (routed env job decision) := by
  have parks : Stage.Yields possible (Returnable env job)
      (Stage.success .waitingForModel none none) :=
    Stage.yields_returned (returnable_success (by rw [stage]; decide))
  unfold routed
  split
  · refine Stage.yields_call fun registered _ => ?_
    cases registered with
    | true => exact transcribeAudio_yields stage _
    | false => exact parks
  · exact parks

theorem transcribingHandler_yields (stage : job.status = .transcribing) (asrProviderId : String) :
    Stage.Yields possible (Returnable env job) (transcribingHandler env asrProviderId job) := by
  refine Stage.yields_bind fun options => ?_
  split
  · exact yields_fatal
  · exact Stage.yields_call fun _ _ => Stage.yields_call fun _ _ => routed_yields stage _

theorem cleaningTranscriptHandler_yields (stage : job.status = .cleaningTranscript) :
    Stage.Yields possible (Returnable env job) (cleaningTranscriptHandler env job) := by
  refine loadJsonArtifact_yields fun loaded => ?_
  cases loaded with
  | none => exact yields_fatal
  | some raw =>
    exact Stage.yields_orRaise fun transcript _ =>
      Stage.yields_returned (returnable_inline (by rw [stage]; decide) (by decide))

theorem chunkingHandler_yields (stage : job.status = .chunking) :
    Stage.Yields possible (Returnable env job) (chunkingHandler env job) := by
  refine loadJsonArtifact_yields fun loaded => ?_
  cases loaded with
  | none => exact yields_fatal
  | some raw =>
    exact Stage.yields_orRaise fun transcript _ =>
      Stage.yields_returned (returnable_inline (by rw [stage]; decide) (by decide))

theorem summarizeChunks_yields (stage : job.status = .summarizingChunks)
    (summaries chunks : List String) :
    Stage.Yields possible (Returnable env job) (summarizeChunks env job summaries chunks) := by
  induction chunks generalizing summaries with
  | nil => exact Stage.yields_returned (returnable_inline (by rw [stage]; decide) (by decide))
  | cons chunk rest ih =>
    refine Stage.yields_call fun cancelled _ => ?_
    cases cancelled with
    | true => exact yields_fatal
    | false =>
      refine Stage.yields_bind fun summarized => ?_
      cases summarized with
      | error error => exact yields_errorOutcome
      | ok summary =>
        refine Stage.yields_call fun renewed _ => ?_
        cases renewed with
        | true => exact ih _
        | false => exact yields_fatal

theorem summarizingChunksHandler_yields (stage : job.status = .summarizingChunks) :
    Stage.Yields possible (Returnable env job) (summarizingChunksHandler env job) := by
  refine loadJsonArtifact_yields fun loaded => ?_
  cases loaded with
  | none => exact yields_fatal
  | some raw =>
    exact Stage.yields_orRaise fun chunks _ =>
      Stage.yields_call fun _ _ => summarizeChunks_yields stage _ _

theorem writeReportStage_yields (stage : job.status = .generatingReport) (doc : ReportDocument) :
    Stage.Yields possible (Returnable env job) (writeReportStage env job doc) := by
  refine Stage.yields_orRaise fun content _ => ?_
  refine Stage.yields_call fun previous _ => Stage.yields_call fun written _ => ?_
  cases written with
  | error error => exact yields_fatal
  | ok result => exact Stage.yields_returned (returnable_file (by rw [stage]; decide))

theorem synthesizeReport_yields (stage : job.status = .generatingReport) (metadata : VideoMetadata)
    (summaries : List String) (language : String) :
    Stage.Yields possible (Returnable env job)
      (synthesizeReport env job metadata summaries language) := by
  refine Stage.yields_call fun _ _ => Stage.yields_call fun completed _ => ?_
  cases completed with
  | error error => exact yields_errorOutcome
  | ok raw =>
    simp only
    split
    · exact yields_fatal
    · exact Stage.yields_call fun analyzedAt _ =>
        Stage.yields_orRaise fun doc _ => writeReportStage_yields stage doc

theorem generatingReportHandler_yields (stage : job.status = .generatingReport) :
    Stage.Yields possible (Returnable env job) (generatingReportHandler env job) := by
  refine loadJsonArtifact_yields fun metadataRaw => loadJsonArtifact_yields fun summariesRaw => ?_
  split
  · refine Stage.yields_orRaise fun metadata _ => Stage.yields_orRaise fun summaries _ => ?_
    exact loadJsonArtifact_yields fun transcriptRaw =>
      Stage.yields_orRaise fun language _ => synthesizeReport_yields stage metadata summaries language
  · exact yields_fatal

theorem indexingHandler_yields (stage : job.status = .indexing) :
    Stage.Yields possible (Returnable env job) (indexingHandler env job) := by
  refine Stage.yields_call fun artifact _ => ?_
  cases artifact with
  | none => exact yields_fatal
  | some artifact =>
    simp only
    split
    · refine Stage.yields_call fun content _ => ?_
      cases content with
      | error error => exact yields_fatal
      | ok content =>
        simp only [indexParsedReport]
        split
        · exact yields_fatal
        · exact Stage.yields_raised
        · split
          · exact Stage.yields_call fun _ _ => Stage.yields_call fun _ _ =>
              Stage.yields_returned (returnable_success (by rw [stage]; decide))
          · exact Stage.yields_raised
    · exact yields_fatal

/-- Every production handler returns an error or a move of its stage. -/
theorem productionHandler_yields {asrProviderId : String} {handler : Stage}
    (handles : productionHandler env asrProviderId job = some handler) :
    Stage.Yields possible (Returnable env job) handler := by
  unfold productionHandler at handles
  split at handles
  next stage => cases handles; exact fetchingMetadataHandler_yields stage
  next stage => cases handles; exact fetchingSubtitlesHandler_yields stage
  next stage => cases handles; exact downloadingAudioHandler_yields stage
  next stage => cases handles; exact transcribingHandler_yields stage asrProviderId
  next stage => cases handles; exact cleaningTranscriptHandler_yields stage
  next stage => cases handles; exact chunkingHandler_yields stage
  next stage => cases handles; exact summarizingChunksHandler_yields stage
  next stage => cases handles; exact generatingReportHandler_yields stage
  next stage => cases handles; exact indexingHandler_yields stage
  next => cases handles

end

end EvoBlue.Source
