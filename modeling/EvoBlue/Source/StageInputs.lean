import EvoBlue.Source.StageExits

/-!
# What a stage reads

`stageInputs` lists the artifacts that a handler, or a later one, reads and an
earlier one was to register. With these at hand no lookup of a production handler
ends it with one of the errors for an artifact that is not there.
-/

namespace EvoBlue.Source

open EvoBlue.Kernel

/-- What a job in the status has registered for the stages still to come. -/
def stageInputs : JobStatus → List String
  | .fetchingSubtitles | .downloadingAudio => [metadataArtifactType]
  | .transcribing | .waitingForModel => [metadataArtifactType, audioArtifactType]
  | .cleaningTranscript => [metadataArtifactType, transcriptArtifactType]
  | .chunking => [metadataArtifactType, cleanedArtifactType]
  | .summarizingChunks => [metadataArtifactType, cleanedArtifactType, chunksArtifactType]
  | .generatingReport => [metadataArtifactType, cleanedArtifactType, summariesArtifactType]
  | .indexing | .completed => [reportArtifactType]
  | .queued | .fetchingMetadata | .retryWait | .failed | .cancelled => []

/-- A move of the handlers registers what the next stage needs and the last did not. -/
theorem stageInputs_of_product {src target : JobStatus} {produced : Option String}
    (listed : (src, target, produced) ∈ stageProducts) {artifactType : String}
    (needed : artifactType ∈ stageInputs target) :
    artifactType ∈ stageInputs src ∨ produced = some artifactType := by
  have table : ∀ product ∈ stageProducts, ∀ needed ∈ stageInputs product.2.1,
      needed ∈ stageInputs product.1 ∨ product.2.2 = some needed := by
    decide
  exact table _ listed artifactType needed

/-- The details of the errors for an artifact that is not there. -/
def missingDetails : List String :=
  ["missing audio artifact", "missing transcript artifact", "missing cleaned transcript",
    "missing chunks artifact", "missing metadata or summaries artifact", "missing report artifact"]

/-- The stage ends here with such an error. -/
def lacksInput : Stage → Bool
  | .done (.returned outcome) =>
    outcome.errorCode = some "INTERNAL_ERROR" && outcome.errorDetail.any missingDetails.contains
  | _ => false

/-- The calls that look an artifact up; every branch for a missing one follows such a call. -/
def isLookup : Call → Bool
  | .getArtifact _ _ => true
  | .readFile _ _ => true
  | _ => false

/-- A checkpoint is no artifact that a later stage reads. -/
def Checkpoints : Call → Prop
  | .saveArtifactInline _ artifactType _ _ _ =>
    artifactType = asrSegmentArtifactType ∨ artifactType = chunkSummaryArtifactType
  | _ => True

/-- The answers of tables that hold the inputs of the stage. -/
def Stocked (env : HandlerEnv) (job : Job) : (call : Call) → Answer call → Prop
  | .getArtifact artifactType inputFingerprint, answer =>
    (inputFingerprint = stageFingerprint env job.url → artifactType ∈ stageInputs job.status →
      Option.isSome answer = true) ∧
    ∀ artifact : JobArtifact, answer = some artifact →
      artifact.artifactType = artifactType ∧ Readable artifact.toArtifactRecord
  | _, _ => True

/-- With its inputs at hand, no lookup ends the stage for want of one, and what it
saves on its way are checkpoints. -/
def Supplied (env : HandlerEnv) (job : Job) : Stage → Prop
  | .done _ => True
  | .ask call next => Checkpoints call ∧ ∀ answer, Stocked env job call answer →
      (isLookup call = true → lacksInput (next answer) = false) ∧ Supplied env job (next answer)

/-- A stage that may follow a lookup. -/
def Provided (env : HandlerEnv) (job : Job) (stage : Stage) : Prop :=
  lacksInput stage = false ∧ Supplied env job stage

section

variable {env : HandlerEnv} {job : Job}

theorem provided_success (target : JobStatus) (artifact : Option ArtifactRecord)
    (displayUpdate : Option DisplayUpdate) :
    Provided env job (Stage.success target artifact displayUpdate) := ⟨rfl, trivial⟩

theorem provided_ask {call : Call} {next : Answer call → Stage}
    (supplied : Supplied env job (.ask call next)) : Provided env job (.ask call next) :=
  ⟨rfl, supplied⟩

theorem provided_orRaise {α : Type} {value : Option α} {next : α → Stage}
    (goes : ∀ found, Provided env job (next found)) :
    Provided env job (Stage.orRaise value next) := by
  cases value with
  | none => exact ⟨rfl, trivial⟩
  | some found => exact goes found

theorem supplied_orRaise {α : Type} {value : Option α} {next : α → Stage}
    (goes : ∀ found, Supplied env job (next found)) :
    Supplied env job (Stage.orRaise value next) := by
  cases value with
  | none => trivial
  | some found => exact goes found

/-- A call that is neither a lookup nor a checkpoint. -/
theorem supplied_call {call : Call} {next : Answer call → Stage} (other : isLookup call = false)
    (checkpoints : Checkpoints call) (goes : ∀ answer, Supplied env job (next answer)) :
    Supplied env job (Process.call call >>= next) := by
  refine ⟨checkpoints, fun answer _ => ⟨fun lookup => ?_, goes answer⟩⟩
  rw [other] at lookup
  cases lookup

theorem supplied_lookup {call : Call} {next : Answer call → Stage} (checkpoints : Checkpoints call)
    (goes : ∀ answer, Stocked env job call answer → Provided env job (next answer)) :
    Supplied env job (Process.call call >>= next) := by
  refine ⟨checkpoints, fun answer stocked => ⟨fun _ => ?_, ?_⟩⟩
  · exact (goes answer stocked).1
  · exact (goes answer stocked).2

/-- After code that looks nothing up. -/
theorem supplied_bind {α : Type} {first : Await α} {next : α → Stage}
    (silent : first.Keeps (fun call => Checkpoints call ∧ isLookup call = false)
      (fun _ _ => True) fun _ => True)
    (goes : ∀ value, Supplied env job (next value)) : Supplied env job (first >>= next) := by
  induction first with
  | done value => exact goes value
  | ask call rest ih =>
    refine ⟨silent.1.1, fun answer _ => ⟨fun lookup => ?_, ih answer (silent.2 answer trivial)⟩⟩
    rw [silent.1.2] at lookup
    cases lookup

/-- An input is there, and its text is read. -/
theorem loadJsonArtifact_supplied {artifactType : String} {next : Option String → Stage}
    (input : artifactType ∈ stageInputs job.status)
    (goes : ∀ raw, Provided env job (next (some raw))) :
    Supplied env job (loadJsonArtifact artifactType (stageFingerprint env job.url) next) := by
  refine supplied_lookup trivial fun answer stocked => ?_
  obtain ⟨artifact, present⟩ := Option.isSome_iff_exists.1 (stocked.1 rfl input)
  have readable := (stocked.2 artifact present).2
  subst present
  unfold artifactText
  by_cases inline : artifact.storageKind = .inlineJson
  · obtain ⟨raw, payload⟩ := Option.isSome_iff_exists.1 (readable.inline inline)
    simp only [inline, payload, if_true]
    exact goes raw
  · have filed : artifact.storageKind = .file := by
      cases kind : artifact.storageKind with
      | inlineJson => exact absurd kind inline
      | file => rfl
    obtain ⟨named, hashed⟩ := readable.file filed
    obtain ⟨relativePath, path⟩ := Option.isSome_iff_exists.1 named
    obtain ⟨contentHash, hash⟩ := Option.isSome_iff_exists.1 hashed
    simp only [filed, reduceCtorEq, if_false, path, hash]
    refine provided_ask (supplied_lookup trivial fun content _ => ?_)
    exact provided_orRaise fun decoded => goes _

theorem storeFile_supplied {relativePath : String} {content : Bytes}
    {next : String → Nat → Stage}
    (goes : ∀ contentHash byteSize, Supplied env job (next contentHash byteSize)) :
    Supplied env job (storeFile relativePath content next) := by
  refine supplied_call rfl trivial fun result => ?_
  cases result with
  | written contentHash byteSize => exact goes contentHash byteSize
  | osError noSpace message => trivial

/-! ## The handlers -/

theorem fetchingMetadataHandler_supplied : Supplied env job (fetchingMetadataHandler env job) := by
  unfold fetchingMetadataHandler
  split
  · trivial
  · refine supplied_call rfl trivial fun fetched => ?_
    cases fetched <;> trivial

theorem fetchingSubtitlesHandler_supplied :
    Supplied env job (fetchingSubtitlesHandler env job) := by
  unfold fetchingSubtitlesHandler
  split
  · trivial
  · refine supplied_call rfl trivial fun fetched => ?_
    cases fetched with
    | ok transcript => exact storeFile_supplied fun _ _ => trivial
    | error error =>
      simp only [subtitleFailure]
      split
      · split <;> trivial
      · split <;> trivial

theorem downloadingAudioHandler_supplied : Supplied env job (downloadingAudioHandler env job) := by
  unfold downloadingAudioHandler
  split
  · trivial
  · refine supplied_call rfl trivial fun downloaded => ?_
    cases downloaded with
    | error error => trivial
    | ok content => exact storeFile_supplied fun _ _ => trivial

theorem customOptions_silent (providerIds : List String) :
    (customOptions providerIds).Keeps (fun call => Checkpoints call ∧ isLookup call = false)
      (fun _ _ => True) fun _ => True := by
  induction providerIds with
  | nil => trivial
  | cons providerId rest ih =>
    refine Process.keeps_call_bind ⟨trivial, rfl⟩ fun registered _ => ?_
    cases registered with
    | false => exact ih
    | true =>
      refine Process.keeps_call_bind ⟨trivial, rfl⟩ fun capabilities _ => ?_
      exact Process.keeps_bind ih fun _ _ => trivial

theorem providerOptions_silent :
    providerOptions.Keeps (fun call => Checkpoints call ∧ isLookup call = false)
      (fun _ _ => True) fun _ => True := by
  refine Process.keeps_call_bind ⟨trivial, rfl⟩ fun installedIds _ => ?_
  refine Process.keeps_call_bind ⟨trivial, rfl⟩ fun installedModels _ => ?_
  exact Process.keeps_bind (customOptions_silent _) fun _ _ => trivial

theorem checkpointSegments_silent (fingerprint : String) (stored reported : List Segment) :
    (checkpointSegments env fingerprint stored reported).Keeps
      (fun call => Checkpoints call ∧ isLookup call = false) (fun _ _ => True) fun _ => True := by
  induction reported generalizing stored with
  | nil => trivial
  | cons segment rest ih => exact Process.keeps_call_bind ⟨.inl rfl, rfl⟩ fun _ _ => ih _

theorem transcribeAudio_supplied (stage : job.status = .transcribing) (providerId : String) :
    Supplied env job (transcribeAudio env job providerId) := by
  have input : audioArtifactType ∈ stageInputs job.status := by
    rw [stage]
    decide
  refine supplied_lookup trivial fun answer stocked => ?_
  obtain ⟨audio, present⟩ := Option.isSome_iff_exists.1 (stocked.1 rfl input)
  obtain ⟨named, readable⟩ := stocked.2 audio present
  obtain ⟨filed, hashed⟩ := readable.file (readable.kind (.inl named))
  obtain ⟨relativePath, path⟩ := Option.isSome_iff_exists.1 filed
  obtain ⟨contentHash, hash⟩ := Option.isSome_iff_exists.1 hashed
  subst present
  simp only [Option.bind_some, path, hash]
  refine provided_ask (supplied_lookup trivial fun content _ => ?_)
  refine provided_ask (supplied_lookup trivial fun checkpoint _ => ?_)
  refine provided_orRaise fun completed => provided_ask (supplied_call rfl trivial fun _ => ?_)
  refine supplied_call rfl trivial fun transcription => ?_
  refine supplied_bind (checkpointSegments_silent _ _ _) fun _ => ?_
  cases transcription.result <;> trivial

theorem transcribingHandler_supplied (stage : job.status = .transcribing) (asrProviderId : String) :
    Supplied env job (transcribingHandler env asrProviderId job) := by
  refine supplied_bind providerOptions_silent fun options => ?_
  split
  · trivial
  · refine supplied_call rfl trivial fun _ => supplied_call rfl trivial fun _ => ?_
    unfold routed
    split
    · refine supplied_call rfl trivial fun registered => ?_
      cases registered with
      | true => exact transcribeAudio_supplied stage _
      | false => trivial
    · trivial

theorem cleaningTranscriptHandler_supplied (stage : job.status = .cleaningTranscript) :
    Supplied env job (cleaningTranscriptHandler env job) := by
  refine loadJsonArtifact_supplied (by rw [stage]; decide) fun raw => ?_
  exact provided_orRaise fun transcript => provided_success _ _ _

theorem chunkingHandler_supplied (stage : job.status = .chunking) :
    Supplied env job (chunkingHandler env job) := by
  refine loadJsonArtifact_supplied (by rw [stage]; decide) fun raw => ?_
  exact provided_orRaise fun transcript => provided_success _ _ _

/-- The summary of a chunk is looked up, and nothing ends there. -/
theorem chunkSummary_supplied {chunk : String} {next : Except StageError String → Stage}
    (goes : ∀ summarized, Supplied env job (next summarized)) :
    Supplied env job (chunkSummary env job chunk >>= next) := by
  refine supplied_lookup trivial fun existing _ => ?_
  refine provided_ask (supplied_call rfl trivial fun _ => ?_)
  split
  · exact goes _
  · refine supplied_call rfl trivial fun completed => ?_
    cases completed with
    | error error => exact goes _
    | ok summary => exact supplied_call rfl (.inr rfl) fun _ => goes _

theorem summarizeChunks_supplied (summaries chunks : List String) :
    Supplied env job (summarizeChunks env job summaries chunks) := by
  induction chunks generalizing summaries with
  | nil => trivial
  | cons chunk rest ih =>
    refine supplied_call rfl trivial fun cancelled => ?_
    cases cancelled with
    | true => trivial
    | false =>
      refine chunkSummary_supplied fun summarized => ?_
      cases summarized with
      | error error => trivial
      | ok summary =>
        refine supplied_call rfl trivial fun renewed => ?_
        cases renewed with
        | true => exact ih _
        | false => trivial

theorem summarizingChunksHandler_supplied (stage : job.status = .summarizingChunks) :
    Supplied env job (summarizingChunksHandler env job) := by
  refine loadJsonArtifact_supplied (by rw [stage]; decide) fun raw => ?_
  refine provided_orRaise fun chunks => provided_ask (supplied_call rfl trivial fun _ => ?_)
  exact summarizeChunks_supplied _ _

theorem writeReportStage_supplied (doc : ReportDocument) :
    Supplied env job (writeReportStage env job doc) := by
  refine supplied_orRaise fun content => supplied_lookup trivial fun previous _ => ?_
  refine provided_ask (supplied_call rfl trivial fun written => ?_)
  cases written <;> trivial

theorem synthesizeReport_supplied (metadata : VideoMetadata) (summaries : List String)
    (language : String) : Supplied env job (synthesizeReport env job metadata summaries language) := by
  refine supplied_call rfl trivial fun _ => supplied_call rfl trivial fun completed => ?_
  cases completed with
  | error error => trivial
  | ok raw =>
    simp only
    split
    · trivial
    · refine supplied_call rfl trivial fun analyzedAt => ?_
      exact supplied_orRaise fun doc => writeReportStage_supplied doc

theorem generatingReportHandler_supplied (stage : job.status = .generatingReport) :
    Supplied env job (generatingReportHandler env job) := by
  refine loadJsonArtifact_supplied (by rw [stage]; decide) fun metadataRaw => ?_
  refine provided_ask (loadJsonArtifact_supplied (by rw [stage]; decide) fun summariesRaw => ?_)
  refine provided_orRaise fun metadata => provided_orRaise fun summaries => ?_
  refine provided_ask (loadJsonArtifact_supplied (by rw [stage]; decide) fun transcriptRaw => ?_)
  exact provided_orRaise fun language =>
    provided_ask (synthesizeReport_supplied metadata summaries language)

theorem indexingHandler_supplied (stage : job.status = .indexing) :
    Supplied env job (indexingHandler env job) := by
  have input : reportArtifactType ∈ stageInputs job.status := by
    rw [stage]
    decide
  refine supplied_lookup trivial fun answer stocked => ?_
  obtain ⟨report, present⟩ := Option.isSome_iff_exists.1 (stocked.1 rfl input)
  obtain ⟨named, readable⟩ := stocked.2 report present
  obtain ⟨filed, hashed⟩ := readable.file (readable.kind (.inr named))
  obtain ⟨relativePath, path⟩ := Option.isSome_iff_exists.1 filed
  obtain ⟨contentHash, hash⟩ := Option.isSome_iff_exists.1 hashed
  subst present
  simp only [path, hash]
  refine provided_ask (supplied_call rfl trivial fun content => ?_)
  cases content with
  | error error => trivial
  | ok content =>
    simp only [indexParsedReport]
    split
    · trivial
    · trivial
    · split
      · exact supplied_call rfl trivial fun _ => supplied_call rfl trivial fun _ => trivial
      · trivial

/-- Every production handler finds what it looks up. -/
theorem productionHandler_supplied {asrProviderId : String} {handler : Stage}
    (handles : productionHandler env asrProviderId job = some handler) :
    Supplied env job handler := by
  unfold productionHandler at handles
  split at handles
  next => cases handles; exact fetchingMetadataHandler_supplied
  next => cases handles; exact fetchingSubtitlesHandler_supplied
  next => cases handles; exact downloadingAudioHandler_supplied
  next stage => cases handles; exact transcribingHandler_supplied stage asrProviderId
  next stage => cases handles; exact cleaningTranscriptHandler_supplied stage
  next stage => cases handles; exact chunkingHandler_supplied stage
  next stage => cases handles; exact summarizingChunksHandler_supplied stage
  next stage => cases handles; exact generatingReportHandler_supplied stage
  next stage => cases handles; exact indexingHandler_supplied stage
  next => cases handles

end

end EvoBlue.Source
