import EvoBlue.Kernel.Knowledge
import EvoBlue.Source.StageExits

/-!
# What the summaries of the chunks rest on

`SummarizingChunksHandler` as a process that knows which summaries the model has given
for which chunks: the checkpoints it saves and the summaries it ends with are such. No
other handler saves a checkpoint of a chunk or ends with summaries, and the chunks are
stored in their row.
-/

namespace EvoBlue.Source

open EvoBlue.Kernel

section

variable (env : HandlerEnv) (job : Job) (raw : String) (chunks : List String)

/-- The model gave this summary for the chunk, or for one with the same checkpoint key. -/
def Backed (given : Set (String × String)) (chunk summary : String) : Prop :=
  ∃ other ∈ chunks, chunkFingerprint env job other = chunkFingerprint env job chunk ∧
    (other, summary) ∈ given

/-- A checkpoint of one of the stored chunks with a summary of it. -/
def SavedSummary (given : Set (String × String)) (inputFingerprint payloadJson : String) : Prop :=
  env.textsFromJson raw = some chunks ∧
    ∃ chunk ∈ chunks, inputFingerprint = chunkFingerprint env job chunk ∧ (chunk, payloadJson) ∈ given

/-- The row of a lookup: the stored chunks, or a checkpoint with a summary in it. -/
def RowBacked (given : Set (String × String)) (inputFingerprint : String) (artifact : JobArtifact) :
    Prop :=
  (artifact.artifactType = chunksArtifactType → inputFingerprint = stageFingerprint env job.url →
    artifact.storageKind = .inlineJson ∧ artifact.payloadJson = some raw) ∧
  (artifact.artifactType = chunkSummaryArtifactType → ∃ summary,
    artifact.payloadJson = some summary ∧
      SavedSummary env job raw chunks given inputFingerprint summary)

/-- What the handler saves, relies on and learns; a fact is a chunk with a summary that
the model gave for its prompt. -/
def summaryTrust : Trust Call Answer (String × String) where
  permits given
    | .saveArtifactInline _ artifactType inputFingerprint _ payloadJson =>
      artifactType = chunkSummaryArtifactType ∧
        SavedSummary env job raw chunks given inputFingerprint payloadJson
    | _ => True
  reliable given
    | .getArtifact artifactType inputFingerprint, answer =>
      ∀ artifact : JobArtifact, answer = some artifact → artifact.artifactType = artifactType ∧
        RowBacked env job raw chunks given inputFingerprint artifact
    | _, _ => True
  learns
    | .complete prompt, answer =>
      {fact | summaryPrompt fact.1 = prompt ∧ (answer : Except StageError String) = .ok fact.2}
    | _, _ => ∅
  permits_mono {given more call} known said := by
    cases call with
    | saveArtifactInline =>
      obtain ⟨type, read, chunk, mem, key, fact⟩ := said
      exact ⟨type, read, chunk, mem, key, known fact⟩
    | _ => trivial

/-- The artifact holds one backed summary for each of the stored chunks, in their order. -/
def SummariesArtifact (given : Set (String × String)) (artifact : ArtifactRecord) : Prop :=
  env.textsFromJson raw = some chunks ∧ ∃ summaries, artifact.payloadJson = some (env.textsToJson summaries) ∧
    List.Forall₂ (Backed env job chunks given) chunks summaries

/-- The handler ends with all summaries or with none. -/
def SummarizedExit (given : Set (String × String)) (exit : HandlerExit) : Prop :=
  ∀ outcome, exit = .returned outcome → ∀ artifact ∈ outcome.artifact,
    SummariesArtifact env job raw chunks given artifact

end

section

variable {env : HandlerEnv} {job : Job} {raw : String} {chunks : List String}
  {given more : Set (String × String)}

theorem Backed.mono (known : given ⊆ more) {chunk summary : String}
    (backed : Backed env job chunks given chunk summary) :
    Backed env job chunks more chunk summary := by
  obtain ⟨other, mem, key, fact⟩ := backed
  exact ⟨other, mem, key, known fact⟩

theorem SavedSummary.mono (known : given ⊆ more) {inputFingerprint payloadJson : String}
    (saved : SavedSummary env job raw chunks given inputFingerprint payloadJson) :
    SavedSummary env job raw chunks more inputFingerprint payloadJson := by
  obtain ⟨read, chunk, mem, key, fact⟩ := saved
  exact ⟨read, chunk, mem, key, known fact⟩

theorem SummariesArtifact.mono (known : given ⊆ more) {artifact : ArtifactRecord}
    (holds : SummariesArtifact env job raw chunks given artifact) :
    SummariesArtifact env job raw chunks more artifact := by
  obtain ⟨read, summaries, payload, backed⟩ := holds
  exact ⟨read, summaries, payload, backed.imp fun _ _ => Backed.mono known⟩

theorem RowBacked.mono (known : given ⊆ more) {inputFingerprint : String} {artifact : JobArtifact}
    (backed : RowBacked env job raw chunks given inputFingerprint artifact) :
    RowBacked env job raw chunks more inputFingerprint artifact := by
  refine ⟨backed.1, fun type => ?_⟩
  obtain ⟨summary, payload, saved⟩ := backed.2 type
  exact ⟨summary, payload, saved.mono known⟩

theorem summaryTrust_reliable_mono (known : given ⊆ more) {call : Call} {answer : Answer call}
    (reliable : (summaryTrust env job raw chunks).reliable given call answer) :
    (summaryTrust env job raw chunks).reliable more call answer := by
  cases call with
  | getArtifact artifactType inputFingerprint =>
    intro artifact found
    exact ⟨(reliable artifact found).1, (reliable artifact found).2.mono known⟩
  | _ => trivial

/-- Jobs with one configuration have one key for a chunk. -/
theorem SavedSummary.congr {other : Job}
    (same : other.configFingerprint = job.configFingerprint) {inputFingerprint payloadJson : String}
    (saved : SavedSummary env other raw chunks given inputFingerprint payloadJson) :
    SavedSummary env job raw chunks given inputFingerprint payloadJson := by
  unfold SavedSummary chunkFingerprint at saved ⊢
  rw [← same]
  exact saved

theorem summarizedExit_lasts : Process.Lasts (SummarizedExit env job raw chunks) := by
  intro given more exit known summarized outcome returned artifact mem
  exact (summarized outcome returned artifact mem).mono known

theorem summarizedExit_error {outcome : StageOutcome} (plain : outcome.artifact = none) :
    SummarizedExit env job raw chunks given (.returned outcome) := by
  rintro _ ⟨⟩ artifact mem
  rw [plain] at mem
  cases mem

theorem errorOutcome_artifact (error : StageError) (displayUpdate : Option DisplayUpdate) :
    (errorOutcome error displayUpdate).artifact = none := by
  unfold errorOutcome
  split <;> rfl

theorem summaryPrompt_injective {chunk other : String}
    (same : summaryPrompt chunk = summaryPrompt other) : chunk = other :=
  String.append_right_inj _ |>.1 same

/-! ## With the model's answers -/

/-- One chunk: its summary is backed once it is there. -/
theorem chunkSummary_upholds {chunk : String} (read : env.textsFromJson raw = some chunks)
    (mem : chunk ∈ chunks) :
    (chunkSummary env job chunk).Upholds (summaryTrust env job raw chunks)
      (fun given summarized => ∀ summary, summarized = .ok summary →
        Backed env job chunks given chunk summary) given := by
  apply Process.upholds_call trivial
  intro given _ existing reliable _
  apply Process.upholds_call trivial
  intro given knownHere _ _ _
  split
  next summary found =>
    obtain ⟨artifact, rfl, payload⟩ := Option.bind_eq_some_iff.1 found
    obtain ⟨type, _, checkpoint⟩ := reliable artifact rfl
    obtain ⟨stored, held, _, other, otherMem, key, fact⟩ := checkpoint type
    rw [payload] at held
    cases held
    rintro _ ⟨⟩
    exact ⟨other, otherMem, key.symm, knownHere fact⟩
  next =>
    apply Process.upholds_call trivial
    intro given _ completed _ learned
    cases completed with
    | error error =>
      intro summary absent
      cases absent
    | ok summary =>
      have fact : (chunk, summary) ∈ given := learned ⟨rfl, rfl⟩
      apply Process.upholds_call
      · exact ⟨rfl, read, chunk, mem, rfl, fact⟩
      · intro later known _ _ _
        rintro _ ⟨⟩
        exact ⟨chunk, mem, rfl, known fact⟩

/-- The loop, by induction on the chunks that are left. -/
theorem summarizeChunks_upholds (read : env.textsFromJson raw = some chunks)
    {done todo summaries : List String} (split : chunks = done ++ todo)
    (backed : List.Forall₂ (Backed env job chunks given) done summaries) :
    (summarizeChunks env job summaries todo).Upholds (summaryTrust env job raw chunks)
      (SummarizedExit env job raw chunks) given := by
  induction todo generalizing done summaries given with
  | nil =>
    rintro _ ⟨⟩ artifact ⟨⟩
    rw [List.append_nil] at split
    exact ⟨read, summaries, rfl, split ▸ backed⟩
  | cons chunk rest ih =>
    have mem : chunk ∈ chunks := by
      rw [split]
      exact List.mem_append_right _ List.mem_cons_self
    apply Process.upholds_call trivial
    intro given known cancelled _ _
    cases cancelled with
    | true => exact summarizedExit_error rfl
    | false =>
      apply Process.upholds_bind (chunkSummary_upholds read mem)
      intro given summarized knownHere ended
      cases summarized with
      | error error => exact summarizedExit_error (errorOutcome_artifact error none)
      | ok summary =>
        apply Process.upholds_call trivial
        intro given knownNow renewed _ _
        cases renewed with
        | false => exact summarizedExit_error rfl
        | true =>
          apply @ih _ (done ++ [chunk])
          · rw [List.append_assoc]
            exact split
          · apply List.rel_append
            · exact backed.imp fun _ _ => Backed.mono ((known.trans knownHere).trans knownNow)
            · exact .cons ((ended summary rfl).mono knownNow) .nil

theorem summarizingChunksHandler_upholds
    (agrees : ∀ found, env.textsFromJson raw = some found → found = chunks) :
    (summarizingChunksHandler env job).Upholds (summaryTrust env job raw chunks)
      (SummarizedExit env job raw chunks) given := by
  apply Process.upholds_call trivial
  intro given _ stored reliable _
  cases stored with
  | none => exact summarizedExit_error rfl
  | some artifact =>
    obtain ⟨type, rowChunks, _⟩ := reliable artifact rfl
    obtain ⟨inline, payload⟩ := rowChunks type rfl
    unfold artifactText
    simp only [inline, if_true, payload]
    unfold Stage.orRaise
    cases texts : env.textsFromJson raw with
    | none =>
      rintro _ ⟨⟩
    | some found =>
      obtain rfl := agrees found texts
      apply Process.upholds_call trivial
      intro given _ _ _ _
      exact summarizeChunks_upholds texts rfl .nil

/-! ## A checkpoint that is there -/

/-- The model is not asked for a summary of the chunk. -/
def Unsent (chunk : String) (call : Call) : Prop := call ≠ .complete (summaryPrompt chunk)

/-- The answers of tables that hold the checkpoint under this key. -/
def Checkpointed (inputFingerprint : String) : (call : Call) → Answer call → Prop
  | .getArtifact artifactType fingerprint, answer =>
    artifactType = chunkSummaryArtifactType → fingerprint = inputFingerprint →
      ∃ artifact : JobArtifact, answer = some artifact ∧ artifact.payloadJson.isSome = true
  | _, _ => True

theorem chunkSummary_unsent {chunk other : String} :
    (chunkSummary env job other).Keeps (Unsent chunk)
      (Checkpointed (chunkFingerprint env job chunk)) fun _ => True := by
  apply Process.keeps_call_bind (by exact Call.noConfusion)
  intro existing stored
  apply Process.keeps_call_bind (by exact Call.noConfusion)
  intro _ _
  split
  next => trivial
  next missing =>
    apply Process.keeps_call_bind
    · -- The chunk itself would have been found.
      intro same
      obtain rfl := summaryPrompt_injective (Call.complete.inj same)
      obtain ⟨artifact, rfl, payload⟩ := stored rfl rfl
      rw [Option.bind_some] at missing
      rw [missing] at payload
      cases payload
    · intro completed _
      cases completed with
      | error error => trivial
      | ok summary => exact Process.keeps_call_bind (by exact Call.noConfusion) fun _ _ => trivial

theorem summarizeChunks_unsent (chunk : String) (summaries todo : List String) :
    (summarizeChunks env job summaries todo).Keeps (Unsent chunk)
      (Checkpointed (chunkFingerprint env job chunk)) fun _ => True := by
  induction todo generalizing summaries with
  | nil => trivial
  | cons other rest ih =>
    apply Process.keeps_call_bind (by exact Call.noConfusion)
    intro cancelled _
    cases cancelled with
    | true => trivial
    | false =>
      apply Process.keeps_bind chunkSummary_unsent
      intro summarized _
      cases summarized with
      | error error => trivial
      | ok summary =>
        apply Process.keeps_call_bind (by exact Call.noConfusion)
        intro renewed _
        cases renewed with
        | true => exact ih _
        | false => trivial

/-- With its checkpoint there, a chunk is not sent. -/
theorem summarizingChunksHandler_unsent (chunk : String) :
    (summarizingChunksHandler env job).Keeps (Unsent chunk)
      (Checkpointed (chunkFingerprint env job chunk)) fun _ => True := by
  have loaded : ∀ loaded, Process.Keeps (Unsent chunk)
      (Checkpointed (chunkFingerprint env job chunk)) (fun _ => True)
      (match loaded with
        | none => Stage.fatal "INTERNAL_ERROR" "missing chunks artifact"
        | some raw =>
          Stage.orRaise (env.textsFromJson raw) fun chunks => do
            Await.commit
            summarizeChunks env job [] chunks) := by
    intro loaded
    cases loaded with
    | none => trivial
    | some raw =>
      simp only [Stage.orRaise]
      cases env.textsFromJson raw with
      | none => trivial
      | some chunks =>
        apply Process.keeps_call_bind (by exact Call.noConfusion)
        intro _ _
        exact summarizeChunks_unsent chunk [] chunks
  apply Process.keeps_call_bind (by exact Call.noConfusion)
  intro artifact _
  unfold artifactText
  split
  · exact loaded none
  · split
    · exact loaded _
    · split
      · apply Process.keeps_call_bind (by exact Call.noConfusion)
        intro content _
        cases decodeUtf8 content with
        | none => trivial
        | some decoded => exact loaded (some (plainString decoded))
      · exact loaded none

end

/-! ## The other handlers -/

/-- No checkpoint of a chunk is saved. -/
def SparesChunks : Call → Prop
  | .saveArtifactInline _ artifactType _ _ _ => artifactType ≠ chunkSummaryArtifactType
  | _ => True

/-- Chunks are stored in their row. -/
def ChunksInline (exit : HandlerExit) : Prop :=
  ∀ outcome, exit = .returned outcome → ∀ artifact ∈ outcome.artifact,
    artifact.artifactType = chunksArtifactType → artifact.storageKind = .inlineJson

namespace Stage

/-- No checkpoint of a chunk is saved, and chunks are stored in their row. -/
def Spares (stage : Stage) : Prop := stage.Keeps SparesChunks (fun _ _ => True) ChunksInline

theorem spares_plain {outcome : StageOutcome} (plain : outcome.artifact = none) :
    Spares (.done (.returned outcome)) := by
  rintro _ ⟨⟩ artifact mem
  rw [plain] at mem
  cases mem

theorem spares_inline {target : JobStatus} {displayUpdate : Option DisplayUpdate}
    {stage artifactType inputFingerprint payloadJson : String} :
    Spares (Stage.success target
      (some (inlineArtifact stage artifactType inputFingerprint payloadJson)) displayUpdate) := by
  rintro _ ⟨⟩ artifact ⟨⟩ _
  rfl

theorem spares_file {target : JobStatus} {displayUpdate : Option DisplayUpdate}
    {stage artifactType inputFingerprint relativePath contentHash : String} {byteSize : Nat}
    (other : artifactType ≠ chunksArtifactType) :
    Spares (Stage.success target (some (fileArtifact stage artifactType inputFingerprint relativePath
      contentHash byteSize)) displayUpdate) := by
  rintro _ ⟨⟩ artifact ⟨⟩ chunks
  exact absurd chunks other

theorem spares_raised : Spares Stage.raised := fun _ raised => nomatch raised

theorem spares_orRaise {α : Type} {value : Option α} {next : α → Stage}
    (goes : ∀ found, Spares (next found)) : Spares (Stage.orRaise value next) := by
  cases value with
  | none => exact spares_raised
  | some found => exact goes found

theorem spares_call {call : Call} {next : Answer call → Stage} (spares : SparesChunks call)
    (goes : ∀ answer, Spares (next answer)) : Spares (Process.call call >>= next) :=
  Process.keeps_call_bind spares fun answer _ => goes answer

theorem spares_bind {α : Type} {first : Await α} {next : α → Stage}
    (silent : first.Keeps SparesChunks (fun _ _ => True) fun _ => True)
    (goes : ∀ value, Spares (next value)) : Spares (first >>= next) :=
  Process.keeps_bind silent fun value _ => goes value

end Stage

section

variable {env : HandlerEnv} {job : Job}

theorem loadJsonArtifact_spares {artifactType fingerprint : String} {next : Option String → Stage}
    (goes : ∀ loaded, Stage.Spares (next loaded)) :
    Stage.Spares (loadJsonArtifact artifactType fingerprint next) := by
  refine Stage.spares_call trivial fun artifact => ?_
  unfold artifactText
  split
  · exact goes none
  · split
    · exact goes _
    · split
      · exact Stage.spares_call trivial fun content => Stage.spares_orRaise fun decoded => goes _
      · exact goes none

theorem storeFile_spares {relativePath : String} {content : Bytes} {next : String → Nat → Stage}
    (goes : ∀ contentHash byteSize, Stage.Spares (next contentHash byteSize)) :
    Stage.Spares (storeFile relativePath content next) := by
  refine Stage.spares_call trivial fun result => ?_
  cases result with
  | written contentHash byteSize => exact goes contentHash byteSize
  | osError noSpace message => exact Stage.spares_plain rfl

theorem fetchingMetadataHandler_spares : Stage.Spares (fetchingMetadataHandler env job) := by
  unfold fetchingMetadataHandler
  split
  · exact Stage.spares_plain rfl
  · refine Stage.spares_call trivial fun fetched => ?_
    cases fetched with
    | error error => exact Stage.spares_plain (errorOutcome_artifact error none)
    | ok metadata => exact Stage.spares_inline

theorem fetchingSubtitlesHandler_spares : Stage.Spares (fetchingSubtitlesHandler env job) := by
  unfold fetchingSubtitlesHandler
  split
  · exact Stage.spares_plain rfl
  · refine Stage.spares_call trivial fun fetched => ?_
    cases fetched with
    | error error =>
      simp only [subtitleFailure]
      split
      · split <;> exact Stage.spares_plain rfl
      · split
        · exact Stage.spares_plain rfl
        · exact Stage.spares_plain (errorOutcome_artifact error none)
    | ok transcript => exact storeFile_spares fun _ _ => Stage.spares_file (by decide)

theorem downloadingAudioHandler_spares : Stage.Spares (downloadingAudioHandler env job) := by
  unfold downloadingAudioHandler
  split
  · exact Stage.spares_plain rfl
  · refine Stage.spares_call trivial fun downloaded => ?_
    cases downloaded with
    | error error => exact Stage.spares_plain (errorOutcome_artifact error none)
    | ok content => exact storeFile_spares fun _ _ => Stage.spares_file (by decide)

/-- The options of the providers are asked for without a save. -/
theorem providerOptions_spares :
    providerOptions.Keeps SparesChunks (fun _ _ => True) fun _ => True := by
  have custom : ∀ providerIds, (customOptions providerIds).Keeps SparesChunks (fun _ _ => True)
      fun _ => True := by
    intro providerIds
    induction providerIds with
    | nil => trivial
    | cons providerId rest ih =>
      refine Process.keeps_call_bind trivial fun registered _ => ?_
      cases registered with
      | false => exact ih
      | true =>
        refine Process.keeps_call_bind trivial fun capabilities _ => ?_
        exact Process.keeps_bind ih fun _ _ => trivial
  refine Process.keeps_call_bind trivial fun installedIds _ => ?_
  refine Process.keeps_call_bind trivial fun installedModels _ => ?_
  exact Process.keeps_bind (custom _) fun _ _ => trivial

/-- The checkpoints of a transcription are of another type. -/
theorem checkpointSegments_spares (fingerprint : String) (stored reported : List Segment) :
    (checkpointSegments env fingerprint stored reported).Keeps SparesChunks (fun _ _ => True)
      fun _ => True := by
  induction reported generalizing stored with
  | nil => trivial
  | cons segment rest ih =>
    apply Process.keeps_call_bind
    · have other : asrSegmentArtifactType ≠ chunkSummaryArtifactType := by decide
      exact other
    · intro _ _
      exact ih _

theorem asrOutcome_artifact (error : StageError) : (asrOutcome error).artifact = none := by
  unfold asrOutcome
  split
  · rfl
  · exact errorOutcome_artifact error none

theorem transcribingHandler_spares (asrProviderId : String) :
    Stage.Spares (transcribingHandler env asrProviderId job) := by
  apply Stage.spares_bind providerOptions_spares
  intro options
  split
  · exact Stage.spares_plain rfl
  · refine Stage.spares_call trivial fun _ => ?_
    refine Stage.spares_call trivial fun _ => ?_
    unfold routed
    split
    · refine Stage.spares_call trivial fun registered => ?_
      cases registered with
      | false => exact Stage.spares_plain rfl
      | true =>
        refine Stage.spares_call trivial fun audio => ?_
        split
        · refine Stage.spares_call trivial fun content => ?_
          refine Stage.spares_call trivial fun checkpoint => ?_
          apply Stage.spares_orRaise
          intro completed
          refine Stage.spares_call trivial fun _ => ?_
          refine Stage.spares_call trivial fun transcription => ?_
          apply Stage.spares_bind (checkpointSegments_spares _ _ _)
          intro _
          unfold transcribed
          split
          · exact Stage.spares_plain (asrOutcome_artifact _)
          · exact Stage.spares_inline
        · exact Stage.spares_plain rfl
    · exact Stage.spares_plain rfl

theorem cleaningTranscriptHandler_spares : Stage.Spares (cleaningTranscriptHandler env job) := by
  apply loadJsonArtifact_spares
  intro loaded
  cases loaded with
  | none => exact Stage.spares_plain rfl
  | some raw => exact Stage.spares_orRaise fun transcript => Stage.spares_inline

theorem chunkingHandler_spares : Stage.Spares (chunkingHandler env job) := by
  apply loadJsonArtifact_spares
  intro loaded
  cases loaded with
  | none => exact Stage.spares_plain rfl
  | some raw => exact Stage.spares_orRaise fun transcript => Stage.spares_inline

theorem synthesizeReport_spares (metadata : VideoMetadata) (summaries : List String)
    (language : String) : Stage.Spares (synthesizeReport env job metadata summaries language) := by
  refine Stage.spares_call trivial fun _ => ?_
  refine Stage.spares_call trivial fun completed => ?_
  cases completed with
  | error error => exact Stage.spares_plain (errorOutcome_artifact error none)
  | ok raw =>
    simp only
    split
    · exact Stage.spares_plain rfl
    · refine Stage.spares_call trivial fun analyzedAt => ?_
      apply Stage.spares_orRaise
      intro doc
      apply Stage.spares_orRaise
      intro content
      refine Stage.spares_call trivial fun previous => ?_
      refine Stage.spares_call trivial fun written => ?_
      cases written with
      | error error => exact Stage.spares_plain rfl
      | ok result => exact Stage.spares_file (by decide)

theorem generatingReportHandler_spares : Stage.Spares (generatingReportHandler env job) := by
  apply loadJsonArtifact_spares
  intro metadataRaw
  apply loadJsonArtifact_spares
  intro summariesRaw
  split
  · apply Stage.spares_orRaise
    intro metadata
    apply Stage.spares_orRaise
    intro summaries
    apply loadJsonArtifact_spares
    intro transcriptRaw
    exact Stage.spares_orRaise fun language => synthesizeReport_spares metadata summaries language
  · exact Stage.spares_plain rfl

theorem indexingHandler_spares : Stage.Spares (indexingHandler env job) := by
  refine Stage.spares_call trivial fun artifact => ?_
  cases artifact with
  | none => exact Stage.spares_plain rfl
  | some artifact =>
    simp only
    split
    · refine Stage.spares_call trivial fun content => ?_
      cases content with
      | error error => exact Stage.spares_plain rfl
      | ok content =>
        simp only [indexParsedReport]
        split
        · exact Stage.spares_plain rfl
        · exact Stage.spares_raised
        · split
          · exact Stage.spares_call trivial fun _ => Stage.spares_call trivial fun _ =>
              Stage.spares_plain rfl
          · exact Stage.spares_raised
    · exact Stage.spares_plain rfl

/-- Outside the stage no checkpoint of a chunk is saved. -/
theorem productionHandler_spares {asrProviderId : String} {handler : Stage}
    (handles : productionHandler env asrProviderId job = some handler)
    (elsewhere : job.status ≠ .summarizingChunks) : Stage.Spares handler := by
  unfold productionHandler at handles
  split at handles
  next => cases handles; exact fetchingMetadataHandler_spares
  next => cases handles; exact fetchingSubtitlesHandler_spares
  next => cases handles; exact downloadingAudioHandler_spares
  next => cases handles; exact transcribingHandler_spares asrProviderId
  next => cases handles; exact cleaningTranscriptHandler_spares
  next => cases handles; exact chunkingHandler_spares
  next summarizing => exact absurd summarizing elsewhere
  next => cases handles; exact generatingReportHandler_spares
  next => cases handles; exact indexingHandler_spares
  next => cases handles

/-- In the stage, the handler is the one of this module. -/
theorem productionHandler_summarizing {asrProviderId : String} {handler : Stage}
    (handles : productionHandler env asrProviderId job = some handler)
    (stage : job.status = .summarizingChunks) : handler = summarizingChunksHandler env job := by
  unfold productionHandler at handles
  rw [stage] at handles
  exact (Option.some.inj handles).symm

end

end EvoBlue.Source
