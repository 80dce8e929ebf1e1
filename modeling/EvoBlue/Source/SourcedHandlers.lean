import EvoBlue.Kernel.JsonDumps
import EvoBlue.Source.ArtifactSources

/-!
# The handlers store what has its sources

Every production handler keeps the discipline of `sourceTrust`: one theorem for each,
from rules for the parts they share. The handlers that read an artifact find the value it
was made from, because the texts are read as they were stored and no two contents have one
hash.
-/

namespace EvoBlue.Source

open EvoBlue.Kernel

/-- What is stored is read as it was, as far as a later stage looks at it. -/
structure ReadsStored (env : HandlerEnv) (isFloat : Time → Prop) : Prop where
  metadata : ∀ metadata, (∀ x ∈ metadata.duration, isFloat x) →
    env.metadataFromJson (env.metadataToJson metadata) =
      some { metadata with duration := none, publishedAt := none }
  transcript : ∀ transcript, Timed isFloat transcript.segments →
    env.transcriptFromJson (env.transcriptToJson transcript) = some transcript
  segments : ∀ segments, Timed isFloat segments →
    env.segmentsFromJson (env.segmentsToJson segments) = some segments
  texts : ∀ texts, env.textsFromJson (env.textsToJson texts) = some texts
  cleaned : ∀ transcript, Timed isFloat transcript.segments →
    Timed isFloat (env.cleanTranscript transcript).segments
  language : ∀ transcript, (env.cleanTranscript transcript).language = transcript.language
  spelled : ∀ transcript, env.transcriptToJson transcript ≠ ""

section

variable {env : HandlerEnv} {isFloat : Time → Prop} {contents : Set Bytes} {job : Job}
  {facts : Set Heard}

/-! ## Ends and calls -/

theorem sourceExit_lasts : Process.Lasts (SourceExit env isFloat contents job) := by
  intro facts more exit known sourced outcome returned artifact mem
  exact (sourced outcome returned artifact mem).mono known

theorem sourced_plain {outcome : StageOutcome} (plain : outcome.artifact = none) :
    Stage.Sourced env isFloat contents job facts (.done (.returned outcome)) := by
  intro _ returned artifact mem
  cases returned
  rw [plain] at mem
  cases mem

theorem sourced_raised : Stage.Sourced env isFloat contents job facts Stage.raised :=
  fun _ raised => nomatch raised

theorem sourced_orRaise {α : Type} {value : Option α} {next : α → Stage}
    (goes : ∀ found, value = some found →
      Stage.Sourced env isFloat contents job facts (next found)) :
    Stage.Sourced env isFloat contents job facts (Stage.orRaise value next) := by
  cases value with
  | none => exact sourced_raised
  | some found => exact goes found rfl

theorem sourced_inline {target : JobStatus} {displayUpdate : Option DisplayUpdate}
    {stage artifactType inputFingerprint payloadJson : String}
    (source : SourceText env isFloat contents job.request facts artifactType inputFingerprint
      payloadJson) :
    Stage.Sourced env isFloat contents job facts (Stage.success target
      (some (inlineArtifact stage artifactType inputFingerprint payloadJson)) displayUpdate) := by
  intro _ returned artifact mem
  cases returned
  cases mem
  constructor
  · intro raw held
    cases held
    exact source
  · intro contentHash held
    cases held

theorem sourced_file {target : JobStatus} {displayUpdate : Option DisplayUpdate}
    {stage artifactType inputFingerprint relativePath contentHash : String} {byteSize : Nat}
    (source : SourceFile env isFloat contents job.request facts artifactType contentHash) :
    Stage.Sourced env isFloat contents job facts (Stage.success target (some (fileArtifact stage
      artifactType inputFingerprint relativePath contentHash byteSize)) displayUpdate) := by
  intro _ returned artifact mem
  cases returned
  cases mem
  constructor
  · intro raw held
    cases held
  · intro hash held
    cases held
    exact source

/-- One call, with what is known of its answer. -/
theorem sourced_call {call : Call} {next : Answer call → Stage}
    (permitted : (sourceTrust env isFloat contents job).permits facts call)
    (goes : ∀ later, facts ⊆ later → ∀ answer,
      (sourceTrust env isFloat contents job).reliable later call answer →
      heard call answer ∈ later → Stage.Sourced env isFloat contents job later (next answer)) :
    Stage.Sourced env isFloat contents job facts (Process.call call >>= next) :=
  Process.upholds_call permitted fun later known answer reliable learned =>
    goes later known answer reliable (learned rfl)

/-- A call whose answer does not matter. -/
theorem sourced_call_plain {call : Call} {next : Answer call → Stage}
    (permitted : (sourceTrust env isFloat contents job).permits facts call)
    (goes : ∀ later, facts ⊆ later → ∀ answer,
      Stage.Sourced env isFloat contents job later (next answer)) :
    Stage.Sourced env isFloat contents job facts (Process.call call >>= next) :=
  sourced_call permitted fun later known answer _ _ => goes later known answer

/-! ## Files and texts -/

theorem encodeUtf8_text (s : String) : encodeUtf8 (text s) = some (utf8 s) := by
  unfold encodeUtf8
  rw [if_pos (encodable_text s)]
  rfl

theorem decodeUtf8_utf8 (s : String) : decodeUtf8 (utf8 s) = some (text s) :=
  decode_of_encode (encodeUtf8_text s)

/-- An artifact that is one of the inputs of a stage is there when it is looked up. -/
theorem getArtifact_sourced {artifactType : String} {next : Option JobArtifact → Stage}
    (input : artifactType ∈ stageInputs job.status)
    (goes : ∀ later artifact, facts ⊆ later →
      OneTranscript env isFloat contents job.request later →
      heard (.getArtifact artifactType (stageFingerprint env job.url)) (some artifact) ∈ later →
      Readable artifact.toArtifactRecord → artifact.artifactType = artifactType →
      artifact.inputFingerprint = stageFingerprint env job.url →
      SourceRecord env isFloat contents job.request later artifact.toArtifactRecord →
      Stage.Sourced env isFloat contents job later (next (some artifact))) :
    Stage.Sourced env isFloat contents job facts
      (Process.call (.getArtifact artifactType (stageFingerprint env job.url)) >>= next) := by
  apply sourced_call (by trivial)
  intro later known answer reliable told
  obtain ⟨stocked, _, row, one⟩ := reliable
  cases answer with
  | none =>
    have missing : False := by
      have found := stocked.1 rfl input
      cases found
    exact missing.elim
  | some artifact =>
    obtain ⟨type, fingerprint, record⟩ := row artifact rfl
    exact goes later artifact known one told (stocked.2 artifact rfl).2 type fingerprint record

/-- The types of the artifacts that have their text in their row. -/
def inlineArtifactTypes : List String :=
  [metadataArtifactType, cleanedArtifactType, chunksArtifactType, summariesArtifactType]

theorem sourceFile_inline {request : VideoRequest} {artifactType contentHash : String}
    (loadable : artifactType ∈ inlineArtifactTypes) :
    ¬ SourceFile env isFloat contents request facts artifactType contentHash := by
  simp only [inlineArtifactTypes, List.mem_cons, List.not_mem_nil, or_false] at loadable
  rcases loadable with rfl | rfl | rfl | rfl <;> exact id

/-- The text of such an artifact has its sources. -/
theorem loadJsonArtifact_sourced {artifactType : String} {next : Option String → Stage}
    (loadable : artifactType ∈ inlineArtifactTypes) (input : artifactType ∈ stageInputs job.status)
    (goes : ∀ later raw, facts ⊆ later → OneTranscript env isFloat contents job.request later →
      SourceText env isFloat contents job.request later artifactType
        (stageFingerprint env job.url) raw →
      Stage.Sourced env isFloat contents job later (next (some raw))) :
    Stage.Sourced env isFloat contents job facts
      (loadJsonArtifact artifactType (stageFingerprint env job.url) next) := by
  apply getArtifact_sourced input
  intro later artifact known one _ readable type fingerprint record
  unfold artifactText
  cases kind : artifact.storageKind with
  | inlineJson =>
    obtain ⟨raw, payload⟩ := Option.isSome_iff_exists.1 (readable.inline kind)
    have source := record.text raw payload
    rw [type, fingerprint] at source
    simp only [kind, if_true, payload]
    exact goes later raw known one source
  | file =>
    obtain ⟨contentHash, hash⟩ := Option.isSome_iff_exists.1 (readable.file kind).2
    have source := record.file contentHash hash
    rw [type] at source
    exact absurd source (sourceFile_inline loadable)

/-- The transcript is read from its row or from its file. -/
theorem loadTranscript_sourced (collisionFree : Set.InjOn (sha256Hex env) contents)
    {next : Option String → Stage} (input : transcriptArtifactType ∈ stageInputs job.status)
    (goes : ∀ later transcript, facts ⊆ later →
      ReadTranscript env isFloat contents job.request later transcript →
      Timed isFloat transcript.segments →
      Stage.Sourced env isFloat contents job later (next (some (env.transcriptToJson transcript)))) :
    Stage.Sourced env isFloat contents job facts
      (loadJsonArtifact transcriptArtifactType (stageFingerprint env job.url) next) := by
  apply getArtifact_sourced input
  intro later artifact known _ read readable type fingerprint record
  unfold artifactText
  cases kind : artifact.storageKind with
  | inlineJson =>
    obtain ⟨raw, payload⟩ := Option.isSome_iff_exists.1 (readable.inline kind)
    have source := record.text raw payload
    rw [type, fingerprint] at source
    obtain ⟨transcript, told, timed, rfl⟩ := source
    simp only [kind, if_true, payload]
    exact goes later transcript known
      ⟨told, artifact, read, timed, .inl ⟨kind, payload⟩⟩ timed
  | file =>
    obtain ⟨path, hash⟩ := readable.file kind
    obtain ⟨relativePath, path⟩ := Option.isSome_iff_exists.1 path
    obtain ⟨contentHash, hash⟩ := Option.isSome_iff_exists.1 hash
    have source := record.file contentHash hash
    rw [type] at source
    obtain ⟨transcript, told, timed, stored, rfl⟩ := source
    simp only [kind, reduceCtorEq, if_false, path, hash]
    apply sourced_call (by trivial)
    intro last knownLast content reliable _
    obtain ⟨_, ⟨there, same⟩, _⟩ := reliable
    obtain rfl := collisionFree there stored same
    apply sourced_orRaise
    intro decoded text_
    rw [decodeUtf8_utf8] at text_
    cases text_
    rw [plainString_text]
    exact goes last transcript (known.trans knownLast)
      ⟨told.mono knownLast, artifact, knownLast read, timed, .inr ⟨kind, stored, hash⟩⟩ timed

/-- A file is stored under the hash of its content. -/
theorem storeFile_sourced {relativePath : String} {content : Bytes} {next : String → Nat → Stage}
    (goes : ∀ later byteSize, facts ⊆ later → content ∈ contents →
      Stage.Sourced env isFloat contents job later (next (sha256Hex env content) byteSize)) :
    Stage.Sourced env isFloat contents job facts (storeFile relativePath content next) := by
  apply sourced_call (by trivial)
  intro later known result reliable _
  cases result with
  | osError noSpace message => exact sourced_plain rfl
  | written contentHash byteSize =>
    obtain ⟨stored, rfl⟩ := reliable.2.1 contentHash byteSize rfl
    exact goes later byteSize known stored

/-! ## From the platform -/

theorem fetchingMetadataHandler_sourced :
    Stage.Sourced env isFloat contents job facts (fetchingMetadataHandler env job) := by
  unfold fetchingMetadataHandler
  split
  next => exact sourced_plain rfl
  next ref detected =>
    apply sourced_call (by trivial)
    intro later known fetched reliable told
    cases fetched with
    | error error => exact sourced_plain (errorOutcome_artifact error none)
    | ok metadata =>
      apply sourced_inline
      exact Exists.intro metadata ⟨⟨ref, detected, told⟩, reliable.2.1 metadata rfl, rfl⟩

theorem subtitleFailure_sourced (error : StageError) :
    Stage.Sourced env isFloat contents job facts (subtitleFailure job error) := by
  simp only [subtitleFailure]
  split
  · split
    · exact sourced_plain rfl
    · exact sourced_plain rfl
  · split
    · exact sourced_plain rfl
    · exact sourced_plain (errorOutcome_artifact error none)

theorem fetchingSubtitlesHandler_sourced :
    Stage.Sourced env isFloat contents job facts (fetchingSubtitlesHandler env job) := by
  unfold fetchingSubtitlesHandler
  split
  next => exact sourced_plain rfl
  next ref detected =>
    apply sourced_call (by trivial)
    intro later known fetched reliable told
    cases fetched with
    | error error => exact subtitleFailure_sourced error
    | ok transcript =>
      apply storeFile_sourced
      intro last byteSize knownLast stored
      apply sourced_file
      have timed := reliable.2.1 transcript rfl
      exact Exists.intro transcript ⟨.subtitles detected (knownLast told), timed, stored, rfl⟩

theorem downloadingAudioHandler_sourced :
    Stage.Sourced env isFloat contents job facts (downloadingAudioHandler env job) := by
  unfold downloadingAudioHandler
  split
  next => exact sourced_plain rfl
  next ref detected =>
    apply sourced_call (by trivial)
    intro later known downloaded reliable told
    cases downloaded with
    | error error => exact sourced_plain (errorOutcome_artifact error none)
    | ok audio =>
      apply storeFile_sourced
      intro last byteSize knownLast stored
      apply sourced_file
      exact Exists.intro audio ⟨⟨ref, detected, knownLast told⟩, stored, rfl⟩

/-! ## From the transcription -/

theorem customOptions_sourced (providerIds : List String) :
    (customOptions providerIds).Upholds (sourceTrust env isFloat contents job) (fun _ _ => True)
      facts := by
  induction providerIds generalizing facts with
  | nil => trivial
  | cons providerId rest ih =>
    apply Process.upholds_call (by trivial)
    intro later _ registered _ _
    cases registered with
    | false => exact ih
    | true =>
      apply Process.upholds_call (by trivial)
      intro last _ capabilities _ _
      apply Process.upholds_bind ih
      intro _ options _ _
      trivial

theorem providerOptions_sourced :
    providerOptions.Upholds (sourceTrust env isFloat contents job) (fun _ _ => True) facts := by
  apply Process.upholds_call (by trivial)
  intro later _ installedIds _ _
  apply Process.upholds_call (by trivial)
  intro last _ installedModels _ _
  apply Process.upholds_bind (customOptions_sourced _)
  intro _ options _ _
  trivial

/-- The checkpoints hold what was reported before and what was reported now. -/
theorem checkpointSegments_sourced {fingerprint : String} {stored reported : List Segment}
    (told : ∀ segment ∈ stored ++ reported, SourceSegment env job.request facts segment)
    (timed : Timed isFloat (stored ++ reported)) :
    (checkpointSegments env fingerprint stored reported).Upholds
      (sourceTrust env isFloat contents job) (fun _ _ => True) facts := by
  induction reported generalizing stored facts with
  | nil => trivial
  | cons segment rest ih =>
    have regrouped : stored ++ segment :: rest = stored ++ [segment] ++ rest := by simp
    rw [regrouped] at told timed
    apply Process.upholds_call
    · refine Exists.intro (stored ++ [segment]) ⟨?_, ?_, rfl⟩
      · exact fun saved mem => told saved (List.mem_append_left _ mem)
      · exact fun saved mem => timed saved (List.mem_append_left _ mem)
    · intro later known _ _ _
      exact ih (fun saved mem => (told saved mem).mono known) timed

theorem transcribed_sourced {fingerprint : String} {completed : List Segment}
    {transcription : Transcription}
    (told : SourceTranscription env job.request facts transcription)
    (reported : ∀ segment ∈ completed, SourceSegment env job.request facts segment)
    (timed : Timed isFloat completed)
    (spoken : ∀ result, transcription.result = .ok result → Timed isFloat result.segments) :
    Stage.Sourced env isFloat contents job facts
      (transcribed env job fingerprint completed transcription.result) := by
  unfold transcribed
  split
  next error _ => exact sourced_plain (asrOutcome_artifact error)
  next result ended =>
    apply sourced_inline
    refine Exists.intro _ ⟨.spoken told ended reported, ?_, rfl⟩
    intro segment mem
    rcases List.mem_append.1 mem with old | new
    · exact timed segment old
    · exact spoken result ended segment new

variable (collisionFree : Set.InjOn (sha256Hex env) contents) (stored : ReadsStored env isFloat)

include collisionFree stored

theorem transcribeAudio_sourced (providerId : String) :
    Stage.Sourced env isFloat contents job facts (transcribeAudio env job providerId) := by
  apply sourced_call (by trivial)
  intro facts _ audio reliable _
  split
  next relativePath contentHash path hash =>
    obtain ⟨artifact, rfl, held⟩ := Option.bind_eq_some_iff.1 hash
    obtain ⟨type, _, record⟩ := reliable.2.2.1 artifact rfl
    have source := record.file contentHash held
    rw [type] at source
    obtain ⟨audio, downloaded, there, rfl⟩ := source
    apply sourced_call (by trivial)
    intro facts known content reliable _
    obtain ⟨_, ⟨written, same⟩, _⟩ := reliable
    rw [← collisionFree written there same] at downloaded
    replace downloaded := downloaded.mono known
    apply sourced_call (by trivial)
    intro facts known checkpoint reliable _
    replace downloaded := downloaded.mono known
    apply sourced_orRaise
    intro completed read
    have reported : (∀ segment ∈ completed, SourceSegment env job.request facts segment) ∧
        Timed isFloat completed := by
      split at read
      next payload found =>
        obtain ⟨artifact, rfl, held⟩ := Option.bind_eq_some_iff.1 found
        obtain ⟨type, _, record⟩ := reliable.2.2.1 artifact rfl
        have source := record.text payload held
        rw [type] at source
        obtain ⟨segments, told, timed, rfl⟩ := source
        rw [stored.segments segments timed] at read
        cases read
        exact ⟨told, timed⟩
      next =>
        cases read
        exact ⟨fun _ mem => (nomatch mem), fun _ mem => nomatch mem⟩
    obtain ⟨reported, timed⟩ := reported
    apply sourced_call_plain (by trivial)
    intro facts known _
    replace downloaded := downloaded.mono known
    replace reported := fun segment mem => (reported segment mem).mono known
    apply sourced_call (by trivial)
    intro facts known transcription reliable told
    obtain ⟨_, ⟨timedNow, timedEnd⟩, _⟩ := reliable
    have source : SourceTranscription env job.request facts transcription :=
      ⟨_, _, _, downloaded.mono known, told⟩
    replace reported := fun segment mem => (reported segment mem).mono known
    have each : ∀ segment ∈ completed ++ transcription.reported,
        SourceSegment env job.request facts segment := by
      intro segment mem
      rcases List.mem_append.1 mem with old | new
      · exact reported segment old
      · exact ⟨transcription, source, new⟩
    have eachTimed : Timed isFloat (completed ++ transcription.reported) := by
      intro segment mem
      rcases List.mem_append.1 mem with old | new
      · exact timed segment old
      · exact timedNow segment new
    apply Process.upholds_bind (checkpointSegments_sourced each eachTimed)
    intro facts _ known _
    exact transcribed_sourced (source.mono known)
      (fun segment mem => (reported segment mem).mono known) timed timedEnd
  next => exact sourced_plain rfl

theorem transcribingHandler_sourced (asrProviderId : String) :
    Stage.Sourced env isFloat contents job facts (transcribingHandler env asrProviderId job) := by
  apply Process.upholds_bind providerOptions_sourced
  intro facts options _ _
  split
  next => exact sourced_plain rfl
  next decision _ =>
    apply sourced_call_plain (by trivial)
    intro facts _ _
    apply sourced_call_plain (by trivial)
    intro facts _ _
    unfold routed
    split
    · apply sourced_call_plain (by trivial)
      intro facts _ registered
      cases registered with
      | false => exact sourced_plain rfl
      | true => exact transcribeAudio_sourced collisionFree stored decision.providerId
    · exact sourced_plain rfl

/-! ## From one text to the next -/

theorem cleaningTranscriptHandler_sourced (stage : job.status = .cleaningTranscript) :
    Stage.Sourced env isFloat contents job facts (cleaningTranscriptHandler env job) := by
  apply loadTranscript_sourced collisionFree (by rw [stage]; decide)
  intro later transcript _ read timed
  apply sourced_orRaise
  intro found same
  rw [stored.transcript transcript timed] at same
  cases same
  apply sourced_inline
  exact Exists.intro transcript ⟨read, rfl⟩

omit collisionFree

theorem chunkingHandler_sourced (stage : job.status = .chunking) :
    Stage.Sourced env isFloat contents job facts (chunkingHandler env job) := by
  apply loadJsonArtifact_sourced (by decide) (by rw [stage]; decide)
  intro later raw _ _ source
  obtain ⟨transcript, read, rfl⟩ := source
  apply sourced_orRaise
  intro cleaned same
  rw [stored.transcript _ (stored.cleaned transcript read.timed)] at same
  cases same
  apply sourced_inline
  exact Exists.intro transcript ⟨read, rfl⟩

omit stored

theorem chunkFingerprint_congr {other : Job} (asked : other.request = job.request) (chunk : String) :
    chunkFingerprint env other chunk = chunkFingerprint env job chunk := by
  have same : other.configFingerprint = job.configFingerprint :=
    congrArg VideoRequest.configFingerprint asked
  unfold chunkFingerprint
  rw [same]

/-- One chunk: its summary is the model's once it is there. A checkpoint that is found is
of a chunk of the same transcript. -/
theorem chunkSummary_sourced {transcript : Transcript}
    (read : ReadTranscript env isFloat contents job.request facts transcript) {chunk : String}
    (mem : chunk ∈ transcriptChunks env transcript) :
    (chunkSummary env job chunk).Upholds (sourceTrust env isFloat contents job)
      (fun facts summarized => ∀ summary, summarized = .ok summary →
        SourceSummary env job.request facts (transcriptChunks env transcript) chunk summary)
      facts := by
  apply Process.upholds_call (by trivial)
  intro facts before existing reliable _
  replace read := read.mono before
  apply Process.upholds_call (by trivial)
  intro facts known _ _ _
  split
  next summary found =>
    obtain ⟨artifact, rfl, held⟩ := Option.bind_eq_some_iff.1 found
    obtain ⟨type, fingerprint, record⟩ := reliable.2.2.1 artifact rfl
    have source := record.text summary held
    rw [type, fingerprint] at source
    obtain ⟨other, again, told, asked, readAgain, otherMem, key, given⟩ := source
    obtain rfl := reliable.2.2.2 again transcript readAgain read
    intro _ answered
    cases answered
    refine ⟨other, told, asked, otherMem, ?_, known given⟩
    rw [← key]
    exact (chunkFingerprint_congr asked chunk).symm
  next =>
    apply Process.upholds_call (by trivial)
    intro facts knownHere completed _ learned
    cases completed with
    | error error =>
      intro summary absent
      cases absent
    | ok summary =>
      have told : heard (.complete (summaryPrompt chunk)) (.ok summary) ∈ facts := learned rfl
      replace read := (read.mono known).mono knownHere
      apply Process.upholds_call
      · exact Exists.intro job ⟨transcript, chunk, rfl, read, mem, rfl, told⟩
      · intro later known _ _ _ _ answered
        cases answered
        exact ⟨job, chunk, rfl, mem, rfl, known told⟩

/-- The loop, by induction on the chunks that are left. -/
theorem summarizeChunks_sourced {transcript : Transcript} {finished todo summaries : List String}
    (cut : transcriptChunks env transcript = finished ++ todo)
    (read : ReadTranscript env isFloat contents job.request facts transcript)
    (each : List.Forall₂ (SourceSummary env job.request facts (transcriptChunks env transcript))
      finished summaries) :
    Stage.Sourced env isFloat contents job facts (summarizeChunks env job summaries todo) := by
  induction todo generalizing finished summaries facts with
  | nil =>
    rw [List.append_nil] at cut
    rw [← cut] at each
    apply sourced_inline
    exact Exists.intro transcript ⟨summaries, read, each, rfl⟩
  | cons chunk rest ih =>
    apply sourced_call_plain (by trivial)
    intro facts known cancelled
    cases cancelled with
    | true => exact sourced_plain rfl
    | false =>
      have mem : chunk ∈ transcriptChunks env transcript := by
        rw [cut]
        exact List.mem_append_right _ List.mem_cons_self
      apply Process.upholds_bind (chunkSummary_sourced (read.mono known) mem)
      intro facts summarized knownHere ended
      cases summarized with
      | error error => exact sourced_plain (errorOutcome_artifact error none)
      | ok summary =>
        apply sourced_call_plain (by trivial)
        intro facts knownNow renewed
        cases renewed with
        | false => exact sourced_plain rfl
        | true =>
          apply @ih _ (finished ++ [chunk])
          · rw [cut, List.append_assoc, List.singleton_append]
          · exact ((read.mono known).mono knownHere).mono knownNow
          · apply List.rel_append
            · exact each.imp fun _ _ => SourceSummary.mono ((known.trans knownHere).trans knownNow)
            · exact .cons ((ended summary rfl).mono knownNow) .nil

include stored

theorem summarizingChunksHandler_sourced (stage : job.status = .summarizingChunks) :
    Stage.Sourced env isFloat contents job facts (summarizingChunksHandler env job) := by
  apply loadJsonArtifact_sourced (by decide) (by rw [stage]; decide)
  intro later raw _ _ source
  obtain ⟨transcript, read, rfl⟩ := source
  apply sourced_orRaise
  intro chunks same
  rw [stored.texts] at same
  cases same
  apply sourced_call_plain (by trivial)
  intro facts known _
  exact @summarizeChunks_sourced _ _ _ _ _ _ [] _ [] rfl (read.mono known) .nil

/-! ## The report -/

omit stored

theorem writeReportStage_sourced {doc : ReportDocument}
    (report : SourceReport env job.request facts doc) :
    Stage.Sourced env isFloat contents job facts (writeReportStage env job doc) := by
  apply sourced_orRaise
  intro content encoded
  apply sourced_call_plain (by trivial)
  intro facts known previous
  apply sourced_call (by trivial)
  intro later knownNow written reliable _
  cases written with
  | error error => exact sourced_plain rfl
  | ok result =>
    obtain ⟨there, same⟩ := reliable.2.1 result content rfl encoded
    apply sourced_file
    refine Exists.intro doc ⟨content, (report.mono known).mono knownNow, encoded, there, ?_⟩
    rw [same]
    rfl

theorem synthesizeReport_sourced {metadata : VideoMetadata} {transcript : Transcript}
    {summaries : List String} (ofVideo : SourceMetadata env job.request facts metadata)
    (spoken : SourceTranscript env job.request facts transcript)
    (each : SourceSummaries env job.request facts (transcriptChunks env transcript) summaries) :
    Stage.Sourced env isFloat contents job facts
      (synthesizeReport env job { metadata with duration := none, publishedAt := none } summaries
        transcript.language) := by
  apply sourced_call_plain (by trivial)
  intro facts known _
  replace ofVideo := ofVideo.mono known
  replace spoken := spoken.mono known
  replace each := each.mono known
  apply sourced_call (by trivial)
  intro facts known completed _ told
  cases completed with
  | error error => exact sourced_plain (errorOutcome_artifact error none)
  | ok raw =>
    dsimp only
    split
    next => exact sourced_plain rfl
    next synthesis parsed =>
      have made : SourceSynthesis env job.request facts transcript synthesis :=
        ⟨summaries, raw, each.mono known, told, parsed⟩
      replace ofVideo := ofVideo.mono known
      replace spoken := spoken.mono known
      apply sourced_call (by trivial)
      intro facts known analyzedAt _ dated
      apply sourced_orRaise
      intro doc built
      exact writeReportStage_sourced ⟨job, metadata, transcript, synthesis, analyzedAt, rfl,
        ofVideo.mono known, spoken.mono known, made.mono known, dated, built⟩

include stored

theorem generatingReportHandler_sourced (stage : job.status = .generatingReport) :
    Stage.Sourced env isFloat contents job facts (generatingReportHandler env job) := by
  apply loadJsonArtifact_sourced (by decide) (by rw [stage]; decide)
  intro facts metadataRaw _ _ source
  obtain ⟨metadata, ofVideo, float, rfl⟩ := source
  apply loadJsonArtifact_sourced (by decide) (by rw [stage]; decide)
  intro facts summariesRaw known _ source
  obtain ⟨transcript, summaries, spoken, each, rfl⟩ := source
  replace ofVideo := ofVideo.mono known
  apply sourced_orRaise
  intro read same
  rw [stored.metadata metadata float] at same
  cases same
  apply sourced_orRaise
  intro read same
  rw [stored.texts summaries] at same
  cases same
  apply loadJsonArtifact_sourced (by decide) (by rw [stage]; decide)
  intro facts transcriptRaw known one source
  obtain ⟨again, spokenAgain, rfl⟩ := source
  replace spoken := spoken.mono known
  -- The summaries are of the transcript that gives the language.
  obtain rfl : transcript = again := one transcript again spoken spokenAgain
  apply sourced_orRaise
  intro language named
  have language_ : language = transcript.language := by
    unfold transcriptLanguage at named
    dsimp only at named
    rw [if_neg (stored.spelled _), stored.transcript _ (stored.cleaned transcript spoken.timed)]
      at named
    cases named
    exact stored.language transcript
  rw [language_]
  exact synthesizeReport_sourced (ofVideo.mono known) spoken.1 (each.mono known)

include collisionFree
omit stored

theorem indexingHandler_sourced :
    Stage.Sourced env isFloat contents job facts (indexingHandler env job) := by
  apply sourced_call (by trivial)
  intro facts _ artifact reliable _
  cases artifact with
  | none => exact sourced_plain rfl
  | some artifact =>
    obtain ⟨type, _, record⟩ := reliable.2.2.1 artifact rfl
    dsimp only
    split
    next relativePath contentHash path hash =>
      have source := record.file contentHash hash
      rw [type] at source
      obtain ⟨doc, rendered, report, encoded, there, rfl⟩ := source
      apply sourced_call (by trivial)
      intro facts known content reliable _
      replace report := report.mono known
      cases content with
      | error error => exact sourced_plain rfl
      | ok content =>
        obtain ⟨written, same⟩ := reliable.2.1 content rfl
        have sameHash : sha256Hex env content = sha256Hex env rendered := by
          unfold sha256Hex at same ⊢
          rw [same, plainString_text]
        obtain rfl := collisionFree written there sameHash
        simp only [indexParsedReport]
        split
        next => exact sourced_plain rfl
        next => exact sourced_raised
        next parsed decoded =>
          split
          · apply sourced_call_plain (by trivial)
            intro facts known _
            apply sourced_call_plain
            · exact Exists.intro doc ⟨content, parsed, _, _, report.mono known, encoded, decoded, rfl,
                rfl⟩
            · intro facts _ _
              exact sourced_plain rfl
          · exact sourced_raised
    next => exact sourced_plain rfl

include stored

/-- Every production handler keeps the discipline. -/
theorem productionHandler_sourced {asrProviderId : String} {handler : Stage}
    (handles : productionHandler env asrProviderId job = some handler) :
    Stage.Sourced env isFloat contents job facts handler := by
  unfold productionHandler at handles
  split at handles
  next => cases handles; exact fetchingMetadataHandler_sourced
  next => cases handles; exact fetchingSubtitlesHandler_sourced
  next => cases handles; exact downloadingAudioHandler_sourced
  next => cases handles; exact transcribingHandler_sourced collisionFree stored asrProviderId
  next stage => cases handles; exact cleaningTranscriptHandler_sourced collisionFree stored stage
  next stage => cases handles; exact chunkingHandler_sourced stored stage
  next stage => cases handles; exact summarizingChunksHandler_sourced stored stage
  next stage => cases handles; exact generatingReportHandler_sourced stored stage
  next => cases handles; exact indexingHandler_sourced collisionFree
  next => cases handles

end

end EvoBlue.Source
