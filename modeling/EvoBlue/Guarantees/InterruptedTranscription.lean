import EvoBlue.Source.AsrProviders
import EvoBlue.Source.Pipeline

/-!
# Interrupted transcriptions end as whole ones do

However often an attempt is interrupted, the transcript that is committed is that of an
uninterrupted run, for the audio files on which no two segments share a key and on which
the provider recognizes the same language in what is left as in the whole.
-/

namespace EvoBlue.Guarantees

open EvoBlue.Kernel EvoBlue.Source

/-! ## Skipping what is already there -/

section

variable {α κ : Type} [DecidableEq κ] (key : α → κ) (items : List α)

theorem filter_not_taken (distinct : (items.map key).Nodup) (count : Nat) :
    items.filter (fun item => !((items.take count).map key).contains (key item)) =
      items.drop count := by
  rw [← List.take_append_drop count items, List.map_append, List.nodup_append] at distinct
  obtain ⟨-, -, apart⟩ := distinct
  conv => lhs; arg 2; rw [← List.take_append_drop count items]
  rw [List.filter_append, List.filter_eq_nil_iff.2, List.filter_eq_self.2, List.nil_append]
  · intro item left
    have fresh : key item ∉ (items.take count).map key := fun taken =>
      apart _ taken _ (List.mem_map_of_mem left) rfl
    simpa using fresh
  · intro item taken
    have stored : key item ∈ (items.take count).map key := List.mem_map_of_mem taken
    simpa using stored

/-- Only distinct keys leave exactly the rest to do. -/
theorem distinct_of_filter
    (rest : ∀ count, items.filter (fun item => !((items.take count).map key).contains (key item)) =
      items.drop count) :
    (items.map key).Nodup := by
  apply List.pairwise_iff_getElem.2
  intro i j boundI boundJ before same
  rw [List.length_map] at boundI boundJ
  rw [List.getElem_map, List.getElem_map] at same
  have left : items[j] ∈ items.drop (i + 1) := by
    apply List.mem_drop_iff_getElem.2
    exact ⟨j - (i + 1), by omega, by congr 1; omega⟩
  have taken : key items[j] ∈ (items.take (i + 1)).map key := by
    rw [← same]
    apply List.mem_map_of_mem
    apply List.mem_take_iff_getElem.2
    exact ⟨i, by omega, rfl⟩
  rw [← rest (i + 1)] at left
  have fresh := (List.mem_filter.1 left).2
  simp only [Bool.not_eq_true', List.contains_eq_mem, decide_eq_false_iff_not] at fresh
  exact fresh taken

end

/-! ## The condition -/

/-- The checkpoints and transcripts of a file read back as what was written. -/
structure ReadBack (env : HandlerEnv) (provider : AsrProvider) (job : Job) : Prop where
  checkpoints : ∀ count, env.segmentsFromJson (env.segmentsToJson (provider.segments.take count)) =
    some (provider.segments.take count)
  transcripts : ∀ count, env.transcriptFromJson (env.transcriptToJson
      (transcriptFrom env.segmentKey provider job (provider.segments.take count))) =
    some (transcriptFrom env.segmentKey provider job (provider.segments.take count))

section

variable (key : Segment → String) (provider : AsrProvider)

/-- The language of a transcript whose first segments are checkpointed. -/
def languageAfter (job : Job) (count : Nat) : String :=
  let recognized := provider.detect (provider.worked key ((provider.segments.take count).map key))
  if recognized ≠ "" then recognized else job.language.getD ""

/-- No two segments share a key, and no part that may be left is in another language. -/
def ResumesAlike (job : Job) : Prop :=
  (provider.segments.map key).Nodup ∧
    ∀ count, languageAfter key provider job count = languageAfter key provider job 0

end

section

variable {env : HandlerEnv} {provider : AsrProvider} {inputs : TranscriptionInputs} {job : Job}

theorem segmentsOf_worked (key : Segment → String) (resumeKeys : List String) :
    AsrProvider.segmentsOf (provider.worked key resumeKeys) =
      provider.segments.filter fun segment => !resumeKeys.contains (key segment) := by
  unfold AsrProvider.segments AsrProvider.segmentsOf AsrProvider.worked
  rw [List.filter_map, List.filter_filter, List.filter_filter]
  congr 2
  funext unit
  exact Bool.and_comm _ _

theorem transcriptFrom_segments (key : Segment → String) (stored : List Segment) :
    (transcriptFrom key provider job stored).segments =
      stored ++ provider.segments.filter fun segment => !(stored.map key).contains (key segment) := by
  change stored ++ AsrProvider.segmentsOf (provider.worked key (stored.map key)) = _
  rw [segmentsOf_worked]

theorem transcriptFrom_language (key : Segment → String) (count : Nat) :
    (transcriptFrom key provider job (provider.segments.take count)).language =
      languageAfter key provider job count := rfl

/-! ## The checkpoint between attempts -/

/-- The checkpoint holds a first part of the file. -/
def HoldsPrefix (env : HandlerEnv) (provider : AsrProvider) (payload : Option String) : Prop :=
  ∃ count, Stores env payload (provider.segments.take count)

theorem stores_none : Stores env none (provider.segments.take 0) := rfl

theorem saved_none (readBack : ReadBack env provider job) (count : Nat) :
    Stores env (saved env none [] provider.segments count) (provider.segments.take count) := by
  unfold saved
  split
  next nothing =>
    rw [nothing]
    rfl
  next =>
    rw [List.nil_append]
    exact readBack.checkpoints count

/-- Step lemma: an interrupted attempt leaves a first part again. -/
theorem interruption_keeps_first (readBack : ReadBack env provider job)
    (distinct : (provider.segments.map env.segmentKey).Nodup) {payload : Option String}
    (holds : HoldsPrefix env provider payload) (saves : Nat) :
    HoldsPrefix env provider (attempt env provider inputs (some saves) payload
      (transcribeAudio env job provider.providerId)).1 := by
  obtain ⟨count, stores⟩ := holds
  rw [checkpoint_step stores, segmentsOf_worked, filter_not_taken env.segmentKey _ distinct]
  unfold saved
  split
  next => exact ⟨count, stores⟩
  next =>
    rw [← List.take_add]
    exact ⟨count + saves, readBack.checkpoints (count + saves)⟩

/-- Run lemma: so does any number of them. -/
theorem interruptions_keep_first (readBack : ReadBack env provider job)
    (distinct : (provider.segments.map env.segmentKey).Nodup) (cuts : List Nat) :
    HoldsPrefix env provider (checkpointAfter env provider inputs job cuts) := by
  have run : ∀ (cuts : List Nat) payload, HoldsPrefix env provider payload →
      HoldsPrefix env provider (cuts.foldl (fun payload saves =>
        (attempt env provider inputs (some saves) payload
          (transcribeAudio env job provider.providerId)).1) payload) := by
    intro cuts
    induction cuts with
    | nil => exact fun _ holds => holds
    | cons saves cuts ih =>
      intro payload holds
      exact ih _ (interruption_keeps_first readBack distinct holds saves)
  exact run cuts none ⟨0, stores_none⟩

/-! ## The end -/

theorem transcriptFrom_eq {key : Segment → String} (alike : ResumesAlike key provider job)
    (count : Nat) :
    transcriptFrom key provider job (provider.segments.take count) =
      transcriptFrom key provider job (provider.segments.take 0) := by
  have segments : ∀ count, (transcriptFrom key provider job
      (provider.segments.take count)).segments = provider.segments := by
    intro count
    rw [transcriptFrom_segments, filter_not_taken key _ alike.1, List.take_append_drop]
  have language := alike.2 count
  rw [← transcriptFrom_language, ← transcriptFrom_language] at language
  exact (Transcript.mk.injEq ..).mpr ⟨(segments count).trans (segments 0).symm, language, rfl⟩

theorem exit_whole (cuts : List Nat) {count : Nat}
    (stores : Stores env (checkpointAfter env provider inputs job cuts)
      (provider.segments.take count)) :
    exitAfter env provider inputs job cuts = some (transcriptExit env job
      (transcriptFrom env.segmentKey provider job (provider.segments.take count))) :=
  exit_step stores

theorem transcriptExit_injective {transcript other : Transcript}
    (read : env.transcriptFromJson (env.transcriptToJson transcript) = some transcript)
    (readOther : env.transcriptFromJson (env.transcriptToJson other) = some other)
    (same : transcriptExit env job transcript = transcriptExit env job other) :
    transcript = other := by
  have written : env.transcriptToJson transcript = env.transcriptToJson other := by
    unfold transcriptExit at same
    simpa [StageOutcome.success, inlineArtifact] using same
  rw [written, readOther] at read
  exact (Option.some.inj read).symm

/-- One interruption after `count` checkpoints shows what is in the transcript then. -/
theorem resumed_once (readBack : ReadBack env provider job)
    (unchanged : ∀ cuts, exitAfter env provider inputs job cuts =
      exitAfter env provider inputs job []) (count : Nat) :
    transcriptFrom env.segmentKey provider job (provider.segments.take count) =
      transcriptFrom env.segmentKey provider job (provider.segments.take 0) := by
  have stored : Stores env (checkpointAfter env provider inputs job [count])
      (provider.segments.take count) := by
    have empty : Stores env none (provider.segments.take 0) := stores_none
    have once : (attempt env provider inputs (some count) none
        (transcribeAudio env job provider.providerId)).1 = _ := checkpoint_step empty
    have all : AsrProvider.segmentsOf (provider.worked env.segmentKey
        ((provider.segments.take 0).map env.segmentKey)) = provider.segments := by
      rw [segmentsOf_worked]
      simp
    rw [all] at once
    unfold checkpointAfter
    rw [List.foldl_cons, List.foldl_nil, once]
    exact saved_none readBack count
  have same := unchanged [count]
  rw [exit_whole [count] stored, exit_whole [] stores_none] at same
  exact transcriptExit_injective (readBack.transcripts count) (readBack.transcripts 0)
    (Option.some.inj same)

/-- The transcript of an interrupted transcription is the whole one's whatever the
interruptions, exactly for the files that resume alike. -/
theorem interrupted_transcription_iff (env : HandlerEnv) (provider : AsrProvider)
    (inputs : TranscriptionInputs) (job : Job) (readBack : ReadBack env provider job) :
    exitAfter env provider inputs job [] = some (transcriptExit env job
        (transcriptFrom env.segmentKey provider job [])) ∧
      ((∀ cuts, exitAfter env provider inputs job cuts = exitAfter env provider inputs job []) ↔
        ResumesAlike env.segmentKey provider job) := by
  refine ⟨exit_whole [] stores_none, ?_, ?_⟩
  · intro unchanged
    have resumed := resumed_once readBack unchanged
    constructor
    · apply distinct_of_filter
      intro count
      have segments := congrArg Transcript.segments (resumed count)
      have whole : provider.segments.filter (fun segment =>
          !((provider.segments.take 0).map env.segmentKey).contains (env.segmentKey segment)) =
          provider.segments := by simp
      rw [transcriptFrom_segments, transcriptFrom_segments, whole, List.take_zero,
        List.nil_append] at segments
      apply @List.append_cancel_left _ (provider.segments.take count)
      rw [segments, List.take_append_drop]
    · intro count
      exact congrArg Transcript.language (resumed count)
  · intro alike cuts
    have kept : HoldsPrefix env provider (checkpointAfter env provider inputs job cuts) :=
      interruptions_keep_first readBack alike.1 cuts
    obtain ⟨count, stores⟩ := kept
    rw [exit_whole cuts stores, exit_whole [] stores_none, transcriptFrom_eq alike count]

end

/-- Where the language is the whole file's, the keys alone decide. -/
theorem whisperCpp_resumes_alike_iff (key : Segment → String) (units : List AsrUnit)
    (language : String) (ordered : units.Pairwise fun earlier later => earlier.start ≤ later.start)
    (job : Job) :
    ResumesAlike key (.whisperCpp units language ordered) job ↔
      ((AsrProvider.whisperCpp units language ordered).segments.map key).Nodup := by
  constructor
  · exact And.left
  · intro distinct
    exact ⟨distinct, fun _ => rfl⟩

/-! ## Two languages in one file -/

/-- A first sentence in Chinese, a second in English. -/
def mixedFile : AsrProvider :=
  .sherpaOnnx "sherpa-onnx-standard" [⟨0, 2, "你好", "zh"⟩, ⟨3, 5, "hello", "en"⟩] (by decide +kernel)

/-- The same file under the provider that names one language for the whole of it. -/
def mixedFileWhole : AsrProvider :=
  .whisperCpp [⟨0, 2, "你好", "zh"⟩, ⟨3, 5, "hello", "zh"⟩] "zh" (by decide +kernel)

def mixedJob : Job :=
  { submittedJob (sampleSubmission "job-1" 0) "" sampleUrl 1 with status := .transcribing }

/-- `json.dumps` of the first segments of the file. -/
def mixedCheckpoints : List (List Segment × String) :=
  [([], "[]"),
    ([⟨0, 2, "你好"⟩], "[\x7b\"start\": 0.0, \"end\": 2.0, \"text\": \"你好\"\x7d]"),
    ([⟨0, 2, "你好"⟩, ⟨3, 5, "hello"⟩],
      "[\x7b\"start\": 0.0, \"end\": 2.0, \"text\": \"你好\"\x7d, " ++
        "\x7b\"start\": 3.0, \"end\": 5.0, \"text\": \"hello\"\x7d]")]

/-- The object of a transcript, with its segments as a checkpoint writes them. -/
def writtenTranscript (segmentsToJson : List Segment → String) (transcript : Transcript) : String :=
  "\x7b\"language\": \"" ++ transcript.language ++ "\", \"source\": \"" ++ transcript.source ++
    "\", \"segments\": " ++ segmentsToJson transcript.segments ++ "\x7d"

/-- The transcripts the file can end with. -/
def mixedTranscripts : List Transcript :=
  ["sherpa-onnx-standard-asr", "whisper-cpp-base-asr"].flatMap fun source =>
    ["zh", "en", ""].map fun language =>
      ⟨[⟨0, 2, "你好"⟩, ⟨3, 5, "hello"⟩], language, source⟩

def mixedEnv : HandlerEnv :=
  let segmentsToJson segments := ((mixedCheckpoints.find? (·.1 = segments)).map (·.2)).getD "[]"
  { sampleHandlers with
    segmentKey := segmentKey
    segmentsToJson := segmentsToJson
    segmentsFromJson := fun raw => (mixedCheckpoints.find? (·.2 = raw)).map (·.1)
    transcriptToJson := writtenTranscript segmentsToJson
    transcriptFromJson := fun raw =>
      mixedTranscripts.find? fun transcript => writtenTranscript segmentsToJson transcript = raw }

def mixedInputs : TranscriptionInputs where
  audio :=
    { stage := "downloading_audio", artifactType := audioArtifactType,
      inputFingerprint := stageFingerprint mixedEnv sampleUrl, schemaVersion := 1,
      storageKind := .file, relativePath := some "job-1/audio.wav",
      contentHash := some (sha256Hex mixedEnv (utf8 "RIFF")),
      id := 1, jobId := "job-1", createdAt := 0, updatedAt := 0 }
  relativePath := "job-1/audio.wav"
  contentHash := sha256Hex mixedEnv (utf8 "RIFF")
  content := utf8 "RIFF"
  located := rfl
  hashed := rfl
  checkpointRow :=
    { stage := "transcribing", artifactType := asrSegmentArtifactType,
      inputFingerprint := stageFingerprint mixedEnv sampleUrl, schemaVersion := 1,
      storageKind := .inlineJson,
      id := 2, jobId := "job-1", createdAt := 0, updatedAt := 0 }

theorem mixed_readBack {provider : AsrProvider}
    (file : provider.segments = [⟨0, 2, "你好"⟩, ⟨3, 5, "hello"⟩])
    (transcripts : ∀ count ≤ 2, mixedEnv.transcriptFromJson (mixedEnv.transcriptToJson
        (transcriptFrom segmentKey provider mixedJob (provider.segments.take count))) =
      some (transcriptFrom segmentKey provider mixedJob (provider.segments.take count))) :
    ReadBack mixedEnv provider mixedJob := by
  have short : ∀ count, provider.segments.take count = provider.segments.take (min count 2) := by
    intro count
    rw [file, ← List.take_take]
    rfl
  constructor
  · have each : ∀ count ≤ 2, mixedEnv.segmentsFromJson (mixedEnv.segmentsToJson
        ([⟨0, 2, "你好"⟩, ⟨3, 5, "hello"⟩].take count)) =
        some ([⟨0, 2, "你好"⟩, ⟨3, 5, "hello"⟩].take count) := by decide +kernel
    intro count
    rw [short count, file]
    exact each _ (by omega)
  · intro count
    rw [short count]
    exact transcripts _ (by omega)

/-- Cut after its first sentence, the file ends as an English one. -/
theorem interrupted_in_another_language :
    exitAfter mixedEnv mixedFile mixedInputs mixedJob [] = some (transcriptExit mixedEnv mixedJob
        ⟨mixedFile.segments, "zh", "sherpa-onnx-standard-asr"⟩) ∧
      exitAfter mixedEnv mixedFile mixedInputs mixedJob [1] = some (transcriptExit mixedEnv mixedJob
        ⟨mixedFile.segments, "en", "sherpa-onnx-standard-asr"⟩) ∧
      exitAfter mixedEnv mixedFile mixedInputs mixedJob [1] ≠
        exitAfter mixedEnv mixedFile mixedInputs mixedJob [] := by
  decide +kernel

theorem interrupted_transcription_iff_mixed :
    ResumesAlike segmentKey mixedFileWhole mixedJob ∧
      ∀ cuts, exitAfter mixedEnv mixedFileWhole mixedInputs mixedJob cuts =
        exitAfter mixedEnv mixedFileWhole mixedInputs mixedJob [] := by
  have alike : ResumesAlike segmentKey mixedFileWhole mixedJob :=
    (whisperCpp_resumes_alike_iff segmentKey _ _ _ mixedJob).2 (by decide +kernel)
  have readBack : ReadBack mixedEnv mixedFileWhole mixedJob :=
    mixed_readBack rfl (by decide +kernel)
  exact ⟨alike, (interrupted_transcription_iff mixedEnv mixedFileWhole mixedInputs mixedJob
    readBack).2.2 alike⟩

end EvoBlue.Guarantees
