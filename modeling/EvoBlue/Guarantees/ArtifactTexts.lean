import EvoBlue.Source.ArtifactTexts
import EvoBlue.Source.Pipeline

/-!
# What a stage stores is what the next one reads

The JSON texts of the artifacts are read back as the values they were made from: nothing
is lost or changed between two stages.
-/

namespace EvoBlue.Guarantees

open EvoBlue.Kernel EvoBlue.Source

section

variable {env : ContentEnv}

theorem plainText_text (s : String) : plainText (text s) = some s := by
  have scalars : (text s).all (fun c => !isSurrogate c) = true := by
    rw [List.all_eq_true]
    intro c mem
    rw [encodable_text s c mem]
    rfl
  rw [plainText, if_pos scalars, plainString_text]

theorem stringOf_jsonString (s : String) : stringOf (jsonString s) = some s := plainText_text s

/-- A written document is loaded again. -/
theorem loads_written {document : Json} (written : Json.Written env.jsonDepth document)
    (plain : Json.Plain document) : env.loads (plainString (Json.dumps document)) = some document := by
  unfold ContentEnv.loads
  rw [text_plainString (Json.dumps_encodable document plain), Json.loads_dumps written]
  rfl

theorem mapM_read_back {α β : Type} {write : α → β} {read : β → Option α} {xs : List α}
    (back : ∀ x ∈ xs, read (write x) = some x) : (xs.map write).mapM read = some xs := by
  induction xs with
  | nil => rfl
  | cons x xs ih =>
    rw [List.map_cons, List.mapM_cons, back x List.mem_cons_self,
      ih fun y mem => back y (List.mem_cons_of_mem _ mem)]
    rfl

/-! ## Segments -/

/-- The times of the segment are floats. -/
def IsTimed (floats : FloatTexts) (segment : Segment) : Prop :=
  floats.isFloat segment.start ∧ floats.isFloat segment.stop

theorem segmentFrom_document {segment : Segment} (timed : IsTimed env.floats segment) :
    env.segmentFrom (env.segmentDocument segment) = some segment := by
  have start : (env.segmentDocument segment).get (text "start") = some (env.float segment.start) := rfl
  have stop : (env.segmentDocument segment).get (text "end") = some (env.float segment.stop) := rfl
  have spoken : (env.segmentDocument segment).get (text "text") = some (jsonString segment.text) := rfl
  have number : ∀ x, env.floats.isFloat x → numberOf env.floats (env.float x) = some x := by
    intro x float
    rw [ContentEnv.float, numberOf, env.floats.back x float]
  unfold ContentEnv.segmentFrom
  simp only [start, stop, spoken, Option.bind_some, number _ timed.1, number _ timed.2,
    stringOf_jsonString]
  rfl

theorem written_segment (depth : Nat) {segment : Segment} (timed : IsTimed env.floats segment) :
    Json.Written (depth + 1) (env.segmentDocument segment) := by
  have number : ∀ x, env.floats.isFloat x → Json.Written depth (env.float x) := by
    intro x float
    cases depth <;> exact env.floats.reads x float
  have string : ∀ s, Json.Written depth (jsonString s) := by
    intro s
    cases depth <;> trivial
  exact ⟨number _ timed.1, number _ timed.2, string _, trivial⟩

theorem plain_segment {segment : Segment} (timed : IsTimed env.floats segment) :
    Json.Plain (env.segmentDocument segment) :=
  ⟨encodable_text _, env.floats.plain _ timed.1, encodable_text _, env.floats.plain _ timed.2,
    encodable_text _, encodable_text _, trivial⟩

theorem written_items {α : Type} {depth : Nat} {write : α → Json} {xs : List α}
    (written : ∀ x ∈ xs, Json.Written depth (write x)) : Json.WrittenItems depth (xs.map write) := by
  induction xs with
  | nil => trivial
  | cons x xs ih =>
    exact ⟨written x List.mem_cons_self, ih fun y mem => written y (List.mem_cons_of_mem _ mem)⟩

theorem plain_items {α : Type} {write : α → Json} {xs : List α}
    (plain : ∀ x ∈ xs, Json.Plain (write x)) : Json.PlainItems (xs.map write) := by
  induction xs with
  | nil => trivial
  | cons x xs ih =>
    exact ⟨plain x List.mem_cons_self, ih fun y mem => plain y (List.mem_cons_of_mem _ mem)⟩

variable {segments : List Segment}

theorem segments_read_back (deep : 2 ≤ env.jsonDepth)
    (timed : ∀ segment ∈ segments, IsTimed env.floats segment) :
    env.segmentsFromJson (env.segmentsToJson segments) = some segments := by
  obtain ⟨depth, enough⟩ : ∃ depth, env.jsonDepth = depth + 2 := ⟨env.jsonDepth - 2, by omega⟩
  have loaded : env.loads (env.segmentsToJson segments) =
      some (.array (segments.map env.segmentDocument)) := by
    apply loads_written
    · rw [enough]
      exact written_items fun segment mem => written_segment depth (timed segment mem)
    · exact plain_items fun segment mem => plain_segment (timed segment mem)
  unfold ContentEnv.segmentsFromJson
  rw [loaded]
  exact mapM_read_back fun segment mem => segmentFrom_document (timed segment mem)

/-! ## Transcripts -/

theorem transcript_read_back (deep : 3 ≤ env.jsonDepth) {transcript : Transcript}
    (timed : ∀ segment ∈ transcript.segments, IsTimed env.floats segment) :
    env.transcriptFromJson (env.transcriptToJson transcript) = some transcript := by
  obtain ⟨depth, enough⟩ : ∃ depth, env.jsonDepth = depth + 3 := ⟨env.jsonDepth - 3, by omega⟩
  have loaded : env.loads (env.transcriptToJson transcript) =
      some (env.transcriptDocument transcript) := by
    apply loads_written
    · rw [enough]
      exact ⟨trivial, trivial,
        written_items fun segment mem => written_segment depth (timed segment mem), trivial⟩
    · exact ⟨encodable_text _, encodable_text _, encodable_text _, encodable_text _,
        encodable_text _, plain_items fun segment mem => plain_segment (timed segment mem), trivial⟩
  have language : stringMember "language" (env.transcriptDocument transcript) =
      some transcript.language := stringOf_jsonString _
  have source : stringMember "source" (env.transcriptDocument transcript) =
      some transcript.source := stringOf_jsonString _
  have segments : (env.transcriptDocument transcript).get (text "segments") =
      some (.array (transcript.segments.map env.segmentDocument)) := rfl
  have members : membersOf (env.transcriptDocument transcript) =
      some [(text "language", jsonString transcript.language),
        (text "source", jsonString transcript.source),
        (text "segments", .array (transcript.segments.map env.segmentDocument))] := rfl
  have read : (transcript.segments.map env.segmentDocument).mapM env.segmentFrom =
      some transcript.segments :=
    mapM_read_back fun segment mem => segmentFrom_document (timed segment mem)
  unfold ContentEnv.transcriptFromJson
  simp only [loaded, members, language, source, segments, Option.bind_eq_bind, Option.bind_some,
    itemsOf, read]
  rfl

/-! ## Metadata and lists -/

theorem metadata_read_back (deep : 1 ≤ env.jsonDepth) {metadata : VideoMetadata}
    (timed : ∀ x ∈ metadata.duration, env.floats.isFloat x) : env.metadataFromJson (env.metadataToJson metadata) =
      some { metadata with duration := none, publishedAt := none } := by
  obtain ⟨depth, enough⟩ : ∃ depth, env.jsonDepth = depth + 1 := ⟨env.jsonDepth - 1, by omega⟩
  have loaded : env.loads (env.metadataToJson metadata) = some (env.metadataDocument metadata) := by
    have string : ∀ s, Json.Written depth (jsonString s) := by
      intro s
      cases depth <;> trivial
    have duration : Json.Written depth (jsonOptional env.float metadata.duration) ∧
        Json.Plain (jsonOptional env.float metadata.duration) := by
      cases duration : metadata.duration with
      | none => cases depth <;> exact ⟨trivial, trivial⟩
      | some x =>
        have float := timed x duration
        cases depth <;> exact ⟨env.floats.reads x float, env.floats.plain x float⟩
    have published : Json.Written depth (jsonOptional jsonString metadata.publishedAt) ∧
        Json.Plain (jsonOptional jsonString metadata.publishedAt) := by
      cases metadata.publishedAt with
      | none => cases depth <;> exact ⟨trivial, trivial⟩
      | some s => cases depth <;> exact ⟨trivial, encodable_text s⟩
    apply loads_written
    · rw [enough]
      exact ⟨string _, string _, string _, string _, duration.1, published.1, trivial⟩
    · exact ⟨encodable_text _, encodable_text _, encodable_text _, encodable_text _,
        encodable_text _, encodable_text _, encodable_text _, encodable_text _, encodable_text _,
        duration.2, encodable_text _, published.2, trivial⟩
  have members : ∃ found, membersOf (env.metadataDocument metadata) = some found := ⟨_, rfl⟩
  obtain ⟨found, members⟩ := members
  have platform : ((env.metadataDocument metadata).get (text "platform")).bind stringOf =
      some metadata.platform := stringOf_jsonString _
  have videoId : ((env.metadataDocument metadata).get (text "video_id")).bind stringOf =
      some metadata.videoId := stringOf_jsonString _
  have title : ((env.metadataDocument metadata).get (text "title")).bind stringOf =
      some metadata.title := stringOf_jsonString _
  have author : stringMember "author" (env.metadataDocument metadata) = some metadata.author :=
    stringOf_jsonString _
  unfold ContentEnv.metadataFromJson
  simp only [loaded, members, platform, videoId, title, author, Option.bind_eq_bind,
    Option.bind_some]
  rfl

theorem texts_read_back (deep : 1 ≤ env.jsonDepth) (texts : List String) :
    env.textsFromJson (ContentEnv.textsToJson texts) = some texts := by
  obtain ⟨depth, enough⟩ : ∃ depth, env.jsonDepth = depth + 1 := ⟨env.jsonDepth - 1, by omega⟩
  have loaded : env.loads (ContentEnv.textsToJson texts) = some (.array (texts.map jsonString)) := by
    apply loads_written
    · rw [enough]
      apply written_items
      intro s _
      cases depth <;> trivial
    · apply plain_items
      intro s _
      exact encodable_text s
  unfold ContentEnv.textsFromJson
  rw [loaded]
  exact mapM_read_back fun s _ => stringOf_jsonString s

/-- Every stage reads the values that the stage before it stored. -/
theorem stages_read_what_was_stored (env : ContentEnv) (deep : 3 ≤ env.jsonDepth) :
    (∀ transcript, (∀ segment ∈ transcript.segments, IsTimed env.floats segment) →
      env.transcriptFromJson (env.transcriptToJson transcript) = some transcript) ∧
    (∀ segments, (∀ segment ∈ segments, IsTimed env.floats segment) →
      env.segmentsFromJson (env.segmentsToJson segments) = some segments) ∧
    (∀ texts, env.textsFromJson (ContentEnv.textsToJson texts) = some texts) ∧
    ∀ metadata, (∀ x ∈ metadata.duration, env.floats.isFloat x) →
      env.metadataFromJson (env.metadataToJson metadata) =
        some { metadata with duration := none, publishedAt := none } :=
  ⟨fun _ timed => transcript_read_back deep timed,
    fun _ timed => segments_read_back (by omega) timed, texts_read_back (by omega),
    fun _ timed => metadata_read_back (by omega) timed⟩

end

/-! ## Two lines of a video -/

theorem zero_reads : Json.NumberReads (text "0.0") (.float (text "0.0")) := by
  intro rest stops
  constructor
  · rfl
  · cases rest with
    | nil => rfl
    | cons c rest =>
      rcases stops c rfl with rfl | rfl | rfl <;> rfl

theorem one_reads : Json.NumberReads (text "1.0") (.float (text "1.0")) := by
  intro rest stops
  constructor
  · rfl
  · cases rest with
    | nil => rfl
    | cons c rest =>
      rcases stops c rfl with rfl | rfl | rfl <;> rfl

/-- Two floats and their texts. -/
def sampleFloats : FloatTexts where
  isFloat x := x = 0 ∨ x = 1
  repr x := if x = 0 then text "0.0" else text "1.0"
  value t := if t = text "0.0" then 0 else 1
  plain x float := by
    rcases float with rfl | rfl <;> decide
  reads x float := by
    rcases float with rfl | rfl
    · exact zero_reads
    · exact one_reads
  back x float := by
    rcases float with rfl | rfl <;> decide

def sampleContent : ContentEnv where
  report := sampleHandlers.report
  detector := ⟨sampleHandlers.report.unicode, fun _ => ""⟩
  floats := sampleFloats
  unescape t := t
  jsonDepth := 1000
  decodeMessage _ := "Expecting value: line 1 column 1 (char 0)"
  segmentKey _ := ""
  httpUrl url := some (text url)

/-- The 64 hexadecimal digits of a digest. -/
def hexDigest (n : Nat) : Text := (List.range 64).map fun i => Json.hexDigit (n / 16 ^ (63 - i) % 16)

def sampleTranscript : Transcript where
  segments := [⟨0, 1, "one"⟩, ⟨1, 1, "\"two\""⟩]
  language := "en"
  source := "subtitles"

theorem stages_read_what_was_stored_lines :
    sampleContent.transcriptFromJson (sampleContent.transcriptToJson sampleTranscript) =
      some sampleTranscript := by
  have timed : ∀ segment ∈ sampleTranscript.segments, IsTimed sampleContent.floats segment := by
    intro segment mem
    simp only [sampleTranscript, List.mem_cons, List.not_mem_nil, or_false] at mem
    rcases mem with rfl | rfl
    · exact ⟨.inl rfl, .inr rfl⟩
    · exact ⟨.inr rfl, .inr rfl⟩
  exact (stages_read_what_was_stored sampleContent (by decide)).1 sampleTranscript timed

end EvoBlue.Guarantees
