import EvoBlue.Kernel.JsonDumps
import EvoBlue.Source.Chunker
import EvoBlue.Source.Detector
import EvoBlue.Source.Search
import EvoBlue.Source.StageHandlers

/-!
# The texts the stages store

The functions of `runtime/handlers.py`, `transcript/cleaner.py` and
`reports/synthesis.py` that make the artifacts of a stage and read those of an earlier
one. `html.unescape`, the spelling of floats and the messages of the JSON decoder are
parameters.
-/

namespace EvoBlue.Source

open EvoBlue.Kernel

/-- The finite floats, as `repr` spells them and as the decoder reads them: `repr` is
a literal of that float, in ASCII. -/
structure FloatTexts where
  isFloat : Time → Prop
  repr : Time → Text
  value : Text → Time
  plain : ∀ x, isFloat x → Encodable (repr x)
  reads : ∀ x, isFloat x → Json.NumberReads (repr x) (.float (repr x))
  back : ∀ x, isFloat x → value (repr x) = x

/-- What the stages rely on besides their own code. -/
structure ContentEnv where
  report : ReportEnv
  detector : DetectorEnv
  floats : FloatTexts
  /-- `html.unescape`. -/
  unescape : Text → Text
  /-- How deep the decoder of JSON texts goes. -/
  jsonDepth : Nat
  /-- The message of the `JSONDecodeError` for a text. -/
  decodeMessage : Text → String
  segmentKey : Segment → String
  httpUrl : String → Option Text
  /-- `max_chars` of the chunks. -/
  maxChars : Nat := 4000

/-! ## JSON values -/

def jsonString (s : String) : Json := .str (text s)

def jsonOptional {α : Type} (value : α → Json) : Option α → Json
  | none => .null
  | some x => value x

/-- A string without lone surrogates. -/
def plainText (t : Text) : Option String :=
  if t.all fun c => !isSurrogate c then some (plainString t) else none

def stringOf (value : Json) : Option String := value.asStr.bind plainText

/-- A float, or an integer taken for one. -/
def numberOf (floats : FloatTexts) : Json → Option Time
  | .float lexeme => some (floats.value lexeme)
  | .int value => some value
  | _ => none

def itemsOf : Json → Option (List Json)
  | .array items => some items
  | _ => none

def membersOf : Json → Option (List (Text × Json))
  | .object members => some members
  | _ => none

/-- `data.get(key, "")` of a string. -/
def stringMember (key : String) (document : Json) : Option String :=
  match document.get (text key) with
  | none => some ""
  | some value => stringOf value

namespace ContentEnv

variable (env : ContentEnv)

/-- `json.loads`. -/
def loads (raw : String) : Option Json := (Json.loads env.jsonDepth (text raw)).toOption

def float (x : Time) : Json := .float (env.floats.repr x)

/-! ## Metadata -/

/-- `metadata_to_json`. -/
def metadataDocument (metadata : VideoMetadata) : Json :=
  .object
    [(text "video_id", jsonString metadata.videoId),
      (text "platform", jsonString metadata.platform),
      (text "title", jsonString metadata.title),
      (text "author", jsonString metadata.author),
      (text "duration", jsonOptional env.float metadata.duration),
      (text "published_at", jsonOptional jsonString metadata.publishedAt)]

def metadataToJson (metadata : VideoMetadata) : String :=
  plainString (Json.dumps (env.metadataDocument metadata))

/-- What a report takes from the metadata. -/
def metadataFromJson (raw : String) : Option VideoMetadata := do
  let document ← env.loads raw
  let _ ← membersOf document
  let platform ← (document.get (text "platform")).bind stringOf
  let videoId ← (document.get (text "video_id")).bind stringOf
  let title ← (document.get (text "title")).bind stringOf
  let author ← stringMember "author" document
  return { videoId, platform, title, author }

/-! ## Transcripts -/

/-- One segment, in a transcript or a checkpoint. -/
def segmentDocument (segment : Segment) : Json :=
  .object
    [(text "start", env.float segment.start), (text "end", env.float segment.stop),
      (text "text", jsonString segment.text)]

def segmentFrom (document : Json) : Option Segment := do
  let start ← (document.get (text "start")).bind (numberOf env.floats)
  let stop ← (document.get (text "end")).bind (numberOf env.floats)
  let spoken ← (document.get (text "text")).bind stringOf
  return { start, stop, text := spoken }

/-- `transcript_to_json`. -/
def transcriptDocument (transcript : Transcript) : Json :=
  .object
    [(text "language", jsonString transcript.language),
      (text "source", jsonString transcript.source),
      (text "segments", .array (transcript.segments.map env.segmentDocument))]

def transcriptToJson (transcript : Transcript) : String :=
  plainString (Json.dumps (env.transcriptDocument transcript))

/-- `transcript_from_json`. -/
def transcriptFromJson (raw : String) : Option Transcript := do
  let document ← env.loads raw
  let _ ← membersOf document
  let language ← stringMember "language" document
  let source ← stringMember "source" document
  let items ←
    match document.get (text "segments") with
    | none => some []
    | some value => itemsOf value
  let segments ← items.mapM env.segmentFrom
  return { segments, language, source }

/-- `_asr_segments_to_json`. -/
def segmentsToJson (segments : List Segment) : String :=
  plainString (Json.dumps (.array (segments.map env.segmentDocument)))

/-- `_asr_segments_from_json`. -/
def segmentsFromJson (raw : String) : Option (List Segment) := do
  let document ← env.loads raw
  let items ← itemsOf document
  items.mapM env.segmentFrom

/-! ## Lists of texts -/

def textsToJson (texts : List String) : String :=
  plainString (Json.dumps (.array (texts.map jsonString)))

def textsFromJson (raw : String) : Option (List String) := do
  let document ← env.loads raw
  let items ← itemsOf document
  items.mapM stringOf

end ContentEnv

/-! ## Cleaning -/

/-- The words of `_NOISE_MARKER_RE`. -/
def noiseWords : List Text := [text "music", text "applause", text "laughter"]

/-- A letter of a word in a pattern that ignores case. -/
def matchesLetter (letter c : CodePoint) : Bool :=
  c = letter || c.val + 32 = letter.val ||
    (letter = cp 'i' && (c.val = 0x130 || c.val = 0x131)) || (letter = cp 's' && c.val = 0x17f)

/-- The text begins with the word. -/
def beginsWord : (word : Text) → Text → Bool
  | [], _ => true
  | _ :: _, [] => false
  | letter :: word, c :: rest => matchesLetter letter c && beginsWord word rest

/-- The length of the marker at the start of the text. -/
def noiseLength (t : Text) : Option Nat :=
  if t.head? = some (cp '[') then
    match noiseWords.find? fun word => beginsWord word t.tail with
    | none => none
    | some word =>
      let blanks := (t.tail.drop word.length).takeWhile isSpace
      if (t.tail.drop (word.length + blanks.length)).head? = some (cp ']') then
        some (1 + word.length + blanks.length + 1)
      else none
  else none

/-- `_NOISE_MARKER_RE.sub("", …)`; inside a marker, `skip` characters are left to drop. -/
def dropNoise : (skip : Nat) → Text → Text
  | _, [] => []
  | skip + 1, _ :: rest => dropNoise skip rest
  | 0, c :: rest =>
    match noiseLength (c :: rest) with
    | some length => dropNoise (length - 1) rest
    | none => c :: dropNoise 0 rest

/-- `_clean_text`. -/
def cleanText (unescape : Text → Text) (t : Text) : Text :=
  (text " ").intercalate (splitWords (dropNoise 0 (unescape t)))

/-- The loop of `clean_segments`; `previous` is the text of the last segment kept. -/
def cleanFrom (unescape : Text → Text) : (previous : Option String) → List Segment → List Segment
  | _, [] => []
  | previous, segment :: segments =>
    let cleaned := plainString (cleanText unescape (text segment.text))
    if cleaned = "" then cleanFrom unescape previous segments
    else if previous = some cleaned then cleanFrom unescape previous segments
    else { segment with text := cleaned } :: cleanFrom unescape (some cleaned) segments

/-- `clean_segments`. -/
def cleanSegments (unescape : Text → Text) (segments : List Segment) : List Segment :=
  cleanFrom unescape none segments

/-- `clean_transcript`. -/
def cleanTranscript (unescape : Text → Text) (transcript : Transcript) : Transcript :=
  { transcript with segments := cleanSegments unescape transcript.segments }

/-! ## Synthesis -/

/-- `_SYNTHESIS_PROMPT` before its summaries. -/
def synthesisInstructions : String :=
  "You are producing the sections of a structured video analysis report. " ++
    "Given the chunk summaries below, return a JSON object with these keys:\n" ++
    "- \"core_summary\": a concise summary of the whole video\n" ++
    "- \"key_takeaways\": a list of 3-5 short key takeaways\n" ++
    "- \"timeline_outline\": a markdown outline of the video structure\n" ++
    "- \"content_analysis\": analysis of the argument and structure\n" ++
    "Return only the JSON object, no commentary.\n\n" ++ "Chunk summaries:\n"

/-- `_synthesis_prompt`. -/
def synthesisPrompt (summaries : List String) : String :=
  synthesisInstructions ++ "\n".intercalate (summaries.map fun summary => "- " ++ summary)

/-- The text inside a surrounding fence, and the text itself where there is none:
`_FENCE_RE.sub(r"\1", …)`, up to the blanks around it. -/
def unfence (t : Text) : Text :=
  let fence := text "```"
  if fence.isPrefixOf t ∧ fence.isSuffixOf t ∧ 6 ≤ t.length then
    let inner := (t.drop 3).take (t.length - 6)
    if (text "json").isPrefixOf inner then inner.drop 4 else inner
  else t

/-- The fields of a `SynthesisResult`; what is in a list is not looked into. -/
structure SynthesisFields where
  coreSummary : Text
  keyTakeaways : List Text
  timelineOutline : Text
  contentAnalysis : Text
  deriving DecidableEq

inductive SynthesisFailure where
  /-- `SynthesisError`. -/
  | notJson
  | notTheSchema
  /-- The decoder raises something else. -/
  | raised (error : JsonError)
  deriving DecidableEq

/-- A `str` with `min_length=1`. -/
def requiredText (document : Json) (key : String) : Option Text :=
  match document.get (text key) with
  | some (.str value) =>
    if value ≠ [] ∧ value.all (fun c => !isSurrogate c) then some value else none
  | _ => none

/-- A `list[str]` with `min_length=1`. -/
def requiredTexts (document : Json) (key : String) : Option (List Text) :=
  match document.get (text key) with
  | some (.array items) => if items = [] then none else items.mapM Json.asStr
  | _ => none

def synthesisKeys : List Text :=
  [text "core_summary", text "key_takeaways", text "timeline_outline", text "content_analysis"]

/-- `SynthesisResult.model_validate`, strict and without extra keys. -/
def validateSynthesis (document : Json) : Option SynthesisFields := do
  let members ← membersOf document
  if (members.map (·.1)).all fun key => synthesisKeys.contains key then
    let coreSummary ← requiredText document "core_summary"
    let keyTakeaways ← requiredTexts document "key_takeaways"
    let timelineOutline ← requiredText document "timeline_outline"
    let contentAnalysis ← requiredText document "content_analysis"
    return { coreSummary, keyTakeaways, timelineOutline, contentAnalysis }
  else none

/-- `parse_synthesis`. -/
def parseSynthesis (depth : Nat) (raw : Text) : Except SynthesisFailure SynthesisFields :=
  match Json.loads depth (strip (unfence (strip raw))) with
  | .error .decode => .error .notJson
  | .error error => .error (.raised error)
  | .ok document =>
    match validateSynthesis document with
    | some fields => .ok fields
    | none => .error .notTheSchema

/-- The fields as strings, unless one has a lone surrogate. -/
def SynthesisFields.toResult (fields : SynthesisFields) : Option SynthesisResult := do
  let coreSummary ← plainText fields.coreSummary
  let keyTakeaways ← fields.keyTakeaways.mapM plainText
  let timelineOutline ← plainText fields.timelineOutline
  let contentAnalysis ← plainText fields.contentAnalysis
  return { coreSummary, keyTakeaways, timelineOutline, contentAnalysis }

namespace ContentEnv

variable (env : ContentEnv)

/-- `parse_synthesis` of a string, with the texts of its errors. -/
def synthesis (raw : String) : Except CodedError SynthesisResult :=
  match parseSynthesis env.jsonDepth (text raw) with
  | .ok fields =>
    match fields.toResult with
    | some result => .ok result
    | none => .error ⟨"", "synthesis output does not match the report schema"⟩
  | .error .notTheSchema => .error ⟨"", "synthesis output does not match the report schema"⟩
  | .error _ =>
    .error ⟨"", "invalid synthesis output: " ++ env.decodeMessage (strip (unfence (strip (text raw))))⟩

/-- `chunk_transcript`. -/
def chunks (transcript : Transcript) : List String :=
  match chunkTranscript (transcript.segments.map fun segment => text segment.text) env.maxChars with
  | .ok chunks => chunks.map plainString
  | .error _ => []

/-- The handlers with these functions. -/
def handlers : HandlerEnv where
  report := env.report
  detectVideo := env.detector.detect
  metadataToJson := env.metadataToJson
  metadataFromJson := env.metadataFromJson
  transcriptToJson := env.transcriptToJson
  transcriptFromJson := env.transcriptFromJson
  segmentsToJson := env.segmentsToJson
  segmentsFromJson := env.segmentsFromJson
  textsToJson := textsToJson
  textsFromJson := env.textsFromJson
  segmentKey := env.segmentKey
  cleanTranscript := cleanTranscript env.unescape
  chunkTranscript := env.chunks
  synthesisPrompt := synthesisPrompt
  parseSynthesis := env.synthesis
  httpUrl := env.httpUrl

end ContentEnv

end EvoBlue.Source
