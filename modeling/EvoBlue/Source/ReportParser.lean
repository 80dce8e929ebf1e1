import EvoBlue.Kernel.IsoDatetime
import EvoBlue.Kernel.Json
import EvoBlue.Kernel.Url
import EvoBlue.Kernel.Utf8

/-!
# Reading Markdown Schema v1

`reports/parser.py`: a flat `key: value` frontmatter whose scalars are JSON, then
`# title` and sections under fixed headings. A violation of the schema raises a
`MarkdownParseError` with a diagnostic code; whatever else the library functions
raise passes through the reader, and `ReadError` keeps it apart. Messages are
not modelled: nothing reads them.
-/

namespace EvoBlue.Source

open EvoBlue.Kernel

/-- The diagnostic codes. -/
inductive MdCode where
  | frontmatterInvalid
  | unknownSchemaVersion
  | missingField
  | bodyStructureInvalid
  | encodingError
  /-- A warning: the file is indexed, and the code recorded. -/
  | emptyBody
  deriving DecidableEq, Repr

inductive ReadError where
  /-- `MarkdownParseError` with its code. -/
  | markdown (code : MdCode)
  | valueError
  | recursionError
  deriving DecidableEq, Repr

abbrev Read := Except ReadError

/-- What reading takes from the interpreter: its Unicode tables, and how deep
JSON may nest before the recursion limit. -/
structure ReaderEnv where
  unicode : UnicodeData
  jsonDepth : Nat

def knownSchemaVersions : List Int := [1]

def summaryModes : List Text := [text "auto", text "standard", text "unboxing"]

inductive Section where
  | coreSummary
  | keyTakeaways
  | timelineOutline
  | contentAnalysis
  | commentSentiment
  | videoInformation
  | link
  | transcript
  deriving DecidableEq, Repr

/-- `_SECTIONS`: the headings in emission order. -/
def sectionHeadings : List (Text × Section) :=
  [(text "## 核心摘要", .coreSummary),
    (text "## 核心收获", .keyTakeaways),
    (text "## 时间轴大纲", .timelineOutline),
    (text "## 内容分析", .contentAnalysis),
    (text "## 评论风向", .commentSentiment),
    (text "## 视频信息", .videoInformation),
    (text "## 原始链接", .link),
    (text "## 完整字幕", .transcript)]

def analysisSections : List Section :=
  [.coreSummary, .keyTakeaways, .timelineOutline, .contentAnalysis, .commentSentiment,
    .videoInformation]

/-- The structured form of one report file. -/
structure ParsedReport where
  schemaVersion : Int
  analysisId : Text
  sourceUrl : Text
  platform : Text
  videoId : Text
  title : Text
  author : Text
  publishedAt : Option DateTime
  analyzedAt : DateTime
  summaryMode : Text
  language : Text
  asrProvider : Text
  asrModel : Text
  asrModelVersion : Text
  tags : List Text
  coreSummary : Text
  keyTakeaways : List Text
  timelineOutline : Text
  contentAnalysis : Text
  commentSentiment : Text
  videoInformation : Text
  transcript : Option Text
  hasAnalysisContent : Bool
  deriving DecidableEq

/-! ## Frontmatter -/

/-- The fields of a frontmatter, the latest assignment first. -/
abbrev Fields := List (Text × Text)

def Fields.get (fields : Fields) (key : Text) : Option Text :=
  (fields.find? fun field => field.1 = key).map (·.2)

/-- One frontmatter line; `key:` counts as an empty value. -/
def parseLine (line : Text) : Read (Option (Text × Text)) :=
  if strip line = [] then .ok none
  else
    match breakOn (text ": ") line with
    | some (key, raw) => .ok (some (strip key, raw))
    | none =>
      if line.getLast? = some (cp ':') then .ok (some (strip line.dropLast, []))
      else .error (.markdown .frontmatterInvalid)

/-- `_parse_frontmatter` over the lines that are left. -/
def parseLines (fields : Fields) : List Text → Read Fields
  | [] => .ok fields
  | line :: lines => do
    match ← parseLine line with
    | none => parseLines fields lines
    | some field => parseLines (field :: fields) lines

def parseFrontmatter (block : Text) : Read Fields := parseLines [] (block.splitOn (cp '\n'))

/-! ## Sections -/

/-- The state of `_parse_sections`: the section open now, and the lines of every
section whose heading has occurred. -/
structure SectionScan where
  current : Option Section := none
  chunks : Section → Option (List Text) := fun _ => none

/-- A heading opens its section anew; other lines belong to the open section. -/
def SectionScan.line (scan : SectionScan) (line : Text) : SectionScan :=
  match sectionHeadings.find? fun entry => entry.1 = line with
  | some (_, found) =>
    { current := some found
      chunks := fun other => if other = found then some [] else scan.chunks other }
  | none =>
    match scan.current with
    | none => scan
    | some found =>
      { scan with
        chunks := fun other =>
          if other = found then (scan.chunks other).map (· ++ [line]) else scan.chunks other }

def parseSections (body : Text) : SectionScan :=
  (body.splitOn (cp '\n')).foldl SectionScan.line {}

/-- The text of a section, empty if its heading is absent. -/
def SectionScan.content (scan : SectionScan) (found : Section) : Text :=
  match scan.chunks found with
  | none => []
  | some lines => strip ([cp '\n'].intercalate lines)

def SectionScan.present (scan : SectionScan) (found : Section) : Bool := (scan.chunks found).isSome

/-! ## Scalars -/

/-- `json.loads`, with the exceptions that are no `JSONDecodeError` passed on. -/
def loadsScalar (env : ReaderEnv) (raw : Text) : Read (Option Json) :=
  match Json.loads env.jsonDepth raw with
  | .ok value => .ok (some value)
  | .error .recursion => .error .recursionError
  | .error .integerTooLong => .error .valueError
  | .error _ => .ok none

/-- `_json_str`. -/
def jsonStr (env : ReaderEnv) (fields : Fields) (key : String) : Read Text :=
  match fields.get (text key) with
  | none => .ok []
  | some [] => .ok []
  | some raw => do
    match (← loadsScalar env raw).bind Json.asStr with
    | some value => return value
    | none => .error (.markdown .frontmatterInvalid)

/-- `_json_tags`. -/
def jsonTags (env : ReaderEnv) (fields : Fields) : Read (List Text) :=
  match fields.get (text "tags") with
  | none => .ok []
  | some [] => .ok []
  | some raw => do
    match ← loadsScalar env raw with
    | some (.array items) =>
      match items.mapM Json.asStr with
      | some tags => return tags
      | none => .error (.markdown .frontmatterInvalid)
    | _ => .error (.markdown .frontmatterInvalid)

/-- `_json_datetime`: bare or JSON-quoted, and never without an offset. -/
def jsonDatetime (env : ReaderEnv) (fields : Fields) (key : String) (required : Bool) :
    Read (Option DateTime) :=
  let raw := (fields.get (text key)).getD []
  if raw = [] ∨ raw = text "null" then
    if required then .error (.markdown .missingField) else .ok none
  else do
    let spelled := ((← loadsScalar env raw).bind Json.asStr).getD raw
    match DateTime.fromIsoformat spelled with
    | none => .error (.markdown .missingField)
    | some value =>
      if value.offset.isNone then .error (.markdown .missingField) else return some value

/-- `schema_version`, which must be a known one. -/
def parseVersion (env : ReaderEnv) (fields : Fields) : Read Int :=
  match (fields.get (text "schema_version")).bind (readInt env.unicode) with
  | none => .error (.markdown .unknownSchemaVersion)
  | some version =>
    if knownSchemaVersions.contains version then .ok version
    else .error (.markdown .unknownSchemaVersion)

/-- Raise `error` unless the condition holds. -/
def require (condition : Bool) (error : ReadError) : Read Unit :=
  if condition then .ok () else .error error

/-- An absolute HTTP(S) URL; what `urlsplit` itself raises passes through. -/
def requireHttpUrl (env : ReaderEnv) (url : Text) : Read Unit :=
  match urlsplit env.unicode url with
  | none => .error .valueError
  | some split => require split.isAbsoluteHttp (.markdown .missingField)

/-- The first line of the body that is not blank. -/
def firstBodyLine (body : Text) : Text :=
  ((body.splitOn (cp '\n')).find? fun line => strip line ≠ []).getD []

/-- The items of a bulleted section. -/
def bulletItems (raw : Text) : List Text :=
  ((raw.splitOn (cp '\n')).filter fun line => (text "- ").isPrefixOf line).map fun line =>
    strip (line.drop 2)

/-! ## The reader -/

/-- The frontmatter between its two rulers, and the body after them. -/
def splitFrontmatter (whole : Text) : Read (Text × Text) :=
  if (text "---\n").isPrefixOf whole then
    match breakOn (text "\n---\n") (whole.drop 4) with
    | none => .error (.markdown .frontmatterInvalid)
    | some parts => .ok parts
  else .error (.markdown .frontmatterInvalid)

/-- `parse_markdown_report`, with its checks in the order of the source. -/
def parseMarkdownReport (env : ReaderEnv) (whole : Text) : Read ParsedReport := do
  let (block, body) ← splitFrontmatter whole
  let fields ← parseFrontmatter block
  let sections := parseSections body
  let schemaVersion ← parseVersion env fields
  let analysisId ← jsonStr env fields "analysis_id"
  let sourceUrl ← jsonStr env fields "source_url"
  let platform ← jsonStr env fields "platform"
  let videoId ← jsonStr env fields "video_id"
  let title ← jsonStr env fields "title"
  let summaryMode ← jsonStr env fields "summary_mode"
  let author ← jsonStr env fields "author"
  let language ← jsonStr env fields "language"
  let asrProvider ← jsonStr env fields "asr_provider"
  let asrModel ← jsonStr env fields "asr_model"
  let asrModelVersion ← jsonStr env fields "asr_model_version"
  -- `analyzed_at` is required too, and checked last.
  require (analysisId ≠ [] && sourceUrl ≠ [] && platform ≠ [] && videoId ≠ [] && title ≠ [])
    (.markdown .missingField)
  requireHttpUrl env sourceUrl
  require (platform = lower env.unicode platform) (.markdown .missingField)
  require (firstBodyLine body = text "# " ++ title) (.markdown .bodyStructureInvalid)
  require (sections.present .link) (.markdown .bodyStructureInvalid)
  require (summaryMode ≠ []) (.markdown .missingField)
  require (summaryModes.contains summaryMode) (.markdown .missingField)
  let tags ← jsonTags env fields
  let publishedAt ← jsonDatetime env fields "published_at" false
  let analyzedAt? ← jsonDatetime env fields "analyzed_at" true
  match analyzedAt? with
  | none => .error (.markdown .missingField)
  | some analyzedAt =>
    return {
      schemaVersion, analysisId, sourceUrl, platform, videoId, title, author, publishedAt
      analyzedAt, summaryMode, language, asrProvider, asrModel, asrModelVersion, tags
      coreSummary := sections.content .coreSummary
      keyTakeaways := bulletItems (sections.content .keyTakeaways)
      timelineOutline := sections.content .timelineOutline
      contentAnalysis := sections.content .contentAnalysis
      commentSentiment := sections.content .commentSentiment
      videoInformation := sections.content .videoInformation
      transcript :=
        if sections.content .transcript = [] then none else some (sections.content .transcript)
      hasAnalysisContent := analysisSections.any fun found => sections.content found ≠ [] }

/-- Any line ends become single newlines. -/
def normalizedLines (decoded : Text) : Text :=
  replaceAll (text "\r") (text "\n") (replaceAll (text "\r\n") (text "\n") decoded)

/-- `decode_report_bytes`: no byte order mark, strict UTF-8, any line ends. -/
def decodeReportBytes (env : ReaderEnv) (data : Bytes) : Read ParsedReport :=
  if [0xef, 0xbb, 0xbf].isPrefixOf data then .error (.markdown .encodingError)
  else
    match decodeUtf8 data with
    | none => .error (.markdown .encodingError)
    | some decoded => parseMarkdownReport env (normalizedLines decoded)

/-! ## What an accepted report satisfies -/

theorem bind_ok {α β : Type} {first : Read α} {next : α → Read β} {result : β}
    (read : (first >>= next) = .ok result) : ∃ value, first = .ok value ∧ next value = .ok result := by
  cases first with
  | error raised => cases read
  | ok value => exact ⟨value, rfl, read⟩

theorem require_ok {condition : Bool} {error : ReadError} {u : Unit}
    (passed : require condition error = .ok u) : condition = true := by
  unfold require at passed
  split at passed
  next holds => exact holds
  next => cases passed

theorem requireHttpUrl_ok {env : ReaderEnv} {url : Text} {u : Unit}
    (passed : requireHttpUrl env url = .ok u) :
    ∃ split, urlsplit env.unicode url = some split ∧ split.isAbsoluteHttp = true := by
  unfold requireHttpUrl at passed
  split at passed
  next => cases passed
  next split spelled => exact ⟨split, spelled, require_ok passed⟩

theorem jsonDatetime_zoned {env : ReaderEnv} {fields : Fields} {key : String} {required : Bool}
    {value : DateTime} (read : jsonDatetime env fields key required = .ok (some value)) :
    value.offset.isSome = true := by
  unfold jsonDatetime at read
  simp only at read
  split at read
  next => split at read <;> cases read
  next =>
    obtain ⟨loaded, _, read⟩ := bind_ok read
    split at read
    next => cases read
    next =>
      split at read
      next => cases read
      next zoned =>
        cases read
        exact Option.isSome_iff_ne_none.2 (by simpa using zoned)

/-- The checks a report has passed once the reader returns it. -/
structure Accepted (env : ReaderEnv) (whole : Text) (parsed : ParsedReport) : Prop where
  fields : ∃ block body fields, splitFrontmatter whole = .ok (block, body) ∧
    parseFrontmatter block = .ok fields ∧
    jsonStr env fields "analysis_id" = .ok parsed.analysisId ∧
    jsonStr env fields "title" = .ok parsed.title ∧
    firstBodyLine body = text "# " ++ parsed.title
  named : parsed.analysisId ≠ [] ∧ parsed.sourceUrl ≠ [] ∧ parsed.platform ≠ [] ∧
    parsed.videoId ≠ [] ∧ parsed.title ≠ []
  absolute : ∃ split, urlsplit env.unicode parsed.sourceUrl = some split ∧
    split.isAbsoluteHttp = true
  lowercase : parsed.platform = lower env.unicode parsed.platform
  mode : summaryModes.contains parsed.summaryMode = true
  zoned : parsed.analyzedAt.offset.isSome = true ∧
    ∀ d ∈ parsed.publishedAt, d.offset.isSome = true

theorem parseMarkdownReport_ok {env : ReaderEnv} {whole : Text} {parsed : ParsedReport}
    (read : parseMarkdownReport env whole = .ok parsed) : Accepted env whole parsed := by
  unfold parseMarkdownReport at read
  obtain ⟨⟨block, body⟩, split, read⟩ := bind_ok read
  obtain ⟨fields, fieldsRead, read⟩ := bind_ok read
  obtain ⟨version, _, read⟩ := bind_ok read
  obtain ⟨analysisId, analysisIdRead, read⟩ := bind_ok read
  obtain ⟨sourceUrl, _, read⟩ := bind_ok read
  obtain ⟨platform, _, read⟩ := bind_ok read
  obtain ⟨videoId, _, read⟩ := bind_ok read
  obtain ⟨title, titleRead, read⟩ := bind_ok read
  obtain ⟨summaryMode, _, read⟩ := bind_ok read
  obtain ⟨author, _, read⟩ := bind_ok read
  obtain ⟨language, _, read⟩ := bind_ok read
  obtain ⟨asrProvider, _, read⟩ := bind_ok read
  obtain ⟨asrModel, _, read⟩ := bind_ok read
  obtain ⟨asrModelVersion, _, read⟩ := bind_ok read
  obtain ⟨_, named, read⟩ := bind_ok read
  obtain ⟨_, absolute, read⟩ := bind_ok read
  obtain ⟨_, lowercase, read⟩ := bind_ok read
  obtain ⟨_, heading, read⟩ := bind_ok read
  obtain ⟨_, _, read⟩ := bind_ok read
  obtain ⟨_, _, read⟩ := bind_ok read
  obtain ⟨_, mode, read⟩ := bind_ok read
  obtain ⟨tags, _, read⟩ := bind_ok read
  obtain ⟨publishedAt, publishedRead, read⟩ := bind_ok read
  obtain ⟨analyzedAt?, analyzedRead, read⟩ := bind_ok read
  split at read
  next => cases read
  next analyzedAt =>
    cases read
    have names := require_ok named
    simp only [Bool.and_eq_true, decide_eq_true_eq] at names
    exact {
      fields := ⟨block, body, fields, split, fieldsRead, analysisIdRead, titleRead,
        of_decide_eq_true (require_ok heading)⟩
      named := ⟨names.1.1.1.1, names.1.1.1.2, names.1.1.2, names.1.2, names.2⟩
      absolute := requireHttpUrl_ok absolute
      lowercase := of_decide_eq_true (require_ok lowercase)
      mode := require_ok mode
      zoned := ⟨jsonDatetime_zoned analyzedRead, fun d mem => by
        obtain rfl : publishedAt = some d := mem
        exact jsonDatetime_zoned publishedRead⟩ }

/-- What is decoded is parsed from a text. -/
theorem decodeReportBytes_read {env : ReaderEnv} {data : Bytes} {parsed : ParsedReport}
    (read : decodeReportBytes env data = .ok parsed) :
    ∃ whole, parseMarkdownReport env whole = .ok parsed := by
  unfold decodeReportBytes at read
  split at read
  next => cases read
  next =>
    split at read
    next => cases read
    next => exact ⟨_, read⟩

end EvoBlue.Source
