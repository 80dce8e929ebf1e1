import EvoBlue.Guarantees.FrontmatterRoundTrip
import EvoBlue.Source.Pipeline
import EvoBlue.Source.ReportBody

/-!
# The pipeline reads what it writes

A rendered report is accepted exactly when its title is on one line: the heading line ends
where the title breaks, and is then not the heading that the frontmatter announces. The
indexing stage fails on such a report.
-/

namespace EvoBlue.Guarantees

open EvoBlue.Kernel EvoBlue.Source

/-- The indexing stage gives up on the report as one that cannot be parsed. -/
def ParseFails (env : HandlerEnv) (job : Job) (artifact : JobArtifact)
    (relativePath contentHash : String) (content : Bytes) : Prop :=
  ∃ detail, indexParsedReport env job artifact relativePath contentHash content =
    Stage.fatal "INDEX_PARSE_FAILED" detail

theorem parseFails_iff {env : HandlerEnv} {job : Job} {artifact : JobArtifact}
    {relativePath contentHash : String} {content : Bytes} :
    ParseFails env job artifact relativePath contentHash content ↔
      ∃ code, decodeReportBytes env.report.toReaderEnv content = .error (.markdown code) := by
  unfold ParseFails indexParsedReport
  constructor
  · rintro ⟨detail, failed⟩
    split at failed
    next code answer => exact ⟨code, answer⟩
    next => cases failed
    next =>
      dsimp only at failed
      split at failed
      next => cases failed
      next => cases failed
  · rintro ⟨code, answer⟩
    rw [answer]
    exact ⟨_, rfl⟩

/-- A rendered report is read exactly when its title has no line end in it, and the indexing
stage fails to parse it exactly when it has one. -/
theorem rendered_report_read (env : HandlerEnv) (deep : 0 < env.report.jsonDepth)
    (doc : ReportDocument) (http : IsHttpUrl doc.sourceUrl)
    (lowercase : doc.platform = lower env.report.unicode doc.platform) {content : Bytes}
    (encoded : encodeUtf8 (renderMarkdown doc) = some content) :
    ((∃ parsed, decodeReportBytes env.report.toReaderEnv content = .ok parsed) ↔
        singleLine doc.title = true) ∧
      ∀ job artifact relativePath contentHash,
        ParseFails env job artifact relativePath contentHash content ↔
          singleLine doc.title = false := by
  have answer := decode_rendered deep http lowercase encoded
  simp only [parseFails_iff, answer]
  cases singleLine doc.title with
  | true => simp
  | false => simp

/-! ## A title on two lines -/

/-- A report under a title. -/
def titledReport (title : Text) (some_ : title ≠ []) : ReportDocument where
  analysisId := text "a1"
  sourceUrl := text "https://example.com/v"
  platform := text "example"
  videoId := text "v1"
  title := title
  analyzedAt := { year := 2024, month := 1, day := 2, offset := some 0, inRange := by decide }
  summaryMode := text "auto"
  named := ⟨by decide, by decide, by decide, some_⟩
  known := by decide
  zoned := by decide

theorem example_isHttpUrl : IsHttpUrl (text "https://example.com/v") := by
  have authority : (text "example.com").all (fun c => !netlocEnds c) = true := by decide
  have printable : (text "https://example.com/v").all
      (fun c => decide (0x20 < c.val ∧ c.val < 0x7f)) = true := by decide
  rw [List.all_eq_true] at authority printable
  refine ⟨text "https", text "example.com", text "/v", ?_⟩
  exact {
    whole := by decide
    scheme := .inr rfl
    host := by decide
    brackets := .inl (by decide)
    authority := fun c mem => by simpa using authority c mem
    rest := fun c first => by
      obtain rfl := Option.some.inj first
      decide
    printable := fun c mem => of_decide_eq_true (printable c mem) }

theorem titled_encoded {title : Text} {some_ : title ≠ []}
    (encodable : Encodable (renderMarkdown (titledReport title some_))) :
    ∃ content, encodeUtf8 (renderMarkdown (titledReport title some_)) = some content := by
  unfold encodeUtf8
  rw [if_pos encodable]
  exact ⟨_, rfl⟩

/-- A report with every field filled. -/
def fullReport (summary : Text) : ReportDocument :=
  { titledReport (text "中文 \"title\": #1") (by decide) with
    author := text "作者"
    publishedAt := some { year := 2023, month := 12, day := 31, offset := some 28800, inRange := by decide }
    language := text "zh"
    asrProvider := text "sherpa-onnx-standard"
    asrModel := text "sensevoice"
    asrModelVersion := text "2024-07-17"
    tags := [text "one", text "a, \"b\""]
    coreSummary := summary
    keyTakeaways := [text "first", text "second: \u8981点"]
    timelineOutline := text "00:00 start\n\n00:10 end"
    contentAnalysis := text "### a heading of its own\n- item"
    commentSentiment := text "calm"
    videoInformation := text "ten seconds"
    transcript := some (text "[00:00] one\n[00:05] two")
    zoned := by decide }

theorem rendered_report_read_full :
    ∃ content, encodeUtf8 (renderMarkdown (fullReport (text "one\r\ntwo\n"))) = some content ∧
      (∃ parsed, decodeReportBytes sampleHandlers.report.toReaderEnv content = .ok parsed) ∧
      ∀ job artifact relativePath contentHash,
        ¬ ParseFails sampleHandlers job artifact relativePath contentHash content := by
  have encodable : Encodable (renderMarkdown (fullReport (text "one\r\ntwo\n"))) := by
    decide +kernel
  have single : singleLine (fullReport (text "one\r\ntwo\n")).title = true := by decide
  refine ⟨_, if_pos encodable, ?_⟩
  have read := rendered_report_read sampleHandlers (by decide) (fullReport (text "one\r\ntwo\n"))
    example_isHttpUrl (by decide) (if_pos encodable)
  refine ⟨read.1.2 single, fun job artifact relativePath contentHash fails => ?_⟩
  have broken := (read.2 job artifact relativePath contentHash).1 fails
  rw [single] at broken
  cases broken

/-- A report whose title breaks is written and not read. -/
theorem broken_title_unread :
    ∃ content,
      encodeUtf8 (renderMarkdown (titledReport (text "first\nsecond") (by decide))) = some content ∧
      text "example" = lower sampleHandlers.report.unicode (text "example") ∧
      decodeReportBytes sampleHandlers.report.toReaderEnv content =
        .error (.markdown .bodyStructureInvalid) := by
  obtain ⟨content, encoded⟩ := @titled_encoded (text "first\nsecond") (by decide) (by decide +kernel)
  have answer := @decode_rendered sampleHandlers.report.toReaderEnv (by decide) _ example_isHttpUrl
    (by decide) content encoded
  exact ⟨content, encoded, by decide, answer⟩

end EvoBlue.Guarantees
