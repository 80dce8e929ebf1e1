import EvoBlue.Source.ReportParser

/-!
# Writing Markdown Schema v1

`reports/schema.py` and `reports/renderer.py`. A `ReportDocument` carries what
its model class validates. The reader finds in a rendered report the frontmatter
that was written, whatever the body holds.
-/

namespace EvoBlue.Source

open EvoBlue.Kernel

/-- Canonical in-memory representation of Markdown Schema v1; `source_url` is a
validated URL in its normalized spelling. -/
structure ReportDocument where
  analysisId : Text
  sourceUrl : Text
  platform : Text
  videoId : Text
  title : Text
  author : Text := []
  publishedAt : Option DateTime := none
  analyzedAt : DateTime
  summaryMode : Text
  language : Text := []
  asrProvider : Text := []
  asrModel : Text := []
  asrModelVersion : Text := []
  tags : List Text := []
  coreSummary : Text := []
  keyTakeaways : List Text := []
  timelineOutline : Text := []
  contentAnalysis : Text := []
  commentSentiment : Text := []
  videoInformation : Text := []
  transcript : Option Text := none
  named : analysisId ≠ [] ∧ platform ≠ [] ∧ videoId ≠ [] ∧ title ≠ []
  known : summaryMode ∈ summaryModes
  zoned : analyzedAt.offset.isSome = true ∧ ∀ d ∈ publishedAt, d.offset.isSome = true
  deriving DecidableEq

/-- `schema_version`, of which there is one. -/
def schemaVersion : Nat := 1

/-! ## The renderer -/

/-- `_yaml`. -/
def yaml (value : Text) : Text := Json.dumpsStr value

/-- The frontmatter fields in emission order. -/
def frontmatterFields (doc : ReportDocument) : List (Text × Text) :=
  [(text "schema_version", decimalText schemaVersion),
    (text "analysis_id", yaml doc.analysisId),
    (text "source_url", yaml doc.sourceUrl),
    (text "platform", yaml doc.platform),
    (text "video_id", yaml doc.videoId),
    (text "title", yaml doc.title),
    (text "author", yaml doc.author),
    (text "published_at",
      match doc.publishedAt with
      | some publishedAt => publishedAt.isoformat
      | none => text "null"),
    (text "analyzed_at", yaml doc.analyzedAt.isoformat),
    (text "summary_mode", yaml doc.summaryMode),
    (text "language", yaml doc.language),
    (text "asr_provider", yaml doc.asrProvider),
    (text "asr_model", yaml doc.asrModel),
    (text "asr_model_version", yaml doc.asrModelVersion),
    (text "tags", Json.dumpsStrings doc.tags)]

def fieldLine (field : Text × Text) : Text := field.1 ++ text ": " ++ field.2

def renderFrontmatter (doc : ReportDocument) : Text :=
  text "---\n" ++ (text "\n").intercalate ((frontmatterFields doc).map fieldLine) ++ text "\n---"

/-- A section under its heading, left out when it is empty. -/
def renderSection (heading : String) (content : Text) : List Text :=
  if content = [] then [] else [text heading ++ text "\n\n" ++ content]

def renderSections (doc : ReportDocument) : Text :=
  (text "\n\n").intercalate
    ([text "# " ++ doc.title] ++
      renderSection "## 核心摘要" doc.coreSummary ++
      renderSection "## 核心收获"
        ((text "\n").intercalate (doc.keyTakeaways.map fun item => text "- " ++ item)) ++
      renderSection "## 时间轴大纲" doc.timelineOutline ++
      renderSection "## 内容分析" doc.contentAnalysis ++
      renderSection "## 评论风向" doc.commentSentiment ++
      renderSection "## 视频信息" doc.videoInformation ++
      [text "## 原始链接\n\n" ++ doc.sourceUrl] ++
      renderSection "## 完整字幕" (doc.transcript.getD []))

def renderMarkdown (doc : ReportDocument) : Text :=
  renderFrontmatter doc ++ text "\n\n" ++ renderSections doc ++ text "\n"

/-! ## The frontmatter is read back -/

/-- A key without blanks and colons. -/
def plainKey (key : Text) : Bool := key ≠ [] && key.all fun c => c ≠ cp ':' && !isSpace c

theorem strip_plainKey {key : Text} (plain : plainKey key = true) : strip key = key := by
  simp only [plainKey, Bool.and_eq_true, List.all_eq_true, Bool.not_eq_true'] at plain
  refine strip_eq_self (fun c mem => ?_) fun c mem => ?_
  · exact (plain.2 c (List.mem_of_head? mem)).2
  · exact (plain.2 c (List.mem_of_getLast? mem)).2

/-- A written field is read as it was written. -/
theorem parseLine_fieldLine {key : Text} (plain : plainKey key = true) (raw : Text) :
    parseLine (fieldLine (key, raw)) = .ok (some (key, raw)) := by
  have noColon : cp ':' ∉ key := by
    simp only [plainKey, Bool.and_eq_true, List.all_eq_true] at plain
    intro mem
    simpa using (plain.2 _ mem).1
  have separator : text ": " = [cp ':', cp ' '] := by decide
  have written : strip (fieldLine (key, raw)) ≠ [] := by
    refine @strip_ne_nil _ (cp ':') ?_ (by decide)
    simp [fieldLine, separator]
  have broken : breakOn (text ": ") (fieldLine (key, raw)) = some (key, raw) := by
    rw [separator]
    exact breakOn_append noColon
  unfold parseLine
  rw [if_neg written, broken]
  simp only [strip_plainKey plain]

theorem parseLines_fields {written : List (Text × Text)}
    (plain : ∀ field ∈ written, plainKey field.1 = true) (fields : Fields) :
    parseLines fields (written.map fieldLine) = .ok (written.reverse ++ fields) := by
  induction written generalizing fields with
  | nil => rfl
  | cons field written ih =>
    rw [List.map_cons, parseLines, parseLine_fieldLine (plain field (by simp))]
    simp only [bind, Except.bind]
    rw [ih fun other mem => plain other (by simp [mem])]
    simp

theorem frontmatterFields_plain (doc : ReportDocument) :
    ∀ field ∈ frontmatterFields doc, plainKey field.1 = true := by
  have keys : ((frontmatterFields doc).map (·.1)).all plainKey = true := by
    simp only [frontmatterFields, List.map_cons, List.map_nil]
    decide
  intro field mem
  exact List.all_eq_true.1 keys _ (List.mem_map_of_mem mem)

/-- Every frontmatter line is free of control characters. -/
theorem fieldLine_visible (doc : ReportDocument) :
    ∀ line ∈ (frontmatterFields doc).map fieldLine, visible line = true := by
  have separator : visible (text ": ") = true := by decide
  have keys : ((frontmatterFields doc).map (·.1)).all visible = true := by
    simp only [frontmatterFields, List.map_cons, List.map_nil]
    decide
  have published : visible (match doc.publishedAt with
      | some publishedAt => publishedAt.isoformat
      | none => text "null") = true := by
    split
    · exact DateTime.isoformat_visible _
    · decide
  have raws : ((frontmatterFields doc).map (·.2)).all visible = true := by
    simp only [frontmatterFields, List.map_cons, List.map_nil, List.all_cons, List.all_nil,
      decimalText_visible, yaml, Json.dumpsStr_visible, Json.dumpsStrings_visible, published,
      Bool.and_true]
  intro line mem
  obtain ⟨field, memField, rfl⟩ := List.mem_map.1 mem
  unfold fieldLine
  rw [visible_append, visible_append, separator,
    List.all_eq_true.1 keys _ (List.mem_map_of_mem memField),
    List.all_eq_true.1 raws _ (List.mem_map_of_mem memField)]
  rfl

/-- The lines between the rulers of a rendered report are its fields. -/
theorem splitFrontmatter_rendered (doc : ReportDocument) (body : Text) :
    splitFrontmatter (renderFrontmatter doc ++ text "\n" ++ body) =
      .ok ((text "\n").intercalate ((frontmatterFields doc).map fieldLine), body) := by
  have newline : text "\n" = [cp '\n'] := by decide
  have ruler : text "\n---\n" = cp '\n' :: (text "---" ++ [cp '\n']) := by decide
  have opener : text "---\n" = [cp '-', cp '-', cp '-', cp '\n'] := by decide
  have closer : text "\n---" = cp '\n' :: text "---" := by decide
  have clean : ∀ line ∈ (frontmatterFields doc).map fieldLine, cp '\n' ∉ line :=
    fun line mem => visible_ne (fieldLine_visible doc line mem) (by decide)
  have other : ∀ line ∈ (frontmatterFields doc).map fieldLine, line ≠ text "---" := by
    intro line mem same
    obtain ⟨field, memField, rfl⟩ := List.mem_map.1 mem
    have colon : cp ':' ∈ fieldLine field := by
      have separator : text ": " = [cp ':', cp ' '] := by decide
      simp [fieldLine, separator]
    rw [same] at colon
    revert colon
    decide
  obtain ⟨first, lines, split⟩ : ∃ first lines,
      (frontmatterFields doc).map fieldLine = first :: lines := ⟨_, _, rfl⟩
  rw [split] at clean other
  have broken := @breakOn_lines _ _ (cp '\n') (text "---") first body lines clean (by decide)
    fun line mem => other line (by simp [mem])
  have whole : renderFrontmatter doc ++ text "\n" ++ body = text "---\n" ++
      ((text "\n").intercalate ((frontmatterFields doc).map fieldLine) ++
        cp '\n' :: (text "---" ++ cp '\n' :: body)) := by
    simp only [renderFrontmatter, closer, newline, List.append_assoc, List.cons_append,
      List.nil_append]
  unfold splitFrontmatter
  rw [whole, if_pos (by rw [opener]; simp)]
  have dropped : ∀ rest, (text "---\n" ++ rest).drop 4 = rest := by
    intro rest
    rw [opener]
    rfl
  rw [dropped, ruler, newline, split, broken]

theorem parseFrontmatter_rendered (doc : ReportDocument) :
    parseFrontmatter ((text "\n").intercalate ((frontmatterFields doc).map fieldLine)) =
      .ok (frontmatterFields doc).reverse := by
  have newline : text "\n" = [cp '\n'] := by decide
  unfold parseFrontmatter
  rw [newline, List.splitOn_intercalate]
  · rw [parseLines_fields (frontmatterFields_plain doc), List.append_nil]
  · exact fun line mem => visible_ne (fieldLine_visible doc line mem) (by decide)
  · simp [frontmatterFields]

/-- The reader's normalization of line ends does not touch the frontmatter. -/
theorem renderFrontmatter_noCarriage (doc : ReportDocument) : cp '\r' ∉ renderFrontmatter doc := by
  have lines : cp '\r' ∉ (text "\n").intercalate ((frontmatterFields doc).map fieldLine) := by
    intro mem
    rw [List.intercalate, List.mem_flatten] at mem
    obtain ⟨part, memPart, mem⟩ := mem
    have parts : ∀ {lines : List Text}, (∀ line ∈ lines, cp '\r' ∉ line) →
        ∀ part ∈ lines.intersperse (text "\n"), cp '\r' ∉ part := by
      intro lines clean
      induction lines with
      | nil => simp
      | cons line lines ih =>
        cases lines with
        | nil => simpa using clean
        | cons next lines =>
          intro part mem
          rw [List.intersperse_cons_cons, List.mem_cons, List.mem_cons] at mem
          rcases mem with rfl | rfl | mem
          · exact clean _ (by simp)
          · decide
          · exact ih (fun line mem => clean line (by simp [List.mem_cons.1 mem])) part mem
    exact parts (fun line mem => visible_ne (fieldLine_visible doc line mem) (by decide)) part
      memPart mem
  have opener : cp '\r' ∉ text "---\n" := by decide
  have closer : cp '\r' ∉ text "\n---" := by decide
  unfold renderFrontmatter
  simp only [List.mem_append, not_or]
  exact ⟨⟨opener, lines⟩, closer⟩

end EvoBlue.Source
