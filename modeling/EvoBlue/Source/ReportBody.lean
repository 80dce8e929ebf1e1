import EvoBlue.Kernel.LineEnds
import EvoBlue.Source.ReportReading

/-!
# The body of a rendered report

The lines the reader sees in a rendered body: the title line, then each section under its
heading. Reading them opens a section at every heading line, wherever it comes from.
-/

namespace EvoBlue.Source

open EvoBlue.Kernel

/-- The lines of a text. -/
def linesOf (t : Text) : List Text := t.splitOn (cp '\n')

def heading : Section → Text
  | .coreSummary => text "## 核心摘要"
  | .keyTakeaways => text "## 核心收获"
  | .timelineOutline => text "## 时间轴大纲"
  | .contentAnalysis => text "## 内容分析"
  | .commentSentiment => text "## 评论风向"
  | .videoInformation => text "## 视频信息"
  | .link => text "## 原始链接"
  | .transcript => text "## 完整字幕"

/-- A line at which the reader opens a section. -/
def isHeading (line : Text) : Bool := sectionHeadings.any fun entry => entry.1 = line

/-! ## What is written -/

/-- The bulleted text of a document. -/
def takeawayText (doc : ReportDocument) : Text :=
  (text "\n").intercalate (doc.keyTakeaways.map fun item => text "- " ++ item)

/-- A section that is written unless it is empty. -/
def block (found : Section) (content : Text) : List (Section × Text) :=
  if content = [] then [] else [(found, content)]

/-- The sections of a document, in emission order. -/
def sectionBlocks (doc : ReportDocument) : List (Section × Text) :=
  block .coreSummary doc.coreSummary ++ block .keyTakeaways (takeawayText doc) ++
    block .timelineOutline doc.timelineOutline ++ block .contentAnalysis doc.contentAnalysis ++
    block .commentSentiment doc.commentSentiment ++ block .videoInformation doc.videoInformation ++
    [(.link, doc.sourceUrl)] ++ block .transcript (doc.transcript.getD [])

def blockText (section_ : Section × Text) : Text := heading section_.1 ++ text "\n\n" ++ section_.2

/-- A section as the reader sees it, up to the heading after it. -/
def blockLines (section_ : Section × Text) : List Text :=
  heading section_.1 :: [] :: (linesOf (unixBlock section_.2) ++ [[]])

/-- The lines of a rendered body. -/
def bodyLines (doc : ReportDocument) : List Text :=
  [] :: (linesOf (unixBlock (text "# " ++ doc.title)) ++ [[]]) ++
    (sectionBlocks doc).flatMap blockLines

variable {doc : ReportDocument}

theorem heading_plain (found : Section) :
    cp '\r' ∉ heading found ∧ cp '\n' ∉ heading found ∧ heading found ≠ [] := by
  cases found <;> decide

theorem find_heading (found : Section) :
    (sectionHeadings.find? fun entry => entry.1 = heading found) = some (heading found, found) := by
  cases found <;> decide

theorem heading_isHeading (found : Section) : isHeading (heading found) = true := by
  cases found <;> decide

theorem find_of_not_heading {line : Text} (other : isHeading line = false) :
    (sectionHeadings.find? fun entry => entry.1 = line) = none := by
  unfold isHeading at other
  rw [List.any_eq_false] at other
  rw [List.find?_eq_none]
  exact other

theorem map_blockText_block (spelled : String) (found : Section) (content : Text)
    (same : text spelled = heading found) :
    renderSection spelled content = (block found content).map blockText := by
  unfold renderSection block blockText
  rw [same]
  split
  · rfl
  · rfl

theorem renderSections_eq (doc : ReportDocument) : renderSections doc =
    (text "\n\n").intercalate ((text "# " ++ doc.title) :: (sectionBlocks doc).map blockText) := by
  have link : text "## 原始链接\n\n" ++ doc.sourceUrl = blockText (.link, doc.sourceUrl) := by
    have split : text "## 原始链接\n\n" = heading .link ++ text "\n\n" := by decide
    rw [split]
    rfl
  unfold renderSections sectionBlocks
  rw [link, map_blockText_block _ .coreSummary _ rfl, map_blockText_block _ .keyTakeaways _ rfl,
    map_blockText_block _ .timelineOutline _ rfl, map_blockText_block _ .contentAnalysis _ rfl,
    map_blockText_block _ .commentSentiment _ rfl, map_blockText_block _ .videoInformation _ rfl,
    map_blockText_block _ .transcript _ rfl]
  simp only [List.map_append, List.map_cons, List.append_assoc, List.cons_append, List.nil_append]
  rfl

/-! ## Its lines -/

theorem linesOf_break (front rest : Text) :
    linesOf (front ++ cp '\n' :: rest) = linesOf front ++ linesOf rest :=
  List.splitOn_append_cons_self front rest

theorem linesOf_plain {line : Text} (clean : cp '\n' ∉ line) : linesOf line = [line] :=
  List.splitOn_eq_singleton clean

/-- Parts with a blank line between them, and a line feed behind the last. -/
theorem linesOf_parts {parts : List Text} (some_ : parts ≠ []) :
    linesOf (unixLines ((text "\n\n").intercalate parts ++ text "\n")) =
      parts.flatMap fun part => linesOf (unixBlock part) ++ [[]] := by
  have twice : text "\n\n" = [cp '\n', cp '\n'] := by decide
  have feed : text "\n" = [cp '\n'] := by decide
  have start (t : Text) : unixLines (cp '\n' :: t) = cp '\n' :: unixLines t := unixLines_break [] t
  rw [twice, feed]
  induction parts with
  | nil => exact absurd rfl some_
  | cons part parts ih =>
    cases parts with
    | nil =>
      rw [List.intercalate_singleton, unixLines_break, linesOf_break, List.flatMap_singleton]
      rfl
    | cons next parts =>
      have later := ih (List.cons_ne_nil next parts)
      have whole : [cp '\n', cp '\n'].intercalate (part :: next :: parts) ++ [cp '\n'] =
          part ++ cp '\n' :: cp '\n' ::
            ([cp '\n', cp '\n'].intercalate (next :: parts) ++ [cp '\n']) := by
        simp
      have blankLine (t : Text) : linesOf (cp '\n' :: t) = [] :: linesOf t := linesOf_break [] t
      rw [whole, unixLines_break, start, linesOf_break, blankLine, later, List.flatMap_cons]
      simp

theorem linesOf_blockText (section_ : Section × Text) :
    linesOf (unixBlock (blockText section_)) ++ [[]] = blockLines section_ := by
  obtain ⟨found, content⟩ := section_
  obtain ⟨carriage, feed, _⟩ := heading_plain found
  have twice : text "\n\n" = [cp '\n', cp '\n'] := by decide
  have whole : blockText (found, content) = heading found ++ cp '\n' :: cp '\n' :: content := by
    simp [blockText, twice]
  have start (t : Text) : unixBlock (cp '\n' :: t) = cp '\n' :: unixBlock t := unixBlock_break [] t
  have blankLine (t : Text) : linesOf (cp '\n' :: t) = [] :: linesOf t := linesOf_break [] t
  unfold blockLines
  rw [whole, unixBlock_plain carriage, start, start, linesOf_break, linesOf_plain feed, blankLine]
  rfl

/-- The reader sees the title line and the sections. -/
theorem linesOf_renderedBody (doc : ReportDocument) :
    linesOf (unixLines (renderedBody doc)) = bodyLines doc := by
  have feed : text "\n" = [cp '\n'] := by decide
  have front (t : Text) : linesOf (unixLines (text "\n" ++ t)) = [] :: linesOf (unixLines t) := by
    rw [feed, List.singleton_append]
    have start : unixLines (cp '\n' :: t) = cp '\n' :: unixLines t := unixLines_break [] t
    rw [start]
    exact linesOf_break [] _
  unfold renderedBody bodyLines
  rw [List.append_assoc, front, renderSections_eq, linesOf_parts (List.cons_ne_nil _ _),
    List.flatMap_cons, List.flatMap_map]
  simp only [linesOf_blockText, List.cons_append]

/-! ## Reading them -/

theorem SectionScan.line_heading (scan : SectionScan) (found : Section) :
    scan.line (heading found) =
      { current := some found
        chunks := fun other => if other = found then some [] else scan.chunks other } := by
  unfold SectionScan.line
  rw [find_heading]

theorem SectionScan.line_other (scan : SectionScan) {line : Text} (other : isHeading line = false) :
    scan.line line =
      match scan.current with
      | none => scan
      | some found =>
        { scan with
          chunks := fun other =>
            if other = found then (scan.chunks other).map (· ++ [line]) else scan.chunks other } := by
  have unnamed := find_of_not_heading other
  cases current : scan.current with
  | none => simp only [SectionScan.line, unnamed, current]
  | some found => simp only [SectionScan.line, unnamed, current]

/-- A section whose heading has occurred stays. -/
theorem SectionScan.line_present {scan : SectionScan} {found : Section} (line : Text)
    (present : scan.present found = true) : (scan.line line).present found = true := by
  unfold SectionScan.present at present ⊢
  cases spelled : isHeading line with
  | true =>
    unfold isHeading at spelled
    rw [List.any_eq_true] at spelled
    obtain ⟨entry, mem, same⟩ := spelled
    have known : ∀ entry ∈ sectionHeadings, entry.1 = heading entry.2 := by decide
    rw [← of_decide_eq_true same, known entry mem, line_heading]
    dsimp only
    split
    · rfl
    · exact present
  | false =>
    rw [line_other scan spelled]
    split
    · exact present
    · dsimp only
      split
      · rw [Option.isSome_map]
        exact present
      · exact present

theorem SectionScan.fold_present {scan : SectionScan} {found : Section} (lines : List Text)
    (present : scan.present found = true) :
    (lines.foldl SectionScan.line scan).present found = true := by
  induction lines generalizing scan with
  | nil => exact present
  | cons line lines ih => exact ih (scan.line_present line present)

/-- Every heading among the lines opens its section. -/
theorem SectionScan.fold_heading {scan : SectionScan} {found : Section} {lines : List Text}
    (mem : heading found ∈ lines) : (lines.foldl SectionScan.line scan).present found = true := by
  obtain ⟨before, after, rfl⟩ := List.append_of_mem mem
  rw [List.foldl_append, List.foldl_cons]
  apply SectionScan.fold_present
  unfold SectionScan.present
  rw [line_heading]
  simp

/-- What the reader makes of a rendered body. -/
def bodyScan (doc : ReportDocument) : SectionScan := (bodyLines doc).foldl SectionScan.line {}

theorem parseSections_rendered (doc : ReportDocument) :
    parseSections (unixLines (renderedBody doc)) = bodyScan doc := by
  have lines := linesOf_renderedBody doc
  unfold linesOf at lines
  unfold parseSections bodyScan
  rw [lines]

theorem bodyScan_link (doc : ReportDocument) : (bodyScan doc).present .link = true := by
  apply SectionScan.fold_heading
  have mem : ((.link, doc.sourceUrl) : Section × Text) ∈ sectionBlocks doc := by
    simp [sectionBlocks]
  unfold bodyLines
  rw [List.mem_append]
  exact .inr (List.mem_flatMap.2 ⟨_, mem, List.mem_cons_self⟩)

/-! ## The title line -/

/-- A text on one line. -/
def singleLine (t : Text) : Bool := t.all fun c => c ≠ cp '\n' ∧ c ≠ cp '\r'

theorem singleLine_iff {t : Text} : singleLine t = true ↔ cp '\n' ∉ t ∧ cp '\r' ∉ t := by
  unfold singleLine
  rw [List.all_eq_true]
  constructor
  · intro clean
    constructor
    · intro mem
      exact (of_decide_eq_true (clean _ mem)).1 rfl
    · intro mem
      exact (of_decide_eq_true (clean _ mem)).2 rfl
  · intro clean c mem
    rw [decide_eq_true_eq]
    constructor
    · rintro rfl
      exact clean.1 mem
    · rintro rfl
      exact clean.2 mem

theorem mem_of_linesOf {t line : Text} (mem : line ∈ linesOf t) {c : CodePoint} (inside : c ∈ line) :
    c ∈ t := by
  have whole : [cp '\n'].intercalate (linesOf t) = t := List.intercalate_splitOn _
  rw [← whole]
  revert mem
  generalize linesOf t = lines
  intro mem
  induction lines with
  | nil => cases mem
  | cons first lines ih =>
    cases lines with
    | nil =>
      rw [List.mem_singleton] at mem
      rw [List.intercalate_singleton, ← mem]
      exact inside
    | cons next lines =>
      rw [List.intercalate_cons_cons, List.mem_append, List.mem_append]
      rcases List.mem_cons.1 mem with rfl | later
      · exact .inl (.inl inside)
      · exact .inr (ih later)

/-- The first line that is not blank is the title line, as far as it goes on one line. -/
theorem firstBodyLine_rendered (doc : ReportDocument) :
    firstBodyLine (unixLines (renderedBody doc)) = text "# " ++ doc.title ↔
      singleLine doc.title = true := by
  have mark : text "# " = [cp '#', cp ' '] := by decide
  have lines := linesOf_renderedBody doc
  unfold linesOf at lines
  have clean : cp '\r' ∉ text "# " := by decide
  obtain ⟨first, others, titles⟩ : ∃ first others,
      linesOf (unixBlock (text "# " ++ doc.title)) = first :: others :=
    List.exists_cons_of_ne_nil (List.splitOn_ne_nil _ _)
  -- the line begins with the mark, which is no blank
  have begins : ∃ rest, first = cp '#' :: rest := by
    have whole : [cp '\n'].intercalate (first :: others) = unixBlock (text "# " ++ doc.title) := by
      rw [← titles]
      exact List.intercalate_splitOn _
    have free : cp '\n' ∉ first := by
      apply @not_mem_of_mem_splitOn _ _ (cp '\n') (unixBlock (text "# " ++ doc.title))
      have mem : first ∈ linesOf (unixBlock (text "# " ++ doc.title)) := by
        rw [titles]
        exact List.mem_cons_self
      exact mem
    rw [unixBlock_plain clean, mark] at whole
    have apart : cp '\n' ≠ cp '#' := by decide
    cases first with
    | nil =>
      cases others with
      | nil => cases whole
      | cons next others =>
        rw [List.intercalate_cons_cons] at whole
        exact absurd (List.cons.inj whole).1 apart
    | cons c first =>
      cases others with
      | nil =>
        rw [List.intercalate_singleton] at whole
        exact ⟨first, by rw [(List.cons.inj whole).1]⟩
      | cons next others =>
        rw [List.intercalate_cons_cons] at whole
        exact ⟨first, by rw [(List.cons.inj whole).1]⟩
  have found : firstBodyLine (unixLines (renderedBody doc)) = first := by
    obtain ⟨rest, rfl⟩ := begins
    have seen : strip (cp '#' :: rest) ≠ [] := strip_ne_nil List.mem_cons_self (by decide)
    unfold firstBodyLine
    rw [lines]
    unfold bodyLines
    rw [titles]
    simp only [List.cons_append, List.find?_cons]
    rw [decide_eq_true seen]
    rfl
  rw [found, singleLine_iff]
  constructor
  · intro same
    have mem : first ∈ linesOf (unixBlock (text "# " ++ doc.title)) := by
      rw [titles]
      exact List.mem_cons_self
    constructor
    · intro inside
      have free := not_mem_of_mem_splitOn mem
      rw [same] at free
      exact free (List.mem_append_right _ inside)
    · intro inside
      have there : cp '\r' ∈ first := by
        rw [same]
        exact List.mem_append_right _ inside
      exact unixBlock_noCarriage _ (mem_of_linesOf mem there)
  · intro single
    have whole : cp '\r' ∉ text "# " ++ doc.title ∧ cp '\n' ∉ text "# " ++ doc.title := by
      rw [List.mem_append, List.mem_append, not_or, not_or]
      exact ⟨⟨clean, single.2⟩, by decide, single.1⟩
    have same : unixBlock (text "# " ++ doc.title) = text "# " ++ doc.title := by
      have plain := unixBlock_plain whole.1 []
      rw [List.append_nil] at plain
      rw [plain]
      exact List.append_nil _
    rw [same, linesOf_plain whole.2] at titles
    exact (List.cons.inj titles).1.symm

/-! ## The reader's answer -/

/-- What the reader returns for a rendered report it accepts. -/
def reportReadBack (doc : ReportDocument) : ParsedReport where
  schemaVersion := schemaVersion
  analysisId := doc.analysisId
  sourceUrl := doc.sourceUrl
  platform := doc.platform
  videoId := doc.videoId
  title := doc.title
  author := doc.author
  publishedAt := doc.publishedAt.map DateTime.readAgain
  analyzedAt := doc.analyzedAt.readAgain
  summaryMode := doc.summaryMode
  language := doc.language
  asrProvider := doc.asrProvider
  asrModel := doc.asrModel
  asrModelVersion := doc.asrModelVersion
  tags := doc.tags
  coreSummary := (bodyScan doc).content .coreSummary
  keyTakeaways := bulletItems ((bodyScan doc).content .keyTakeaways)
  timelineOutline := (bodyScan doc).content .timelineOutline
  contentAnalysis := (bodyScan doc).content .contentAnalysis
  commentSentiment := (bodyScan doc).content .commentSentiment
  videoInformation := (bodyScan doc).content .videoInformation
  transcript :=
    if (bodyScan doc).content .transcript = [] then none
    else some ((bodyScan doc).content .transcript)
  hasAnalysisContent := analysisSections.any fun found => (bodyScan doc).content found ≠ []

theorem normalizedLines_rendered (doc : ReportDocument) :
    normalizedLines (renderMarkdown doc) =
      renderFrontmatter doc ++ text "\n" ++ unixLines (renderedBody doc) := by
  have front : cp '\r' ∉ renderFrontmatter doc ++ text "\n" := by
    rw [List.mem_append, not_or]
    exact ⟨renderFrontmatter_noCarriage doc, by decide⟩
  unfold normalizedLines
  rw [replaceAll_unix, renderMarkdown_eq, unixLines_plain front]

theorem parse_rendered {env : ReaderEnv} (deep : 0 < env.jsonDepth) {doc : ReportDocument}
    (http : IsHttpUrl doc.sourceUrl) (lowercase : doc.platform = lower env.unicode doc.platform) :
    parseMarkdownReport env (normalizedLines (renderMarkdown doc)) =
      if singleLine doc.title then .ok (reportReadBack doc)
      else .error (.markdown .bodyStructureInvalid) := by
  have back := @readsBack_rendered env doc deep
  have fields := parseFrontmatter_rendered doc
  have split := splitFrontmatter_rendered doc (unixLines (renderedBody doc))
  have title := firstBodyLine_rendered doc
  obtain ⟨parts, spelled, absolute⟩ := urlsplit_httpUrl env.unicode http
  have url : doc.sourceUrl ≠ [] := by
    obtain ⟨scheme, _, _, spelling⟩ := http
    rw [spelling.whole]
    rcases spelling.scheme with rfl | rfl
    · exact List.cons_ne_nil _ _
    · exact List.cons_ne_nil _ _
  have named : (decide (doc.analysisId ≠ []) && decide (doc.sourceUrl ≠ []) &&
      decide (doc.platform ≠ []) && decide (doc.videoId ≠ []) && decide (doc.title ≠ [])) = true := by
    simp [doc.named, url]
  have checked : requireHttpUrl env doc.sourceUrl = .ok () := by
    unfold requireHttpUrl
    rw [spelled]
    dsimp only
    rw [absolute]
    rfl
  have lower_ : decide (doc.platform = lower env.unicode doc.platform) = true := decide_eq_true lowercase
  have mode : doc.summaryMode ≠ [] ∧ summaryModes.contains doc.summaryMode = true := by
    constructor
    · intro empty
      have known := doc.known
      rw [empty] at known
      exact absurd known (by decide)
    · exact List.contains_iff_mem.2 doc.known
  have passed (error : ReadError) : require true error = .ok () := rfl
  unfold parseMarkdownReport
  rw [normalizedLines_rendered, split]
  simp only [bind, Except.bind, fields, parseSections_rendered, back.version, back.analysisId,
    back.sourceUrl, back.platform, back.videoId, back.title, back.summaryMode, back.author,
    back.language, back.asrProvider, back.asrModel, back.asrModelVersion, named, passed, checked,
    lower_]
  by_cases single : singleLine doc.title = true
  · rw [if_pos single, decide_eq_true (title.2 single)]
    simp only [passed, bodyScan_link, mode.2, decide_eq_true mode.1, back.tags, back.publishedAt,
      back.analyzedAt]
    rfl
  · rw [if_neg single, decide_eq_false (mt title.1 single)]
    rfl

theorem rendered_noMark {doc : ReportDocument} {content : Bytes}
    (encoded : encodeUtf8 (renderMarkdown doc) = some content) :
    [0xef, 0xbb, 0xbf].isPrefixOf content = false := by
  obtain ⟨rest, spelled⟩ : ∃ rest, renderMarkdown doc = cp '-' :: rest := ⟨_, rfl⟩
  unfold encodeUtf8 at encoded
  split at encoded
  next =>
    cases encoded
    rw [spelled, List.flatMap_cons]
    rfl
  next => cases encoded

/-- What the reader says of the bytes of a rendered report. -/
theorem decode_rendered {env : ReaderEnv} (deep : 0 < env.jsonDepth) {doc : ReportDocument}
    (http : IsHttpUrl doc.sourceUrl) (lowercase : doc.platform = lower env.unicode doc.platform)
    {content : Bytes} (encoded : encodeUtf8 (renderMarkdown doc) = some content) :
    decodeReportBytes env content =
      if singleLine doc.title then .ok (reportReadBack doc)
      else .error (.markdown .bodyStructureInvalid) := by
  unfold decodeReportBytes
  rw [rendered_noMark encoded, decode_of_encode encoded]
  exact parse_rendered deep http lowercase

end EvoBlue.Source
