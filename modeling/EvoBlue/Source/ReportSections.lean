import EvoBlue.Source.ReportBody

/-!
# The sections of a rendered report

Where no text holds a heading line, every section is read with the text the document has
for it. The sections of an accepted report are those its lines make.
-/

namespace EvoBlue.Source

open EvoBlue.Kernel

/-! ## Section by section -/

/-- Lines that are no headings belong to the section that is open. -/
theorem SectionScan.fold_other {scan : SectionScan} {found : Section} {chunk : List Text}
    (current : scan.current = some found) (opened : scan.chunks found = some chunk)
    {lines : List Text} (other : ∀ line ∈ lines, isHeading line = false) :
    lines.foldl SectionScan.line scan =
      { current := some found
        chunks := fun section_ =>
          if section_ = found then some (chunk ++ lines) else scan.chunks section_ } := by
  induction lines generalizing scan chunk with
  | nil =>
    obtain ⟨open_, chunks⟩ := scan
    obtain rfl : open_ = some found := current
    rw [List.foldl_nil, List.append_nil]
    congr 1
    funext section_
    split
    next same => rw [same, ← opened]
    next => rfl
  | cons line lines ih =>
    have step := scan.line_other (other line List.mem_cons_self)
    rw [current] at step
    dsimp only at step
    have grown : (scan.line line).chunks found = some (chunk ++ [line]) := by
      rw [step]
      dsimp only
      rw [if_pos rfl, opened]
      rfl
    have still : (scan.line line).current = some found := by
      rw [step]
    rw [List.foldl_cons, ih still grown fun line mem => other line (List.mem_cons_of_mem _ mem)]
    congr 1
    funext section_
    rw [step]
    dsimp only
    split
    next => rw [List.append_assoc, List.singleton_append]
    next => rfl

theorem isHeading_nil : isHeading [] = false := by decide

/-- A section whose text holds no heading line is read as a whole. -/
theorem SectionScan.fold_block (scan : SectionScan) {section_ : Section × Text}
    (other : ∀ line ∈ linesOf (unixBlock section_.2), isHeading line = false) :
    (blockLines section_).foldl SectionScan.line scan =
      { current := some section_.1
        chunks := fun found =>
          if found = section_.1 then some ([] :: (linesOf (unixBlock section_.2) ++ [[]]))
          else scan.chunks found } := by
  have lines : ∀ line ∈ [] :: (linesOf (unixBlock section_.2) ++ [[]]), isHeading line = false := by
    intro line mem
    rcases List.mem_cons.1 mem with rfl | mem
    · exact isHeading_nil
    rcases List.mem_append.1 mem with mem | mem
    · exact other line mem
    · rw [List.mem_singleton.1 mem]
      exact isHeading_nil
  have opened : (scan.line (heading section_.1)).chunks section_.1 = some [] := by
    rw [line_heading]
    exact if_pos rfl
  have current : (scan.line (heading section_.1)).current = some section_.1 := by
    rw [line_heading]
  unfold blockLines
  rw [List.foldl_cons, fold_other current opened lines, line_heading]
  congr 1
  funext found
  dsimp only
  split
  · rfl
  · rfl

/-- Sections that hold no heading lines are read one by one. -/
theorem SectionScan.fold_blocks {sections : List (Section × Text)}
    (distinct : (sections.map (·.1)).Nodup)
    (other : ∀ section_ ∈ sections, ∀ line ∈ linesOf (unixBlock section_.2), isHeading line = false)
    (scan : SectionScan) (found : Section) :
    ((sections.flatMap blockLines).foldl SectionScan.line scan).chunks found =
      match sections.find? fun section_ => section_.1 = found with
      | some section_ => some ([] :: (linesOf (unixBlock section_.2) ++ [[]]))
      | none => scan.chunks found := by
  induction sections generalizing scan with
  | nil => rfl
  | cons first sections ih =>
    rw [List.map_cons, List.nodup_cons] at distinct
    rw [List.flatMap_cons, List.foldl_append, scan.fold_block (other first List.mem_cons_self),
      ih distinct.2 (fun section_ mem => other section_ (List.mem_cons_of_mem _ mem)),
      List.find?_cons]
    by_cases same : first.1 = found
    · have absent : (sections.find? fun section_ => section_.1 = found) = none := by
        rw [List.find?_eq_none]
        intro section_ mem there
        have named : section_.1 = found := of_decide_eq_true there
        exact distinct.1 (same ▸ named ▸ List.mem_map_of_mem mem)
      rw [absent, decide_eq_true same]
      exact if_pos same.symm
    · rw [decide_eq_false same]
      dsimp only
      rw [if_neg (Ne.symm same)]

/-! ## The texts of a document -/

/-- The text a document has for a section. -/
def sectionText (doc : ReportDocument) : Section → Text
  | .coreSummary => doc.coreSummary
  | .keyTakeaways => takeawayText doc
  | .timelineOutline => doc.timelineOutline
  | .contentAnalysis => doc.contentAnalysis
  | .commentSentiment => doc.commentSentiment
  | .videoInformation => doc.videoInformation
  | .link => doc.sourceUrl
  | .transcript => doc.transcript.getD []

def emissionOrder : List Section := sectionHeadings.map (·.2)

theorem mem_emissionOrder (found : Section) : found ∈ emissionOrder := by
  cases found <;> decide

theorem sectionBlocks_eq {doc : ReportDocument} (url : doc.sourceUrl ≠ []) :
    sectionBlocks doc =
      (emissionOrder.filter fun found => sectionText doc found ≠ []).map fun found =>
        (found, sectionText doc found) := by
  have written (found : Section) : block found (sectionText doc found) =
      ([found].filter fun found => sectionText doc found ≠ []).map fun found =>
        (found, sectionText doc found) := by
    unfold block
    by_cases empty : sectionText doc found = []
    · simp [empty]
    · simp [empty]
  have link : [((.link, doc.sourceUrl) : Section × Text)] = block .link (sectionText doc .link) := by
    unfold block
    rw [if_neg (show sectionText doc .link ≠ [] from url)]
    rfl
  have order : emissionOrder = [.coreSummary] ++ [.keyTakeaways] ++ [.timelineOutline] ++
      [.contentAnalysis] ++ [.commentSentiment] ++ [.videoInformation] ++ [.link] ++
      [.transcript] := rfl
  rw [order]
  simp only [List.filter_append, List.map_append]
  rw [← written, ← written, ← written, ← written, ← written, ← written, ← written, ← written,
    ← link]
  rfl

theorem sectionBlocks_distinct {doc : ReportDocument} (url : doc.sourceUrl ≠ []) :
    ((sectionBlocks doc).map (·.1)).Nodup := by
  rw [sectionBlocks_eq url, List.map_map]
  have names : ((·.1) ∘ fun found => (found, sectionText doc found) : Section → Section) = id := rfl
  have order : emissionOrder.Nodup := by decide
  rw [names, List.map_id]
  exact order.filter _

theorem find_sectionBlocks {doc : ReportDocument} (url : doc.sourceUrl ≠ []) (found : Section) :
    ((sectionBlocks doc).find? fun section_ => section_.1 = found) =
      if sectionText doc found = [] then none else some (found, sectionText doc found) := by
  rw [sectionBlocks_eq url]
  split
  next empty =>
    rw [List.find?_eq_none]
    intro section_ mem there
    obtain ⟨other, kept, rfl⟩ := List.mem_map.1 mem
    have same : other = found := of_decide_eq_true there
    have filled := of_decide_eq_true (List.mem_filter.1 kept).2
    exact filled (same ▸ empty)
  next filled =>
    have kept : found ∈ emissionOrder.filter fun found => sectionText doc found ≠ [] :=
      List.mem_filter.2 ⟨mem_emissionOrder found, decide_eq_true filled⟩
    have there := List.mem_map_of_mem (f := fun found => (found, sectionText doc found)) kept
    cases first : ((emissionOrder.filter fun found => sectionText doc found ≠ []).map fun found =>
        (found, sectionText doc found)).find? fun section_ => section_.1 = found with
    | none => exact absurd (decide_eq_true rfl) (List.find?_eq_none.1 first _ there)
    | some section_ =>
      have named := List.find?_some first
      have same : section_.1 = found := of_decide_eq_true named
      obtain ⟨other, _, rfl⟩ := List.mem_map.1 (List.mem_of_find?_eq_some first)
      rw [show other = found from same]

/-- The title line opens no section. -/
theorem bodyScan_eq {doc : ReportDocument} (single : singleLine doc.title = true) :
    bodyScan doc = ((sectionBlocks doc).flatMap blockLines).foldl SectionScan.line {} := by
  obtain ⟨feed, carriage⟩ := singleLine_iff.1 single
  have mark : text "# " = [cp '#', cp ' '] := by decide
  have clean : cp '\r' ∉ text "# " ++ doc.title ∧ cp '\n' ∉ text "# " ++ doc.title := by
    rw [List.mem_append, List.mem_append, not_or, not_or]
    exact ⟨⟨by decide, carriage⟩, by decide, feed⟩
  have same : unixBlock (text "# " ++ doc.title) = text "# " ++ doc.title := by
    have plain := unixBlock_plain clean.1 []
    rw [List.append_nil] at plain
    rw [plain]
    exact List.append_nil _
  have title : isHeading (text "# " ++ doc.title) = false := by
    have second : ∀ entry ∈ sectionHeadings, entry.1[1]? = some (cp '#') := by decide
    unfold isHeading
    rw [List.any_eq_false]
    intro entry mem there
    have spelled : entry.1 = text "# " ++ doc.title := of_decide_eq_true there
    have letter := second entry mem
    rw [spelled, mark] at letter
    exact absurd letter (by simp; decide)
  have kept {line : Text} (other : isHeading line = false) :
      SectionScan.line {} line = {} := by
    rw [SectionScan.line_other _ other]
  unfold bodyScan bodyLines
  rw [same, linesOf_plain clean.2]
  simp only [List.foldl_append, List.foldl_cons, List.foldl_nil, kept isHeading_nil, kept title]

theorem strip_chunk (t : Text) :
    strip ([cp '\n'].intercalate ([] :: (linesOf (unixBlock t) ++ [[]]))) = strip (unixLines t) := by
  have feed : blank [cp '\n'] = true := by decide
  have lines : linesOf ([cp '\n'] ++ unixBlock t ++ [cp '\n']) =
      [] :: (linesOf (unixBlock t) ++ [[]]) := by
    have front := linesOf_break [] (unixBlock t ++ [cp '\n'])
    have back := linesOf_break (unixBlock t) []
    rw [List.append_assoc]
    exact front.trans (congrArg _ back)
  have around : [cp '\n'].intercalate ([] :: (linesOf (unixBlock t) ++ [[]])) =
      [cp '\n'] ++ unixBlock t ++ [cp '\n'] := by
    rw [← lines]
    exact List.intercalate_splitOn _
  rw [around, strip_between feed feed, strip_unixLines]

/-- Without heading lines in its texts, a document's sections are read as they are. -/
theorem content_rendered {doc : ReportDocument} (url : doc.sourceUrl ≠ [])
    (single : singleLine doc.title = true)
    (other : ∀ found, ∀ line ∈ linesOf (unixBlock (sectionText doc found)), isHeading line = false)
    (found : Section) :
    (bodyScan doc).content found = strip (unixLines (sectionText doc found)) := by
  have texts : ∀ section_ ∈ sectionBlocks doc, section_.2 = sectionText doc section_.1 := by
    intro section_ mem
    rw [sectionBlocks_eq url] at mem
    obtain ⟨other, _, rfl⟩ := List.mem_map.1 mem
    rfl
  have chunk := SectionScan.fold_blocks (sectionBlocks_distinct url)
    (fun section_ mem => texts section_ mem ▸ other section_.1) {} found
  rw [find_sectionBlocks url] at chunk
  unfold SectionScan.content
  rw [bodyScan_eq single, chunk]
  by_cases empty : sectionText doc found = []
  · rw [if_pos empty, empty]
    rfl
  · rw [if_neg empty]
    exact strip_chunk _

/-! ## The sections of an accepted report -/

/-- A report has its sections from this scan. -/
structure ReadsSections (scan : SectionScan) (parsed : ParsedReport) : Prop where
  coreSummary : parsed.coreSummary = scan.content .coreSummary
  keyTakeaways : parsed.keyTakeaways = bulletItems (scan.content .keyTakeaways)
  timelineOutline : parsed.timelineOutline = scan.content .timelineOutline
  contentAnalysis : parsed.contentAnalysis = scan.content .contentAnalysis
  commentSentiment : parsed.commentSentiment = scan.content .commentSentiment
  videoInformation : parsed.videoInformation = scan.content .videoInformation
  transcript : parsed.transcript.getD [] = scan.content .transcript

theorem parseMarkdownReport_sections {env : ReaderEnv} {whole : Text} {parsed : ParsedReport}
    (read : parseMarkdownReport env whole = .ok parsed) :
    ∃ block body, splitFrontmatter whole = .ok (block, body) ∧
      ReadsSections (parseSections body) parsed := by
  unfold parseMarkdownReport at read
  obtain ⟨⟨block, body⟩, split_, read⟩ := bind_ok read
  obtain ⟨fields, _, read⟩ := bind_ok read
  -- the version and the eleven strings
  iterate 12 obtain ⟨_, _, read⟩ := bind_ok read
  -- the checks
  iterate 7 obtain ⟨_, _, read⟩ := bind_ok read
  -- the tags and the two datetimes
  iterate 3 obtain ⟨_, _, read⟩ := bind_ok read
  split at read
  next => cases read
  next =>
    cases read
    refine ⟨block, body, split_, rfl, rfl, rfl, rfl, rfl, rfl, ?_⟩
    dsimp only
    split
    next empty => exact empty.symm
    next => rfl

/-- An accepted report has its title on one line, and its sections from the rendered lines. -/
theorem accepted_rendered {env : ReaderEnv} {doc : ReportDocument} {content : Bytes}
    {parsed : ParsedReport} (encoded : encodeUtf8 (renderMarkdown doc) = some content)
    (read : decodeReportBytes env content = .ok parsed) :
    singleLine doc.title = true ∧ ReadsSections (bodyScan doc) parsed := by
  have noMark := rendered_noMark encoded
  unfold decodeReportBytes at read
  rw [noMark, decode_of_encode encoded] at read
  have parsed_ : parseMarkdownReport env (normalizedLines (renderMarkdown doc)) = .ok parsed := read
  have split := splitFrontmatter_rendered doc (unixLines (renderedBody doc))
  rw [← normalizedLines_rendered] at split
  constructor
  · obtain ⟨block, body, fields, split', fieldsRead, _, titleRead, first⟩ :=
      (parseMarkdownReport_ok parsed_).fields
    rw [split] at split'
    cases split'
    rw [parseFrontmatter_rendered] at fieldsRead
    cases fieldsRead
    have title := @jsonStr_rendered env doc "title" doc.title (by simp [frontmatterFields])
    rw [title] at titleRead
    rw [← Except.ok.inj titleRead] at first
    exact (firstBodyLine_rendered doc).1 first
  · obtain ⟨block, body, split', sections⟩ := parseMarkdownReport_sections parsed_
    rw [split] at split'
    cases split'
    rw [parseSections_rendered] at sections
    exact sections

end EvoBlue.Source
