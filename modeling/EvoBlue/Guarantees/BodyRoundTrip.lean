import EvoBlue.Guarantees.RenderedReports
import EvoBlue.Source.ReportBullets
import EvoBlue.Source.ReportSections
import Mathlib.Algebra.BigOperators.Group.List.Basic
import Mathlib.Algebra.Order.BigOperators.Group.List

/-!
# When a rendered body is read back

What the reader keeps of the sections weighs no more than the lines that are no headings.
A heading line in a section's text is therefore lost, wherever it sends what follows it;
and without one the texts come back, and the list of takeaways if its items are plain.
-/

namespace EvoBlue.Guarantees

open EvoBlue.Kernel EvoBlue.Source

/-- The parsed texts and items are the document's own, up to line ends and the blanks around. -/
structure BodyKept (doc : ReportDocument) (parsed : ParsedReport) : Prop where
  coreSummary : strip parsed.coreSummary = strip (unixLines doc.coreSummary)
  timelineOutline : strip parsed.timelineOutline = strip (unixLines doc.timelineOutline)
  contentAnalysis : strip parsed.contentAnalysis = strip (unixLines doc.contentAnalysis)
  commentSentiment : strip parsed.commentSentiment = strip (unixLines doc.commentSentiment)
  videoInformation : strip parsed.videoInformation = strip (unixLines doc.videoInformation)
  transcript : strip (parsed.transcript.getD []) = strip (unixLines (doc.transcript.getD []))
  keyTakeaways : parsed.keyTakeaways.map strip = doc.keyTakeaways.map fun item => strip (unixLines item)

/-- No text holds a heading line, no takeaway goes on over a line end, and the last one is
not blank. -/
structure PlainBody (doc : ReportDocument) : Prop where
  texts : ∀ found, found ≠ .keyTakeaways → found ≠ .link →
    ∀ line ∈ linesOf (unixLines (sectionText doc found)), isHeading line = false
  items : ∀ item ∈ doc.keyTakeaways, blank (laterLines (unixLines item)) = true
  last : ∀ item ∈ doc.keyTakeaways.getLast?, blank item = false

variable {doc : ReportDocument}

/-! ## What a scan holds -/

/-- The sections whose texts are compared. -/
def keptSections : List Section := analysisSections ++ [.transcript]

def chunkWeight (scan : SectionScan) (found : Section) : Nat :=
  (((scan.chunks found).getD []).map weight).sum

def scanWeight (scan : SectionScan) : Nat := (keptSections.map (chunkWeight scan)).sum

/-- What the lines weigh that are no headings. -/
def plainWeight (lines : List Text) : Nat :=
  ((lines.filter fun line => !isHeading line).map weight).sum

theorem weight_content (scan : SectionScan) (found : Section) :
    weight (scan.content found) = chunkWeight scan found := by
  unfold SectionScan.content chunkWeight
  split
  next none => rw [none]; rfl
  next lines some =>
    rw [some, weight_strip, weight_intercalate]
    rfl

/-- A heading empties a section; a line adds to one at most. -/
theorem scanWeight_line (scan : SectionScan) (line : Text) :
    scanWeight (scan.line line) ≤ scanWeight scan + if isHeading line then 0 else weight line := by
  have grown {added : Section → Nat} (each : ∀ found,
      chunkWeight (scan.line line) found ≤ chunkWeight scan found + added found) :
      scanWeight (scan.line line) ≤ scanWeight scan + (keptSections.map added).sum := by
    unfold scanWeight
    rw [← List.sum_map_add]
    exact List.sum_le_sum fun found _ => each found
  cases spelled : isHeading line with
  | true =>
    obtain ⟨found, rfl⟩ : ∃ found, line = heading found := by
      have known : ∀ entry ∈ sectionHeadings, entry.1 = heading entry.2 := by decide
      unfold isHeading at spelled
      obtain ⟨entry, mem, same⟩ := List.any_eq_true.1 spelled
      exact ⟨entry.2, by rw [← of_decide_eq_true same]; exact known entry mem⟩
    have bound := @grown (fun _ => 0) ?_
    · simpa using bound
    intro other
    unfold chunkWeight
    rw [scan.line_heading]
    dsimp only
    split
    · exact Nat.zero_le _
    · exact Nat.le_refl _
  | false =>
    rw [if_neg Bool.false_ne_true]
    have step := scan.line_other spelled
    cases current : scan.current with
    | none =>
      rw [current] at step
      rw [step]
      exact Nat.le_add_right _ _
    | some found =>
      rw [current] at step
      have bound := @grown (fun other => if other = found then weight line else 0) ?_
      · apply Nat.le_trans bound
        apply Nat.add_le_add_left
        cases found <;> simp [keptSections, analysisSections]
      intro other
      unfold chunkWeight
      rw [step]
      dsimp only
      split
      next same =>
        cases scan.chunks other with
        | none => exact Nat.zero_le _
        | some chunk => simp
      next => exact Nat.le_refl _

theorem plainWeight_cons (line : Text) (lines : List Text) :
    plainWeight (line :: lines) = (if isHeading line then 0 else weight line) + plainWeight lines := by
  unfold plainWeight
  rw [List.filter_cons]
  cases isHeading line <;> simp

theorem plainWeight_append (front rest : List Text) :
    plainWeight (front ++ rest) = plainWeight front + plainWeight rest := by
  unfold plainWeight
  rw [List.filter_append, List.map_append, List.sum_append]

theorem scanWeight_fold (scan : SectionScan) (lines : List Text) :
    scanWeight (lines.foldl SectionScan.line scan) ≤ scanWeight scan + plainWeight lines := by
  induction lines generalizing scan with
  | nil => exact Nat.le_refl _
  | cons line lines ih =>
    have first := scanWeight_line scan line
    have later := ih (scan.line line)
    rw [List.foldl_cons, plainWeight_cons]
    omega

theorem plainWeight_block (section_ : Section × Text) :
    plainWeight (blockLines section_) = plainWeight (linesOf (unixBlock section_.2)) := by
  have none : plainWeight [[]] = 0 := by decide
  unfold blockLines
  rw [plainWeight_cons, plainWeight_cons, plainWeight_append, none, heading_isHeading, isHeading_nil]
  simp [weight]

/-- The link's text goes to its own section. -/
theorem scanWeight_link (scan : SectionScan) {url : Text}
    (other : ∀ line ∈ linesOf (unixBlock url), isHeading line = false) :
    scanWeight ((blockLines (.link, url)).foldl SectionScan.line scan) = scanWeight scan := by
  rw [scan.fold_block other]
  unfold scanWeight
  apply congrArg List.sum
  apply List.map_congr_left
  intro found mem
  have apart : found ≠ .link := by
    rintro rfl
    exact absurd mem (by decide)
  unfold chunkWeight
  dsimp only
  rw [if_neg apart]

/-- What a section's text adds to the compared ones. -/
def blockWeight (section_ : Section × Text) : Nat :=
  if section_.1 = .link then 0 else plainWeight (linesOf (unixBlock section_.2))

theorem scanWeight_blocks (scan : SectionScan) {sections : List (Section × Text)}
    (url : ∀ section_ ∈ sections, section_.1 = .link →
      ∀ line ∈ linesOf (unixBlock section_.2), isHeading line = false) :
    scanWeight ((sections.flatMap blockLines).foldl SectionScan.line scan) ≤
      scanWeight scan + (sections.map blockWeight).sum := by
  induction sections generalizing scan with
  | nil => exact Nat.le_refl _
  | cons first sections ih =>
    have later := ih ((blockLines first).foldl SectionScan.line scan) fun section_ mem =>
      url section_ (List.mem_cons_of_mem _ mem)
    have here : scanWeight ((blockLines first).foldl SectionScan.line scan) ≤
        scanWeight scan + blockWeight first := by
      unfold blockWeight
      obtain ⟨found, content⟩ := first
      by_cases link : found = .link
      · subst link
        rw [scanWeight_link scan (url _ List.mem_cons_self rfl)]
        exact Nat.le_add_right _ _
      · rw [if_neg link, ← plainWeight_block (found, content)]
        exact scanWeight_fold scan _
    rw [List.flatMap_cons, List.foldl_append, List.map_cons, List.sum_cons]
    omega

/-! ## The texts of a document -/

theorem plainWeight_le (lines : List Text) : plainWeight lines ≤ (lines.map weight).sum :=
  (List.filter_sublist.map weight).sum_le_sum fun _ _ => Nat.zero_le _

/-- A heading has a weight of its own. -/
theorem plain_of_weight {lines : List Text} (all : (lines.map weight).sum ≤ plainWeight lines) :
    ∀ line ∈ lines, isHeading line = false := by
  induction lines with
  | nil =>
    intro line mem
    cases mem
  | cons first lines ih =>
    have bound := plainWeight_le lines
    rw [plainWeight_cons, List.map_cons, List.sum_cons] at all
    cases spelled : isHeading first with
    | true =>
      have heavy : 0 < weight first := by
        have known : ∀ entry ∈ sectionHeadings, 0 < weight entry.1 := by decide
        unfold isHeading at spelled
        obtain ⟨entry, mem, same⟩ := List.any_eq_true.1 spelled
        rw [← of_decide_eq_true same]
        exact known entry mem
      rw [spelled, if_pos rfl] at all
      omega
    | false =>
      rw [spelled, if_neg Bool.false_ne_true] at all
      intro line mem
      rcases List.mem_cons.1 mem with rfl | later
      · exact spelled
      · exact ih (by omega) line later

theorem eq_of_sum_le {α : Type} {f g : α → Nat} {items : List α} (each : ∀ item ∈ items, f item ≤ g item)
    (total : (items.map g).sum ≤ (items.map f).sum) : ∀ item ∈ items, f item = g item := by
  induction items with
  | nil =>
    intro item mem
    cases mem
  | cons first items ih =>
    have here := each first List.mem_cons_self
    have rest := fun item mem => each item (List.mem_cons_of_mem first mem)
    have bound := List.sum_le_sum rest
    rw [List.map_cons, List.map_cons, List.sum_cons, List.sum_cons] at total
    intro item mem
    rcases List.mem_cons.1 mem with rfl | later
    · omega
    · exact ih rest (by omega) item later

theorem weight_linesOf (t : Text) : ((linesOf (unixBlock t)).map weight).sum = weight t := by
  unfold linesOf
  rw [weight_lines, weight_unixBlock]

theorem httpUrl_lines {url : Text} (http : IsHttpUrl url) :
    url ≠ [] ∧ ∀ line ∈ linesOf (unixBlock url), isHeading line = false := by
  obtain ⟨scheme, authority, rest, spelled⟩ := http
  have apart {c : CodePoint} (small : c.val ≤ 0x20) : c ∉ url := by
    intro mem
    have bound := (spelled.printable c mem).1
    omega
  have begins : ∃ more, url = cp 'h' :: more := by
    rw [spelled.whole]
    rcases spelled.scheme with rfl | rfl
    · exact ⟨_, rfl⟩
    · exact ⟨_, rfl⟩
  have same : unixBlock url = url := by
    have plain := unixBlock_plain (apart (show (cp '\r').val ≤ 0x20 by decide)) []
    rw [List.append_nil] at plain
    rw [plain]
    exact List.append_nil _
  obtain ⟨more, starts⟩ := begins
  constructor
  · rw [starts]
    exact List.cons_ne_nil _ _
  rw [same, linesOf_plain (apart (by decide))]
  intro line mem
  rw [List.mem_singleton.1 mem]
  have first : ∀ entry ∈ sectionHeadings, entry.1.head? = some (cp '#') := by decide
  unfold isHeading
  rw [List.any_eq_false]
  intro entry mem there
  have letter := first entry mem
  rw [of_decide_eq_true there, starts] at letter
  have other : cp 'h' ≠ cp '#' := by decide
  exact other (Option.some.inj letter)

/-- The compared sections hold no more than the plain lines of their texts. -/
theorem scanWeight_bodyScan (http : IsHttpUrl doc.sourceUrl) (single : singleLine doc.title = true) :
    scanWeight (bodyScan doc) ≤
      (keptSections.map fun found => plainWeight (linesOf (unixBlock (sectionText doc found)))).sum := by
  obtain ⟨url, lines⟩ := httpUrl_lines http
  have empty : scanWeight {} = 0 := by decide
  have bound := @scanWeight_blocks {} (sectionBlocks doc) (by
    intro section_ mem link
    rw [sectionBlocks_eq url] at mem
    obtain ⟨found, _, rfl⟩ := List.mem_map.1 mem
    obtain rfl : found = .link := link
    exact lines)
  rw [← bodyScan_eq single, empty, Nat.zero_add, sectionBlocks_eq url, List.map_map] at bound
  apply Nat.le_trans bound
  have fewer : ((emissionOrder.filter fun found => sectionText doc found ≠ []).map
      (blockWeight ∘ fun found => (found, sectionText doc found))).sum ≤
      (emissionOrder.map (blockWeight ∘ fun found => (found, sectionText doc found))).sum :=
    (List.filter_sublist.map _).sum_le_sum fun _ _ => Nat.zero_le _
  apply Nat.le_trans fewer
  apply Nat.le_of_eq
  simp [emissionOrder, sectionHeadings, keptSections, analysisSections, blockWeight]

/-! ## What is kept -/

theorem strip_strip (t : Text) : strip (strip t) = strip t :=
  strip_eq_self (strip_ends t).1 (strip_ends t).2

theorem bulletItems_stripped (raw : Text) : (bulletItems raw).map strip = bulletItems raw := by
  unfold bulletItems
  rw [List.map_map]
  apply List.map_congr_left
  intro line _
  exact strip_strip _

theorem weight_unixLines (t : Text) : weight (strip (unixLines t)) = weight t := by
  rw [strip_unixLines, weight_strip, weight_unixBlock]

theorem takeawayText_eq (doc : ReportDocument) : takeawayText doc = bulleted doc.keyTakeaways := rfl

theorem unixBlock_bulleted (items : List Text) :
    unixBlock (bulleted items) = bulleted (items.map unixBlock) := by
  have clean : cp '\r' ∉ text "- " := by decide
  unfold bulleted
  rw [unixBlock_intercalate, List.map_map, List.map_map]
  apply congrArg
  apply List.map_congr_left
  intro item _
  exact unixBlock_plain clean item

/-- The texts of a document that is read back hold no heading lines. -/
theorem plain_of_kept (http : IsHttpUrl doc.sourceUrl) (single : singleLine doc.title = true)
    {parsed : ParsedReport} (sections : ReadsSections (bodyScan doc) parsed)
    (kept : BodyKept doc parsed) :
    ∀ found, ∀ line ∈ linesOf (unixBlock (sectionText doc found)), isHeading line = false := by
  have upper := scanWeight_bodyScan http single
  have same {found : Section} (equal : strip ((bodyScan doc).content found) =
      strip (unixLines (sectionText doc found))) :
      weight (sectionText doc found) ≤ chunkWeight (bodyScan doc) found := by
    rw [← weight_content, ← weight_strip ((bodyScan doc).content found), equal, weight_unixLines]
  have list : weight (takeawayText doc) ≤ chunkWeight (bodyScan doc) .keyTakeaways := by
    have items := kept.keyTakeaways
    rw [sections.keyTakeaways, bulletItems_stripped, bulletItems_eq] at items
    have parts := weight_bullets (linesOf ((bodyScan doc).content .keyTakeaways))
    have lines := weight_lines ((bodyScan doc).content .keyTakeaways)
    have each : ((doc.keyTakeaways.map fun item => strip (unixLines item)).map weight).sum =
        (doc.keyTakeaways.map weight).sum := by
      rw [List.map_map]
      apply congrArg
      apply List.map_congr_left
      intro item _
      exact weight_unixLines item
    rw [items, each, List.length_map] at parts
    rw [← weight_content, takeawayText_eq, weight_bulleted]
    unfold linesOf at parts
    omega
  have lower : ∀ found ∈ keptSections,
      weight (sectionText doc found) ≤ chunkWeight (bodyScan doc) found := by
    intro found mem
    cases found with
    | coreSummary => exact same (sections.coreSummary ▸ kept.coreSummary)
    | keyTakeaways => exact list
    | timelineOutline => exact same (sections.timelineOutline ▸ kept.timelineOutline)
    | contentAnalysis => exact same (sections.contentAnalysis ▸ kept.contentAnalysis)
    | commentSentiment => exact same (sections.commentSentiment ▸ kept.commentSentiment)
    | videoInformation => exact same (sections.videoInformation ▸ kept.videoInformation)
    | link => exact absurd mem (by decide)
    | transcript => exact same (sections.transcript ▸ kept.transcript)
  have each : ∀ found ∈ keptSections,
      plainWeight (linesOf (unixBlock (sectionText doc found))) ≤ weight (sectionText doc found) := by
    intro found _
    rw [← weight_linesOf]
    exact plainWeight_le _
  have total : (keptSections.map fun found => weight (sectionText doc found)).sum ≤
      (keptSections.map fun found => plainWeight (linesOf (unixBlock (sectionText doc found)))).sum :=
    Nat.le_trans (List.sum_le_sum lower) upper
  have equal := eq_of_sum_le each total
  intro found
  by_cases link : found = .link
  · rw [link]
    exact (httpUrl_lines http).2
  · apply plain_of_weight
    rw [weight_linesOf]
    have mem : found ∈ keptSections := by
      cases found <;> first | decide | exact absurd rfl link
    exact Nat.le_of_eq (equal found mem).symm

/-- An item line is no heading, and a light line neither. -/
theorem bulleted_plain {items : List Text} (plain : ∀ item ∈ items, blank (laterLines item) = true) :
    ∀ line ∈ linesOf (bulleted items), isHeading line = false := by
  have light {line : Text} (empty : weight line = 0) : isHeading line = false := by
    have known : ∀ entry ∈ sectionHeadings, weight entry.1 ≠ 0 := by decide
    unfold isHeading
    rw [List.any_eq_false]
    intro entry mem there
    apply known entry mem
    rw [of_decide_eq_true there]
    exact empty
  have dashed (t : Text) : isHeading (text "- " ++ t) = false := by
    have first : ∀ entry ∈ sectionHeadings, entry.1.head? = some (cp '#') := by decide
    have other : cp '-' ≠ cp '#' := by decide
    unfold isHeading
    rw [List.any_eq_false]
    intro entry mem there
    have letter := first entry mem
    rw [of_decide_eq_true there, dash_eq] at letter
    exact other (Option.some.inj letter)
  rcases List.eq_nil_or_concat items with rfl | ⟨before, last, rfl⟩
  · decide
  rw [List.concat_eq_append] at plain ⊢
  rw [bulleted_append, linesOf_itemsBefore]
  intro line mem
  obtain ⟨item, there, mem⟩ : ∃ item ∈ before ++ [last], line ∈ linesOf (text "- " ++ item) := by
    rcases List.mem_append.1 mem with front | back
    · obtain ⟨item, there, mem⟩ := List.mem_flatMap.1 front
      exact ⟨item, List.mem_append_left _ there, mem⟩
    · exact ⟨last, List.mem_append_right _ List.mem_cons_self, back⟩
  obtain ⟨later, lines, sum⟩ := linesOf_item item
  rw [lines] at mem
  rcases List.mem_cons.1 mem with rfl | mem
  · exact dashed _
  · exact light ((blank_of_sum sum).2 (plain item there) line mem)

/-! ## Line ends at the end of a text -/

theorem mem_linesOf_unixLines {t line : Text} (some_ : line ≠ []) :
    line ∈ linesOf (unixLines t) ↔ line ∈ linesOf (unixBlock t) := by
  rcases unixLines_eq t with same | more
  · rw [same]
  · rw [more, linesOf_break (unixBlock t) [], List.mem_append]
    constructor
    · rintro (front | back)
      · exact front
      · exact absurd (List.mem_singleton.1 back) some_
    · exact .inl

theorem plain_unixLines (t : Text) :
    (∀ line ∈ linesOf (unixLines t), isHeading line = false) ↔
      ∀ line ∈ linesOf (unixBlock t), isHeading line = false := by
  constructor
  · intro plain line mem
    by_cases empty : line = []
    · rw [empty]
      exact isHeading_nil
    · exact plain line ((mem_linesOf_unixLines empty).2 mem)
  · intro plain line mem
    by_cases empty : line = []
    · rw [empty]
      exact isHeading_nil
    · exact plain line ((mem_linesOf_unixLines empty).1 mem)

theorem later_unixLines (t : Text) :
    blank (laterLines (unixLines t)) = true ↔ blank (laterLines (unixBlock t)) = true := by
  rcases unixLines_eq t with same | more
  · rw [same]
  · have feed : isSpace (cp '\n') = true := by decide
    rw [more]
    unfold laterLines
    rw [List.dropWhile_append]
    split
    next none =>
      rw [List.isEmpty_iff] at none
      rw [none]
      simp [blank, feed]
    next => simp [blank, feed]

theorem blank_unixBlock (t : Text) : blank (unixBlock t) = blank t := by
  have same : blank (unixBlock t) = true ↔ blank t = true := by
    rw [← weight_eq_zero, weight_unixBlock, weight_eq_zero]
  exact Bool.eq_iff_iff.2 same

/-- The items come back exactly when the list is plain. -/
theorem items_kept_iff (items : List Text) :
    bulletItems (strip (unixLines (bulleted items))) = items.map (fun item => strip (unixLines item)) ↔
      (∀ item ∈ items, blank (laterLines (unixLines item)) = true) ∧
        ∀ last ∈ items.getLast?, blank last = false := by
  have stripped : (items.map fun item => strip (unixLines item)) = (items.map unixBlock).map strip := by
    rw [List.map_map]
    apply List.map_congr_left
    intro item _
    exact strip_unixLines item
  rw [strip_unixLines, unixBlock_bulleted, stripped, bulletItems_bulleted, List.getLast?_map]
  simp only [List.forall_mem_map, Option.mem_map, later_unixLines]
  constructor
  · rintro ⟨plain, last⟩
    refine ⟨plain, fun item mem => ?_⟩
    rw [← blank_unixBlock]
    exact last _ ⟨item, mem, rfl⟩
  · rintro ⟨plain, last⟩
    refine ⟨plain, ?_⟩
    rintro _ ⟨item, mem, rfl⟩
    rw [blank_unixBlock]
    exact last item mem

/-- The body of an accepted report is read back exactly when it is plain. -/
theorem body_kept_iff (env : ReaderEnv) (doc : ReportDocument) (http : IsHttpUrl doc.sourceUrl)
    {content : Bytes} (encoded : encodeUtf8 (renderMarkdown doc) = some content)
    {parsed : ParsedReport} (read : decodeReportBytes env content = .ok parsed) :
    BodyKept doc parsed ↔ PlainBody doc := by
  obtain ⟨single, sections⟩ := accepted_rendered encoded read
  have url := (httpUrl_lines http).1
  constructor
  · intro kept
    have plain := plain_of_kept http single sections kept
    have items := kept.keyTakeaways
    rw [sections.keyTakeaways, bulletItems_stripped,
      content_rendered url single plain .keyTakeaways] at items
    have listed := (items_kept_iff doc.keyTakeaways).1 items
    exact {
      texts := fun found _ _ => (plain_unixLines _).2 (plain found)
      items := listed.1
      last := listed.2 }
  · intro body
    have plain : ∀ found, ∀ line ∈ linesOf (unixBlock (sectionText doc found)),
        isHeading line = false := by
      intro found
      by_cases list : found = .keyTakeaways
      · rw [list]
        show ∀ line ∈ linesOf (unixBlock (bulleted doc.keyTakeaways)), isHeading line = false
        rw [unixBlock_bulleted]
        apply bulleted_plain
        intro item mem
        obtain ⟨old, there, rfl⟩ := List.mem_map.1 mem
        exact (later_unixLines old).1 (body.items old there)
      by_cases link : found = .link
      · rw [link]
        exact (httpUrl_lines http).2
      · exact (plain_unixLines _).1 (body.texts found list link)
    have content := content_rendered url single plain
    have text (found : Section) : strip ((bodyScan doc).content found) =
        strip (unixLines (sectionText doc found)) := by
      rw [content found, strip_strip]
    have items := (items_kept_iff doc.keyTakeaways).2 ⟨body.items, body.last⟩
    exact {
      coreSummary := sections.coreSummary ▸ text .coreSummary
      timelineOutline := sections.timelineOutline ▸ text .timelineOutline
      contentAnalysis := sections.contentAnalysis ▸ text .contentAnalysis
      commentSentiment := sections.commentSentiment ▸ text .commentSentiment
      videoInformation := sections.videoInformation ▸ text .videoInformation
      transcript := sections.transcript ▸ text .transcript
      keyTakeaways := by
        rw [sections.keyTakeaways, bulletItems_stripped, content .keyTakeaways]
        exact items }

/-! ## A heading in a summary -/

/-- A report with a summary. -/
def summarizedReport (summary : Text) : ReportDocument :=
  { titledReport (text "title") (by decide) with coreSummary := summary }

theorem example_read {doc : ReportDocument} (encodable : Encodable (renderMarkdown doc))
    (url : doc.sourceUrl = text "https://example.com/v") (platform : doc.platform = text "example")
    (single : singleLine doc.title = true) :
    ∃ content, encodeUtf8 (renderMarkdown doc) = some content ∧
      decodeReportBytes plainReader content = .ok (reportReadBack doc) := by
  have encoded : encodeUtf8 (renderMarkdown doc) =
      some ((renderMarkdown doc).flatMap encodedForm) := if_pos encodable
  have http : IsHttpUrl doc.sourceUrl := url ▸ example_isHttpUrl
  have lowercase : doc.platform = lower plainReader.unicode doc.platform := by
    rw [platform]
    decide
  have answer := @decode_rendered plainReader (by decide) doc http lowercase _ encoded
  rw [if_pos single] at answer
  exact ⟨_, encoded, answer⟩

theorem body_kept_full :
    ∃ content parsed,
      encodeUtf8 (renderMarkdown (fullReport (text "one\r\ntwo\n"))) = some content ∧
      decodeReportBytes plainReader content = .ok parsed ∧
      BodyKept (fullReport (text "one\r\ntwo\n")) parsed ∧
      PlainBody (fullReport (text "one\r\ntwo\n")) := by
  obtain ⟨content, encoded, read⟩ :=
    @example_read (fullReport (text "one\r\ntwo\n")) (by decide +kernel) rfl rfl (by decide)
  have plain : PlainBody (fullReport (text "one\r\ntwo\n")) := by
    refine ⟨fun found _ _ => ?_, by decide +kernel, by decide +kernel⟩
    cases found <;> decide +kernel
  exact ⟨content, _, encoded, read,
    (body_kept_iff plainReader _ example_isHttpUrl encoded read).2 plain, plain⟩

/-- What stands behind a heading line in a summary moves to another section. -/
theorem summary_split_at_heading :
    ∃ content,
      encodeUtf8 (renderMarkdown (summarizedReport (text "before\n## 完整字幕\nafter"))) = some content ∧
      decodeReportBytes plainReader content =
        .ok (reportReadBack (summarizedReport (text "before\n## 完整字幕\nafter"))) ∧
      ¬ BodyKept (summarizedReport (text "before\n## 完整字幕\nafter"))
        (reportReadBack (summarizedReport (text "before\n## 完整字幕\nafter"))) := by
  obtain ⟨content, encoded, read⟩ :=
    @example_read (summarizedReport (text "before\n## 完整字幕\nafter")) (by decide +kernel) rfl rfl
      (by decide)
  refine ⟨content, encoded, read, ?_⟩
  intro kept
  have lost : strip (bodyScan (summarizedReport (text "before\n## 完整字幕\nafter"))
      |>.content .coreSummary) ≠ strip (unixLines (text "before\n## 完整字幕\nafter")) := by
    decide +kernel
  exact lost kept.coreSummary

end EvoBlue.Guarantees
