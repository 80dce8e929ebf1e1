import EvoBlue.Source.ReportReading

/-!
# A rendered frontmatter is read back

The first ruler line of a rendered report is the frontmatter's own, and the accessors find
in the fields between the rulers what the document holds. A UTC offset of less than a
second is read as UTC; no other datetime changes.
-/

namespace EvoBlue.Guarantees

open EvoBlue.Kernel EvoBlue.Source

/-- Its own closer is the first one behind the opener, and what is between them reads back. -/
def RoundTrips (env : ReaderEnv) (again : DateTime → DateTime) (doc : ReportDocument) : Prop :=
  renderMarkdown doc =
      text "---\n" ++ frontmatterBlock doc ++ text "\n---\n" ++ renderedBody doc ∧
    breakOn (text "\n---\n") ((renderMarkdown doc).drop 4) =
      some (frontmatterBlock doc, renderedBody doc) ∧
    ∃ fields, parseFrontmatter (frontmatterBlock doc) = .ok fields ∧ ReadsBack env again doc fields

theorem renderMarkdown_rulers (doc : ReportDocument) :
    renderMarkdown doc =
      text "---\n" ++ frontmatterBlock doc ++ text "\n---\n" ++ renderedBody doc := by
  have closer : text "\n---\n" = text "\n---" ++ text "\n" := by decide
  rw [renderMarkdown_eq, closer]
  unfold renderFrontmatter frontmatterBlock
  simp only [List.append_assoc]

theorem breakOn_rendered (doc : ReportDocument) :
    breakOn (text "\n---\n") ((renderMarkdown doc).drop 4) =
      some (frontmatterBlock doc, renderedBody doc) := by
  have split := splitFrontmatter_rendered doc (renderedBody doc)
  rw [← renderMarkdown_eq] at split
  unfold splitFrontmatter at split
  split at split
  next =>
    split at split
    next => cases split
    next parts found =>
      rw [found]
      exact congrArg some (Except.ok.inj split)
  next => cases split

/-- Every rendered frontmatter is read back, and a datetime changes only if its offset is
less than a second away from UTC, and not zero. -/
theorem frontmatter_round_trips (env : ReaderEnv) (deep : 0 < env.jsonDepth)
    (doc : ReportDocument) :
    RoundTrips env DateTime.readAgain doc ∧
      ∀ d : DateTime, d.readAgain = d ↔ ∀ offset ∈ d.offset, DateTime.Readable offset := by
  constructor
  · refine ⟨renderMarkdown_rulers doc, breakOn_rendered doc, (frontmatterFields doc).reverse, ?_, ?_⟩
    · exact parseFrontmatter_rendered doc
    · exact readsBack_rendered deep
  · intro d
    exact DateTime.readAgain_eq

/-! ## An offset of half a second -/

/-- A reader that knows ASCII alone. -/
def plainReader : ReaderEnv where
  unicode := ⟨fun _ c _ => [c], fun _ => none, fun t => t⟩
  jsonDepth := 10

/-- A datetime half a second ahead of UTC. -/
def halfSecond : DateTime where
  year := 2024
  month := 1
  day := 2
  offset := some 500000
  inRange := by decide

theorem auto_known : text "auto" ∈ summaryModes := by decide

/-- A report whose title and author need quoting. -/
def halfSecondReport : ReportDocument where
  analysisId := text "a1"
  sourceUrl := text "https://example.com/v"
  platform := text "example"
  videoId := text "v1"
  title := text "---: \"quoted\""
  author := text "line\n---\nline"
  publishedAt := some halfSecond
  analyzedAt := halfSecond
  summaryMode := text "auto"
  tags := [text "a, b", []]
  named := by decide
  known := auto_known
  zoned := by decide

theorem frontmatter_round_trips_halfSecond :
    0 < plainReader.jsonDepth ∧ RoundTrips plainReader DateTime.readAgain halfSecondReport :=
  ⟨by decide, (frontmatter_round_trips plainReader (by decide) halfSecondReport).1⟩

/-- Half a second is read as UTC. -/
theorem half_second_lost : ¬ RoundTrips plainReader id halfSecondReport := by
  rintro ⟨_, _, fields, parsed, back⟩
  unfold frontmatterBlock at parsed
  rw [parseFrontmatter_rendered] at parsed
  obtain rfl := Except.ok.inj parsed
  have again := @analyzedAt_rendered plainReader halfSecondReport
  rw [back.analyzedAt] at again
  have same : halfSecond = halfSecond.readAgain := Option.some.inj (Except.ok.inj again)
  exact absurd same (by decide)

end EvoBlue.Guarantees
