import EvoBlue.Source.IndexHistory

/-!
# What one bad file costs

Two validators stand between a file and its row: the Markdown reader, and the checks
of `ReportIndexEntry` together with the encoding of what a statement binds. They
agree on identity, URL, case and mode. They disagree on times, which the entry wants
after the epoch, and on lone surrogates, which JSON escapes can spell and no
statement can bind. A file in the gap raises inside the transaction of its batch and
ends the run. So does the sweep of the absence pass over more paths than a statement
has parameters.
-/

namespace EvoBlue.Guarantees

open EvoBlue.Kernel EvoBlue.Source

/-! ## One report -/

/-- The form of `hexdigest()`: 64 digits of lower-case hexadecimal. -/
def IsDigest (t : Text) : Prop :=
  t.length = 64 ∧ (t.all fun c => isDigit c || (cp 'a' ≤ c && c ≤ cp 'f')) = true

/-- The times lie after the epoch. -/
def AfterEpoch (parsed : ParsedReport) : Prop :=
  0 < parsed.analyzedAt.timestamp ∧ ∀ published ∈ parsed.publishedAt, 0 < published.timestamp

theorem indexReport_returns {unicode : UnicodeData} {columns : EntryColumns} {body : FtsBodyTexts}
    {now : Time} {db : IndexDb} (formed : db.WellFormed) :
    (∃ id after, (indexReport unicode columns body now).run db = (.ok id, after)) ↔
      columns.accepted unicode = true ∧ Bindable unicode columns body := by
  have ran := @indexReport_run unicode db formed columns body now
  refine ⟨fun returns => ?_, fun indexable => ⟨_, _, ran.1 indexable⟩⟩
  by_contra refused
  obtain ⟨id, after, returned⟩ := returns
  obtain ⟨raised, after', error⟩ := ran.2 refused
  rw [returned] at error
  cases error

/-- The entry's checks on a report the reader returned come down to its times. -/
theorem accepted_iff {env : ReportEnv} {whole : Text} {parsed : ParsedReport}
    (read : parseMarkdownReport env.toReaderEnv whole = .ok parsed) {rel contentHash : Text}
    (named : rel ≠ []) (digest : IsDigest contentHash) (byteSize : Option Nat)
    (docSource : DocSource) :
    (indexColumns parsed parsed.analysisId rel contentHash byteSize docSource).accepted
      env.unicode = true ↔ AfterEpoch parsed := by
  have accepted := parseMarkdownReport_ok read
  obtain ⟨split, url, absolute⟩ := accepted.absolute
  obtain ⟨identified, hasUrl, hasPlatform, hasVideo, hasTitle⟩ := accepted.named
  have preview : (parsed.coreSummary.take 200).length ≤ 200 := by
    rw [List.length_take]
    exact Nat.min_le_left _ _
  unfold EntryColumns.accepted indexColumns AfterEpoch
  simp only [identified, hasUrl, hasPlatform, hasVideo, hasTitle, named, digest.1, digest.2,
    preview, accepted.mode, url, absolute, ← accepted.lowercase, ne_eq, not_false_eq_true,
    decide_true, Bool.true_and, Option.map_some, Option.getD_some, Bool.and_eq_true,
    decide_eq_true_eq, gt_iff_lt]
  cases parsed.publishedAt <;> simp

/-! ## One directory -/

/-- Every enumerated file can be read, and the reader returns or raises
`MarkdownParseError` on it. -/
def ReadsCleanly (env : ReportEnv) (disk : Disk) : Prop :=
  ∀ rel ∈ collect env.unicode disk.dir, ∃ raw, disk.dir.find rel = some (.bytes raw) ∧
    ((∃ parsed, decodeReportBytes env.toReaderEnv raw = .ok parsed) ∨
      ∃ code, decodeReportBytes env.toReaderEnv raw = .error (.markdown code))

/-- What a run leaves of a directory: winners are indexed, and every other file has
an open issue. -/
structure CostsOnlyIssues (env : ReportEnv) (disk : Disk) (before after : IndexDb) : Prop where
  indexed : ∀ rel raw parsed, IsWinner env disk rel raw parsed →
    Unchanged after parsed.analysisId rel (env.sha256 raw) ∧
      (Unchanged before parsed.analysisId rel (env.sha256 raw) ∨
        after.view parsed.analysisId =
          some ⟨rescanColumns env rel raw parsed, .active, [rescanTexts env rel raw parsed]⟩)
  rejected : ∀ rel ∈ collect env.unicode disk.dir, ∀ raw code,
    disk.dir.find rel = some (.bytes raw) →
    decodeReportBytes env.toReaderEnv raw = .error (.markdown code) →
    after.HasOpen (.markdown code) rel
  lost : ∀ rel raw parsed, Carries env disk rel raw parsed → ¬ IsWinner env disk rel raw parsed →
    after.HasOpen .duplicateAnalysisId rel

/-- Every run of enough steps is done, and costs only issues. -/
def RunsToTheEnd (env : ReportEnv) (purge : Bool) (disk : Disk) (before : IndexDb) : Prop :=
  ∃ enough, ∀ nows : List Time, enough ≤ nows.length → ∃ counters after,
    undisturbed env purge disk before nows = (.done counters true, after) ∧
    CostsOnlyIssues env disk before after

/-- No file of the directory is in the gap, and the sweep has a parameter for each, and one to
spare if an issue is open on another path. -/
structure NoneInTheGap (env : ReportEnv) (disk : Disk) (before : IndexDb) : Prop where
  few : (collect env.unicode disk.dir).length ≤ env.maxVariables
  spare : ∀ code path, before.HasOpen code path → path ∉ collect env.unicode disk.dir →
    (collect env.unicode disk.dir).length < env.maxVariables
  paths : ∀ rel ∈ collect env.unicode disk.dir, Encodable rel
  winners : ∀ rel raw parsed, IsWinner env disk rel raw parsed →
    Unchanged before parsed.analysisId rel (env.sha256 raw) ∨
      (AfterEpoch parsed ∧ Bindable env.unicode (rescanColumns env rel raw parsed) (bodyTexts parsed))

theorem ne_nil_of_collected {unicode : UnicodeData} {dir : Directory} {rel : Text}
    (mem : rel ∈ collect unicode dir) : rel ≠ [] := by
  rintro rfl
  have collected := (mem_collect.1 mem).1
  unfold isCollected at collected
  simp only [List.splitOn_nil, lower, lowerAfter, List.getLast?_singleton, Option.getD_some,
    Bool.and_eq_true, List.isSuffixOf_iff_suffix, List.suffix_nil] at collected
  exact absurd collected.1.2 (by decide)

variable {env : ReportEnv} {disk : Disk} {before : IndexDb}

theorem indexable_iff (digests : ∀ data, IsDigest (env.sha256 data)) {rel : Text} {raw : Bytes}
    {parsed : ParsedReport} (carries : Carries env disk rel raw parsed) :
    Indexable env rel raw parsed ↔
      AfterEpoch parsed ∧ Bindable env.unicode (rescanColumns env rel raw parsed) (bodyTexts parsed) := by
  obtain ⟨whole, read⟩ := decodeReportBytes_read carries.2.2
  have checks := accepted_iff read (ne_nil_of_collected carries.1) (digests raw)
    (some raw.length) .rebuild
  unfold Indexable
  rw [show (rescanColumns env rel raw parsed).accepted env.unicode = true ↔ AfterEpoch parsed
    from checks]

theorem scans_of_readsCleanly (clean : ReadsCleanly env disk) :
    ∀ rel ∈ collect env.unicode disk.dir, Scans env disk rel := by
  intro rel mem
  obtain ⟨raw, found, ⟨parsed, decoded⟩ | ⟨code, decoded⟩⟩ := clean rel mem
  · have scanned : scanFile env disk rel = .ok ⟨rel, .readable raw parsed⟩ := by
      unfold scanFile
      simp only [found, decoded]
    exact (scans_of_ok scanned).1
  · have scanned : scanFile env disk rel = .ok ⟨rel, .rejected code⟩ := by
      unfold scanFile
      simp only [found, decoded]
    exact (scans_of_ok scanned).1

theorem runFits_iff (digests : ∀ data, IsDigest (env.sha256 data)) (usable : disk.usable = true)
    (clean : ReadsCleanly env disk) :
    RunFits env disk before ↔ NoneInTheGap env disk before := by
  have paths : (∀ outcome ∈ runOutcomes env disk, Encodable outcome.relPath) ↔
      ∀ rel ∈ collect env.unicode disk.dir, Encodable rel := by
    unfold runOutcomes
    simp only [List.forall_mem_map, outcomeOf_relPath]
  constructor
  · intro fits
    refine ⟨fits.few, fits.spare, paths.1 fits.files.1, fun rel raw parsed won => ?_⟩
    rw [← indexable_iff digests won.1]
    exact fits.files.2 rel raw parsed (winnerOf_run.2 won)
  · intro none
    refine ⟨usable, scans_of_readsCleanly clean, ⟨paths.2 none.paths, ?_⟩, none.few, none.spare⟩
    intro rel raw parsed wins
    have won := winnerOf_run.1 wins
    rw [indexable_iff digests won.1]
    exact none.winners rel raw parsed won

theorem rejected_outcome {rel : Text} {raw : Bytes} {code : MdCode}
    (found : disk.dir.find rel = some (.bytes raw))
    (decoded : decodeReportBytes env.toReaderEnv raw = .error (.markdown code)) :
    outcomeOf env disk rel = ⟨rel, .rejected code⟩ := by
  have scanned : scanFile env disk rel = .ok ⟨rel, .rejected code⟩ := by
    unfold scanFile
    simp only [found, decoded]
  exact (scans_of_ok scanned).2.symm

theorem costsOnlyIssues_of_passed {purge : Bool} {counters : Counters} {after : IndexDb}
    (passed : HasPassed env purge disk before counters after) :
    CostsOnlyIssues env disk before after where
  indexed := by
    intro rel raw parsed won
    rcases passed.winner won with ⟨unchanged, same⟩ | ⟨_, _, stored⟩
    · refine ⟨?_, .inl unchanged⟩
      unfold Unchanged at unchanged ⊢
      rw [same]
      exact unchanged
    · exact ⟨⟨_, stored, rfl, rfl, rfl⟩, .inr stored⟩
  rejected := by
    intro rel mem raw code found decoded
    have outcome := @rejected_outcome env _ _ _ _ found decoded
    have member : outcomeOf env disk rel ∈ runOutcomes env disk := List.mem_map_of_mem mem
    rw [outcome] at member
    exact passed.marked member
  lost := by
    intro rel raw parsed carries loses
    have marked := passed.marked (mem_runOutcomes.2 carries)
    exact marked.2 fun wins => loses (winnerOf_run.1 wins)

/-! ## A directory with one report in the gap -/

/-- A short report of the given year. -/
def sampleReport (analysisId year : String) : Text :=
  text "---\nschema_version: 1\nanalysis_id: \"" ++ text analysisId ++
    text "\"\nsource_url: \"https://e.org/v\"\nplatform: \"youtube\"\nvideo_id: \"v\"\n" ++
    text "title: \"T\"\nanalyzed_at: \"" ++ text year ++
    text "-01-01T00:00:00+00:00\"\nsummary_mode: \"auto\"\n---\n# T\n\n## 原始链接\n"

def sampleBytes (analysisId year : String) : Bytes :=
  (encodeUtf8 (sampleReport analysisId year)).getD []

/-- SHA-256 on two reports and the empty string, and tables that suffice for ASCII. -/
def reportEnv : ReportEnv where
  unicode := ⟨fun _ c _ => [c], fun _ => none, fun t => t⟩
  jsonDepth := 1000
  sha256 data :=
    if data = sampleBytes "a1" "1960" then
      text "87f748389e6fceb0dd00f8d3f188823d06355bc114a96d2b03cc5b99d262ba80"
    else if data = sampleBytes "b1" "2024" then
      text "9c04265fdcb7b809a16af6d2e8cec69b30eed4611aab7fd63d7916dbad395b07"
    else text "e3b0c44298fc1c149afbf4c8996fb92427ae41e4649b934ca495991b7852b855"

theorem reportEnv_digests (data : Bytes) : IsDigest (reportEnv.sha256 data) := by
  unfold reportEnv IsDigest
  simp only
  split
  · decide
  · split <;> decide

theorem ok_of_any {ε α : Type} {outcome : Except ε α} {check : α → Bool}
    (checked : outcome.toOption.any check = true) : ∃ value, outcome = .ok value ∧ check value := by
  cases outcome with
  | error raised => cases checked
  | ok value => exact ⟨value, rfl, checked⟩

/-- The early report next to a later one. -/
def sampleDisk : Disk where
  dir :=
    { files := [(text "a.md", .bytes (sampleBytes "a1" "1960")),
        (text "b.md", .bytes (sampleBytes "b1" "2024"))]
      distinct := by decide }

/-- The later report alone. -/
def laterDisk : Disk where
  dir :=
    { files := [(text "b.md", .bytes (sampleBytes "b1" "2024"))]
      distinct := by decide }

theorem later_indexable {parsed : ParsedReport}
    (decoded : decodeReportBytes reportEnv.toReaderEnv (sampleBytes "b1" "2024") = .ok parsed) :
    AfterEpoch parsed ∧ Bindable reportEnv.unicode
      (rescanColumns reportEnv (text "b.md") (sampleBytes "b1" "2024") parsed) (bodyTexts parsed) := by
  have checked : (decodeReportBytes reportEnv.toReaderEnv (sampleBytes "b1" "2024")).toOption.any
      (fun parsed => decide (0 < parsed.analyzedAt.timestamp) && parsed.publishedAt.isNone &&
        decide (∀ t ∈ entryTexts (rescanColumns reportEnv (text "b.md") (sampleBytes "b1" "2024")
          parsed) ++ ftsTexts (rescanTexts reportEnv (text "b.md") (sampleBytes "b1" "2024")
          parsed), Encodable t)) = true := by decide +kernel
  rw [decoded] at checked
  simp only [Except.toOption, Option.any_some, Bool.and_eq_true, decide_eq_true_eq,
    Option.isNone_iff_eq_none] at checked
  refine ⟨⟨checked.1.1, ?_⟩, checked.2⟩
  rw [checked.1.2]
  rintro published ⟨⟩

theorem later_decodes : ∃ parsed,
    decodeReportBytes reportEnv.toReaderEnv (sampleBytes "b1" "2024") = .ok parsed := by
  have checked : (decodeReportBytes reportEnv.toReaderEnv
      (sampleBytes "b1" "2024")).toOption.any (fun _ => true) = true := by decide +kernel
  obtain ⟨parsed, decoded, _⟩ := ok_of_any checked
  exact ⟨parsed, decoded⟩

theorem later_fits {rel : Text} {raw : Bytes} {parsed : ParsedReport}
    (carries : Carries reportEnv laterDisk rel raw parsed) :
    AfterEpoch parsed ∧ Bindable reportEnv.unicode (rescanColumns reportEnv rel raw parsed)
      (bodyTexts parsed) := by
  obtain ⟨mem, found, decoded⟩ := carries
  have file := Directory.mem_of_find found
  simp only [laterDisk, List.mem_singleton, Prod.mk.injEq, FileContent.bytes.injEq] at file
  rw [file.2] at decoded
  rw [file.1, file.2]
  exact later_indexable decoded

theorem laterDisk_path {rel : Text} (mem : rel ∈ collect reportEnv.unicode laterDisk.dir) :
    rel = text "b.md" := by
  obtain ⟨_, content, stored⟩ := mem_collect.1 mem
  simp only [laterDisk, List.mem_singleton, Prod.mk.injEq] at stored
  exact stored.1

theorem later_readsCleanly : ReadsCleanly reportEnv laterDisk := by
  intro rel mem
  rw [laterDisk_path mem]
  obtain ⟨parsed, decoded⟩ := later_decodes
  exact ⟨_, Directory.find_of_mem List.mem_cons_self, .inl ⟨parsed, decoded⟩⟩

theorem laterDisk_short : (collect reportEnv.unicode laterDisk.dir).length < reportEnv.maxVariables :=
  (length_collect_le _ _).trans_lt (by decide)

theorem later_noneInTheGap (before : IndexDb) : NoneInTheGap reportEnv laterDisk before := by
  constructor
  · exact laterDisk_short.le
  · exact fun _ _ _ _ => laterDisk_short
  · intro rel mem
    rw [laterDisk_path mem]
    decide
  · intro rel raw parsed won
    exact .inr (later_fits won.1)

theorem early_decodes : ∃ parsed,
    decodeReportBytes reportEnv.toReaderEnv (sampleBytes "a1" "1960") = .ok parsed ∧
      ¬ AfterEpoch parsed := by
  have checked : (decodeReportBytes reportEnv.toReaderEnv (sampleBytes "a1" "1960")).toOption.any
      (fun parsed => decide (parsed.analyzedAt.timestamp < 0)) = true := by decide +kernel
  obtain ⟨parsed, decoded, early⟩ := ok_of_any checked
  refine ⟨parsed, decoded, fun after => ?_⟩
  exact absurd (after.1.trans (of_decide_eq_true early)) (lt_irrefl _)

theorem sampleDisk_path {rel : Text} (mem : rel ∈ collect reportEnv.unicode sampleDisk.dir) :
    rel = text "a.md" ∨ rel = text "b.md" := by
  obtain ⟨_, content, stored⟩ := mem_collect.1 mem
  simp only [sampleDisk, List.mem_cons, Prod.mk.injEq, List.not_mem_nil, or_false] at stored
  exact stored.imp And.left And.left

theorem early_wins {parsed : ParsedReport}
    (decoded : decodeReportBytes reportEnv.toReaderEnv (sampleBytes "a1" "1960") = .ok parsed) :
    IsWinner reportEnv sampleDisk (text "a.md") (sampleBytes "a1" "1960") parsed := by
  have collected : text "a.md" ∈ collect reportEnv.unicode sampleDisk.dir :=
    mem_collect.2 ⟨by decide, _, List.mem_cons_self⟩
  refine ⟨⟨collected, Directory.find_of_mem List.mem_cons_self, decoded⟩, ?_⟩
  intro other raw otherParsed carries _
  rcases sampleDisk_path carries.1 with rfl | rfl <;> decide

/-- Every report the reader returns is indexed exactly when its times lie after the
epoch and its texts can be bound. A run over files that are read cleanly comes to its
end, at the cost of issues only, exactly when the paths can be bound, one by one and
all in one statement, and every winner is already stored or is such a report. -/
theorem bad_file_costs (env : ReportEnv) (digests : ∀ data, IsDigest (env.sha256 data)) :
    (∀ whole parsed, parseMarkdownReport env.toReaderEnv whole = .ok parsed →
      ∀ rel contentHash byteSize docSource now, rel ≠ [] → IsDigest contentHash →
      ∀ db : IndexDb, db.WellFormed →
        let columns := indexColumns parsed parsed.analysisId rel contentHash byteSize docSource
        ((∃ id after, (indexReport env.unicode columns (bodyTexts parsed) now).run db = (.ok id, after)) ↔
          AfterEpoch parsed ∧ Bindable env.unicode columns (bodyTexts parsed))) ∧
    ∀ purge disk before, disk.usable = true → ReadsCleanly env disk →
      IndexDb.WellFormed before → before.IssuesFormed →
      (RunsToTheEnd env purge disk before ↔ NoneInTheGap env disk before) := by
  constructor
  · intro whole parsed read rel contentHash byteSize docSource now named digest db formed columns
    rw [indexReport_returns formed, accepted_iff read named digest byteSize docSource]
  · intro purge disk before usable clean formed issues
    rw [← runFits_iff digests usable clean]
    constructor
    · rintro ⟨enough, runs⟩
      obtain ⟨counters, after, done, _⟩ := runs (List.replicate enough 0) (by simp)
      exact (fits_of_done formed issues done).1
    · intro fits
      refine ⟨rank env disk .begin, fun nows many => ?_⟩
      obtain ⟨counters, after, done, passed⟩ :=
        @undisturbed_done env purge disk before formed issues fits nows many
      exact ⟨counters, after, done, costsOnlyIssues_of_passed passed⟩

theorem bad_file_costs_later :
    (∃ parsed id after,
      parseMarkdownReport reportEnv.toReaderEnv (sampleReport "b1" "2024") = .ok parsed ∧
      (indexReport reportEnv.unicode (indexColumns parsed parsed.analysisId (text "b.md")
        (reportEnv.sha256 (sampleBytes "b1" "2024")) (some 202) .rebuild) (bodyTexts parsed) 1).run
        {} = (.ok id, after)) ∧
    RunsToTheEnd reportEnv true laterDisk {} := by
  have guarantee := bad_file_costs reportEnv reportEnv_digests
  have checked : (parseMarkdownReport reportEnv.toReaderEnv
      (sampleReport "b1" "2024")).toOption.any
      (fun parsed => decide (0 < parsed.analyzedAt.timestamp) && parsed.publishedAt.isNone &&
        decide (∀ t ∈ entryTexts (indexColumns parsed parsed.analysisId (text "b.md")
          (reportEnv.sha256 (sampleBytes "b1" "2024")) (some 202) .rebuild) ++
          ftsTexts (ftsRowValues reportEnv.unicode (indexColumns parsed parsed.analysisId
            (text "b.md") (reportEnv.sha256 (sampleBytes "b1" "2024")) (some 202) .rebuild)
            (bodyTexts parsed)), Encodable t)) = true := by decide +kernel
  obtain ⟨parsed, read, facts⟩ := ok_of_any checked
  simp only [Bool.and_eq_true, decide_eq_true_eq, Option.isNone_iff_eq_none] at facts
  constructor
  · obtain ⟨id, after, ran⟩ := (guarantee.1 _ parsed read (text "b.md") _ (some 202) .rebuild 1
      (by decide) (reportEnv_digests (sampleBytes "b1" "2024")) {} IndexDb.wellFormed_empty).2
      ⟨⟨facts.1.1, by rw [facts.1.2]; rintro published ⟨⟩⟩, facts.2⟩
    exact ⟨parsed, id, after, read, ran⟩
  · exact (guarantee.2 true laterDisk {} rfl later_readsCleanly IndexDb.wellFormed_empty
      IndexDb.issuesFormed_empty).2 (later_noneInTheGap {})

/-- The reader returns the report of 1960; its entry is refused, and a run over the
directory never comes to its end. -/
theorem early_report_stops_run :
    (∃ parsed,
      parseMarkdownReport reportEnv.toReaderEnv (sampleReport "a1" "1960") = .ok parsed ∧
      ¬ ∃ id after, (indexReport reportEnv.unicode
        (indexColumns parsed parsed.analysisId (text "a.md")
          (reportEnv.sha256 (sampleBytes "a1" "1960")) (some 202) .rebuild)
        (bodyTexts parsed) 1).run {} = (.ok id, after)) ∧
    ReadsCleanly reportEnv sampleDisk ∧ ¬ RunsToTheEnd reportEnv false sampleDisk {} := by
  refine ⟨?_, ?_, ?_⟩
  · have checked : (parseMarkdownReport reportEnv.toReaderEnv
        (sampleReport "a1" "1960")).toOption.any
        (fun parsed => decide (parsed.analyzedAt.timestamp < 0)) = true := by decide +kernel
    obtain ⟨parsed, read, early⟩ := ok_of_any checked
    refine ⟨parsed, read, ?_⟩
    rw [indexReport_returns IndexDb.wellFormed_empty,
      accepted_iff read (by decide) (reportEnv_digests _)]
    rintro ⟨after, _⟩
    exact absurd (after.1.trans (of_decide_eq_true early)) (lt_irrefl _)
  · intro rel mem
    rcases sampleDisk_path mem with rfl | rfl
    · obtain ⟨parsed, decoded, _⟩ := early_decodes
      exact ⟨_, Directory.find_of_mem List.mem_cons_self, .inl ⟨parsed, decoded⟩⟩
    · obtain ⟨parsed, decoded⟩ := later_decodes
      exact ⟨_, Directory.find_of_mem (List.mem_cons_of_mem _ List.mem_cons_self),
        .inl ⟨parsed, decoded⟩⟩
  · rintro ⟨enough, runs⟩
    obtain ⟨counters, after, done, _⟩ := runs (List.replicate enough 0) (by simp)
    have fits := (fits_of_done IndexDb.wellFormed_empty IndexDb.issuesFormed_empty done).1
    obtain ⟨parsed, decoded, early⟩ := early_decodes
    have won := early_wins decoded
    rcases fits.files.2 _ _ _ (winnerOf_run.2 won) with ⟨seen, known, _⟩ | indexable
    · cases known
    · exact early ((indexable_iff reportEnv_digests won.1).1 indexable).1

end EvoBlue.Guarantees
