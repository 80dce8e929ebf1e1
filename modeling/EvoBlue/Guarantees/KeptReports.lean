import EvoBlue.Guarantees.RebuildConvergence
import EvoBlue.Source.ReportNames

/-!
# What the pipeline indexes, a rebuild keeps

The directory holds the files of the pipeline, one for each job. A rescan finds their
documents as they are, and makes the same ones out of nothing. It passes over the hidden files,
and a title that starts with a dot makes one; and it raises where the sweep of its absence pass
has fewer parameters than there are reports.
-/

namespace EvoBlue.Guarantees

open EvoBlue.Kernel EvoBlue.Source

/-- A report of the pipeline: what its file was named after, the file, and what is read in it. -/
structure PipelineReport where
  title : Text
  jobId : Text
  path : Text
  data : Bytes
  parsed : ParsedReport

namespace PipelineReport

/-- `GeneratingReportHandler` has put the file there. Job ids and the suffix of a conflict copy
are hexadecimal. -/
structure Written (env : ReportEnv) (report : PipelineReport) : Prop where
  named : cp '/' ∉ report.jobId
  written : ∃ dir content previousHash suffix plan, encodeUtf8 content = some report.data ∧
    cp '/' ∉ suffix ∧
    planWrite env.sha256 dir (reportFilename env.unicode report.title report.jobId
      (env.sha256 report.data)) content previousHash suffix = .ok plan ∧
    plan.result.path = report.path

/-- The entry `IndexingHandler` makes of the report. -/
def columns (env : ReportEnv) (report : PipelineReport) : EntryColumns :=
  indexColumns report.parsed report.jobId report.path (env.sha256 report.data)
    (some report.data.length) .pipeline

def document (env : ReportEnv) (report : PipelineReport) : DocView :=
  ⟨report.columns env, .active, [ftsRowValues env.unicode (report.columns env) (bodyTexts report.parsed)]⟩

/-- `IndexingHandler` has succeeded, and its document stands. -/
structure Indexed (env : ReportEnv) (before : IndexDb) (report : PipelineReport) : Prop where
  decoded : decodeReportBytes env.toReaderEnv report.data = .ok report.parsed
  accepted : (report.columns env).accepted env.unicode = true
  bindable : Bindable env.unicode (report.columns env) (bodyTexts report.parsed)
  stored : before.view report.jobId = some (report.document env)

end PipelineReport

/-- The directory holds exactly the files of these reports, one for each job. -/
structure HoldsReports (reports : List PipelineReport) (disk : Disk) : Prop where
  usable : disk.usable = true
  files : ∀ path content, (path, content) ∈ disk.dir.files ↔
    ∃ report ∈ reports, path = report.path ∧ content = .bytes report.data
  single : (reports.map (·.jobId)).Nodup

/-- Every rescan keeps the reports, and one of an empty index makes the same documents. -/
structure KeepsReports (env : ReportEnv) (reports : List PipelineReport) (disk : Disk)
    (before : IndexDb) : Prop where
  enumerated : ∀ report ∈ reports, report.path ∈ collect env.unicode disk.dir
  kept : ∀ purge, ∃ enough, ∀ nows : List Time, enough ≤ nows.length → ∃ counters after,
    undisturbed env purge disk before nows = (.done counters true, after) ∧
    counters.unchanged = reports.length ∧ counters.indexed = 0 ∧
    ∀ report ∈ reports, after.view report.jobId = some (report.document env)
  recreated : ∀ purge, ∃ enough, ∀ nows : List Time, enough ≤ nows.length → ∃ counters fresh,
    undisturbed env purge disk {} nows = (.done counters true, fresh) ∧
    (∀ report ∈ reports, ∃ seen ∈ fresh.view report.jobId, SameButSource seen (report.document env)) ∧
    ∀ jobId, ∀ _ ∈ fresh.view jobId, ∃ report ∈ reports, report.jobId = jobId

/-- The sweep of the absence pass has a parameter for each report, and one to spare if an issue is
open on another path. -/
structure SweepsReports (env : ReportEnv) (reports : List PipelineReport) (before : IndexDb) :
    Prop where
  few : reports.length ≤ env.maxVariables
  spare : ∀ code path, before.HasOpen code path → (∀ report ∈ reports, report.path ≠ path) →
    reports.length < env.maxVariables

section

variable {env : ReportEnv} {reports : List PipelineReport} {disk : Disk} {before after : IndexDb}
  {report : PipelineReport}

/-! ## Names -/

/-- A digest has no slash. -/
theorem digest_plain (accepted : (report.columns env).accepted env.unicode = true) :
    cp '/' ∉ env.sha256 report.data := by
  intro mem
  unfold EntryColumns.accepted at accepted
  simp only [Bool.and_eq_true] at accepted
  have digits := accepted.1.1.1.1.1.1.2
  have here := List.all_eq_true.1 digits (cp '/') mem
  exact absurd here (by decide)

/-- Where a report lies. -/
theorem written_path (written : report.Written env) (digest : cp '/' ∉ env.sha256 report.data) :
    ∃ front, report.path = front ++ text ".md" ∧ cp '/' ∉ front ∧
      ((front ++ text ".md").head? = some (cp '.') ↔ StartsDotted report.title) := by
  obtain ⟨dir, content, previousHash, suffix, plan, -, plain, planned, path⟩ := written.written
  have base := @safeBase_plain env.unicode report.title report.jobId written.named
  have short : cp '/' ∉ (env.sha256 report.data).take 8 :=
    fun mem => digest (List.mem_of_mem_take mem)
  have named : safeBase env.unicode report.title report.jobId ++ text "-" ++
      (env.sha256 report.data).take 8 ≠ [] := by
    simp [text]
  have free : cp '/' ∉ safeBase env.unicode report.title report.jobId ++ text "-" ++
      (env.sha256 report.data).take 8 := by
    simp only [List.mem_append, not_or]
    exact ⟨⟨base, by decide⟩, short⟩
  rw [reportFilename_eq] at planned
  obtain ⟨back, put, conflict⟩ := planWrite_path named free planned
  refine ⟨_, path.symm.trans put, ?_, ?_⟩
  · simp only [List.mem_append, not_or]
    simp only [List.mem_append, not_or] at free
    refine ⟨free, ?_⟩
    cases conflict with
    | inl own => simp [own]
    | inr copied =>
      rw [copied]
      simp only [List.mem_append, not_or]
      exact ⟨by decide, plain⟩
  · rw [← @safeBase_head env.unicode report.title report.jobId]
    cases safeBase env.unicode report.title report.jobId with
    | nil => simp [text, cp]
    | cons c rest => simp

/-- A report is enumerated unless its title starts with a dot. -/
theorem enumerated_iff (written : report.Written env) (indexed : report.Indexed env before)
    (holds : HoldsReports reports disk) (mem : report ∈ reports) :
    report.path ∈ collect env.unicode disk.dir ↔ ¬ StartsDotted report.title := by
  obtain ⟨front, path, free, dotted⟩ := written_path written (digest_plain indexed.accepted)
  have there : (report.path, FileContent.bytes report.data) ∈ disk.dir.files :=
    (holds.files _ _).2 ⟨report, mem, rfl, rfl⟩
  rw [mem_collect]
  constructor
  · rintro ⟨collected, -⟩
    rw [path, isCollected_markdown free] at collected
    exact mt dotted.2 collected
  · intro plain
    refine ⟨?_, _, there⟩
    rw [path, isCollected_markdown free]
    exact mt dotted.1 plain

/-! ## Winners -/

theorem Indexed.analysisId (indexed : report.Indexed env before) :
    report.parsed.analysisId = report.jobId := EntryColumns.accepted_named indexed.accepted

/-- A carrier is the file of a report. -/
theorem carries_report (indexed : ∀ report ∈ reports, report.Indexed env before)
    (holds : HoldsReports reports disk) {rel : Text} {raw : Bytes} {parsed : ParsedReport}
    (carries : Carries env disk rel raw parsed) :
    ∃ report ∈ reports, rel = report.path ∧ raw = report.data ∧ parsed = report.parsed := by
  obtain ⟨report, mem, path, data⟩ := (holds.files _ _).1 (Directory.mem_of_find carries.2.1)
  have decoded := carries.2.2
  have same : raw = report.data := FileContent.bytes.inj data
  rw [same, (indexed report mem).decoded] at decoded
  exact ⟨report, mem, path, same, (Except.ok.inj decoded).symm⟩

theorem report_carries (indexed : report.Indexed env before) (holds : HoldsReports reports disk)
    (mem : report ∈ reports) (enumerated : report.path ∈ collect env.unicode disk.dir) :
    Carries env disk report.path report.data report.parsed :=
  ⟨enumerated, Directory.find_of_mem ((holds.files _ _).2 ⟨report, mem, rfl, rfl⟩), indexed.decoded⟩

/-- No other file carries the analysis id of a report. -/
theorem report_wins (indexed : ∀ report ∈ reports, report.Indexed env before)
    (holds : HoldsReports reports disk) (mem : report ∈ reports)
    (enumerated : report.path ∈ collect env.unicode disk.dir) :
    IsWinner env disk report.path report.data report.parsed := by
  refine ⟨report_carries (indexed report mem) holds mem enumerated, ?_⟩
  intro rel raw parsed carries same
  obtain ⟨other, memOther, path, -, read⟩ := carries_report indexed holds carries
  have job : other.jobId = report.jobId := by
    rw [← Indexed.analysisId (indexed other memOther), ← Indexed.analysisId (indexed report mem),
      ← read, same]
  have one := List.inj_on_of_nodup_map holds.single memOther mem job
  rw [path, one]

/-- The documents of the reports are the ones a rescan would make. -/
theorem document_stored (indexed : report.Indexed env before) :
    StoresFile env report.path report.data report.parsed (report.document env) := by
  refine ⟨?_, rfl, ?_⟩
  · unfold rescanColumns
    rw [Indexed.analysisId indexed]
    rfl
  · unfold rescanTexts rescanColumns
    rw [Indexed.analysisId indexed]
    rfl

/-- What `IndexingHandler` makes of a report it accepts. -/
theorem indexed_by_pipeline (formed : before.WellFormed) (issues : before.IssuesFormed) (now : Time)
    (decoded : decodeReportBytes env.toReaderEnv report.data = .ok report.parsed)
    (accepted : (report.columns env).accepted env.unicode = true)
    (bindable : Bindable env.unicode (report.columns env) (bodyTexts report.parsed))
    (ran : indexPipelineReport env report.jobId report.path report.data report.data now before =
      after) :
    report.Indexed env after ∧ after.WellFormed ∧ after.IssuesFormed := by
  have named := EntryColumns.accepted_named accepted
  have stores : after = before.upserted (report.columns env)
      (ftsRowValues env.unicode (report.columns env) (bodyTexts report.parsed)) now := by
    rw [← ran]
    exact indexPipelineReport_upserted formed rfl decoded accepted bindable
  rw [stores]
  refine ⟨⟨decoded, accepted, bindable, ?_⟩, formed.upserted named bindable now,
    issues.of_issues (IndexDb.upserted_issues _ _ _ _).1 (IndexDb.upserted_nextIssueId _ _ _ _)⟩
  rw [formed.view_upserted named]
  exact if_pos rfl

/-! ## Runs -/

theorem reports_recordable (indexed : ∀ report ∈ reports, report.Indexed env before)
    (holds : HoldsReports reports disk)
    (few : (collect env.unicode disk.dir).length ≤ env.maxVariables)
    (spare : ∀ code path, before.HasOpen code path → path ∉ collect env.unicode disk.dir →
      (collect env.unicode disk.dir).length < env.maxVariables) : Recordable env disk before where
  few := few
  spare := spare
  scans := by
    intro rel mem
    obtain ⟨-, content, found⟩ := mem_collect.1 mem
    obtain ⟨report, memReport, rfl, rfl⟩ := (holds.files _ _).1 found
    have scanned : scanFile env disk report.path =
        .ok ⟨report.path, .readable report.data report.parsed⟩ := by
      unfold scanFile
      rw [Directory.find_of_mem found]
      dsimp only
      rw [(indexed report memReport).decoded]
    exact (scans_of_ok scanned).1
  paths := by
    intro rel mem
    obtain ⟨-, content, found⟩ := mem_collect.1 mem
    obtain ⟨report, memReport, rfl, rfl⟩ := (holds.files _ _).1 found
    apply (indexed report memReport).bindable
    simp [entryTexts, PipelineReport.columns, indexColumns]
  winners := by
    intro rel raw parsed won
    obtain ⟨report, mem, rfl, rfl, rfl⟩ := carries_report indexed holds won.1
    have bindable := (indexed report mem).bindable
    unfold rescanColumns
    rw [Indexed.analysisId (indexed report mem)]
    exact bindable

theorem reports_pass (indexed : ∀ report ∈ reports, report.Indexed env before)
    (holds : HoldsReports reports disk) : PassesChecks env disk := by
  intro rel raw parsed carries
  obtain ⟨report, mem, rfl, rfl, rfl⟩ := carries_report indexed holds carries
  have accepted := (indexed report mem).accepted
  unfold rescanColumns
  rw [Indexed.analysisId (indexed report mem)]
  exact accepted

/-- A rescan that has all reports to itself finds each unchanged. -/
theorem reports_unchanged (indexed : ∀ report ∈ reports, report.Indexed env before)
    (holds : HoldsReports reports disk) : Calm env before (runOutcomes env disk) := by
  intro rel raw parsed wins
  obtain ⟨report, mem, rfl, rfl, rfl⟩ := carries_report indexed holds (winnerOf_run.1 wins).1
  rw [Indexed.analysisId (indexed report mem)]
  exact ⟨_, (indexed report mem).stored, rfl, rfl, rfl⟩

theorem reports_all_win (indexed : ∀ report ∈ reports, report.Indexed env before)
    (holds : HoldsReports reports disk) : AllWin (runOutcomes env disk) := by
  intro outcome mem
  obtain ⟨rel, collected, rfl⟩ := List.mem_map.1 mem
  obtain ⟨-, content, found⟩ := mem_collect.1 collected
  obtain ⟨report, memReport, rfl, rfl⟩ := (holds.files _ _).1 found
  have carries := report_carries (indexed report memReport) holds memReport collected
  have read : outcomeOf env disk report.path = ⟨report.path, .readable report.data report.parsed⟩ :=
    outcomeOf_readable.2 carries.2
  rw [read]
  exact ⟨_, _, rfl, winnerOf_run.2 (report_wins indexed holds memReport collected)⟩

/-- As many files are enumerated as there are reports. -/
theorem length_collect (indexed : ∀ report ∈ reports, report.Indexed env before)
    (holds : HoldsReports reports disk)
    (enumerated : ∀ report ∈ reports, report.path ∈ collect env.unicode disk.dir) :
    (collect env.unicode disk.dir).length = reports.length := by
  have distinct : (reports.map (·.path)).Nodup := by
    rw [List.nodup_map_iff_inj_on (List.Nodup.of_map _ holds.single)]
    intro first memFirst second memSecond path
    have found := (report_carries (indexed first memFirst) holds memFirst
      (enumerated first memFirst)).2.1
    have foundSecond := (report_carries (indexed second memSecond) holds memSecond
      (enumerated second memSecond)).2.1
    rw [path, foundSecond] at found
    have data : second.data = first.data := FileContent.bytes.inj (Option.some.inj found)
    have decoded := (indexed first memFirst).decoded
    rw [← data, (indexed second memSecond).decoded] at decoded
    have read : second.parsed = first.parsed := Except.ok.inj decoded
    apply List.inj_on_of_nodup_map holds.single memFirst memSecond
    rw [← Indexed.analysisId (indexed first memFirst), ← Indexed.analysisId (indexed second memSecond),
      read]
  have perm : (collect env.unicode disk.dir).Perm (reports.map (·.path)) := by
    rw [List.perm_ext_iff_of_nodup (collect_nodup _ _) distinct]
    intro rel
    constructor
    · intro mem
      obtain ⟨-, content, found⟩ := mem_collect.1 mem
      obtain ⟨report, memReport, rfl, -⟩ := (holds.files _ _).1 found
      exact List.mem_map_of_mem memReport
    · intro mem
      obtain ⟨report, memReport, rfl⟩ := List.mem_map.1 mem
      exact enumerated report memReport
  rw [perm.length_eq, List.length_map]

/-- The enumerated paths are those of the reports. -/
theorem mem_collect_reports (holds : HoldsReports reports disk)
    (enumerated : ∀ report ∈ reports, report.path ∈ collect env.unicode disk.dir) {path : Text} :
    path ∈ collect env.unicode disk.dir ↔ ∃ report ∈ reports, report.path = path := by
  constructor
  · intro mem
    obtain ⟨-, content, found⟩ := mem_collect.1 mem
    obtain ⟨report, memReport, rfl, -⟩ := (holds.files _ _).1 found
    exact ⟨report, memReport, rfl⟩
  · rintro ⟨report, mem, rfl⟩
    exact enumerated report mem

/-- What the sweep asks of the enumerated paths, it asks of the reports. -/
theorem sweepsReports_iff (indexed : ∀ report ∈ reports, report.Indexed env before)
    (holds : HoldsReports reports disk)
    (enumerated : ∀ report ∈ reports, report.path ∈ collect env.unicode disk.dir) :
    SweepsReports env reports before ↔
      (collect env.unicode disk.dir).length ≤ env.maxVariables ∧
        ∀ code path, before.HasOpen code path → path ∉ collect env.unicode disk.dir →
          (collect env.unicode disk.dir).length < env.maxVariables := by
  rw [length_collect indexed holds enumerated]
  simp only [mem_collect_reports holds enumerated, not_exists, not_and]
  exact ⟨fun sweeps => ⟨sweeps.few, sweeps.spare⟩, fun sweeps => ⟨sweeps.1, sweeps.2⟩⟩

/-- Over the index of the pipeline nothing changes. -/
theorem reports_kept (formed : before.WellFormed) (issues : before.IssuesFormed)
    (indexed : ∀ report ∈ reports, report.Indexed env before) (holds : HoldsReports reports disk)
    (enumerated : ∀ report ∈ reports, report.path ∈ collect env.unicode disk.dir)
    (sweeps : SweepsReports env reports before) (purge : Bool)
    {nows : List Time} (many : rank env disk .begin ≤ nows.length) :
    ∃ counters after, undisturbed env purge disk before nows = (.done counters true, after) ∧
      counters.unchanged = reports.length ∧ counters.indexed = 0 ∧
      ∀ report ∈ reports, after.view report.jobId = some (report.document env) := by
  obtain ⟨few, spare⟩ := (sweepsReports_iff indexed holds enumerated).1 sweeps
  have fits : RunFits env disk before := runFits_of_recordable holds.usable
    (reports_pass indexed holds) (reports_recordable indexed holds few spare)
  obtain ⟨counters, after, done, passed⟩ := @undisturbed_done env purge disk before formed issues
    fits nows many
  have views : ∀ report ∈ reports, after.view report.jobId = some (report.document env) := by
    intro report mem
    have unchanged := reports_unchanged indexed holds report.path report.data report.parsed
      (winnerOf_run.2 (report_wins indexed holds mem (enumerated report mem)))
    rcases passed.winner (report_wins indexed holds mem (enumerated report mem)) with
      ⟨-, same⟩ | ⟨changed, -⟩
    · rw [Indexed.analysisId (indexed report mem)] at same
      rw [same, (indexed report mem).stored]
    · exact absurd unchanged changed
  obtain ⟨progress, middle, ⟨-, -, kept⟩, pass⟩ := passed
  obtain ⟨-, indexedCount, unchangedCount, -, -⟩ := pass.counts
  obtain ⟨-, -, unchangedAll, indexedNone⟩ := kept.calm (reports_unchanged indexed holds)
  have all := kept.allWin (reports_all_win indexed holds)
  rw [List.length_map, length_collect indexed holds enumerated] at all
  refine ⟨counters, after, done, ?_, ?_, views⟩
  · rw [unchangedCount, unchangedAll, all]
  · rw [indexedCount, indexedNone]

/-- Over an empty index the same documents appear, and no others. -/
theorem reports_recreated (indexed : ∀ report ∈ reports, report.Indexed env before)
    (holds : HoldsReports reports disk)
    (enumerated : ∀ report ∈ reports, report.path ∈ collect env.unicode disk.dir)
    (sweeps : SweepsReports env reports before) (purge : Bool)
    {nows : List Time} (many : rank env disk .begin ≤ nows.length) :
    ∃ counters fresh, undisturbed env purge disk {} nows = (.done counters true, fresh) ∧
      (∀ report ∈ reports, ∃ seen ∈ fresh.view report.jobId,
        SameButSource seen (report.document env)) ∧
      ∀ jobId, ∀ _ ∈ fresh.view jobId, ∃ report ∈ reports, report.jobId = jobId := by
  obtain ⟨few, spare⟩ := (sweepsReports_iff indexed holds enumerated).1 sweeps
  have fits : RunFits env disk {} := runFits_of_recordable holds.usable
    (reports_pass indexed holds) (reports_recordable indexed holds few spare).fresh
  obtain ⟨counters, fresh, done, passed⟩ := @undisturbed_done env purge disk {}
    IndexDb.wellFormed_empty IndexDb.issuesFormed_empty fits nows many
  refine ⟨counters, fresh, done, ?_, ?_⟩
  · intro report mem
    have job := Indexed.analysisId (indexed report mem)
    rcases passed.winner (report_wins indexed holds mem (enumerated report mem)) with
      ⟨⟨seen, known, -⟩, -⟩ | ⟨-, -, stored⟩
    · cases known
    · rw [job] at stored
      exact ⟨_, stored, sameButSource_symm (document_stored (indexed report mem))⟩
  · intro jobId seen known
    rcases carried_or_not env disk jobId with ⟨rel, raw, parsed, won, rfl⟩ | uncarried
    · obtain ⟨report, mem, -, -, rfl⟩ := carries_report indexed holds won.1
      exact ⟨report, mem, (Indexed.analysisId (indexed report mem)).symm⟩
    · obtain ⟨old, stored, -⟩ := (passed.absent uncarried).1 seen known
      cases stored

end

/-- The reports of the pipeline survive every rescan exactly when no title starts with a dot and
the sweep can bind their paths. -/
theorem pipeline_reports_kept_iff (env : ReportEnv) {reports : List PipelineReport} {disk : Disk}
    {before : IndexDb} (formed : before.WellFormed) (issues : before.IssuesFormed)
    (written : ∀ report ∈ reports, report.Written env)
    (indexed : ∀ report ∈ reports, report.Indexed env before) (holds : HoldsReports reports disk) :
    KeepsReports env reports disk before ↔
      (∀ report ∈ reports, ¬ StartsDotted report.title) ∧ SweepsReports env reports before := by
  constructor
  · intro keeps
    constructor
    · intro report mem
      exact (enumerated_iff (written report mem) (indexed report mem) holds mem).1
        (keeps.enumerated report mem)
    · obtain ⟨enough, runs⟩ := keeps.kept false
      obtain ⟨counters, after, done, -⟩ := runs (List.replicate enough 0) (by simp)
      have fits := (fits_of_done formed issues done).1
      exact (sweepsReports_iff indexed holds keeps.enumerated).2 ⟨fits.few, fits.spare⟩
  · rintro ⟨plain, sweeps⟩
    have enumerated : ∀ report ∈ reports, report.path ∈ collect env.unicode disk.dir :=
      fun report mem => (enumerated_iff (written report mem) (indexed report mem) holds mem).2
        (plain report mem)
    constructor
    · exact enumerated
    · intro purge
      exact ⟨rank env disk .begin, fun nows many =>
        reports_kept formed issues indexed holds enumerated sweeps purge many⟩
    · intro purge
      exact ⟨rank env disk .begin, fun nows many =>
        reports_recreated indexed holds enumerated sweeps purge many⟩

/-! ## Two titles -/

/-- A directory with the file of this report. -/
def onlyDisk (report : PipelineReport) : Disk where
  dir :=
    { files := [(report.path, .bytes report.data)]
      distinct := List.nodup_singleton _ }

/-- The index after the pipeline's upsert. -/
def onlyIndex (env : ReportEnv) (report : PipelineReport) : IndexDb :=
  indexPipelineReport env report.jobId report.path report.data report.data 5 {}

/-- The pipeline writes the report into an empty directory, and indexes it. -/
structure PassesPipeline (env : ReportEnv) (report : PipelineReport) : Prop where
  plain : cp '/' ∉ report.jobId
  encodes : ∃ markdown, encodeUtf8 markdown = some report.data
  named : reportFilename env.unicode report.title report.jobId (env.sha256 report.data) = report.path
  resolves : resolvePath report.path = .ok report.path
  decoded : decodeReportBytes env.toReaderEnv report.data = .ok report.parsed
  accepted : (report.columns env).accepted env.unicode = true
  bindable : Bindable env.unicode (report.columns env) (bodyTexts report.parsed)

theorem written_of_passes {env : ReportEnv} {report : PipelineReport}
    (passes : PassesPipeline env report) : report.Written env := by
  obtain ⟨markdown, encodes⟩ := passes.encodes
  have planned : planWrite env.sha256 Directory.empty report.path markdown none [] =
      .ok (.replace report.data ⟨report.path, env.sha256 report.data, false⟩) := by
    unfold planWrite
    rw [passes.resolves]
    dsimp only [bind, Except.bind]
    rw [encodes]
    rfl
  refine ⟨passes.plain, ?_⟩
  rw [passes.named]
  exact ⟨Directory.empty, markdown, none, [], _, encodes, List.not_mem_nil, planned, rfl⟩

theorem indexed_of_passes {env : ReportEnv} {report : PipelineReport}
    (passes : PassesPipeline env report) : report.Indexed env (onlyIndex env report) ∧
      (onlyIndex env report).WellFormed ∧ (onlyIndex env report).IssuesFormed :=
  indexed_by_pipeline IndexDb.wellFormed_empty IndexDb.issuesFormed_empty 5 passes.decoded
    passes.accepted passes.bindable rfl

theorem onlyDisk_holds (report : PipelineReport) : HoldsReports [report] (onlyDisk report) := by
  refine ⟨rfl, ?_, List.nodup_singleton _⟩
  intro path content
  simp [onlyDisk]

theorem collected_of_passes {env : ReportEnv} {report : PipelineReport}
    (passes : PassesPipeline env report) (plain : ¬ StartsDotted report.title) :
    isCollected env.unicode report.path = true := by
  have listed := (enumerated_iff (written_of_passes passes) (indexed_of_passes passes).1
    (onlyDisk_holds report) List.mem_cons_self).2 plain
  exact (mem_collect.1 listed).1

/-- A short report under a title, of the year 2024. -/
def titledMarkdown (title : String) : Text :=
  text "---\nschema_version: 1\nanalysis_id: \"b1\"\nsource_url: \"https://e.org/v\"\n" ++
    text "platform: \"youtube\"\nvideo_id: \"v\"\ntitle: \"" ++ text title ++
    text "\"\nanalyzed_at: \"2024-01-01T00:00:00+00:00\"\nsummary_mode: \"auto\"\n---\n# " ++
    text title ++ text "\n\n## 原始链接\n"

def titledBytes (title : String) : Bytes := (encodeUtf8 (titledMarkdown title)).getD []

/-- The name a first write gives it. -/
def titledPath (title : String) : Text :=
  reportFilename reportEnv.unicode (text title) (text "b1") (reportEnv.sha256 (titledBytes title))

def titled (title : String) (parsed : ParsedReport) : PipelineReport :=
  ⟨text title, text "b1", titledPath title, titledBytes title, parsed⟩

instance (unicode : UnicodeData) (columns : EntryColumns) (body : FtsBodyTexts) :
    Decidable (Bindable unicode columns body) := inferInstanceAs (Decidable (∀ t ∈ _, Kernel.Encodable t))

theorem titled_passes {title : String}
    (encodes : encodeUtf8 (titledMarkdown title) = some (titledBytes title))
    (resolves : resolvePath (titledPath title) = .ok (titledPath title))
    (checked : (decodeReportBytes reportEnv.toReaderEnv (titledBytes title)).toOption.any (fun parsed =>
      ((titled title parsed).columns reportEnv).accepted reportEnv.unicode &&
        decide (Bindable reportEnv.unicode ((titled title parsed).columns reportEnv)
          (bodyTexts parsed))) = true) :
    ∃ parsed, PassesPipeline reportEnv (titled title parsed) := by
  obtain ⟨parsed, decoded, facts⟩ := ok_of_any checked
  simp only [Bool.and_eq_true, decide_eq_true_eq] at facts
  have named : reportFilename reportEnv.unicode (text title) (text "b1")
      (reportEnv.sha256 (titledBytes title)) = titledPath title := by
    rw [titledPath]
  use parsed
  -- The path and the bytes are compared as they stand, not evaluated.
  constructor <;> dsimp only [titled]
  · decide
  · exact ⟨titledMarkdown title, encodes⟩
  · exact named
  · exact resolves
  · exact decoded
  · exact facts.1
  · exact facts.2

theorem plain_passes : ∃ parsed, PassesPipeline reportEnv (titled "T" parsed) :=
  titled_passes (by decide +kernel) (by decide +kernel) (by decide +kernel)

theorem pipeline_reports_kept_plain : ∃ parsed,
    KeepsReports reportEnv [titled "T" parsed] (onlyDisk (titled "T" parsed))
      (onlyIndex reportEnv (titled "T" parsed)) := by
  obtain ⟨parsed, passes⟩ := plain_passes
  obtain ⟨indexed, formed, issues⟩ := indexed_of_passes passes
  use parsed
  refine (pipeline_reports_kept_iff reportEnv formed issues ?_ ?_ (onlyDisk_holds _)).2 ⟨?_, ?_⟩
  · intro report mem
    rw [List.mem_singleton.1 mem]
    exact written_of_passes passes
  · intro report mem
    rw [List.mem_singleton.1 mem]
    exact indexed
  · intro report mem
    rw [List.mem_singleton.1 mem]
    change ¬ StartsDotted (text "T")
    decide
  · have short : [titled "T" parsed].length < reportEnv.maxVariables := by
      rw [List.length_singleton]
      decide
    exact ⟨short.le, fun _ _ _ _ => short⟩

/-- The pipeline indexes the report of a title that starts with a dot; a rescan passes over it. -/
theorem dotted_title_is_lost : ∃ parsed, (titled ".T" parsed).Written reportEnv ∧
    (titled ".T" parsed).Indexed reportEnv (onlyIndex reportEnv (titled ".T" parsed)) ∧
    HoldsReports [titled ".T" parsed] (onlyDisk (titled ".T" parsed)) ∧
    ¬ KeepsReports reportEnv [titled ".T" parsed] (onlyDisk (titled ".T" parsed))
      (onlyIndex reportEnv (titled ".T" parsed)) := by
  obtain ⟨parsed, passes⟩ :=
    @titled_passes ".T" (by decide +kernel) (by decide +kernel) (by decide +kernel)
  have written := written_of_passes passes
  have indexed := (indexed_of_passes passes).1
  have holds := onlyDisk_holds (titled ".T" parsed)
  refine ⟨parsed, written, indexed, holds, ?_⟩
  intro keeps
  have plain := (enumerated_iff written indexed holds List.mem_cons_self).1
    (keeps.enumerated _ List.mem_cons_self)
  exact plain (show StartsDotted (text ".T") by decide)

end EvoBlue.Guarantees
