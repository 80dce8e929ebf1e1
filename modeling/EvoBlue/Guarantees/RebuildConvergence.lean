import EvoBlue.Guarantees.BadFiles
import EvoBlue.Source.IndexKept

/-!
# A rebuild depends on the files alone

Whatever the index has been through, an undisturbed rescan leaves the documents that a rescan
of an empty database would store, hides all others, and leaves nothing for a second one to do.
The fast path for files that are stored unchanged costs nothing here, because a stored document
is the projection of the content that its digest names. What a run cannot do is bind a text
with a lone surrogate, which the checks of an entry let pass, or more paths than a statement
has parameters.
-/

namespace EvoBlue.Guarantees

open EvoBlue.Kernel EvoBlue.Source

/-- The same document, but perhaps from the other source. -/
def SameButSource (seen other : DocView) : Prop :=
  { seen.columns with docSource := other.columns.docSource } = other.columns ∧
    seen.docStatus = other.docStatus ∧ seen.texts = other.texts

/-- The document of a file, as the pipeline or a rescan stores it. -/
def StoresFile (env : ReportEnv) (rel : Text) (raw : Bytes) (parsed : ParsedReport)
    (seen : DocView) : Prop :=
  SameButSource seen ⟨rescanColumns env rel raw parsed, .active, [rescanTexts env rel raw parsed]⟩

/-- No file of the directory carries the analysis id. -/
def Uncarried (env : ReportEnv) (disk : Disk) (jobId : Text) : Prop :=
  ∀ rel raw parsed, Carries env disk rel raw parsed → parsed.analysisId ≠ jobId

/-- What a rescan leaves of an index: `fresh` is what it leaves of an empty one. -/
structure Reconverges (env : ReportEnv) (disk : Disk) (before after fresh : IndexDb) : Prop where
  unique : (after.documents.map (·.jobId)).Nodup ∧
    ∀ row ∈ after.documents, row.analysisId = row.jobId
  winners : ∀ rel raw parsed, IsWinner env disk rel raw parsed →
    ∃ seen, after.view parsed.analysisId = some seen ∧ StoresFile env rel raw parsed seen
  others : ∀ jobId, Uncarried env disk jobId →
    after.view jobId = (before.view jobId).map DocView.missing
  active_alike : ∀ jobId, ∀ seen ∈ after.view jobId, seen.docStatus = .active →
    ∃ other ∈ fresh.view jobId, SameButSource seen other
  fresh_alike : ∀ jobId, ∀ other ∈ fresh.view jobId,
    ∃ seen ∈ after.view jobId, seen.docStatus = .active ∧ SameButSource seen other
  never_stale : ∀ row ∈ after.documents, row.docStatus ≠ .stale
  indexed : ∀ fts ∈ after.fts, ∃ row ∈ after.documents, row.id = fts.rowid ∧ row.docStatus = .active

/-- Every long enough run is done and settles the index, and a second one changes nothing. -/
def Converges (env : ReportEnv) (disk : Disk) (before : IndexDb) : Prop :=
  ∃ enough, ∀ nows freshNows againNows : List Time, enough ≤ nows.length →
    enough ≤ freshNows.length → enough ≤ againNows.length →
    ∃ counters after freshCounters fresh againCounters again,
      undisturbed env false disk before nows = (.done counters true, after) ∧
      undisturbed env false disk {} freshNows = (.done freshCounters true, fresh) ∧
      undisturbed env false disk after againNows = (.done againCounters true, again) ∧
      Reconverges env disk before after fresh ∧
      again.documents = after.documents ∧ again.fts = after.fts

/-- The run can go through the files: each is read as a report or as a `MarkdownParseError`,
paths and the texts of winners can be bound, and the sweep of the absence pass has a parameter
for each path, and one to spare if an issue is open on another one. -/
structure Recordable (env : ReportEnv) (disk : Disk) (before : IndexDb) : Prop where
  scans : ∀ rel ∈ collect env.unicode disk.dir, Scans env disk rel
  few : (collect env.unicode disk.dir).length ≤ env.maxVariables
  spare : ∀ code path, before.HasOpen code path → path ∉ collect env.unicode disk.dir →
    (collect env.unicode disk.dir).length < env.maxVariables
  paths : ∀ rel ∈ collect env.unicode disk.dir, Encodable rel
  winners : ∀ rel raw parsed, IsWinner env disk rel raw parsed →
    Bindable env.unicode (rescanColumns env rel raw parsed) (bodyTexts parsed)

/-- `ReportIndexEntry` takes every report of the directory. -/
def PassesChecks (env : ReportEnv) (disk : Disk) : Prop :=
  ∀ rel raw parsed, Carries env disk rel raw parsed →
    (rescanColumns env rel raw parsed).accepted env.unicode = true

section

variable {env : ReportEnv} {contents : Set Bytes} {disk : Disk} {before after : IndexDb}

/-! ## Winners -/

/-- A carried analysis id has a winner. -/
theorem exists_winner {rel : Text} {raw : Bytes} {parsed : ParsedReport}
    (carries : Carries env disk rel raw parsed) :
    ∃ relWon rawWon parsedWon, IsWinner env disk relWon rawWon parsedWon ∧
      parsedWon.analysisId = parsed.analysisId := by
  have mem := mem_runOutcomes.2 carries
  obtain ⟨outcome, won⟩ := winnerOf_isSome mem ((carries_readable rel raw parsed _).2 rfl)
  obtain ⟨relWon, result⟩ := outcome
  have carried := (winnerOf_mem won).2
  cases result with
  | unreadable => cases carried
  | rejected code => cases carried
  | readable rawWon parsedWon =>
    have named : parsedWon.analysisId = parsed.analysisId := (carries_readable _ _ _ _).1 carried
    rw [← named] at won
    exact ⟨relWon, rawWon, parsedWon, winnerOf_run.1 won, named⟩

theorem carried_or_not (env : ReportEnv) (disk : Disk) (jobId : Text) :
    (∃ rel raw parsed, IsWinner env disk rel raw parsed ∧ parsed.analysisId = jobId) ∨
      Uncarried env disk jobId := by
  by_cases carried : ∃ rel raw parsed, Carries env disk rel raw parsed ∧ parsed.analysisId = jobId
  · obtain ⟨rel, raw, parsed, carries, named⟩ := carried
    obtain ⟨relWon, rawWon, parsedWon, won, same⟩ := exists_winner carries
    exact .inl ⟨relWon, rawWon, parsedWon, won, same.trans named⟩
  · right
    intro rel raw parsed carries named
    exact carried ⟨rel, raw, parsed, carries, named⟩

theorem sameButSource_symm {seen other : DocView} (alike : SameButSource seen other) : SameButSource other seen := by
  obtain ⟨columns, docStatus, texts⟩ := alike
  refine ⟨?_, docStatus.symm, texts.symm⟩
  rw [← columns]

theorem sameButSource_trans {seen other third : DocView} (first : SameButSource seen other)
    (second : SameButSource other third) : SameButSource seen third := by
  obtain ⟨columns, docStatus, texts⟩ := first
  obtain ⟨columns', docStatus', texts'⟩ := second
  refine ⟨?_, docStatus.trans docStatus', texts.trans texts'⟩
  rw [← columns', ← columns]

/-- Two indexings of one content differ in nothing but their source. -/
theorem stored_unchanged (collisionFree : Set.InjOn env.sha256 contents)
    (within : disk.Within contents) (projected : Projected env contents before) {rel : Text}
    {raw : Bytes} {parsed : ParsedReport} (carries : Carries env disk rel raw parsed)
    (unchanged : Unchanged before parsed.analysisId rel (env.sha256 raw)) :
    ∃ seen, before.view parsed.analysisId = some seen ∧ StoresFile env rel raw parsed seen := by
  obtain ⟨seen, known, path, digest, active⟩ := unchanged
  obtain ⟨oldRel, oldRaw, oldParsed, docSource, mem, decoded, named, columns, texts⟩ :=
    projected.views parsed.analysisId seen known
  have memRaw : raw ∈ contents := within rel raw carries.2.1
  rw [columns] at path digest
  have sameRaw : oldRaw = raw := collisionFree mem memRaw digest
  have samePath : oldRel = rel := path
  rw [sameRaw, carries.2.2] at decoded
  have sameParsed : parsed = oldParsed := Except.ok.inj decoded
  refine ⟨seen, known, ?_, active, ?_⟩
  · rw [columns, sameRaw, samePath, ← sameParsed]
    rfl
  · rw [texts (by rw [active]; decide), columns, sameRaw, samePath, ← sameParsed]
    rfl

theorem storesFile_indexed {rel : Text} {raw : Bytes} {parsed : ParsedReport} :
    StoresFile env rel raw parsed
      ⟨rescanColumns env rel raw parsed, .active, [rescanTexts env rel raw parsed]⟩ :=
  ⟨rfl, rfl, rfl⟩

/-- A winner is stored after the run. -/
theorem winner_stored (collisionFree : Set.InjOn env.sha256 contents)
    (within : disk.Within contents) (projected : Projected env contents before)
    {purge : Bool} {counters : Counters} (passed : HasPassed env purge disk before counters after)
    {rel : Text} {raw : Bytes} {parsed : ParsedReport} (won : IsWinner env disk rel raw parsed) :
    ∃ seen, after.view parsed.analysisId = some seen ∧ StoresFile env rel raw parsed seen := by
  rcases passed.winner won with ⟨unchanged, same⟩ | ⟨-, -, stored⟩
  · rw [same]
    exact stored_unchanged collisionFree within projected won.1 unchanged
  · exact ⟨_, stored, storesFile_indexed⟩

/-! ## One run -/

theorem view_of_row (formed : after.WellFormed) {row : ReportRow} (mem : row ∈ after.documents) :
    ∃ seen, after.view row.jobId = some seen ∧ seen.docStatus = row.docStatus :=
  ⟨_, formed.view_of_mem mem, rfl⟩

theorem settles_of_passed (collisionFree : Set.InjOn env.sha256 contents)
    (within : disk.Within contents) (projected : Projected env contents before)
    {counters freshCounters : Counters} {fresh : IndexDb}
    (passed : HasPassed env false disk before counters after)
    (freshPassed : HasPassed env false disk {} freshCounters fresh) :
    Reconverges env disk before after fresh := by
  obtain ⟨formed, -⟩ := passed.formed
  have stored {rel : Text} {raw : Bytes} {parsed : ParsedReport}
      (won : IsWinner env disk rel raw parsed) :=
    winner_stored collisionFree within projected passed won
  have freshStored {rel : Text} {raw : Bytes} {parsed : ParsedReport}
      (won : IsWinner env disk rel raw parsed) :=
    winner_stored collisionFree within (projected_empty env contents) freshPassed won
  have others : ∀ jobId, Uncarried env disk jobId →
      after.view jobId = (before.view jobId).map DocView.missing :=
    fun jobId uncarried => (passed.absent uncarried).2 rfl
  have statuses : ∀ jobId seen, after.view jobId = some seen →
      seen.docStatus = .active ∨ seen.docStatus = .missing := by
    intro jobId seen known
    rcases carried_or_not env disk jobId with ⟨rel, raw, parsed, won, rfl⟩ | uncarried
    · obtain ⟨kept, knownKept, stores⟩ := stored won
      rw [known] at knownKept
      cases knownKept
      exact .inl stores.2.1
    · rw [others jobId uncarried] at known
      obtain ⟨old, -, rfl⟩ := Option.map_eq_some_iff.1 known
      exact .inr rfl
  constructor
  · exact ⟨formed.jobs, formed.named⟩
  · exact fun rel raw parsed won => stored won
  · exact others
  · intro jobId seen known active
    rcases carried_or_not env disk jobId with ⟨rel, raw, parsed, won, rfl⟩ | uncarried
    · obtain ⟨kept, knownKept, stores⟩ := stored won
      obtain ⟨other, knownOther, storesOther⟩ := freshStored won
      rw [Option.mem_def.1 known] at knownKept
      cases knownKept
      exact ⟨other, knownOther, sameButSource_trans stores (sameButSource_symm storesOther)⟩
    · rw [Option.mem_def, others jobId uncarried] at known
      obtain ⟨old, -, rfl⟩ := Option.map_eq_some_iff.1 known
      cases active
  · intro jobId other known
    rcases carried_or_not env disk jobId with ⟨rel, raw, parsed, won, rfl⟩ | uncarried
    · obtain ⟨seen, knownSeen, stores⟩ := stored won
      obtain ⟨kept, knownKept, storesKept⟩ := freshStored won
      rw [Option.mem_def.1 known] at knownKept
      cases knownKept
      exact ⟨seen, knownSeen, stores.2.1, sameButSource_trans stores (sameButSource_symm storesKept)⟩
    · rw [Option.mem_def, (freshPassed.absent uncarried).2 rfl] at known
      cases known
  · intro row mem stale
    obtain ⟨seen, known, same⟩ := view_of_row formed mem
    rcases statuses row.jobId seen known with active | missing
    · rw [same, stale] at active
      cases active
    · rw [same, stale] at missing
      cases missing
  · intro fts mem
    obtain ⟨row, memRow, owns, searchable⟩ := formed.owned fts mem
    refine ⟨row, memRow, owns, ?_⟩
    obtain ⟨seen, known, same⟩ := view_of_row formed memRow
    rcases statuses row.jobId seen known with active | missing
    · rw [← same]
      exact active
    · rw [same] at missing
      simp [ReportRow.searchable, missing] at searchable

/-- Every winner is unchanged after a run, and every other document settled. -/
theorem calm_after {fresh : IndexDb} (settles : Reconverges env disk before after fresh) :
    (∀ rel raw parsed, IsWinner env disk rel raw parsed →
      Unchanged after parsed.analysisId rel (env.sha256 raw)) ∧
    ∀ jobId, Uncarried env disk jobId → ∀ seen, after.view jobId = some seen →
      seen.docStatus = .missing := by
  constructor
  · intro rel raw parsed won
    obtain ⟨seen, known, columns, active, -⟩ := settles.winners rel raw parsed won
    refine ⟨seen, known, ?_, ?_, active⟩
    · exact congrArg EntryColumns.relativePath columns
    · exact congrArg EntryColumns.contentHash columns
  · intro jobId uncarried seen known
    rw [settles.others jobId uncarried] at known
    obtain ⟨old, -, rfl⟩ := Option.map_eq_some_iff.1 known
    rfl

/-- A second run changes no document and no index row. -/
theorem second_run_quiet {fresh again : IndexDb} {counters : Counters}
    (settles : Reconverges env disk before after fresh)
    (passed : HasPassed env false disk after counters again) :
    again.documents = after.documents ∧ again.fts = after.fts := by
  obtain ⟨unchanged, missing⟩ := calm_after settles
  obtain ⟨progress, middle, ⟨-, -, kept⟩, pass⟩ := passed
  have calm : Calm env after (runOutcomes env disk) := by
    intro rel raw parsed won
    exact unchanged rel raw parsed (winnerOf_run.1 won)
  obtain ⟨documents, fts, -, -⟩ := kept.calm calm
  have views : ∀ jobId, middle.view jobId = after.view jobId := by
    intro jobId
    unfold IndexDb.view IndexDb.findDocument IndexDb.textsOf
    rw [documents, fts]
  have settled : ∀ jobId seen, middle.view jobId = some seen → Settled progress false jobId seen := by
    intro jobId seen known
    rw [views] at known
    rcases carried_or_not env disk jobId with ⟨rel, raw, parsed, won, rfl⟩ | uncarried
    · obtain ⟨other, knownOther, path, -, -⟩ := unchanged rel raw parsed won
      rw [known] at knownOther
      cases knownOther
      have wins : winnerOf ((collect env.unicode disk.dir).map (outcomeOf env disk))
          parsed.analysisId = some ⟨rel, .readable raw parsed⟩ := winnerOf_run.2 won
      have claimed := kept.claimed parsed.analysisId
      rw [wins, Option.map_some] at claimed
      left
      rw [claimed, path]
    · exact .inr ⟨rfl, missing jobId uncarried seen known⟩
  obtain ⟨lastDocuments, lastFts⟩ := pass.quiet settled
  exact ⟨lastDocuments.trans documents, lastFts.trans fts⟩

/-! ## All runs -/

theorem runFits_of_recordable (usable : disk.usable = true) (checks : PassesChecks env disk)
    (recordable : Recordable env disk before) : RunFits env disk before := by
  refine ⟨usable, recordable.scans, ⟨?_, ?_⟩, recordable.few, recordable.spare⟩
  · intro outcome mem
    obtain ⟨rel, collected, rfl⟩ := List.mem_map.1 mem
    rw [outcomeOf_relPath]
    exact recordable.paths rel collected
  · intro rel raw parsed wins
    have won := winnerOf_run.1 wins
    exact .inr ⟨checks rel raw parsed won.1, recordable.winners rel raw parsed won⟩

/-- Where nothing is open on other paths, no parameter has to be spared. -/
theorem Recordable.settled (recordable : Recordable env disk before)
    (settled : ∀ code path, after.HasOpen code path → path ∈ collect env.unicode disk.dir) :
    Recordable env disk after :=
  { recordable with spare := fun code path isOpen apart => absurd (settled code path isOpen) apart }

theorem Recordable.fresh (recordable : Recordable env disk before) : Recordable env disk {} :=
  recordable.settled fun _ _ ⟨_, mem, _⟩ => nomatch mem

theorem recordable_of_fits (fits : RunFits env disk before) (fresh : RunFits env disk {}) :
    Recordable env disk before := by
  constructor
  · exact fits.scans
  · exact fits.few
  · exact fits.spare
  · intro rel mem
    have encodable := fits.files.1 (outcomeOf env disk rel) (List.mem_map_of_mem mem)
    rw [outcomeOf_relPath] at encodable
    exact encodable
  · intro rel raw parsed won
    rcases fresh.files.2 rel raw parsed (winnerOf_run.2 won) with ⟨seen, known, -⟩ | indexable
    · cases known
    · exact indexable.2

/-- A run over an empty database comes to its end on recordable files only. -/
theorem recordable_of_converges (formed : before.WellFormed) (issues : before.IssuesFormed)
    (converges : Converges env disk before) : Recordable env disk before := by
  obtain ⟨enough, runs⟩ := converges
  obtain ⟨counters, after, freshCounters, fresh, againCounters, again, done, freshDone, -⟩ :=
    runs (List.replicate enough 0) (List.replicate enough 0) (List.replicate enough 0)
      (by simp) (by simp) (by simp)
  exact recordable_of_fits (fits_of_done formed issues done).1
    (fits_of_done IndexDb.wellFormed_empty IndexDb.issuesFormed_empty freshDone).1

theorem historyKept_start {first : Disk} (within : first.Within contents) :
    HistoryKept env contents { disk := first } :=
  ⟨within, projected_empty env contents, fun _ _ same => by cases same⟩

/-- From every index that a history of these contents has led to, a rescan converges exactly
when every file is read and what has to be written can be bound. -/
theorem rebuild_converges_iff (collisionFree : Set.InjOn env.sha256 contents) (first : Disk)
    (firstWithin : first.Within contents) (events : List IndexEvent)
    (within : Meets (indexEvent env) (fun world event => event.Within contents world)
      { disk := first } events)
    (usable : disk.usable = true) (diskWithin : disk.Within contents)
    (checks : PassesChecks env disk) :
    Converges env disk (run (indexEvent env) { disk := first } events).db ↔
      Recordable env disk (run (indexEvent env) { disk := first } events).db := by
  have kept := historyKept_run collisionFree (historyKept_start firstWithin) within
  have projected := kept.projected
  constructor
  · exact recordable_of_converges projected.formed projected.issues
  · intro recordable
    use rank env disk .begin
    intro nows freshNows againNows many freshMany againMany
    obtain ⟨counters, after, done, passed⟩ := @undisturbed_done env false disk _
      projected.formed projected.issues (runFits_of_recordable usable checks recordable) nows many
    obtain ⟨freshCounters, fresh, freshDone, freshPassed⟩ := @undisturbed_done env false disk {}
      IndexDb.wellFormed_empty IndexDb.issuesFormed_empty
      (runFits_of_recordable usable checks recordable.fresh) freshNows freshMany
    have settles := settles_of_passed collisionFree diskWithin projected passed freshPassed
    have swept : Recordable env disk after :=
      recordable.settled fun _ _ isOpen => passed.swept isOpen
    obtain ⟨againCounters, again, againDone, againPassed⟩ := @undisturbed_done env false disk after
      passed.formed.1 passed.formed.2 (runFits_of_recordable usable checks swept) againNows againMany
    exact ⟨counters, after, freshCounters, fresh, againCounters, again, done, freshDone, againDone,
      settles, second_run_quiet settles againPassed⟩

end

/-! ## Two directories -/

theorem laterDisk_within : laterDisk.Within {sampleBytes "b1" "2024"} := by
  intro path raw found
  have file := Directory.mem_of_find found
  simp only [laterDisk, List.mem_singleton, Prod.mk.injEq, FileContent.bytes.injEq] at file
  exact file.2

theorem laterDisk_recordable (before : IndexDb) : Recordable reportEnv laterDisk before where
  scans := scans_of_readsCleanly later_readsCleanly
  few := laterDisk_short.le
  spare := fun _ _ _ _ => laterDisk_short
  paths := (later_noneInTheGap {}).paths
  winners := fun _ _ _ won => (later_fits won.1).2

/-- The report was indexed by the pipeline and has gone stale since. -/
theorem rebuild_converges_later : Converges reportEnv laterDisk
    (run (indexEvent reportEnv) { disk := laterDisk }
      [.pipeline (text "b1") (text "b.md") (sampleBytes "b1" "2024") (sampleBytes "b1" "2024") 5,
        .stale (text "b1") 6]).db := by
  have free : Set.InjOn reportEnv.sha256 {sampleBytes "b1" "2024"} := Set.injOn_singleton _ _
  have within : Meets (indexEvent reportEnv)
      (fun world event => event.Within {sampleBytes "b1" "2024"} world) { disk := laterDisk }
      [.pipeline (text "b1") (text "b.md") (sampleBytes "b1" "2024") (sampleBytes "b1" "2024") 5,
        .stale (text "b1") 6] := ⟨⟨rfl, rfl⟩, trivial, trivial⟩
  have checks : PassesChecks reportEnv laterDisk := by
    intro rel raw parsed carries
    exact ((indexable_iff reportEnv_digests carries).2 (later_fits carries)).1
  exact (rebuild_converges_iff free laterDisk laterDisk_within _ within rfl laterDisk_within
    checks).2 (laterDisk_recordable _)

/-- A report whose author is the escape of a lone surrogate. -/
def surrogateReport : Text :=
  text "---\nschema_version: 1\nanalysis_id: \"c1\"\nsource_url: \"https://e.org/v\"\n" ++
    text "platform: \"youtube\"\nvideo_id: \"v\"\ntitle: \"T\"\nauthor: \"\\ud800\"\n" ++
    text "analyzed_at: \"2024-01-01T00:00:00+00:00\"\nsummary_mode: \"auto\"\n---\n# T\n\n" ++
    text "## 原始链接\n"

def surrogateBytes : Bytes := (encodeUtf8 surrogateReport).getD []

def surrogateDisk : Disk where
  dir :=
    { files := [(text "c.md", .bytes surrogateBytes)]
      distinct := by decide }

theorem surrogate_decodes : ∃ parsed,
    decodeReportBytes reportEnv.toReaderEnv surrogateBytes = .ok parsed ∧ AfterEpoch parsed ∧
      ¬ Encodable parsed.author := by
  have checked : (decodeReportBytes reportEnv.toReaderEnv surrogateBytes).toOption.any
      (fun parsed => decide (0 < parsed.analyzedAt.timestamp) && parsed.publishedAt.isNone &&
        decide (¬ Encodable parsed.author)) = true := by decide +kernel
  obtain ⟨parsed, decoded, facts⟩ := ok_of_any checked
  simp only [Bool.and_eq_true, decide_eq_true_eq, Option.isNone_iff_eq_none] at facts
  refine ⟨parsed, decoded, ⟨facts.1.1, ?_⟩, facts.2⟩
  intro published mem
  rw [facts.1.2] at mem
  cases mem

theorem surrogate_carried {rel : Text} {raw : Bytes} {parsed : ParsedReport}
    (carries : Carries reportEnv surrogateDisk rel raw parsed) :
    rel = text "c.md" ∧ raw = surrogateBytes := by
  have file := Directory.mem_of_find carries.2.1
  simp only [surrogateDisk, List.mem_singleton, Prod.mk.injEq, FileContent.bytes.injEq] at file
  exact file

/-- The entry of the report passes its checks, but its author cannot be bound: no run over the
directory comes to its end. -/
theorem surrogate_author_stops_run :
    PassesChecks reportEnv surrogateDisk ∧ ¬ Converges reportEnv surrogateDisk {} := by
  obtain ⟨parsed, decoded, after, unencodable⟩ := surrogate_decodes
  constructor
  · intro rel raw other carries
    obtain ⟨whole, read⟩ := decodeReportBytes_read carries.2.2
    have same : other = parsed := by
      have found := carries.2.2
      rw [(surrogate_carried carries).2, decoded] at found
      exact (Except.ok.inj found).symm
    apply (accepted_iff read (ne_nil_of_collected carries.1) (reportEnv_digests raw) _ _).2
    rw [same]
    exact after
  · intro converges
    have collected : text "c.md" ∈ collect reportEnv.unicode surrogateDisk.dir :=
      mem_collect.2 ⟨by decide, _, List.mem_cons_self⟩
    have won : IsWinner reportEnv surrogateDisk (text "c.md") surrogateBytes parsed := by
      refine ⟨⟨collected, Directory.find_of_mem List.mem_cons_self, decoded⟩, ?_⟩
      intro rel raw other carries _
      rw [(surrogate_carried carries).1]
    have bindable := (recordable_of_converges IndexDb.wellFormed_empty IndexDb.issuesFormed_empty
      converges).winners _ _ _ won
    exact unencodable (bindable parsed.author (by simp [entryTexts, rescanColumns, indexColumns]))

end EvoBlue.Guarantees
