import EvoBlue.Source.IssueRuns
import EvoBlue.Guarantees.BadFiles
import EvoBlue.Guarantees.CurrentDiagnostics

/-!
# Diagnostics that persist

A problem found in one run after another keeps its one open row, last seen by the latest of
them. A losing duplicate does not: its issue is resolved before it is recorded again, so every
run gives it a new row.
-/

namespace EvoBlue.Guarantees

open EvoBlue.Kernel EvoBlue.Source

/-- A run that is done: what it found, and the index it left. -/
structure IssueRun where
  findings : List (FileOutcome × Time)
  after : IndexDb

/-- The scan of the run found the problem, in a batch of this time. -/
def IssueRun.FindsAt (run : IssueRun) (code : IssueCode) (path : Text) (now : Time) : Prop :=
  ∃ found ∈ run.findings, found.1.relPath = path ∧ found.2 = now ∧
    Finds found.1.result (Loses (run.findings.map (·.1)) found.1) code

def IssueRun.Finds (run : IssueRun) (code : IssueCode) (path : Text) : Prop :=
  ∃ now, run.FindsAt code path now

/-- The index that some runs leave. -/
def lastIndex (runs : List IssueRun) : IndexDb := (runs.getLast?.map (·.after)).getD {}

/-- Runs over an index that was empty at first, each to its end, whatever else happens. -/
inductive Runs (env : ReportEnv) : List IssueRun → Prop
  | start : Runs env []
  | next {runs : List IssueRun} {purge : Bool} {disk : Disk} {events : List RunEvent}
      {world : RunWorld} {counters : Counters} {consistent : Bool} (earlier : Runs env runs)
      (ran : run (runEvent env purge) ⟨disk, lastIndex runs, .begin, []⟩ events = world)
      (done : world.phase = .done counters consistent) : Runs env (runs ++ [⟨world.findings, world.db⟩])

/-- Over a stretch of runs that find it, an issue has one and the same open row. -/
def OneRow (runs : List IssueRun) (code : IssueCode) (path : Text) : Prop :=
  ∀ earlier stretch later, runs = earlier ++ stretch ++ later →
    (∀ run ∈ stretch, run.Finds code path) → ∃ id firstSeen, ∀ run ∈ stretch, ∃ now,
      run.FindsAt code path now ∧
      (run.after.issues.filter fun row => row.isOpen code path) = [⟨id, code, path, firstSeen, now, none⟩]

/-- A run that comes after one that found the problem adds no row. -/
def NewAfterAbsence (runs : List IssueRun) (code : IssueCode) (path : Text) : Prop :=
  ∀ earlier one other later, runs = earlier ++ one :: other :: later → one.Finds code path →
    ∀ row ∈ other.after.rowsOf code path, row.id ∈ (one.after.rowsOf code path).map (·.id)

def Persists (runs : List IssueRun) (code : IssueCode) (path : Text) : Prop :=
  OneRow runs code path ∧ NewAfterAbsence runs code path

/-- No two runs in succession find the problem. -/
def NeverTwice (runs : List IssueRun) (code : IssueCode) (path : Text) : Prop :=
  ∀ earlier one other later, runs = earlier ++ one :: other :: later →
    ¬ (one.Finds code path ∧ other.Finds code path)

/-! ## One run -/

variable {env : ReportEnv} {runs : List IssueRun} {before : IndexDb} {one : IssueRun}
  {code : IssueCode} {path : Text}

/-- The only open row of an issue. -/
theorem open_singleton {db : IndexDb} (once : db.OpenOnce) {row : IssueRow}
    (mem : row ∈ db.rowsOf code path) (isOpen : row.resolvedAt = none) :
    (db.issues.filter fun other => other.isOpen code path) = [row] := by
  obtain ⟨rowMem, rowCode, rowPath⟩ := IndexDb.mem_rowsOf.1 mem
  have inside : row ∈ db.issues.filter fun other => other.isOpen code path := by
    rw [List.mem_filter]
    exact ⟨rowMem, by simp [IssueRow.isOpen, rowCode, rowPath, isOpen]⟩
  have few := once code path
  rw [List.countP_eq_length_filter] at few
  cases rows : db.issues.filter (fun other => other.isOpen code path) with
  | nil =>
    rw [rows] at inside
    cases inside
  | cons first others =>
    rw [rows] at inside few
    have none : others = [] := by
      apply List.length_eq_zero_iff.1
      rw [List.length_cons] at few
      omega
    rw [none] at inside ⊢
    rw [List.mem_singleton.1 inside]

/-- A row of the index before a run, and after it. -/
theorem open_row {db : IndexDb} {id : Nat} {firstSeen now : Time}
    (opened : (db.issues.filter fun row => row.isOpen code path) = [⟨id, code, path, firstSeen, now, none⟩]) :
    ⟨id, code, path, firstSeen, now, none⟩ ∈ db.rowsOf code path := by
  have inside : (⟨id, code, path, firstSeen, now, none⟩ : IssueRow) ∈
      db.issues.filter fun row => row.isOpen code path := by
    rw [opened]
    exact List.mem_singleton_self _
  exact IndexDb.mem_rowsOf.2 ⟨(List.mem_filter.1 inside).1, rfl, rfl⟩

/-- A run that finds the problem leaves one open row, seen by it. -/
theorem found_open (once : before.OpenOnce) (told : RunTold before one.findings one.after)
    (found : one.Finds code path) : ∃ id firstSeen now, one.FindsAt code path now ∧
      (one.after.issues.filter fun row => row.isOpen code path) = [⟨id, code, path, firstSeen, now, none⟩] := by
  obtain ⟨now, entry, mem, rfl, rfl, finds⟩ := found
  have file := told.files entry mem code
  have seen : ∃ row ∈ one.after.rowsOf code entry.1.relPath, row.resolvedAt = none ∧
      row.lastSeenAt = entry.2 := by
    by_cases cause : code = .duplicateAnalysisId ∨ ¬ before.HasOpen code entry.1.relPath
    · obtain ⟨row, there, isOpen, _, latest, _⟩ := file.fresh finds cause
      exact ⟨row, there, isOpen, latest⟩
    · rw [not_or, not_not] at cause
      obtain ⟨_, row, there, isOpen, latest, _⟩ := file.again finds cause.1 cause.2
      exact ⟨row, there, isOpen, latest⟩
  obtain ⟨row, there, isOpen, latest⟩ := seen
  refine ⟨row.id, row.firstSeenAt, entry.2, ⟨entry, mem, rfl, rfl, finds⟩, ?_⟩
  rw [open_singleton (told.grows.once once) there isOpen]
  obtain ⟨_, rowCode, rowPath⟩ := IndexDb.mem_rowsOf.1 there
  obtain ⟨id, rowCode', rowPath', firstSeen, lastSeen, resolved⟩ := row
  simp only at rowCode rowPath latest isOpen ⊢
  rw [rowCode, rowPath, latest, isOpen]

/-- Found again, an issue that is no duplicate keeps the open row it had. -/
theorem found_again (once : before.OpenOnce) (told : RunTold before one.findings one.after)
    (single : code ≠ .duplicateAnalysisId) (found : one.Finds code path) {id : Nat} {firstSeen seen : Time}
    (opened : (before.issues.filter fun row => row.isOpen code path) =
      [⟨id, code, path, firstSeen, seen, none⟩]) : Kept code path before one.after ∧
    ∃ now, one.FindsAt code path now ∧ (one.after.issues.filter fun row => row.isOpen code path) =
      [⟨id, code, path, firstSeen, now, none⟩] := by
  obtain ⟨now, entry, mem, rfl, rfl, finds⟩ := found
  have isOpen : before.HasOpen code entry.1.relPath := IndexDb.hasOpen_iff.2 ⟨_, open_row opened, rfl⟩
  obtain ⟨kept, row, there, openRow, latest, old, oldThere, oldOpen, key⟩ :=
    (told.files entry mem code).again finds single isOpen
  refine ⟨kept, entry.2, ⟨entry, mem, rfl, rfl, finds⟩, ?_⟩
  have same := open_singleton once oldThere oldOpen
  rw [opened, List.cons.injEq] at same
  rw [open_singleton (told.grows.once once) there openRow]
  rw [← same.1] at key
  obtain ⟨id', rowCode', rowPath', firstSeen', lastSeen', resolved'⟩ := row
  simp only [IssueRow.key, Prod.mk.injEq] at key latest openRow
  obtain ⟨rfl, rfl, rfl, rfl⟩ := key
  rw [latest, openRow]

/-- A run that does not find the problem adds no row. -/
theorem unfound_kept (told : RunTold before one.findings one.after) (none : ¬ one.Finds code path) :
    Kept code path before one.after := by
  by_cases there : path ∈ one.findings.map (·.1.relPath)
  · obtain ⟨entry, mem, rfl⟩ := List.mem_map.1 there
    apply (told.files entry mem code).absent
    intro finds
    exact none ⟨entry.2, entry, mem, rfl, rfl, finds⟩
  · exact told.elsewhere code path there

/-- A losing duplicate gets a row that was not there before. -/
theorem duplicate_new (told : RunTold before one.findings one.after)
    (found : one.Finds .duplicateAnalysisId path) : ∃ row ∈ one.after.rowsOf .duplicateAnalysisId path,
      row.resolvedAt = none ∧ before.nextIssueId ≤ row.id := by
  obtain ⟨now, entry, mem, rfl, rfl, finds⟩ := found
  obtain ⟨row, there, isOpen, _, _, fresh⟩ := (told.files entry mem _).fresh finds (.inl rfl)
  exact ⟨row, there, isOpen, fresh⟩

theorem kept_ids {db after : IndexDb} (kept : Kept code path db after) :
    ∀ row ∈ after.rowsOf code path, row.id ∈ (db.rowsOf code path).map (·.id) := by
  intro row mem
  have key : row.key ∈ (after.rowsOf code path).map IssueRow.key := List.mem_map_of_mem mem
  rw [show (after.rowsOf code path).map IssueRow.key = _ from kept] at key
  obtain ⟨old, there, same⟩ := List.mem_map.1 key
  exact List.mem_map.2 ⟨old, there, congrArg Prod.fst same⟩

/-! ## All runs -/

theorem lastIndex_concat (runs : List IssueRun) (last : IssueRun) :
    lastIndex (runs ++ [last]) = last.after := by
  simp [lastIndex]

/-- What holds of the index before a run, and what the run does to it. -/
structure RunsOn (before : IndexDb) (run : IssueRun) : Prop where
  formed : before.IssuesFormed
  once : before.OpenOnce
  told : RunTold before run.findings run.after

theorem Runs.last (history : Runs env runs) :
    (lastIndex runs).IssuesFormed ∧ (lastIndex runs).OpenOnce := by
  induction history with
  | start => exact ⟨IndexDb.issuesFormed_empty, IndexDb.openOnce_empty⟩
  | @next runs purge disk events world counters consistent earlier ran done ih =>
    rw [lastIndex_concat]
    subst ran
    have told := told_of_done ih.1 disk events done
    exact ⟨told.grows.formed, told.grows.once ih.2⟩

theorem Runs.each (history : Runs env runs) : ∀ earlier run later, runs = earlier ++ run :: later →
    RunsOn (lastIndex earlier) run := by
  induction history with
  | start =>
    intro earlier run later split
    simp at split
  | @next runs purge disk events world counters consistent before ran done ih =>
    intro earlier run later split
    rcases List.eq_nil_or_concat later with rfl | ⟨later, last, rfl⟩
    · obtain ⟨rfl, same⟩ := List.append_inj' split rfl
      obtain rfl := (List.cons.inj same).1
      obtain ⟨formed, once⟩ := before.last
      subst ran
      exact ⟨formed, once, told_of_done formed disk events done⟩
    · rw [List.concat_eq_append, ← List.cons_append, ← List.append_assoc] at split
      exact ih earlier run later (List.append_inj' split rfl).1

/-- Two runs in succession. -/
theorem Runs.pair (history : Runs env runs) {earlier later : List IssueRun} {one other : IssueRun}
    (split : runs = earlier ++ one :: other :: later) :
    RunsOn (lastIndex earlier) one ∧ RunsOn one.after other := by
  refine ⟨history.each earlier one (other :: later) split, ?_⟩
  have second := history.each (earlier ++ [one]) other later (by rw [split]; simp)
  rw [lastIndex_concat] at second
  exact second

/-- A stretch of runs that find an issue which is no duplicate in two of them has one open row. -/
theorem stretch_row (history : Runs env runs)
    (single : NeverTwice runs code path ∨ code ≠ .duplicateAnalysisId) {earlier : List IssueRun}
    (stretch : List IssueRun) : ∀ later, runs = earlier ++ stretch ++ later →
      (∀ run ∈ stretch, run.Finds code path) → ∃ id firstSeen, ∀ run ∈ stretch, ∃ now,
        run.FindsAt code path now ∧
        (run.after.issues.filter fun row => row.isOpen code path) =
          [⟨id, code, path, firstSeen, now, none⟩] := by
  induction stretch using List.reverseRecOn with
  | nil =>
    intro later split all
    exact ⟨0, 0, fun run mem => nomatch mem⟩
  | append_singleton stretch last ih =>
    intro later split all
    have lastFinds := all last (List.mem_append_right _ List.mem_cons_self)
    rcases List.eq_nil_or_concat stretch with rfl | ⟨front, previous, rfl⟩
    · have on := history.each earlier last later (by rw [split]; simp)
      obtain ⟨id, firstSeen, now, at_, opened⟩ := found_open on.once on.told lastFinds
      refine ⟨id, firstSeen, fun run mem => ?_⟩
      obtain rfl : run = last := by simpa using mem
      exact ⟨now, at_, opened⟩
    · rw [List.concat_eq_append] at split all ih
      have shorter : runs = earlier ++ (front ++ [previous]) ++ (last :: later) := by rw [split]; simp
      obtain ⟨id, firstSeen, rows⟩ := ih _ shorter fun run mem => all run (List.mem_append_left _ mem)
      have two : runs = (earlier ++ front) ++ previous :: last :: later := by rw [split]; simp
      have previousFinds := all previous (by simp)
      have notDuplicate : code ≠ .duplicateAnalysisId := by
        apply single.resolve_left
        intro never
        exact never _ _ _ _ two ⟨previousFinds, lastFinds⟩
      obtain ⟨first, second⟩ := history.pair two
      obtain ⟨seen, _, opened⟩ := rows previous (by simp)
      obtain ⟨_, now, at_, again⟩ := found_again second.once second.told notDuplicate lastFinds opened
      refine ⟨id, firstSeen, fun run mem => ?_⟩
      rw [List.concat_eq_append, List.mem_append, List.mem_singleton] at mem
      rcases mem with mem | rfl
      · exact rows run mem
      · exact ⟨now, at_, again⟩

/-- A duplicate found by two runs in succession does not persist. -/
theorem Runs.never_twice (history : Runs env runs) {path : Text}
    (oneRow : OneRow runs .duplicateAnalysisId path) : NeverTwice runs .duplicateAnalysisId path := by
  rintro earlier one other later split ⟨first, second⟩
  obtain ⟨before, on⟩ := history.pair split
  have stretch : runs = earlier ++ [one, other] ++ later := by rw [split]; simp
  have all : ∀ run ∈ [one, other], run.Finds .duplicateAnalysisId path := by simp [first, second]
  obtain ⟨id, firstSeen, rows⟩ := oneRow _ _ _ stretch all
  obtain ⟨_, _, opened⟩ := rows one List.mem_cons_self
  obtain ⟨_, _, again⟩ := rows other (List.mem_cons_of_mem _ List.mem_cons_self)
  obtain ⟨row, there, isOpen, fresh⟩ := duplicate_new on.told second
  have old := on.formed.fresh _ (IndexDb.mem_rowsOf.1 (open_row opened)).1
  have same := open_singleton (on.told.grows.once on.once) there isOpen
  rw [again, List.cons.injEq] at same
  rw [← same.1] at fresh
  exact absurd old (Nat.not_lt.2 fresh)

/-- An issue persists in one row exactly when it is no duplicate, or never found by two runs in
succession. -/
theorem persists_iff (history : Runs env runs) (code : IssueCode) (path : Text) :
    Persists runs code path ↔ (code = .duplicateAnalysisId → NeverTwice runs code path) := by
  constructor
  · rintro ⟨oneRow, _⟩ rfl
    exact history.never_twice oneRow
  · intro condition
    have single : NeverTwice runs code path ∨ code ≠ .duplicateAnalysisId := by
      by_cases duplicate : code = .duplicateAnalysisId
      · exact .inl (condition duplicate)
      · exact .inr duplicate
    refine ⟨fun earlier stretch later split all => stretch_row history single stretch later split all, ?_⟩
    intro earlier one other later split found
    obtain ⟨before, on⟩ := history.pair split
    apply kept_ids
    by_cases again : other.Finds code path
    · have notDuplicate : code ≠ .duplicateAnalysisId := by
        apply single.resolve_left
        intro never
        exact never _ _ _ _ split ⟨found, again⟩
      obtain ⟨id, firstSeen, seen, _, opened⟩ := found_open before.once before.told found
      exact (found_again on.once on.told notDuplicate again opened).1
    · exact unfound_kept on.told again

/-! ## A garbled file, and a file twice -/

/-- Two undisturbed runs over one directory. -/
theorem runs_twice {disk : Disk} {purge : Bool} (fits : ∀ before : IndexDb, before.WellFormed →
      before.IssuesFormed → RunFits env disk before) :
    ∃ one other, Runs env [one, other] ∧ one.findings.map (·.1) = runOutcomes env disk ∧
      other.findings.map (·.1) = runOutcomes env disk := by
  have completes {earlier : List IssueRun} (history : Runs env earlier)
      (formed : (lastIndex earlier).WellFormed) (issues : (lastIndex earlier).IssuesFormed) :
      ∃ last, Runs env (earlier ++ [last]) ∧ last.findings.map (·.1) = runOutcomes env disk ∧
        last.after.WellFormed ∧ last.after.IssuesFormed := by
    have enough : rank env disk .begin ≤ (List.replicate (rank env disk .begin) (0 : Time)).length := by
      simp
    obtain ⟨counters, after, done, passed⟩ :=
      @undisturbed_done env purge disk _ formed issues (fits _ formed issues) _ enough
    obtain ⟨world, ran, state, found⟩ := @found_undisturbed env purge disk _ formed issues
      (List.replicate (rank env disk .begin) 0)
    rw [done] at state
    obtain ⟨phase, rfl⟩ := Prod.mk.inj state
    unfold FoundAt at found
    rw [phase] at found
    exact ⟨_, .next history ran phase, found, passed.formed⟩
  obtain ⟨one, first, found, formed, issues⟩ :=
    completes .start IndexDb.wellFormed_empty IndexDb.issuesFormed_empty
  obtain ⟨other, second, again, _⟩ := @completes [one] first formed issues
  exact ⟨one, other, second, found, again⟩

theorem persists_iff_garbled : ∃ one other, Runs byteEnv [one, other] ∧
    one.Finds (.markdown .encodingError) (text "a.md") ∧
    other.Finds (.markdown .encodingError) (text "a.md") ∧
    Persists [one, other] (.markdown .encodingError) (text "a.md") := by
  have fits (before : IndexDb) (formed : before.WellFormed) (issues : before.IssuesFormed) :
      RunFits byteEnv (fileDisk garbled) before := by
    obtain ⟨after, nows, counters, consistent, done⟩ := garbled_completes formed issues
    exact (fits_of_done formed issues done).1
  obtain ⟨one, other, history, found, again⟩ := @runs_twice byteEnv (fileDisk garbled) false fits
  have outcome : ⟨text "a.md", .rejected .encodingError⟩ ∈ runOutcomes byteEnv (fileDisk garbled) := by
    rw [(scans_of_ok garbled_outcome).2]
    exact List.mem_map_of_mem ((fileDisk_collect garbled).2 rfl)
  have finds {run : IssueRun} (found : run.findings.map (·.1) = runOutcomes byteEnv (fileDisk garbled)) :
      run.Finds (.markdown .encodingError) (text "a.md") := by
    rw [← found] at outcome
    obtain ⟨entry, mem, same⟩ := List.mem_map.1 outcome
    refine ⟨entry.2, entry, mem, by rw [same], rfl, ?_⟩
    rw [same]
    rfl
  refine ⟨one, other, history, finds found, finds again, (persists_iff history _ _).2 ?_⟩
  intro duplicate
  cases duplicate

/-- One report under two names. -/
def twinDisk : Disk where
  dir :=
    { files := [(text "b.md", .bytes (sampleBytes "b1" "2024")),
        (text "c.md", .bytes (sampleBytes "b1" "2024"))]
      distinct := by decide }

theorem twin_file {rel : Text} {content : FileContent} (mem : (rel, content) ∈ twinDisk.dir.files) :
    (rel = text "b.md" ∨ rel = text "c.md") ∧ content = .bytes (sampleBytes "b1" "2024") := by
  unfold twinDisk at mem
  dsimp only at mem
  generalize FileContent.bytes (sampleBytes "b1" "2024") = stored at mem ⊢
  rcases List.mem_cons.1 mem with same | mem
  · obtain ⟨rfl, rfl⟩ := Prod.mk.inj same
    exact ⟨.inl rfl, rfl⟩
  · obtain ⟨rfl, rfl⟩ := Prod.mk.inj (List.mem_singleton.1 mem)
    exact ⟨.inr rfl, rfl⟩

theorem twin_carries {rel : Text} {raw : Bytes} {parsed : ParsedReport} :
    Carries reportEnv twinDisk rel raw parsed ↔ (rel = text "b.md" ∨ rel = text "c.md") ∧
      raw = sampleBytes "b1" "2024" ∧ decodeReportBytes reportEnv.toReaderEnv raw = .ok parsed := by
  constructor
  · rintro ⟨mem, found, decoded⟩
    obtain ⟨named, same⟩ := twin_file (Directory.mem_of_find found)
    exact ⟨named, FileContent.bytes.inj same, decoded⟩
  · rintro ⟨named, same, decoded⟩
    rw [same] at decoded ⊢
    have stored : (rel, .bytes (sampleBytes "b1" "2024")) ∈ twinDisk.dir.files := by
      rcases named with rfl | rfl
      · exact List.mem_cons_self
      · exact List.mem_cons_of_mem _ List.mem_cons_self
    refine ⟨mem_collect.2 ⟨?_, _, stored⟩, Directory.find_of_mem stored, decoded⟩
    rcases named with rfl | rfl <;> decide

theorem twin_fits (before : IndexDb) : RunFits reportEnv twinDisk before := by
  obtain ⟨parsed, decoded⟩ := later_decodes
  have named (rel : Text) (mem : rel ∈ collect reportEnv.unicode twinDisk.dir) :
      rel = text "b.md" ∨ rel = text "c.md" := by
    obtain ⟨_, content, stored⟩ := mem_collect.1 mem
    exact (twin_file stored).1
  have short : (collect reportEnv.unicode twinDisk.dir).length < reportEnv.maxVariables :=
    (length_collect_le _ _).trans_lt (show 2 < reportEnv.maxVariables by decide)
  apply (runFits_iff reportEnv_digests rfl _).2
  · refine ⟨short.le, fun _ _ _ _ => short, fun rel mem => ?_, fun rel raw other won => ?_⟩
    · rcases named rel mem with rfl | rfl <;> decide
    · obtain ⟨carries, least⟩ := won
      obtain ⟨place, same, read⟩ := twin_carries.1 carries
      rw [same] at read ⊢
      have first := least (text "b.md") _ _ (twin_carries.2 ⟨.inl rfl, rfl, read⟩) rfl
      rcases place with rfl | rfl
      · exact .inr (later_indexable read)
      · exact absurd first (by decide)
  · intro rel mem
    have carries := (@twin_carries rel _ parsed).2 ⟨named rel mem, rfl, decoded⟩
    exact ⟨_, carries.2.1, .inl ⟨parsed, decoded⟩⟩

/-- The second of two equal reports is a losing duplicate in both of two runs, and has a new row
after the second run. -/
theorem twin_gets_new_row :
    ∃ runs, Runs reportEnv runs ∧ ¬ Persists runs .duplicateAnalysisId (text "c.md") := by
  obtain ⟨one, other, history, found, again⟩ :=
    @runs_twice reportEnv twinDisk false fun before _ _ => twin_fits before
  obtain ⟨parsed, decoded⟩ := later_decodes
  have second := twin_carries.2 ⟨.inr rfl, rfl, decoded⟩
  have finds {run : IssueRun} (found : run.findings.map (·.1) = runOutcomes reportEnv twinDisk) :
      run.Finds .duplicateAnalysisId (text "c.md") := by
    have mem := mem_runOutcomes.2 second
    rw [← found] at mem
    obtain ⟨entry, there, same⟩ := List.mem_map.1 mem
    refine ⟨entry.2, entry, there, by rw [same], rfl, ?_⟩
    rw [same, found]
    refine .inr ⟨rfl, fun won => ?_⟩
    have first := (winnerOf_run.1 won).2 (text "b.md") _ _ (twin_carries.2 ⟨.inl rfl, rfl, decoded⟩) rfl
    exact absurd first (by decide)
  refine ⟨_, history, fun persists => ?_⟩
  exact history.never_twice persists.1 [] one other [] rfl ⟨finds found, finds again⟩

end EvoBlue.Guarantees
