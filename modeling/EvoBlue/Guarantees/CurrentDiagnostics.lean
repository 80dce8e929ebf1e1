import EvoBlue.Source.IssueTraces

/-!
# Diagnostics of the current files

A rebuild applies to each enumerated path a function of the codes open there. For a
file that parses the function is constant. For an unreadable one it only adds, and for
a rejected one it leaves a duplicate open: what an earlier state of the file left there
outlives it.
-/

namespace EvoBlue.Guarantees

open EvoBlue.Kernel EvoBlue.Source

/-- `(issue_code, relative_path)` of the open issues. -/
def openPairs (db : IndexDb) : Set (IssueCode × Text) := {pair | db.HasOpen pair.1 pair.2}

/-- A rebuild without purge over an unchanging directory is done. -/
def Completes (env : ReportEnv) (disk : Disk) (before after : IndexDb) : Prop :=
  ∃ nows counters consistent,
    undisturbed env false disk before nows = (.done counters consistent, after)

/-- The index after completed rebuilds over each directory in turn. -/
inductive Rebuilt (env : ReportEnv) : List Disk → IndexDb → Prop
  | empty : Rebuilt env [] {}
  | rebuild {disks : List Disk} {disk : Disk} {before after : IndexDb}
      (earlier : Rebuilt env disks before) (last : Completes env disk before after) :
      Rebuilt env (disks ++ [disk]) after

/-- The codes in `before` on the path of a file are gone once it is reconciled, or open
again for its own sake. -/
def Overwrites (result : FileResult) (before : Set IssueCode) : Prop :=
  match result with
  | .unreadable => before ⊆ {.markdown .frontmatterInvalid}
  | .rejected _ => IssueCode.duplicateAnalysisId ∉ before
  | .readable _ _ => True

/-- No enumerated file leaves open what an earlier state of it had left. -/
def NothingStale (env : ReportEnv) (disk : Disk) (before : IndexDb) : Prop :=
  ∀ rel ∈ collect env.unicode disk.dir,
    Overwrites (outcomeOf env disk rel).result (before.openCodes rel)

theorem leavesOpen_clean_iff (result : FileResult) (loses : Prop) (before : Set IssueCode) :
    leavesOpen result loses before = leavesOpen result loses ∅ ↔ Overwrites result before := by
  cases result with
  | unreadable =>
    simp only [leavesOpen, Overwrites, insert_empty_eq]
    constructor
    · intro same code mem
      rw [← same]
      exact Set.mem_insert_of_mem _ mem
    · intro within
      apply Set.Subset.antisymm
      · exact Set.insert_subset rfl within
      · exact Set.singleton_subset_iff.2 (Set.mem_insert _ _)
  | rejected code =>
    simp only [leavesOpen, Overwrites, Set.empty_inter]
    constructor
    · intro same mem
      have stale : IssueCode.duplicateAnalysisId ∈
          insert (IssueCode.markdown code) (before ∩ {.duplicateAnalysisId}) :=
        Set.mem_insert_of_mem _ ⟨mem, rfl⟩
      rw [same] at stale
      simp at stale
    · intro absent
      rw [Set.inter_singleton_eq_empty.2 absent]
  | readable raw parsed => simp [leavesOpen, Overwrites]

variable {env : ReportEnv} {disks : List Disk} {disk : Disk} {before after clean : IndexDb}

theorem Completes.formed (last : Completes env disk before after) (formed : before.WellFormed)
    (issues : before.IssuesFormed) : after.WellFormed ∧ after.IssuesFormed := by
  obtain ⟨nows, counters, consistent, done⟩ := last
  obtain ⟨_, passed, _⟩ := fits_of_done formed issues done
  exact passed.formed

theorem Completes.opens (last : Completes env disk before after) (formed : before.WellFormed)
    (issues : before.IssuesFormed) :
    (before.OpenOnce → after.OpenOnce) ∧
      ∀ path, after.openCodes path = openAfter env disk before path := by
  obtain ⟨nows, counters, consistent, done⟩ := last
  exact opens_after_run formed issues done

theorem Rebuilt.formed (history : Rebuilt env disks before) :
    before.WellFormed ∧ before.IssuesFormed ∧ before.OpenOnce := by
  induction history with
  | empty => exact ⟨IndexDb.wellFormed_empty, IndexDb.issuesFormed_empty, IndexDb.openOnce_empty⟩
  | rebuild earlier last ih =>
    obtain ⟨formed, issues, once⟩ := ih
    obtain ⟨formedAfter, issuesAfter⟩ := last.formed formed issues
    exact ⟨formedAfter, issuesAfter, (last.opens formed issues).1 once⟩

theorem openPairs_eq_iff (one other : IndexDb) :
    openPairs one = openPairs other ↔ ∀ path, one.openCodes path = other.openCodes path := by
  constructor
  · intro same path
    ext code
    exact Set.ext_iff.1 same (code, path)
  · intro same
    ext ⟨code, path⟩
    exact Set.ext_iff.1 (same path) code

theorem openCodes_empty (path : Text) : ({} : IndexDb).openCodes path = ∅ := by
  ext code
  simp [IndexDb.openCodes, IndexDb.HasOpen]

theorem openAfter_clean_iff :
    (∀ path, openAfter env disk before path = openAfter env disk {} path) ↔
      NothingStale env disk before := by
  unfold NothingStale openAfter
  simp only [openCodes_empty]
  constructor
  · intro same rel mem
    have here := same rel
    simp only [mem, true_and, Set.ofPred_mem_eq] at here
    exact (leavesOpen_clean_iff _ _ _).1 here
  · intro fresh path
    ext code
    refine and_congr_right fun mem => ?_
    rw [(leavesOpen_clean_iff _ _ _).2 (fresh path mem)]

/-- After any completed rebuilds, one more leaves open what it leaves over an empty
index, each once, exactly when no enumerated file leaves open what an earlier state of
it had left. -/
theorem open_issues_iff (history : Rebuilt env disks before)
    (last : Completes env disk before after) (fresh : Completes env disk {} clean) :
    (openPairs after = openPairs clean ∧ after.OpenOnce) ↔ NothingStale env disk before := by
  obtain ⟨formed, issues, once⟩ := history.formed
  have opened := last.opens formed issues
  have cleanOpened := fresh.opens IndexDb.wellFormed_empty IndexDb.issuesFormed_empty
  have onceAfter : after.OpenOnce := opened.1 once
  simp only [onceAfter, and_true, openPairs_eq_iff, opened.2, cleanOpened.2]
  exact openAfter_clean_iff

/-! ## One file -/

/-- SHA-256 on a single byte, and tables that suffice for ASCII. -/
def byteEnv : ReportEnv where
  unicode := ⟨fun _ c _ => [c], fun _ => none, fun t => t⟩
  jsonDepth := 1000
  sha256 data :=
    if data = [255] then
      text "a8100ae6aa1940d0b663bb31cd466142ebbdbd5187131b92d93818987832eb89"
    else text "e3b0c44298fc1c149afbf4c8996fb92427ae41e4649b934ca495991b7852b855"

/-- A directory with one file. -/
def fileDisk (content : FileContent) : Disk where
  dir := { files := [(text "a.md", content)], distinct := by simp }

/-- One byte that is no UTF-8. -/
def garbled : FileContent := .bytes [255]

theorem fileDisk_collect (content : FileContent) {rel : Text} :
    rel ∈ collect byteEnv.unicode (fileDisk content).dir ↔ rel = text "a.md" := by
  rw [mem_collect]
  constructor
  · rintro ⟨_, other, stored⟩
    simp only [fileDisk, List.mem_singleton, Prod.mk.injEq] at stored
    exact stored.1
  · rintro rfl
    exact ⟨by decide, content, List.mem_singleton.2 rfl⟩

theorem garbled_outcome : scanFile byteEnv (fileDisk garbled) (text "a.md") =
    .ok ⟨text "a.md", .rejected .encodingError⟩ := by
  have decoded : (decodeReportBytes byteEnv.toReaderEnv [255]) =
      .error (.markdown .encodingError) := by decide +kernel
  unfold scanFile
  rw [show (fileDisk garbled).dir.find (text "a.md") = some (.bytes [255]) from
    Directory.find_of_mem (List.mem_singleton.2 rfl)]
  simp only [decoded]

theorem sealed_outcome : scanFile byteEnv (fileDisk .unreadable) (text "a.md") =
    .ok ⟨text "a.md", .unreadable⟩ := by
  unfold scanFile
  rw [show (fileDisk .unreadable).dir.find (text "a.md") = some .unreadable from
    Directory.find_of_mem (List.mem_singleton.2 rfl)]
  rfl

/-- A run over a file that is not a report comes to its end. -/
theorem file_completes {content : FileContent} {result : FileResult}
    (scanned : scanFile byteEnv (fileDisk content) (text "a.md") = .ok ⟨text "a.md", result⟩)
    (noReport : ∀ raw parsed, result ≠ .readable raw parsed) (formed : before.WellFormed)
    (issues : before.IssuesFormed) : ∃ after, Completes byteEnv (fileDisk content) before after := by
  have outcome := (scans_of_ok scanned).2
  have short : (collect byteEnv.unicode (fileDisk content).dir).length < byteEnv.maxVariables :=
    (length_collect_le _ _).trans_lt (show 1 < byteEnv.maxVariables by decide)
  have fits : RunFits byteEnv (fileDisk content) before := by
    refine ⟨rfl, ?_, ⟨?_, ?_⟩, short.le, fun _ _ _ _ => short⟩
    · intro rel mem
      rw [(fileDisk_collect content).1 mem]
      exact (scans_of_ok scanned).1
    · intro other mem
      obtain ⟨rel, collected, rfl⟩ := List.mem_map.1 mem
      rw [outcomeOf_relPath, (fileDisk_collect content).1 collected]
      decide
    · intro rel raw parsed wins
      obtain ⟨other, collected, same⟩ := List.mem_map.1 (winnerOf_mem wins).1
      rw [(fileDisk_collect content).1 collected, ← outcome] at same
      exact absurd (congrArg FileOutcome.result same) (noReport raw parsed)
  obtain ⟨counters, after, done, _⟩ := @undisturbed_done byteEnv false (fileDisk content) before
    formed issues fits (List.replicate (rank byteEnv (fileDisk content) .begin) 0) (by simp)
  exact ⟨after, _, _, _, done⟩

theorem file_outcome {content : FileContent} {result : FileResult}
    (scanned : scanFile byteEnv (fileDisk content) (text "a.md") = .ok ⟨text "a.md", result⟩) :
    (outcomeOf byteEnv (fileDisk content) (text "a.md")).result = result := by
  rw [← (scans_of_ok scanned).2]

/-- What a run leaves open on the path of the file. -/
theorem file_opens {content : FileContent} {result : FileResult}
    (scanned : scanFile byteEnv (fileDisk content) (text "a.md") = .ok ⟨text "a.md", result⟩)
    (last : Completes byteEnv (fileDisk content) before after) (formed : before.WellFormed)
    (issues : before.IssuesFormed) : ∃ loses, after.openCodes (text "a.md") =
      leavesOpen result loses (before.openCodes (text "a.md")) := by
  have opened := (last.opens formed issues).2 (text "a.md")
  unfold openAfter at opened
  rw [file_outcome scanned] at opened
  simp only [(fileDisk_collect content).2 rfl, true_and, Set.ofPred_mem_eq] at opened
  exact ⟨_, opened⟩

theorem garbled_completes (formed : before.WellFormed) (issues : before.IssuesFormed) :
    ∃ after, Completes byteEnv (fileDisk garbled) before after :=
  file_completes garbled_outcome (by intro _ _ same; cases same) formed issues

/-- A file that is no UTF-8 in two runs has its one code open. -/
theorem open_issues_iff_garbled : ∃ before after clean,
    Rebuilt byteEnv [fileDisk garbled] before ∧
    Completes byteEnv (fileDisk garbled) before after ∧
    Completes byteEnv (fileDisk garbled) {} clean ∧
    openPairs after = openPairs clean ∧ after.OpenOnce := by
  obtain ⟨before, first⟩ :=
    garbled_completes IndexDb.wellFormed_empty IndexDb.issuesFormed_empty
  have history : Rebuilt byteEnv [fileDisk garbled] before := .rebuild .empty first
  obtain ⟨formed, issues, _⟩ := history.formed
  obtain ⟨after, last⟩ := garbled_completes formed issues
  obtain ⟨_, opened⟩ := file_opens garbled_outcome first IndexDb.wellFormed_empty
    IndexDb.issuesFormed_empty
  have fresh : NothingStale byteEnv (fileDisk garbled) before := by
    intro rel mem
    rw [(fileDisk_collect garbled).1 mem, file_outcome garbled_outcome, opened, openCodes_empty]
    simp [Overwrites, leavesOpen]
  exact ⟨before, after, before, history, last, first,
    (open_issues_iff history last first).2 fresh⟩

/-- A file that was no UTF-8 and can no longer be read keeps the code of the encoding
open; over an empty index the code is not open. -/
theorem sealed_file_stale : ∃ before after clean,
    Rebuilt byteEnv [fileDisk garbled] before ∧
    Completes byteEnv (fileDisk .unreadable) before after ∧
    Completes byteEnv (fileDisk .unreadable) {} clean ∧
    (.markdown .encodingError, text "a.md") ∈ openPairs after ∧
    (.markdown .encodingError, text "a.md") ∉ openPairs clean := by
  obtain ⟨before, first⟩ :=
    garbled_completes IndexDb.wellFormed_empty IndexDb.issuesFormed_empty
  have history : Rebuilt byteEnv [fileDisk garbled] before := .rebuild .empty first
  obtain ⟨formed, issues, _⟩ := history.formed
  have completes {db : IndexDb} (formed : db.WellFormed) (issues : db.IssuesFormed) :
      ∃ after, Completes byteEnv (fileDisk .unreadable) db after :=
    file_completes sealed_outcome (by intro _ _ same; cases same) formed issues
  obtain ⟨after, last⟩ := completes formed issues
  obtain ⟨clean, fresh⟩ := completes IndexDb.wellFormed_empty IndexDb.issuesFormed_empty
  obtain ⟨_, opened⟩ := file_opens garbled_outcome first IndexDb.wellFormed_empty
    IndexDb.issuesFormed_empty
  obtain ⟨_, kept⟩ := file_opens sealed_outcome last formed issues
  obtain ⟨_, opensClean⟩ := file_opens sealed_outcome fresh IndexDb.wellFormed_empty
    IndexDb.issuesFormed_empty
  refine ⟨before, after, clean, history, last, fresh, ?_, ?_⟩
  · change _ ∈ after.openCodes (text "a.md")
    rw [kept, opened]
    exact Set.mem_insert_of_mem _ (Set.mem_insert _ _)
  · change _ ∉ clean.openCodes (text "a.md")
    rw [opensClean, openCodes_empty]
    simp [leavesOpen]

end EvoBlue.Guarantees
