import EvoBlue.Source.RunCounts
import EvoBlue.Guarantees.BadFiles

/-!
# What the counters of a run say

Every enumerated file is counted once, and every purged document is one that was deleted. Under
`removed` the run counts the documents it leaves missing, also those that were missing before.
-/

namespace EvoBlue.Guarantees

open EvoBlue.Kernel EvoBlue.Source

/-- The documents the run changed to missing. -/
def changedToMissing (before after : IndexDb) : Nat :=
  after.documents.countP fun row => row.docStatus = .missing &&
    !before.documents.any fun old => old.jobId = row.jobId && old.docStatus = .missing

/-- The documents the run deleted. -/
def deleted (before after : IndexDb) : Nat :=
  before.documents.countP fun row => !after.documents.any fun left => left.jobId = row.jobId

/-- The counters describe the run. -/
structure DescribesRun (env : ReportEnv) (disk : Disk) (before after : IndexDb) (counters : Counters) :
    Prop where
  scanned : counters.scanned = (collect env.unicode disk.dir).length
  parts : counters.scanned =
    counters.indexed + counters.unchanged + counters.quarantined + counters.duplicates
  removed : counters.removed = changedToMissing before after
  purged : counters.purged = deleted before after

/-- Nothing happened to the documents, and the unchanged ones are the active ones. -/
structure CountsNothing (after : IndexDb) (counters : Counters) : Prop where
  indexed : counters.indexed = 0
  removed : counters.removed = 0
  purged : counters.purged = 0
  unchanged : counters.unchanged = after.documents.countP fun row => row.docStatus = .active

/-- Some enumerated file is a report of this id. -/
def Carried (env : ReportEnv) (disk : Disk) (jobId : Text) : Prop :=
  ∃ rel raw parsed, Carries env disk rel raw parsed ∧ parsed.analysisId = jobId

/-- No document that is missing already is left missing once more. -/
def NoneMissingAgain (env : ReportEnv) (purge : Bool) (disk : Disk) (before : IndexDb) : Prop :=
  ∀ row ∈ before.documents, row.docStatus = .missing →
    Carried env disk row.jobId ∨ (purge = true ∧ row.relativePath ∉ collect env.unicode disk.dir)

/-! ## Counting documents -/

theorem mem_ids {rows : List ReportRow} {test : ReportRow → Bool} {jobId : Text} :
    jobId ∈ (rows.filter test).map (·.jobId) ↔ ∃ row ∈ rows, row.jobId = jobId ∧ test row = true := by
  simp only [List.mem_map, List.mem_filter]
  constructor
  · rintro ⟨row, ⟨mem, kept⟩, named⟩
    exact ⟨row, mem, named, kept⟩
  · rintro ⟨row, mem, named, kept⟩
    exact ⟨row, ⟨mem, kept⟩, named⟩

/-- Documents are counted by their ids. -/
theorem count_ids {db : IndexDb} (formed : db.WellFormed) {test : ReportRow → Bool} {ids : List Text}
    (distinct : ids.Nodup)
    (same : ∀ jobId, jobId ∈ ids ↔ ∃ row ∈ db.documents, row.jobId = jobId ∧ test row = true) :
    ids.length = db.documents.countP test := by
  have perm : ids.Perm ((db.documents.filter test).map (·.jobId)) := by
    rw [List.perm_ext_iff_of_nodup distinct (formed.jobs.sublist (List.filter_sublist.map _))]
    intro jobId
    rw [same, mem_ids]
  rw [perm.length_eq, List.length_map, List.countP_eq_length_filter]

theorem count_documents {db other : IndexDb} (formed : db.WellFormed) (formedOther : other.WellFormed)
    {p q : ReportRow → Bool}
    (same : ∀ jobId, (∃ row ∈ db.documents, row.jobId = jobId ∧ p row = true) ↔
      ∃ row ∈ other.documents, row.jobId = jobId ∧ q row = true) :
    db.documents.countP p = other.documents.countP q := by
  have distinct : ((db.documents.filter p).map (·.jobId)).Nodup :=
    formed.jobs.sublist (List.filter_sublist.map _)
  rw [← count_ids formedOther distinct fun jobId => mem_ids.trans (same jobId), List.length_map,
    List.countP_eq_length_filter]

theorem countP_and_iff {α : Type} {p q : α → Prop} [DecidablePred p] [DecidablePred q] (l : List α) :
    (l.countP fun x => decide (p x)) = (l.countP fun x => decide (p x ∧ q x)) ↔ ∀ x ∈ l, p x → q x := by
  induction l with
  | nil => simp
  | cons x l ih =>
    have fewer : (l.countP fun x => decide (p x ∧ q x)) ≤ l.countP fun x => decide (p x) := by
      apply List.countP_mono_left
      intro y _ both
      simp only [decide_eq_true_eq] at both ⊢
      exact both.1
    rw [List.countP_cons, List.countP_cons, List.forall_mem_cons, ← ih]
    by_cases here : p x
    · by_cases there : q x
      · simp [here, there]
      · simp only [here, there, and_false, decide_false, decide_true, if_true, Bool.false_eq_true, if_false,
          true_implies, false_and, iff_false]
        omega
    · simp [here]

/-- A row of this id, as its view has it. -/
theorem exists_row_iff {db : IndexDb} (formed : db.WellFormed) {jobId : Text}
    {p : EntryColumns → DocStatus → Prop} :
    (∃ row ∈ db.documents, row.jobId = jobId ∧ p row.toEntryColumns row.docStatus) ↔
      ∃ seen, db.view jobId = some seen ∧ p seen.columns seen.docStatus := by
  constructor
  · rintro ⟨row, mem, rfl, holds⟩
    exact ⟨_, formed.view_of_mem mem, holds⟩
  · rintro ⟨seen, known, holds⟩
    obtain ⟨row, found, rfl⟩ := Option.map_eq_some_iff.1 known
    obtain ⟨mem, named⟩ := IndexDb.findDocument_spec found
    exact ⟨row, mem, named, holds⟩

/-! ## One run -/

section

variable {env : ReportEnv} {purge : Bool} {disk : Disk} {before middle after : IndexDb}
  {progress : Progress} {counters : Counters}

theorem carried_iff {jobId : Text} :
    Carried env disk jobId ↔ winnerOf (runOutcomes env disk) jobId ≠ none := by
  rw [Ne, winnerOf_run_none, Carried]
  constructor
  · rintro ⟨rel, raw, parsed, carries, named⟩ none
    exact none rel raw parsed carries named
  · intro some_
    by_contra none
    apply some_
    intro rel raw parsed carries named
    exact none ⟨rel, raw, parsed, carries, named⟩

/-- Before the absence pass a carried id has an active document at its claimed path, and any
other is what it was. -/
theorem reconciled_view
    (reconciled : HasReconciled env disk before (collect env.unicode disk.dir) progress middle)
    (jobId : Text) :
    (Carried env disk jobId → ∃ seen, middle.view jobId = some seen ∧ seen.docStatus = .active ∧
      (progress.claimOf jobId).map (·.relPath) = some seen.columns.relativePath) ∧
    (¬ Carried env disk jobId → middle.view jobId = before.view jobId ∧ progress.claimOf jobId = none) := by
  have kept := reconciled.kept
  rw [carried_iff, not_not]
  constructor
  · intro carried
    obtain ⟨winner, won⟩ := Option.ne_none_iff_exists'.1 carried
    have named := (winnerOf_mem won).2
    obtain ⟨rel, result⟩ := winner
    cases result with
    | unreadable => cases named
    | rejected code => cases named
    | readable raw parsed =>
      obtain rfl : parsed.analysisId = jobId := (carries_readable _ _ _ _).1 named
      have claimed : (progress.claimOf parsed.analysisId).map (·.relPath) = some rel := by
        rw [kept.claimed parsed.analysisId]
        exact congrArg (Option.map (·.relPath)) won
      rcases kept.winners rel raw parsed won with ⟨unchanged, same⟩ | ⟨_, _, stored⟩
      · obtain ⟨seen, known, path, _, active⟩ := unchanged
        exact ⟨seen, same.trans known, active, claimed.trans (congrArg some path.symm)⟩
      · exact ⟨_, stored, rfl, claimed⟩
  · intro none
    exact ⟨kept.unclaimed jobId none, (kept.first_iff jobId).2 none⟩

theorem absence_of_carried
    (reconciled : HasReconciled env disk before (collect env.unicode disk.dir) progress middle)
    {jobId : Text} (carried : Carried env disk jobId) {seen : DocView}
    (known : middle.view jobId = some seen) :
    absence progress purge jobId seen.columns.relativePath = .claimed := by
  obtain ⟨seen', known', _, claimed⟩ := (reconciled_view reconciled jobId).1 carried
  obtain rfl : seen' = seen := Option.some.inj (known'.symm.trans known)
  exact if_pos claimed

theorem absence_of_lost
    (reconciled : HasReconciled env disk before (collect env.unicode disk.dir) progress middle)
    {jobId : Text} (lost : ¬ Carried env disk jobId) (path : Text) :
    absence progress purge jobId path =
      if purge && !(collect env.unicode disk.dir).contains path then .purged else .missing := by
  unfold absence
  rw [((reconciled_view reconciled jobId).2 lost).2, reconciled.scanned_eq]
  simp

/-- What the absence pass left of a document. -/
theorem passed_view
    (reconciled : HasReconciled env disk before (collect env.unicode disk.dir) progress middle)
    (passed : Passed progress purge middle counters after) (jobId : Text) :
    (Carried env disk jobId → ∃ seen, after.view jobId = some seen ∧ seen.docStatus = .active) ∧
    (¬ Carried env disk jobId → after.view jobId = (before.view jobId).bind fun seen =>
      if purge && !(collect env.unicode disk.dir).contains seen.columns.relativePath then none
      else some seen.missing) := by
  rw [passed.views]
  constructor
  · intro carried
    obtain ⟨seen, known, active, claimed⟩ := (reconciled_view reconciled jobId).1 carried
    refine ⟨seen, ?_, active⟩
    rw [known, Option.bind_some, absentView, if_pos claimed]
  · intro lost
    obtain ⟨same, free⟩ := (reconciled_view reconciled jobId).2 lost
    rw [same]
    congr 1
    funext seen
    rw [absentView, free, reconciled.scanned_eq]
    rfl

/-- A document no file carries, that the absence pass does not purge. -/
def LeftMissing (env : ReportEnv) (purge : Bool) (disk : Disk) (jobId path : Text) : Prop :=
  ¬ Carried env disk jobId ∧ (purge && !(collect env.unicode disk.dir).contains path) = false

theorem leftMissing_iff {jobId path : Text} : LeftMissing env purge disk jobId path ↔
    ¬ (Carried env disk jobId ∨ (purge = true ∧ path ∉ collect env.unicode disk.dir)) := by
  unfold LeftMissing
  rw [not_or]
  simp

/-- A document no file carries, that the absence pass purges. -/
def LeftPurged (env : ReportEnv) (purge : Bool) (disk : Disk) (jobId path : Text) : Prop :=
  ¬ Carried env disk jobId ∧ (purge && !(collect env.unicode disk.dir).contains path) = true

open Classical in
/-- The absence pass visits the documents the index had before. -/
theorem visited_before (formed : before.WellFormed)
    (reconciled : HasReconciled env disk before (collect env.unicode disk.dir) progress middle)
    {visit : Absence} {left : Text → Text → Prop}
    (same : ∀ jobId path, left jobId path ↔ ¬ Carried env disk jobId ∧
      (if purge && !(collect env.unicode disk.dir).contains path then Absence.purged else .missing) = visit)
    (other : visit ≠ .claimed) :
    middle.documents.countP (fun row => absence progress purge row.jobId row.relativePath = visit) =
      before.documents.countP fun row => left row.jobId row.relativePath := by
  apply count_documents reconciled.kept.formed formed
  intro jobId
  simp only [decide_eq_true_eq]
  rw [@exists_row_iff middle reconciled.kept.formed jobId fun columns _ =>
      absence progress purge columns.jobId columns.relativePath = visit,
    @exists_row_iff before formed jobId fun columns _ => left columns.jobId columns.relativePath]
  by_cases carried : Carried env disk jobId
  · constructor
    · rintro ⟨seen, known, visited⟩
      rw [IndexDb.view_jobId known, absence_of_carried reconciled carried known] at visited
      exact absurd visited.symm other
    · rintro ⟨seen, known, isLeft⟩
      rw [IndexDb.view_jobId known, same] at isLeft
      exact absurd carried isLeft.1
  · rw [((reconciled_view reconciled jobId).2 carried).1]
    apply exists_congr
    intro seen
    apply and_congr_right
    intro known
    rw [IndexDb.view_jobId known, absence_of_lost reconciled carried, same, and_iff_right carried]

open Classical in
theorem removed_eq (formed : before.WellFormed)
    (counted : PassCounted env purge disk before counters after) :
    counters.removed = before.documents.countP fun row =>
      LeftMissing env purge disk row.jobId row.relativePath := by
  obtain ⟨progress, middle, reconciled, _, _, removed, _⟩ := counted
  rw [removed]
  apply visited_before formed reconciled _ (by decide)
  intro jobId path
  apply and_congr_right
  intro _
  cases purge && !(collect env.unicode disk.dir).contains path <;> simp

open Classical in
theorem purged_eq (formed : before.WellFormed)
    (counted : PassCounted env purge disk before counters after) :
    counters.purged = before.documents.countP fun row =>
      LeftPurged env purge disk row.jobId row.relativePath := by
  obtain ⟨progress, middle, reconciled, _, _, _, purged⟩ := counted
  rw [purged]
  apply visited_before formed reconciled _ (by decide)
  intro jobId path
  apply and_congr_right
  intro _
  cases purge && !(collect env.unicode disk.dir).contains path <;> simp

theorem any_document {db : IndexDb} (formed : db.WellFormed) (jobId : Text) (status : DocStatus) :
    (db.documents.any fun row => row.jobId = jobId && row.docStatus = status) = true ↔
      ∃ seen, db.view jobId = some seen ∧ seen.docStatus = status := by
  rw [← @exists_row_iff db formed jobId fun _ docStatus => docStatus = status]
  simp

open Classical in
theorem changed_eq (formed : before.WellFormed)
    (counted : PassCounted env purge disk before counters after) :
    changedToMissing before after = before.documents.countP fun row =>
      LeftMissing env purge disk row.jobId row.relativePath ∧ row.docStatus ≠ .missing := by
  obtain ⟨progress, middle, reconciled, _, passed, _⟩ := counted
  apply count_documents passed.formed formed
  intro jobId
  simp only [Bool.and_eq_true, decide_eq_true_eq, Bool.not_eq_true', ← Bool.not_eq_true,
    any_document formed]
  rw [@exists_row_iff after passed.formed jobId fun columns docStatus => docStatus = .missing ∧
      ¬ ∃ seen, before.view columns.jobId = some seen ∧ seen.docStatus = .missing,
    @exists_row_iff before formed jobId fun columns docStatus =>
      LeftMissing env purge disk columns.jobId columns.relativePath ∧ docStatus ≠ .missing]
  by_cases carried : Carried env disk jobId
  · obtain ⟨seen, known, active⟩ := (passed_view reconciled passed jobId).1 carried
    constructor
    · rintro ⟨seen', known', missing, _⟩
      rw [known, Option.some.injEq] at known'
      rw [← known', active] at missing
      cases missing
    · rintro ⟨old, here, left, _⟩
      rw [IndexDb.view_jobId here] at left
      exact absurd carried left.1
  · have view := (passed_view reconciled passed jobId).2 carried
    cases here : before.view jobId with
    | none =>
      rw [here, Option.bind_none] at view
      simp [view]
    | some old =>
      have named := IndexDb.view_jobId here
      rw [here, Option.bind_some] at view
      rw [view]
      constructor
      · rintro ⟨seen, left, _, fresh⟩
        split at left
        next => cases left
        next kept =>
          obtain rfl := Option.some.inj left
          refine ⟨old, rfl, ⟨?_, Bool.not_eq_true _ ▸ kept⟩, fun already => fresh ⟨old, ?_, already⟩⟩
          · rw [named]
            exact carried
          · rw [← here, ← named]
            rfl
      · rintro ⟨seen, same, left, fresh⟩
        obtain rfl := Option.some.inj same
        refine ⟨old.missing, if_neg (Bool.not_eq_true _ ▸ left.2), rfl, ?_⟩
        rintro ⟨other, known, already⟩
        rw [show old.missing.columns.jobId = jobId from named, here] at known
        obtain rfl := Option.some.inj known
        exact fresh already

open Classical in
theorem deleted_eq (formed : before.WellFormed)
    (counted : PassCounted env purge disk before counters after) :
    deleted before after = before.documents.countP fun row =>
      LeftPurged env purge disk row.jobId row.relativePath := by
  obtain ⟨progress, middle, reconciled, _, passed, _⟩ := counted
  apply List.countP_congr
  intro row mem
  have here := formed.view_of_mem mem
  have there : (after.documents.any fun left => left.jobId = row.jobId) = true ↔
      ∃ seen, after.view row.jobId = some seen := by
    have all := @exists_row_iff after passed.formed row.jobId fun _ _ => True
    simp only [and_true] at all
    rw [← all]
    simp
  rw [decide_eq_true_eq, Bool.not_eq_true', ← Bool.not_eq_true, there]
  by_cases carried : Carried env disk row.jobId
  · obtain ⟨seen, known, _⟩ := (passed_view reconciled passed row.jobId).1 carried
    constructor
    · exact fun none => absurd ⟨seen, known⟩ none
    · exact fun left => absurd carried left.1
  · have view := (passed_view reconciled passed row.jobId).2 carried
    rw [here, Option.bind_some] at view
    unfold LeftPurged
    rw [view, and_iff_right carried]
    cases purge && !(collect env.unicode disk.dir).contains row.relativePath <;> simp

open Classical in
theorem removed_iff (formed : before.WellFormed)
    (counted : PassCounted env purge disk before counters after) :
    counters.removed = changedToMissing before after ↔ NoneMissingAgain env purge disk before := by
  rw [removed_eq formed counted, changed_eq formed counted, countP_and_iff]
  apply forall₂_congr
  intro row mem
  rw [leftMissing_iff, not_imp_comm, not_ne_iff]

theorem describes_iff (formed : before.WellFormed)
    (counted : PassCounted env purge disk before counters after) :
    DescribesRun env disk before after counters ↔ NoneMissingAgain env purge disk before := by
  have same := removed_iff formed counted
  have purged := (purged_eq formed counted).trans (deleted_eq formed counted).symm
  obtain ⟨progress, middle, reconciled, tallied, passed, _⟩ := counted
  obtain ⟨scanned, indexed, unchanged, quarantined, duplicates⟩ := passed.counts
  have files := tallied.files
  rw [reconciled.scanned_eq, ← scanned] at files
  have parts := tallied.parts
  rw [← scanned, ← indexed, ← unchanged, ← quarantined, ← duplicates] at parts
  constructor
  · intro describes
    exact same.1 describes.removed
  · intro none
    exact ⟨files, parts.trans (by omega), same.2 none, purged⟩

/-! ## Once more -/

/-- Over an unchanged directory a second run finds every winner unchanged. -/
theorem calm_again {counters₁ : Counters} {one : IndexDb}
    (passed : HasPassed env purge disk before counters₁ one) : Calm env one (runOutcomes env disk) := by
  intro rel raw parsed won
  exact ((costsOnlyIssues_of_passed passed).indexed rel raw parsed (winnerOf_run.1 won)).1

open Classical in
/-- Run again without purge, a run counts nothing but its unchanged documents exactly when some
file carries every document there was. -/
theorem countsNothing_iff {one : IndexDb} (formed : one.WellFormed)
    (calm : Calm env one (runOutcomes env disk)) (counted : PassCounted env false disk one counters after) :
    CountsNothing after counters ↔ ∀ row ∈ one.documents, Carried env disk row.jobId := by
  have removed := removed_eq formed counted
  have purged := purged_eq formed counted
  obtain ⟨progress, middle, reconciled, tallied, passed, _⟩ := counted
  obtain ⟨scanned, indexed, unchanged, quarantined, duplicates⟩ := passed.counts
  obtain ⟨_, _, unchangedAll, indexedNone⟩ := reconciled.kept.calm calm
  have noPurge : counters.purged = 0 := by
    rw [purged, List.countP_eq_zero]
    intro row mem left
    cases (of_decide_eq_true left).2
  have active : counters.unchanged = after.documents.countP fun row => row.docStatus = .active := by
    rw [unchanged, unchangedAll, ← @List.length_map _ _ progress.claims (·.analysisId)]
    apply count_ids passed.formed tallied.distinct
    intro jobId
    have claimed : jobId ∈ progress.claims.map (·.analysisId) ↔ Carried env disk jobId := by
      rw [carried_iff, Ne, runOutcomes, ← reconciled.kept.first_iff, Progress.claimOf, List.find?_eq_none]
      simp
    simp only [decide_eq_true_eq]
    rw [claimed, @exists_row_iff after passed.formed jobId fun _ docStatus => docStatus = .active]
    constructor
    · exact (passed_view reconciled passed jobId).1
    · rintro ⟨seen, known, isActive⟩
      by_contra lost
      rw [(passed_view reconciled passed jobId).2 lost] at known
      obtain ⟨old, _, known⟩ := Option.bind_eq_some_iff.1 known
      split at known
      next => cases known
      next =>
        rw [← Option.some.inj known] at isActive
        cases isActive
  have none : counters.removed = 0 ↔ ∀ row ∈ one.documents, Carried env disk row.jobId := by
    rw [removed, List.countP_eq_zero]
    apply forall₂_congr
    intro row mem
    rw [decide_eq_true_eq, leftMissing_iff, not_not]
    simp
  constructor
  · intro nothing
    exact none.1 nothing.removed
  · intro carried
    exact ⟨indexed.trans indexedNone, none.2 carried, noPurge, active⟩

end

/-- The counters of a run describe it exactly when it leaves no document missing that was missing
before. A second run over the same directory, both without purge, counts nothing but its unchanged
documents exactly when some file carries every document the index had. -/
theorem run_counters_iff (env : ReportEnv) (purge : Bool) (disk : Disk) {before after : IndexDb}
    {nows : List Time} {counters : Counters} {consistent : Bool} (formed : before.WellFormed)
    (issues : before.IssuesFormed)
    (done : undisturbed env purge disk before nows = (.done counters consistent, after)) :
    (DescribesRun env disk before after counters ↔ NoneMissingAgain env purge disk before) ∧
    (purge = false → ∀ later again consistentAgain last,
      undisturbed env false disk after later = (.done again consistentAgain, last) →
      (CountsNothing last again ↔ ∀ row ∈ before.documents, Carried env disk row.jobId)) := by
  have counted := counted_of_done formed issues done
  refine ⟨describes_iff formed counted, ?_⟩
  rintro rfl later again consistentAgain last doneAgain
  obtain ⟨_, passed, _⟩ := fits_of_done formed issues done
  obtain ⟨formedAfter, issuesAfter⟩ := passed.formed
  have countedAgain := counted_of_done formedAfter issuesAfter doneAgain
  rw [countsNothing_iff formedAfter (calm_again passed) countedAgain]
  obtain ⟨progress, middle, reconciled, _, pass, _⟩ := counted
  constructor
  · intro carried row mem
    by_contra lost
    have view := (passed_view reconciled pass row.jobId).2 lost
    rw [formed.view_of_mem mem, Option.bind_some, Bool.false_and, if_neg Bool.false_ne_true] at view
    obtain ⟨left, there, named⟩ := (@exists_row_iff after formedAfter row.jobId fun _ _ => True).2
      ⟨_, view, trivial⟩
    exact lost (named.1 ▸ carried left there)
  · intro carried row mem
    by_contra lost
    have view := (passed_view reconciled pass row.jobId).2 lost
    rw [formedAfter.view_of_mem mem] at view
    obtain ⟨old, known, _⟩ := Option.bind_eq_some_iff.1 view.symm
    obtain ⟨was, there, named⟩ := (@exists_row_iff before formed row.jobId fun _ _ => True).2
      ⟨_, known, trivial⟩
    exact lost (named.1 ▸ carried was there)

/-! ## A report that comes and goes -/

/-- A report directory without a file. -/
def emptyDisk : Disk where
  dir := { files := [], distinct := List.nodup_nil }

theorem emptyDisk_path {rel : Text} : rel ∉ collect reportEnv.unicode emptyDisk.dir := by
  intro mem
  obtain ⟨_, content, stored⟩ := mem_collect.1 mem
  cases stored

theorem empty_noneInTheGap (before : IndexDb) : NoneInTheGap reportEnv emptyDisk before := by
  have short : (collect reportEnv.unicode emptyDisk.dir).length < reportEnv.maxVariables :=
    (length_collect_le _ _).trans_lt (by decide)
  constructor
  · exact short.le
  · exact fun _ _ _ _ => short
  · exact fun rel mem => absurd mem emptyDisk_path
  · exact fun rel raw parsed won => absurd won.1.1 emptyDisk_path

theorem empty_readsCleanly : ReadsCleanly reportEnv emptyDisk :=
  fun _ mem => absurd mem emptyDisk_path

/-- A run without purge completes over any index it fits. -/
theorem completes {disk : Disk} {before : IndexDb} (usable : disk.usable = true)
    (clean : ReadsCleanly reportEnv disk) (clear : NoneInTheGap reportEnv disk before)
    (formed : before.WellFormed) (issues : before.IssuesFormed) :
    ∃ nows counters after, undisturbed reportEnv false disk before nows = (.done counters true, after) ∧
      after.WellFormed ∧ after.IssuesFormed := by
  have fits := (runFits_iff reportEnv_digests usable clean).2 clear
  obtain ⟨counters, after, done, passed⟩ := @undisturbed_done reportEnv false disk before formed issues fits
    (List.replicate (rank reportEnv disk .begin) 0) (by simp)
  exact ⟨_, counters, after, done, passed.formed⟩

theorem run_counters_later : ∃ nows counters after,
    undisturbed reportEnv false laterDisk {} nows = (.done counters true, after) ∧
    DescribesRun reportEnv laterDisk {} after counters := by
  obtain ⟨nows, counters, after, done, _⟩ := completes rfl later_readsCleanly (later_noneInTheGap {})
    IndexDb.wellFormed_empty IndexDb.issuesFormed_empty
  have iff := (run_counters_iff reportEnv false laterDisk IndexDb.wellFormed_empty
    IndexDb.issuesFormed_empty done).1
  exact ⟨nows, counters, after, done, iff.2 fun row mem => nomatch mem⟩

/-- A report is indexed, its file removed, and the directory scanned twice: the second scan counts
as removed what the first one had marked missing. -/
theorem counted_missing_again : ∃ nows₁ nows₂ nows₃ counters₁ counters₂ counters₃ one two three,
    undisturbed reportEnv false laterDisk {} nows₁ = (.done counters₁ true, one) ∧
    undisturbed reportEnv false emptyDisk one nows₂ = (.done counters₂ true, two) ∧
    undisturbed reportEnv false emptyDisk two nows₃ = (.done counters₃ true, three) ∧
    counters₃.removed ≠ changedToMissing two three ∧ counters₃.removed ≠ 0 := by
  obtain ⟨nows₁, counters₁, one, done₁, formed₁, issues₁⟩ := completes rfl later_readsCleanly
    (later_noneInTheGap {}) IndexDb.wellFormed_empty IndexDb.issuesFormed_empty
  obtain ⟨nows₂, counters₂, two, done₂, formed₂, issues₂⟩ :=
    completes rfl empty_readsCleanly (empty_noneInTheGap one) formed₁ issues₁
  obtain ⟨nows₃, counters₃, three, done₃, _⟩ :=
    completes rfl empty_readsCleanly (empty_noneInTheGap two) formed₂ issues₂
  have counted₁ := counted_of_done IndexDb.wellFormed_empty IndexDb.issuesFormed_empty done₁
  have counted₂ := counted_of_done formed₁ issues₁ done₂
  have counted₃ := counted_of_done formed₂ issues₂ done₃
  obtain ⟨parsed, decoded⟩ := later_decodes
  have carried : Carried reportEnv laterDisk parsed.analysisId := by
    refine ⟨text "b.md", _, parsed, ⟨mem_collect.2 ⟨?_, _, List.mem_cons_self⟩, ?_, decoded⟩, rfl⟩
    · decide
    · exact Directory.find_of_mem List.mem_cons_self
  have lost : ¬ Carried reportEnv emptyDisk parsed.analysisId := by
    rintro ⟨rel, raw, other, ⟨mem, _⟩, _⟩
    exact emptyDisk_path mem
  -- the document is active after the first scan and missing after the second
  obtain ⟨row, mem, named, missing⟩ : ∃ row ∈ two.documents, row.jobId = parsed.analysisId ∧
      row.docStatus = .missing := by
    rw [@exists_row_iff two formed₂ parsed.analysisId fun _ docStatus => docStatus = .missing]
    obtain ⟨_, middle₁, reconciled₁, _, passed₁, _⟩ := counted₁
    obtain ⟨_, middle₂, reconciled₂, _, passed₂, _⟩ := counted₂
    obtain ⟨seen, known, _⟩ := (passed_view reconciled₁ passed₁ parsed.analysisId).1 carried
    refine ⟨seen.missing, ?_, rfl⟩
    rw [(passed_view reconciled₂ passed₂ parsed.analysisId).2 lost, known]
    rfl
  refine ⟨nows₁, nows₂, nows₃, counters₁, counters₂, counters₃, one, two, three, done₁, done₂, done₃, ?_,
    ?_⟩
  · rw [Ne, removed_iff formed₂ counted₃]
    intro none
    rcases none row mem missing with again | ⟨purged, _⟩
    · exact lost (named ▸ again)
    · cases purged
  · classical
    rw [removed_eq formed₂ counted₃, Ne, List.countP_eq_zero]
    intro none
    apply none row mem
    rw [decide_eq_true_eq, named]
    exact ⟨lost, rfl⟩

end EvoBlue.Guarantees
