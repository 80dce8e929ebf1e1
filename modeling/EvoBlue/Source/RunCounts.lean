import EvoBlue.Source.RebuildRuns

/-!
# What a run counts

Every file of a run is counted once: quarantined, a duplicate, unchanged or indexed; and a
file that is unchanged or indexed claims an id of its own. The absence pass counts a document
under `removed` whenever it does not purge it, whatever its status was.
-/

namespace EvoBlue.Source

open EvoBlue.Kernel

/-! ## Files -/

/-- How one file moves a run on. -/
inductive FileStep (env : ReportEnv) (progress : Progress) (outcome : FileOutcome) : Progress → Prop
  | quarantined : FileStep env progress outcome (progress.scan outcome.relPath).quarantine
  | duplicate : FileStep env progress outcome (progress.scan outcome.relPath).duplicate
  | unchanged {raw : Bytes} {parsed : ParsedReport} (free : progress.claimOf parsed.analysisId = none) :
      FileStep env progress outcome
        ((progress.scan outcome.relPath).claim (claimFor env outcome.relPath raw parsed)).unchanged
  | indexed {raw : Bytes} {parsed : ParsedReport} (free : progress.claimOf parsed.analysisId = none) :
      FileStep env progress outcome
        ((progress.scan outcome.relPath).claim (claimFor env outcome.relPath raw parsed)).indexed

theorem reconcileFile_step {env : ReportEnv} {now : Time} {progress next : Progress}
    {outcome : FileOutcome} {db after : IndexDb}
    (ran : (reconcileFile env now progress outcome).run db = (.ok next, after)) :
    FileStep env progress outcome next := by
  obtain ⟨rel, result⟩ := outcome
  unfold reconcileFile at ran
  cases result with
  | unreadable =>
    obtain ⟨_, _, _, ran⟩ := Script.bind_returned ran
    cases ran
    exact .quarantined
  | rejected code =>
    obtain ⟨_, _, _, ran⟩ := Script.bind_returned ran
    obtain ⟨_, _, _, ran⟩ := Script.bind_returned ran
    cases ran
    exact .quarantined
  | readable raw parsed =>
    unfold reconcileParsed at ran
    obtain ⟨_, _, _, ran⟩ := Script.bind_returned ran
    have same : (progress.scan rel).claimOf parsed.analysisId = progress.claimOf parsed.analysisId := rfl
    cases claimed : progress.claimOf parsed.analysisId with
    | some winner =>
      rw [same, claimed] at ran
      obtain ⟨_, _, _, ran⟩ := Script.bind_returned ran
      cases ran
      exact .duplicate
    | none =>
      rw [same, claimed] at ran
      obtain ⟨_, _, _, ran⟩ := Script.bind_returned ran
      split at ran
      next =>
        cases ran
        exact @FileStep.unchanged env progress ⟨rel, .readable raw parsed⟩ raw parsed claimed
      next =>
        obtain ⟨_, _, _, ran⟩ := Script.bind_returned ran
        cases ran
        exact @FileStep.indexed env progress ⟨rel, .readable raw parsed⟩ raw parsed claimed

/-- Every scanned file is counted once, every claim is for another id, and nothing is removed. -/
structure Tallied (progress : Progress) : Prop where
  parts : progress.counters.scanned = progress.counters.indexed + progress.counters.unchanged +
    progress.counters.quarantined + progress.counters.duplicates
  files : progress.counters.scanned = progress.scanned.length
  distinct : (progress.claims.map (·.analysisId)).Nodup
  nothing : progress.counters.removed = 0 ∧ progress.counters.purged = 0

theorem tallied_empty : Tallied {} where
  parts := rfl
  files := rfl
  distinct := List.nodup_nil
  nothing := ⟨rfl, rfl⟩

theorem Tallied.file {env : ReportEnv} {progress next : Progress} {outcome : FileOutcome}
    (tallied : Tallied progress) (step : FileStep env progress outcome next) : Tallied next := by
  have parts := tallied.parts
  have files := tallied.files
  have length : (progress.scanned ++ [outcome.relPath]).length = progress.scanned.length + 1 := by simp
  have claims (raw : Bytes) (parsed : ParsedReport) (free : progress.claimOf parsed.analysisId = none) :
      ((progress.claims ++ [claimFor env outcome.relPath raw parsed]).map (·.analysisId)).Nodup := by
    rw [List.map_append, List.map_singleton]
    refine List.Nodup.append tallied.distinct (List.nodup_singleton _) ?_
    rw [List.disjoint_singleton]
    intro mem
    obtain ⟨claim, there, same⟩ := List.mem_map.1 mem
    exact List.find?_eq_none.1 free claim there (decide_eq_true same)
  cases step with
  | quarantined =>
    refine ⟨?_, ?_, tallied.distinct, tallied.nothing⟩
    · simp only [Progress.quarantine, Progress.scan]
      omega
    · simp only [Progress.quarantine, Progress.scan, length]
      omega
  | duplicate =>
    refine ⟨?_, ?_, tallied.distinct, tallied.nothing⟩
    · simp only [Progress.duplicate, Progress.scan]
      omega
    · simp only [Progress.duplicate, Progress.scan, length]
      omega
  | unchanged free =>
    refine ⟨?_, ?_, claims _ _ free, tallied.nothing⟩
    · simp only [Progress.unchanged, Progress.claim, Progress.scan]
      omega
    · simp only [Progress.unchanged, Progress.claim, Progress.scan, length]
      omega
  | indexed free =>
    refine ⟨?_, ?_, claims _ _ free, tallied.nothing⟩
    · simp only [Progress.indexed, Progress.claim, Progress.scan]
      omega
    · simp only [Progress.indexed, Progress.claim, Progress.scan, length]
      omega

theorem Tallied.files_returned {env : ReportEnv} {now : Time} {progress next : Progress}
    {outcomes : List FileOutcome} {db after : IndexDb} (tallied : Tallied progress)
    (ran : (reconcileFiles env now progress outcomes).run db = (.ok next, after)) : Tallied next := by
  induction outcomes generalizing progress db with
  | nil =>
    cases ran
    exact tallied
  | cons outcome rest ih =>
    unfold reconcileFiles at ran
    obtain ⟨middle, middleDb, first, ran⟩ := Script.bind_returned ran
    exact ih (tallied.file (reconcileFile_step first)) ran

/-! ## Documents -/

/-- What the absence pass does with a document it visits. -/
inductive Absence where
  | claimed
  | purged
  | missing
  deriving DecidableEq

def absence (progress : Progress) (purge : Bool) (jobId relPath : Text) : Absence :=
  if (progress.claimOf jobId).map (·.relPath) = some relPath then .claimed
  else if purge && !progress.scanned.contains relPath then .purged
  else .missing

def countAbsence (progress : Progress) (purge : Bool) (path : Text × Text) (counters : Counters) :
    Counters :=
  match absence progress purge path.1 path.2 with
  | .claimed => counters
  | .purged => { counters with purged := counters.purged + 1 }
  | .missing => { counters with removed := counters.removed + 1 }

theorem purgeReportDocument_found {jobId : Text} {db after : IndexDb} {seen : DocView} {changed : Bool}
    (known : db.view jobId = some seen)
    (ran : (purgeReportDocument jobId).run db = (.ok changed, after)) : changed = true := by
  unfold purgeReportDocument purgeStatements at ran
  rw [Script.savepoint_returned, Statements.script_execute_bind] at ran
  obtain ⟨found, middle, looked, ran⟩ := Script.bind_returned ran
  have selected := selectDocument_run jobId db
  rw [looked] at selected
  obtain ⟨row, here, _⟩ := Option.map_eq_some_iff.1 known
  split at selected
  next =>
    obtain rfl : found = some row := by
      rw [here] at selected
      exact Except.ok.inj (Prod.mk.inj selected).1
    obtain ⟨_, _, _, ran⟩ := Script.bind_returned ran
    obtain ⟨_, _, _, ran⟩ := Script.bind_returned ran
    cases ran
    rfl
  next => cases (Prod.mk.inj selected).1

theorem markOne_counted {progress : Progress} {purge : Bool} {now : Time} {jobId relPath : Text}
    {counters counted : Counters} {db after : IndexDb} {seen : DocView} (known : db.view jobId = some seen)
    (ran : (markOne progress purge now jobId relPath counters).run db = (.ok counted, after)) :
    counted = countAbsence progress purge (jobId, relPath) counters := by
  have claimed_iff : ((progress.claimOf jobId).map fun claim => decide (claim.relPath = relPath)) =
      some true ↔ (progress.claimOf jobId).map (·.relPath) = some relPath := by
    cases progress.claimOf jobId <;> simp
  unfold markOne at ran
  unfold countAbsence absence
  by_cases claimed : (progress.claimOf jobId).map (·.relPath) = some relPath
  · rw [if_pos (claimed_iff.2 claimed)] at ran
    cases ran
    rw [if_pos claimed]
  · rw [if_neg fun same => claimed (claimed_iff.1 same)] at ran
    rw [if_neg claimed]
    cases purges : purge && !progress.scanned.contains relPath with
    | true =>
      rw [purges, if_pos rfl] at ran
      obtain ⟨changed, _, purged, ran⟩ := Script.bind_returned ran
      rw [purgeReportDocument_found known purged, if_pos rfl] at ran
      cases ran
      rfl
    | false =>
      rw [purges, if_neg Bool.false_ne_true] at ran
      obtain ⟨_, _, _, ran⟩ := Script.bind_returned ran
      cases ran
      rfl

theorem markAll_counted {progress : Progress} {purge : Bool} {now : Time} {paths : List (Text × Text)}
    {counters counted : Counters} {db after : IndexDb} (formed : db.WellFormed)
    (distinct : (paths.map (·.1)).Nodup) (stored : StoredAt db paths)
    (ran : (markAll progress purge now counters paths).run db = (.ok counted, after)) :
    counted.removed = counters.removed +
        paths.countP (fun path => absence progress purge path.1 path.2 = .missing) ∧
      counted.purged = counters.purged +
        paths.countP fun path => absence progress purge path.1 path.2 = .purged := by
  induction paths generalizing db counters with
  | nil =>
    cases ran
    exact ⟨rfl, rfl⟩
  | cons path paths ih =>
    obtain ⟨jobId, relPath⟩ := path
    obtain ⟨seen, known, same⟩ := stored (jobId, relPath) List.mem_cons_self
    simp only at known same
    subst same
    obtain ⟨one, middle, first, rest⟩ := Script.bind_returned ran
    obtain ⟨one', middle', first', middleFormed, _, _, views, _⟩ :=
      markOne_run formed progress purge now known counters
    rw [first] at first'
    cases first'
    have others := List.nodup_cons.1 distinct
    have stillStored : StoredAt middle paths := by
      intro path mem
      obtain ⟨other, knownOther, samePath⟩ := stored path (List.mem_cons_of_mem _ mem)
      have apart : path.1 ≠ jobId := by
        intro same
        exact others.1 (List.mem_map.2 ⟨path, mem, same⟩)
      exact ⟨other, by rw [views, if_neg apart, knownOther], samePath⟩
    obtain ⟨removed, purged⟩ := ih middleFormed others.2 stillStored rest
    rw [removed, purged, markOne_counted known first, List.countP_cons, List.countP_cons]
    unfold countAbsence
    cases absence progress purge jobId seen.columns.relativePath <;> simp <;> omega

/-- What the absence pass counts of the stored documents. -/
theorem markAbsent_counted {progress : Progress} {purge : Bool} {now : Time} {counted : Counters}
    {db after : IndexDb} (formed : db.WellFormed)
    (ran : (markAbsent env progress purge now).run db = (.ok counted, after)) :
    counted.removed = progress.counters.removed +
        db.documents.countP (fun row => absence progress purge row.jobId row.relativePath = .missing) ∧
      counted.purged = progress.counters.purged +
        db.documents.countP fun row => absence progress purge row.jobId row.relativePath = .purged := by
  obtain ⟨paths, listed, perm⟩ := listDocumentPaths_run db
  obtain ⟨distinct, stored⟩ := storedAt_of_perm formed perm
  unfold markAbsent at ran
  rw [Script.bind_of_ok listed] at ran
  obtain ⟨counters, marked, all, ran⟩ := Script.bind_returned ran
  obtain ⟨_, _, _, ran⟩ := Script.bind_returned ran
  cases ran
  have counts := markAll_counted formed distinct stored all
  rw [perm.countP_eq, perm.countP_eq, List.countP_map, List.countP_map] at counts
  exact counts

/-! ## A run -/

/-- The counters of a run whose absence pass is over. -/
def PassCounted (env : ReportEnv) (purge : Bool) (disk : Disk) (before : IndexDb) (counters : Counters)
    (db : IndexDb) : Prop :=
  ∃ progress middle,
    HasReconciled env disk before (collect env.unicode disk.dir) progress middle ∧
    Tallied progress ∧ Passed progress purge middle counters db ∧
    counters.removed = middle.documents.countP
      (fun row => absence progress purge row.jobId row.relativePath = .missing) ∧
    counters.purged = middle.documents.countP
      fun row => absence progress purge row.jobId row.relativePath = .purged

/-- The counters in each phase of an undisturbed run. -/
def CountedAt (env : ReportEnv) (purge : Bool) (disk : Disk) (before : IndexDb) :
    RunPhase × IndexDb → Prop
  | (.scan progress _, _) | (.reconcile progress _ _, _) | (.recheck progress, _)
  | (.absence progress, _) => Tallied progress
  | (.verify counters, db) | (.finish counters _, db) | (.done counters _, db) =>
    PassCounted env purge disk before counters db
  | _ => True

variable {env : ReportEnv} {purge : Bool} {disk : Disk} {before : IndexDb}

theorem countedAt_step (now : Time) (state : RunPhase × IndexDb)
    (underway : Underway env purge disk before state) (counted : CountedAt env purge disk before state) :
    CountedAt env purge disk before (phaseStep env purge now disk state.2 state.1) := by
  obtain ⟨phase, db⟩ := state
  cases phase with
  | begin =>
    simp only [phaseStep]
    split <;> trivial
  | collect => exact tallied_empty
  | scan progress left =>
    cases left with
    | nil => exact counted
    | cons rels left =>
      simp only [phaseStep]
      split
      · trivial
      · exact counted
  | reconcile progress outcomes left =>
    have tallied : Tallied progress := counted
    simp only [phaseStep]
    split
    next => trivial
    next next after ran => exact tallied.files_returned (Script.transaction_returned.1 ran)
  | recheck progress =>
    simp only [phaseStep]
    split
    · exact counted
    · trivial
  | absence progress =>
    have tallied : Tallied progress := counted
    simp only [phaseStep]
    split
    next => trivial
    next counters after ran =>
      have returned := Script.transaction_returned.1 ran
      have counts := markAbsent_counted underway.kept.formed returned
      rw [tallied.nothing.1, tallied.nothing.2, Nat.zero_add, Nat.zero_add] at counts
      obtain ⟨-, passed⟩ := markAbsent_returned underway.kept.formed underway.kept.issues returned
      exact ⟨progress, db, underway, tallied, passed, counts⟩
  | verify counters => exact counted
  | finish counters consistent =>
    obtain ⟨progress, middle, reconciled, tallied, passed, counts⟩ := counted
    exact ⟨progress, middle, reconciled, tallied, passed.restated _, counts⟩
  | parking raised => trivial
  | done counters consistent => exact counted
  | failed raised => trivial

theorem counted_of_done (formed : before.WellFormed) (issues : before.IssuesFormed) {nows : List Time}
    {counters : Counters} {consistent : Bool} {after : IndexDb}
    (done : undisturbed env purge disk before nows = (.done counters consistent, after)) :
    PassCounted env purge disk before counters after := by
  have begins : Underway env purge disk before (.begin, before) ∧
      CountedAt env purge disk before (.begin, before) := ⟨rfl, trivial⟩
  have both := run_invariant
    (fun state now (kept : Underway env purge disk before state ∧
        CountedAt env purge disk before state) =>
      And.intro (underway_step formed issues now state kept.1)
        (countedAt_step now state kept.1 kept.2)) begins nows
  have ended := both.2
  unfold undisturbed at done
  rw [done] at ended
  exact ended

end EvoBlue.Source
