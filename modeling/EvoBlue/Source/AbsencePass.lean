import EvoBlue.Source.IssueEffects
import EvoBlue.Source.Rebuild

/-!
# What the absence pass does

Every stored document is visited once, by its job id. A document whose path is the
one claimed for its id stays as it is; any other leaves history and search, and a
purge deletes those whose path the run did not scan.
-/

namespace EvoBlue.Source

open EvoBlue.Kernel

/-- What is left of a document after the pass. -/
def absentView (progress : Progress) (purge : Bool) (jobId : Text) (seen : DocView) :
    Option DocView :=
  if (progress.claimOf jobId).map (·.relPath) = some seen.columns.relativePath then some seen
  else if purge && !progress.scanned.contains seen.columns.relativePath then none
  else some seen.missing

/-- Neither issues nor rebuild state. -/
structure KeepsIssues (db after : IndexDb) : Prop where
  issues : after.issues = db.issues
  nextIssueId : after.nextIssueId = db.nextIssueId
  status : after.status = db.status

theorem KeepsIssues.trans {db middle after : IndexDb} (first : KeepsIssues db middle)
    (last : KeepsIssues middle after) : KeepsIssues db after :=
  ⟨last.issues.trans first.issues, last.nextIssueId.trans first.nextIssueId,
    last.status.trans first.status⟩

theorem markedMissing_keepsIssues (db : IndexDb) (jobId : Text) (now : Time) :
    KeepsIssues db (db.markedMissing jobId now) := by
  unfold IndexDb.markedMissing
  split
  · exact ⟨rfl, rfl, rfl⟩
  · split <;> exact ⟨rfl, rfl, rfl⟩

theorem purged_keepsIssues (db : IndexDb) (jobId : Text) : KeepsIssues db (db.purged jobId) := by
  unfold IndexDb.purged
  split <;> exact ⟨rfl, rfl, rfl⟩

/-- Only `removed` and `purged` are counted. -/
def CountsAbsence (before after : Counters) : Prop :=
  after.scanned = before.scanned ∧ after.indexed = before.indexed ∧
    after.unchanged = before.unchanged ∧ after.quarantined = before.quarantined ∧
    after.duplicates = before.duplicates

/-- A document the pass does not touch: claimed at its path, or missing already. -/
def Settled (progress : Progress) (purge : Bool) (jobId : Text) (seen : DocView) : Prop :=
  (progress.claimOf jobId).map (·.relPath) = some seen.columns.relativePath ∨
    (purge = false ∧ seen.docStatus = .missing)

theorem markedMissing_of_missing {db : IndexDb} {jobId : Text} {seen : DocView}
    (known : db.view jobId = some seen) (gone : seen.docStatus = .missing) (now : Time) :
    db.markedMissing jobId now = db := by
  obtain ⟨row, found, rfl⟩ := Option.map_eq_some_iff.1 known
  unfold IndexDb.markedMissing
  rw [found]
  exact if_pos gone

theorem markOne_run {db : IndexDb} (formed : db.WellFormed) (progress : Progress) (purge : Bool)
    (now : Time) {jobId : Text} {seen : DocView} (known : db.view jobId = some seen)
    (counters : Counters) :
    ∃ counted after,
      (markOne progress purge now jobId seen.columns.relativePath counters).run db =
        (.ok counted, after) ∧
      after.WellFormed ∧ KeepsIssues db after ∧ CountsAbsence counters counted ∧
      (∀ other, after.view other =
        if other = jobId then absentView progress purge jobId seen else db.view other) ∧
      (Settled progress purge jobId seen → after = db) := by
  have encodable : Encodable jobId := by
    obtain ⟨row, found, _⟩ := Option.map_eq_some_iff.1 known
    obtain ⟨mem, rfl⟩ := IndexDb.findDocument_spec found
    exact formed.stored row mem row.jobId (by simp [entryTexts])
  have claimed_iff : ((progress.claimOf jobId).map fun claim =>
      decide (claim.relPath = seen.columns.relativePath)) = some true ↔
      (progress.claimOf jobId).map (·.relPath) = some seen.columns.relativePath := by
    cases progress.claimOf jobId <;> simp
  unfold markOne absentView Settled
  by_cases claimed : (progress.claimOf jobId).map (·.relPath) = some seen.columns.relativePath
  · rw [if_pos (claimed_iff.2 claimed)]
    refine ⟨counters, db, rfl, formed, ⟨rfl, rfl, rfl⟩, ⟨rfl, rfl, rfl, rfl, rfl⟩, ?_, fun _ => rfl⟩
    intro other
    rw [if_pos claimed]
    split
    next same => rw [same, known]
    next => rfl
  · rw [if_neg fun same => claimed (claimed_iff.1 same)]
    cases purges : purge && !progress.scanned.contains seen.columns.relativePath with
    | true =>
      obtain ⟨changed, ran⟩ := purgeReportDocument_run jobId db
      rw [if_pos encodable] at ran
      have spared : ¬ (purge = false ∧ seen.docStatus = .missing) := by
        rintro ⟨rfl, _⟩
        cases purges
      have result : ∃ counted, CountsAbsence counters counted ∧
          (do
            if ← purgeReportDocument jobId then
              return { counters with purged := counters.purged + 1 }
            else return counters : IndexScript Counters).run db =
            (.ok counted, db.purged jobId) := by
        rw [Script.bind_of_ok ran]
        cases changed with
        | true =>
          exact ⟨{ counters with purged := counters.purged + 1 }, ⟨rfl, rfl, rfl, rfl, rfl⟩, rfl⟩
        | false => exact ⟨counters, ⟨rfl, rfl, rfl, rfl, rfl⟩, rfl⟩
      obtain ⟨counted, counts, returned⟩ := result
      refine ⟨counted, _, returned, formed.purged jobId, purged_keepsIssues db jobId, counts, ?_,
        fun settled => absurd settled (by simp [claimed, spared])⟩
      intro other
      rw [formed.view_purged, if_neg claimed]
      rfl
    | false =>
      obtain ⟨changed, ran⟩ := markReportMissing_run jobId now db
      rw [if_pos encodable] at ran
      refine ⟨_, _, Script.bind_of_ok ran _, formed.markedMissing jobId now,
        markedMissing_keepsIssues db jobId now, ⟨rfl, rfl, rfl, rfl, rfl⟩, ?_, ?_⟩
      · intro other
        rw [formed.view_markedMissing, if_neg claimed, known]
        rfl
      · rintro (same | ⟨_, gone⟩)
        · exact absurd same claimed
        · exact markedMissing_of_missing known gone now

/-- The paths handed to the pass are those of stored documents. -/
def StoredAt (db : IndexDb) (paths : List (Text × Text)) : Prop :=
  ∀ path ∈ paths, ∃ seen, db.view path.1 = some seen ∧ seen.columns.relativePath = path.2

theorem markAll_run {db : IndexDb} (formed : db.WellFormed) (progress : Progress) (purge : Bool)
    (now : Time) {paths : List (Text × Text)} (distinct : (paths.map (·.1)).Nodup)
    (stored : StoredAt db paths) (counters : Counters) :
    ∃ counted after, (markAll progress purge now counters paths).run db = (.ok counted, after) ∧
      after.WellFormed ∧ KeepsIssues db after ∧ CountsAbsence counters counted ∧
      (∀ jobId, after.view jobId =
        if jobId ∈ paths.map (·.1) then (db.view jobId).bind (absentView progress purge jobId)
        else db.view jobId) ∧
      ((∀ jobId seen, db.view jobId = some seen → Settled progress purge jobId seen) →
        after = db) := by
  induction paths generalizing db counters with
  | nil =>
    exact ⟨counters, db, rfl, formed, ⟨rfl, rfl, rfl⟩, ⟨rfl, rfl, rfl, rfl, rfl⟩, by simp,
      fun _ => rfl⟩
  | cons path paths ih =>
    obtain ⟨jobId, relPath⟩ := path
    obtain ⟨seen, known, samePath⟩ := stored (jobId, relPath) (by simp)
    simp only at known samePath
    subst samePath
    have others := List.nodup_cons.1 distinct
    obtain ⟨counted, middle, ran, middleFormed, keeps, counts, views, quiet⟩ :=
      markOne_run formed progress purge now known counters
    have stillStored : StoredAt middle paths := by
      intro path mem
      obtain ⟨other, knownOther, samePath⟩ := stored path (List.mem_cons_of_mem _ mem)
      have apart : path.1 ≠ jobId := by
        intro same
        exact others.1 (List.mem_map.2 ⟨path, mem, same⟩)
      exact ⟨other, by rw [views, if_neg apart, knownOther], samePath⟩
    obtain ⟨last, after, rest, formedAfter, keepsRest, countsRest, viewsRest, quietRest⟩ :=
      ih middleFormed others.2 stillStored counted
    refine ⟨last, after, (Script.bind_of_ok ran _).trans rest, formedAfter, keeps.trans keepsRest,
      ?_, ?_, ?_⟩
    · obtain ⟨scanned, indexed, unchanged, quarantined, duplicates⟩ := counts
      obtain ⟨scanned', indexed', unchanged', quarantined', duplicates'⟩ := countsRest
      exact ⟨scanned'.trans scanned, indexed'.trans indexed, unchanged'.trans unchanged,
        quarantined'.trans quarantined, duplicates'.trans duplicates⟩
    · intro other
      rw [viewsRest, views]
      simp only [List.map_cons, List.mem_cons]
      by_cases same : other = jobId
      · subst same
        rw [if_neg others.1, if_pos rfl, if_pos (.inl rfl), known]
        rfl
      · rw [if_neg same]
        simp only [same, false_or]
    · intro settled
      have same := quiet (settled jobId seen known)
      rw [same] at quietRest
      exact quietRest settled

theorem listDocumentPaths_run (db : IndexDb) :
    ∃ paths, listDocumentPaths.run db = (.ok paths, db) ∧
      paths.Perm (db.documents.map fun row => (row.jobId, row.relativePath)) :=
  ⟨_, rfl, List.mergeSort_perm _ _⟩

/-- The list of the pass names each stored document once. -/
theorem storedAt_of_perm {db : IndexDb} (formed : db.WellFormed) {paths : List (Text × Text)}
    (perm : paths.Perm (db.documents.map fun row => (row.jobId, row.relativePath))) :
    (paths.map (·.1)).Nodup ∧ StoredAt db paths := by
  constructor
  · have keys := (perm.map (·.1)).nodup_iff
    rw [List.map_map] at keys
    exact keys.2 formed.jobs
  · intro path mem
    obtain ⟨row, memRow, rfl⟩ := List.mem_map.1 (perm.subset mem)
    exact ⟨_, formed.view_of_mem memRow, rfl⟩

/-- What the whole pass leaves. -/
structure Passed (progress : Progress) (purge : Bool) (db : IndexDb) (counted : Counters)
    (after : IndexDb) : Prop where
  formed : after.WellFormed
  issues : after.IssuesFormed
  counts : CountsAbsence progress.counters counted
  views : ∀ jobId, after.view jobId = (db.view jobId).bind (absentView progress purge jobId)
  opens : ∀ code path, after.HasOpen code path ↔ path ∈ progress.scanned ∧ db.HasOpen code path
  quiet : (∀ jobId seen, db.view jobId = some seen → Settled progress purge jobId seen) →
    after.documents = db.documents ∧ after.fts = db.fts

/-- The whole pass: it fails only where the sweep cannot bind the scanned paths. -/
theorem markAbsent_run {db : IndexDb} (formed : db.WellFormed) (issues : db.IssuesFormed)
    (env : ReportEnv) (progress : Progress) (purge : Bool) (now : Time) :
    (BindsPaths env.maxVariables progress.scanned db →
      ∃ counted after, (markAbsent env progress purge now).run db = (.ok counted, after) ∧
        Passed progress purge db counted after) ∧
    (¬ BindsPaths env.maxVariables progress.scanned db →
      ∃ raised after, (markAbsent env progress purge now).run db = (.error raised, after)) := by
  obtain ⟨paths, listed, perm⟩ := listDocumentPaths_run db
  obtain ⟨distinct, stored⟩ := storedAt_of_perm formed perm
  obtain ⟨counted, middle, marked, formedAfter, keeps, counts, views, quiet⟩ :=
    markAll_run formed progress purge now distinct stored progress.counters
  obtain ⟨resolved, refused⟩ :=
    resolveIssuesForAbsentPaths_run env.maxVariables progress.scanned now middle
  have sameOpen : ∀ code path, middle.HasOpen code path ↔ db.HasOpen code path := by
    intro code path
    unfold IndexDb.HasOpen
    rw [keeps.issues]
  have binds_iff : BindsPaths env.maxVariables progress.scanned middle ↔
      BindsPaths env.maxVariables progress.scanned db := by
    constructor
    · rintro ⟨few, spare, encodable⟩
      exact ⟨few, fun code path isOpen => spare code path ((sameOpen _ _).2 isOpen), encodable⟩
    · rintro ⟨few, spare, encodable⟩
      exact ⟨few, fun code path isOpen => spare code path ((sameOpen _ _).1 isOpen), encodable⟩
  rw [binds_iff] at resolved refused
  have every : ∀ jobId, middle.view jobId =
      (db.view jobId).bind (absentView progress purge jobId) := by
    intro jobId
    rw [views]
    split
    next => rfl
    next absent =>
      cases known : db.view jobId with
      | none => rfl
      | some seen =>
        obtain ⟨row, found, _⟩ := Option.map_eq_some_iff.1 known
        obtain ⟨mem, rfl⟩ := IndexDb.findDocument_spec found
        refine absurd ?_ absent
        exact List.mem_map.2 ⟨_, perm.symm.subset (List.mem_map.2 ⟨row, mem, rfl⟩), rfl⟩
  have sequence : (markAbsent env progress purge now).run db =
      (do
        let _ ← resolveIssuesForAbsentPaths env.maxVariables progress.scanned now
        return counted : IndexScript Counters).run middle := by
    unfold markAbsent
    rw [Script.bind_of_ok listed, Script.bind_of_ok marked]
  constructor
  · intro binds
    obtain ⟨count, resolved⟩ := resolved binds
    rw [Script.bind_of_ok resolved] at sequence
    have same := middle.resolved_effect (sweeps progress.scanned) now
    have middleIssues := issues.of_issues keeps.issues keeps.nextIssueId
    refine ⟨counted, _, sequence, same.same.wellFormed formedAfter, middleIssues.resolved _ now,
      counts, ?_, ?_, ?_⟩
    · intro jobId
      rw [same.same.view, every]
    · intro code path
      rw [IndexDb.resolved_open, ← sameOpen]
      constructor
      · rintro ⟨row, mem, isOpen, kept⟩
        refine ⟨?_, row, mem, isOpen⟩
        simp only [IssueRow.isOpen, Bool.and_eq_true, decide_eq_true_eq] at isOpen
        simpa [sweeps, isOpen.2, isOpen.1.2] using kept
      · rintro ⟨scanned, row, mem, isOpen⟩
        refine ⟨row, mem, isOpen, ?_⟩
        simp only [IssueRow.isOpen, Bool.and_eq_true, decide_eq_true_eq] at isOpen
        simp [sweeps, isOpen.1.2, scanned]
    · intro settled
      rw [← quiet settled]
      exact ⟨same.same.1, same.same.2.1⟩
  · intro cannot
    obtain ⟨raised, refused⟩ := refused cannot
    rw [Script.bind_of_error refused] at sequence
    exact ⟨_, _, sequence⟩

/-- What a pass that returned was able to bind, and what it leaves. -/
theorem markAbsent_returned {env : ReportEnv} {db after : IndexDb} (formed : db.WellFormed)
    (issues : db.IssuesFormed) {progress : Progress} {purge : Bool} {now : Time}
    {counted : Counters}
    (ran : (markAbsent env progress purge now).run db = (.ok counted, after)) :
    BindsPaths env.maxVariables progress.scanned db ∧ Passed progress purge db counted after := by
  obtain ⟨returns, raises⟩ := markAbsent_run formed issues env progress purge now
  by_cases binds : BindsPaths env.maxVariables progress.scanned db
  · obtain ⟨_, _, returned, passed⟩ := returns binds
    rw [ran] at returned
    cases returned
    exact ⟨binds, passed⟩
  · obtain ⟨_, _, error⟩ := raises binds
    rw [ran] at error
    cases error

end EvoBlue.Source
