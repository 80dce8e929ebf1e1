import EvoBlue.Source.IssueTraces
import EvoBlue.Source.IndexHistory

/-!
# The rows of one issue

An issue is known by its code and its path; its rows are never deleted. Recording it
refreshes its open row or inserts one, resolving it closes that row, and what is done to
another issue, or to a document, leaves its rows as they are.
-/

namespace EvoBlue.Source

open EvoBlue.Kernel

/-! ## Documents -/

/-- What the statements on issues see. -/
def issueTable (db : IndexDb) : List IssueRow × Nat := (db.issues, db.nextIssueId)

theorem bindTexts_leaves (texts : List Text) : Script.Leaves issueTable (bindTexts texts) := by
  unfold bindTexts
  split
  · exact Script.leaves_pure _
  · exact Script.leaves_raise _

theorem selectDocument_leaves (jobId : Text) : Script.Leaves issueTable (selectDocument jobId) :=
  (bindTexts_leaves _).bind fun _ => Script.leaves_read.bind fun _ => Script.leaves_pure _

theorem storeDocument_leaves (existing : Option ReportRow) (entry : EntryColumns) (now : Time) :
    (storeDocument existing entry now).script.Leaves issueTable := by
  cases existing with
  | none =>
    apply Statements.leaves_execute
    apply (bindTexts_leaves _).bind
    intro _
    apply Script.leaves_read.bind
    intro db
    split
    · exact Script.leaves_raise _
    · have inserted (db : IndexDb) : issueTable (db.insertDocument entry now) = issueTable db := rfl
      exact (Script.leaves_write inserted).bind fun _ => Script.leaves_pure _
  | some row =>
    have updated (db : IndexDb) : issueTable (db.updateDocument row.id entry now) = issueTable db := rfl
    apply Statements.leaves_bind _ fun _ => Statements.leaves_done _
    apply Statements.leaves_execute
    exact (bindTexts_leaves _).bind fun _ => Script.leaves_write updated

theorem deleteFtsRow_leaves (id : Nat) : (deleteFtsRow id).Leaves issueTable :=
  @Script.leaves_write _ _ _ issueTable (fun db => db.deleteFts id) fun _ => rfl

theorem upsertReportDocument_leaves {unicode : UnicodeData} (entry : ReportIndexEntry unicode)
    (body : FtsBodyTexts) (now : Time) : (upsertReportDocument entry body now).Leaves issueTable := by
  apply Script.Leaves.savepoint
  unfold upsertStatements
  apply Statements.leaves_bind (Statements.leaves_execute (selectDocument_leaves _))
  intro existing
  apply Statements.leaves_bind (storeDocument_leaves existing _ now)
  intro docId
  apply Statements.leaves_bind (Statements.leaves_execute (deleteFtsRow_leaves docId))
  intro _
  apply Statements.leaves_bind _ fun _ => Statements.leaves_done _
  apply Statements.leaves_execute
  have inserted (db : IndexDb) : issueTable (db.insertFts docId
      (ftsRowValues unicode entry.toEntryColumns body)) = issueTable db := rfl
  exact (bindTexts_leaves _).bind fun _ => Script.leaves_write inserted

theorem indexReport_leaves (unicode : UnicodeData) (columns : EntryColumns) (body : FtsBodyTexts)
    (now : Time) : (indexReport unicode columns body now).Leaves issueTable := by
  have built : (buildEntry unicode columns).Leaves issueTable := by
    unfold buildEntry
    split
    · exact Script.leaves_pure _
    · exact Script.leaves_raise _
  exact built.bind fun entry => upsertReportDocument_leaves entry body now

theorem updateStatus_leaves (id : Nat) (docStatus : DocStatus) (now : Time) :
    (updateStatus id docStatus now).Leaves issueTable :=
  @Script.leaves_write _ _ _ issueTable (fun db => db.setStatus id docStatus now) fun _ => rfl

theorem markReportStale_leaves (jobId : Text) (now : Time) :
    (markReportStale jobId now).Leaves issueTable := by
  unfold markReportStale markStaleStatements
  apply Statements.leaves_bind (Statements.leaves_execute (selectDocument_leaves jobId))
  intro found
  cases found with
  | none => exact Statements.leaves_done _
  | some row =>
    dsimp only
    split
    · exact Statements.leaves_done _
    · exact Statements.leaves_bind (Statements.leaves_execute (updateStatus_leaves row.id .stale now))
        fun _ => Statements.leaves_done _

theorem markReportMissing_leaves (jobId : Text) (now : Time) :
    (markReportMissing jobId now).Leaves issueTable := by
  apply Script.Leaves.savepoint
  unfold markMissingStatements
  apply Statements.leaves_bind (Statements.leaves_execute (selectDocument_leaves jobId))
  intro found
  cases found with
  | none => exact Statements.leaves_done _
  | some row =>
    dsimp only
    split
    · exact Statements.leaves_done _
    · apply Statements.leaves_bind (Statements.leaves_execute (updateStatus_leaves row.id .missing now))
      intro _
      exact Statements.leaves_bind (Statements.leaves_execute (deleteFtsRow_leaves row.id))
        fun _ => Statements.leaves_done _

theorem purgeReportDocument_leaves (jobId : Text) :
    (purgeReportDocument jobId).Leaves issueTable := by
  apply Script.Leaves.savepoint
  unfold purgeStatements
  apply Statements.leaves_bind (Statements.leaves_execute (selectDocument_leaves jobId))
  intro found
  cases found with
  | none => exact Statements.leaves_done _
  | some row =>
    have deleted (db : IndexDb) : issueTable (db.deleteDocument row.id) = issueTable db := rfl
    apply Statements.leaves_bind (Statements.leaves_execute (deleteFtsRow_leaves row.id))
    intro _
    exact Statements.leaves_bind (Statements.leaves_execute (Script.leaves_write deleted))
      fun _ => Statements.leaves_done _

theorem markAll_leaves (progress : Progress) (purge : Bool) (now : Time) (counters : Counters)
    (paths : List (Text × Text)) : (markAll progress purge now counters paths).Leaves issueTable := by
  induction paths generalizing counters with
  | nil => exact Script.leaves_pure _
  | cons path paths ih =>
    obtain ⟨jobId, relPath⟩ := path
    have one : (markOne progress purge now jobId relPath counters).Leaves issueTable := by
      unfold markOne
      split
      · exact Script.leaves_pure _
      · split
        · apply (purgeReportDocument_leaves jobId).bind
          intro changed
          split
          · exact Script.leaves_pure _
          · exact Script.leaves_pure _
        · exact (markReportMissing_leaves jobId now).bind fun _ => Script.leaves_pure _
    exact one.bind fun counted => ih counted

/-! ## Rows -/

/-- What never changes in a row. -/
def IssueRow.key (row : IssueRow) : Nat × IssueCode × Text × Time :=
  (row.id, row.issueCode, row.relativePath, row.firstSeenAt)

namespace IndexDb

/-- The rows of one issue, as they were inserted. -/
def rowsOf (db : IndexDb) (code : IssueCode) (path : Text) : List IssueRow :=
  db.issues.filter fun row => row.issueCode = code && row.relativePath = path

theorem mem_rowsOf {db : IndexDb} {code : IssueCode} {path : Text} {row : IssueRow} :
    row ∈ db.rowsOf code path ↔ row ∈ db.issues ∧ row.issueCode = code ∧ row.relativePath = path := by
  simp [rowsOf]

theorem rowsOf_of_table {db after : IndexDb} (same : issueTable after = issueTable db) :
    after.rowsOf = db.rowsOf := by
  have issues : after.issues = db.issues := congrArg Prod.fst same
  funext code path
  simp only [rowsOf, issues]

theorem hasOpen_iff {db : IndexDb} {code : IssueCode} {path : Text} :
    db.HasOpen code path ↔ ∃ row ∈ db.rowsOf code path, row.resolvedAt = none := by
  unfold HasOpen
  simp only [mem_rowsOf, IssueRow.isOpen, Bool.and_eq_true, decide_eq_true_eq, Option.isNone_iff_eq_none]
  constructor
  · rintro ⟨row, mem, named, isOpen⟩
    exact ⟨row, ⟨mem, named⟩, isOpen⟩
  · rintro ⟨row, ⟨mem, named⟩, isOpen⟩
    exact ⟨row, mem, named, isOpen⟩

/-- A change of rows in place that keeps their keys. -/
theorem rowsOf_map {db after : IndexDb} {change : IssueRow → IssueRow}
    (keeps : ∀ row, (change row).key = row.key) (issues : after.issues = db.issues.map change)
    (code : IssueCode) (path : Text) :
    after.rowsOf code path = (db.rowsOf code path).map change := by
  have named (row : IssueRow) : (change row).issueCode = row.issueCode ∧
      (change row).relativePath = row.relativePath := by
    have same := keeps row
    simp only [IssueRow.key, Prod.mk.injEq] at same
    exact ⟨same.2.1, same.2.2.1⟩
  unfold rowsOf
  rw [issues, List.filter_map]
  congr 1
  apply List.filter_congr
  intro row _
  simp only [Function.comp_apply, (named row).1, (named row).2]

end IndexDb

/-- Rows are changed in place, or added behind under fresh ids. -/
structure Grows (db after : IndexDb) : Prop where
  formed : after.IssuesFormed
  once : db.OpenOnce → after.OpenOnce
  next : db.nextIssueId ≤ after.nextIssueId
  rows : ∃ added, after.issues.map IssueRow.key = db.issues.map IssueRow.key ++ added ∧
    ∀ key ∈ added, db.nextIssueId ≤ key.1

theorem Grows.of_table {db after : IndexDb} (formed : db.IssuesFormed)
    (same : issueTable after = issueTable db) : Grows db after := by
  have issues : after.issues = db.issues := congrArg Prod.fst same
  have next : after.nextIssueId = db.nextIssueId := congrArg Prod.snd same
  refine ⟨formed.of_issues issues next, ?_, Nat.le_of_eq next.symm, [], ?_, fun _ mem => nomatch mem⟩
  · intro once code path
    rw [issues]
    exact once code path
  · rw [issues, List.append_nil]

theorem Grows.trans {db middle after : IndexDb} (first : Grows db middle) (last : Grows middle after) :
    Grows db after := by
  obtain ⟨added, rows, fresh⟩ := first.rows
  obtain ⟨more, later, fresher⟩ := last.rows
  refine ⟨last.formed, last.once ∘ first.once, first.next.trans last.next, added ++ more, ?_, ?_⟩
  · rw [later, rows, List.append_assoc]
  · intro key mem
    rcases List.mem_append.1 mem with mem | mem
    · exact fresh key mem
    · exact first.next.trans (fresher key mem)

/-! ## What is done to one issue -/

/-- No row was added. -/
def Kept (code : IssueCode) (path : Text) (db after : IndexDb) : Prop :=
  (after.rowsOf code path).map IssueRow.key = (db.rowsOf code path).map IssueRow.key

/-- The open row was seen again. -/
def Refreshed (code : IssueCode) (path : Text) (now : Time) (db after : IndexDb) : Prop :=
  Kept code path db after ∧ ∃ row ∈ after.rowsOf code path, row.resolvedAt = none ∧
    row.lastSeenAt = now ∧ ∃ old ∈ db.rowsOf code path, old.resolvedAt = none ∧ old.key = row.key

/-- A new row was opened. -/
def Inserted (code : IssueCode) (path : Text) (now : Time) (db after : IndexDb) : Prop :=
  ∃ row ∈ after.rowsOf code path, row.resolvedAt = none ∧ row.firstSeenAt = now ∧
    row.lastSeenAt = now ∧ db.nextIssueId ≤ row.id

theorem recorded_grows {db : IndexDb} (formed : db.IssuesFormed) (code : IssueCode) (path : Text)
    (now : Time) : Grows db (db.recorded code path now) := by
  refine ⟨formed.recorded code path now, fun once => once.recorded code path now, ?_, ?_⟩
  · unfold IndexDb.recorded
    split
    · exact Nat.le_refl _
    · exact Nat.le_succ _
  · unfold IndexDb.recorded
    split
    next found _ =>
      refine ⟨[], ?_, fun _ mem => nomatch mem⟩
      rw [List.append_nil, List.map_map]
      apply List.map_congr_left
      intro row _
      simp only [Function.comp_apply]
      split <;> rfl
    next =>
      refine ⟨[(db.nextIssueId, code, path, now)], by simp [IssueRow.key], ?_⟩
      intro key mem
      rw [List.mem_singleton.1 mem]

theorem resolved_grows {db : IndexDb} (formed : db.IssuesFormed) (closes : IssueRow → Bool) (now : Time) :
    Grows db (db.resolved closes now) := by
  refine ⟨formed.resolved closes now, fun once => once.resolved closes now, Nat.le_refl _, [], ?_,
    fun _ mem => nomatch mem⟩
  unfold IndexDb.resolved
  rw [List.append_nil, List.map_map]
  apply List.map_congr_left
  intro row _
  simp only [Function.comp_apply]
  split <;> rfl

/-- Recording one issue leaves the rows of the others. -/
theorem recorded_apart {db : IndexDb} (formed : db.IssuesFormed) {code other : IssueCode}
    {path elsewhere : Text} (apart : ¬ (other = code ∧ elsewhere = path)) (now : Time) :
    (db.recorded code path now).rowsOf other elsewhere = db.rowsOf other elsewhere := by
  unfold IndexDb.recorded
  split
  next found hit =>
    have foundMem := List.mem_of_find?_eq_some hit
    have foundOpen := List.find?_some hit
    simp only [IssueRow.isOpen, Bool.and_eq_true, decide_eq_true_eq] at foundOpen
    rw [@IndexDb.rowsOf_map db _ fun row =>
      if row.id = found.id then { row with lastSeenAt := now } else row]
    · conv_rhs => rw [← List.map_id (db.rowsOf other elsewhere)]
      apply List.map_congr_left
      intro row mem
      obtain ⟨rowMem, rowCode, rowPath⟩ := IndexDb.mem_rowsOf.1 mem
      rw [if_neg, id]
      intro same
      obtain rfl := List.inj_on_of_nodup_map formed.ids rowMem foundMem same
      exact apart ⟨rowCode.symm.trans foundOpen.1.1, rowPath.symm.trans foundOpen.1.2⟩
    · intro row
      split <;> rfl
    · rfl
  next =>
    unfold IndexDb.rowsOf
    rw [List.filter_append, List.filter_cons_of_neg, List.filter_nil, List.append_nil]
    simp only [Bool.and_eq_true, decide_eq_true_eq]
    rintro ⟨rfl, rfl⟩
    exact apart ⟨rfl, rfl⟩

theorem recorded_here {db : IndexDb} (code : IssueCode) (path : Text) (now : Time) :
    (db.HasOpen code path → Refreshed code path now db (db.recorded code path now)) ∧
      (¬ db.HasOpen code path → Inserted code path now db (db.recorded code path now)) := by
  unfold IndexDb.recorded
  split
  next found hit =>
    have foundMem := List.mem_of_find?_eq_some hit
    have foundOpen := List.find?_some hit
    refine ⟨fun _ => ?_, fun none => absurd ⟨found, foundMem, foundOpen⟩ none⟩
    simp only [IssueRow.isOpen, Bool.and_eq_true, decide_eq_true_eq, Option.isNone_iff_eq_none]
      at foundOpen
    have named := IndexDb.mem_rowsOf.2 ⟨foundMem, foundOpen.1⟩
    have keeps (row : IssueRow) : (if row.id = found.id then { row with lastSeenAt := now }
        else row : IssueRow).key = row.key := by
      split <;> rfl
    have rows := @IndexDb.rowsOf_map db { db with issues := db.issues.map fun row =>
      if row.id = found.id then { row with lastSeenAt := now } else row } _ keeps rfl code path
    constructor
    · unfold Kept
      rw [rows, List.map_map]
      exact List.map_congr_left fun row _ => keeps row
    · refine ⟨{ found with lastSeenAt := now }, ?_, foundOpen.2, rfl, found, named, foundOpen.2, rfl⟩
      rw [rows, List.mem_map]
      exact ⟨found, named, if_pos rfl⟩
  next none =>
    refine ⟨?_, fun _ => ?_⟩
    · rintro ⟨row, mem, isOpen⟩
      exact absurd isOpen (List.find?_eq_none.1 none row mem)
    · refine ⟨_, IndexDb.mem_rowsOf.2 ⟨List.mem_append_right _ List.mem_cons_self, rfl, rfl⟩,
        rfl, rfl, rfl, Nat.le_refl _⟩

/-- Closing rows adds none. -/
theorem resolved_kept (db : IndexDb) (closes : IssueRow → Bool) (now : Time) (code : IssueCode)
    (path : Text) : Kept code path db (db.resolved closes now) := by
  have keeps (row : IssueRow) : (if closes row then { row with resolvedAt := some now }
      else row : IssueRow).key = row.key := by
    split <;> rfl
  unfold Kept
  rw [@IndexDb.rowsOf_map db (db.resolved closes now) _ keeps rfl code path, List.map_map]
  exact List.map_congr_left fun row _ => keeps row

/-- Rows that are not closed are left. -/
theorem resolved_apart {db : IndexDb} {closes : IssueRow → Bool} {code : IssueCode} {path : Text}
    (apart : ∀ row ∈ db.rowsOf code path, closes row = false) (now : Time) :
    (db.resolved closes now).rowsOf code path = db.rowsOf code path := by
  rw [@IndexDb.rowsOf_map db (db.resolved closes now)
    (fun row => if closes row then { row with resolvedAt := some now } else row) _ rfl code path]
  · conv_rhs => rw [← List.map_id (db.rowsOf code path)]
    apply List.map_congr_left
    intro row mem
    rw [apart row mem]
    rfl
  · intro row
    split <;> rfl

/-- Resolving one issue leaves the rows of the others. -/
theorem resolved_issue_apart {db : IndexDb} (formed : db.IssuesFormed) {code other : IssueCode}
    {path elsewhere : Text} (apart : ¬ (other = code ∧ elsewhere = path)) (now : Time) :
    (db.resolved (db.closesIssue code path) now).rowsOf other elsewhere = db.rowsOf other elsewhere := by
  apply resolved_apart
  intro row mem
  obtain ⟨rowMem, rowCode, rowPath⟩ := IndexDb.mem_rowsOf.1 mem
  unfold IndexDb.closesIssue
  rw [List.any_eq_false]
  intro closed closedMem same
  obtain ⟨closedIn, closedOpen⟩ := List.mem_filter.1 closedMem
  simp only [IssueRow.isOpen, Bool.and_eq_true, decide_eq_true_eq] at closedOpen same
  obtain rfl := List.inj_on_of_nodup_map formed.ids closedIn rowMem same
  exact apart ⟨rowCode.symm.trans closedOpen.1.1, rowPath.symm.trans closedOpen.1.2⟩

/-! ## Scripts -/

theorem recordIndexIssue_returned {code : IssueCode} {path : Text} {now : Time} {db after : IndexDb}
    {id : Nat} (ran : (recordIndexIssue code path now).run db = (.ok id, after)) :
    after = db.recorded code path now := by
  obtain ⟨_, run⟩ := recordIndexIssue_run code path now db
  rw [ran] at run
  split at run
  · exact congrArg Prod.snd run
  · cases congrArg Prod.fst run

theorem resolveIndexIssue_returned {code : IssueCode} {path : Text} {now : Time} {db after : IndexDb}
    {count : Nat} (ran : (resolveIndexIssue code path now).run db = (.ok count, after)) :
    after = db.resolved (db.closesIssue code path) now := by
  obtain ⟨_, run⟩ := resolveIndexIssue_run code path now db
  rw [ran] at run
  split at run
  · exact congrArg Prod.snd run
  · cases congrArg Prod.fst run

/-- Resolving some codes of the reader: other issues keep their rows, and those add none. -/
theorem resolveCodes_rows {rel : Text} {now : Time} {codes : List MdCode} {db after : IndexDb}
    (formed : db.IssuesFormed) (ran : (resolveCodes rel now codes).run db = (.ok (), after)) :
    Grows db after ∧ (∀ code path, Kept code path db after) ∧
      ∀ code path, ¬ (code ∈ markdownCodes codes ∧ path = rel) →
        after.rowsOf code path = db.rowsOf code path := by
  induction codes generalizing db with
  | nil =>
    cases ran
    exact ⟨.of_table formed rfl, fun _ _ => rfl, fun _ _ _ => rfl⟩
  | cons first codes ih =>
    obtain ⟨count, middle, one, rest⟩ := Script.bind_returned ran
    obtain rfl := resolveIndexIssue_returned one
    have grows := resolved_grows formed (db.closesIssue (.markdown first) rel) now
    obtain ⟨more, kept, others⟩ := ih grows.formed rest
    refine ⟨grows.trans more, ?_, ?_⟩
    · intro code path
      exact (kept code path).trans (resolved_kept db _ now code path)
    · intro code path apart
      rw [markdownCodes_cons, Set.mem_insert_iff] at apart
      rw [others code path fun both => apart ⟨.inr both.1, both.2⟩]
      exact resolved_issue_apart formed (fun both => apart ⟨.inl both.1, both.2⟩) now

end EvoBlue.Source
