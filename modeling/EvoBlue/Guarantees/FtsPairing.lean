import EvoBlue.Kernel.Runs
import EvoBlue.Source.IndexEffects

/-!
# Documents and index rows stay paired

Transactions that call `upsert_report_document`, `mark_report_stale`,
`mark_report_missing` and `purge_report_document` in any order, where any statement
of any call may fail and the caller may commit all the same. Only the savepoints and
the order of the statements keep the two tables in step: no key joins them.
-/

namespace EvoBlue.Guarantees

open EvoBlue.Kernel EvoBlue.Source

/-! ## Transactions of paired calls -/

inductive PairedCall (unicode : UnicodeData) where
  | upsert (entry : ReportIndexEntry unicode) (body : FtsBodyTexts) (now : Time)
  | markStale (jobId : Text) (now : Time)
  | markMissing (jobId : Text) (now : Time)
  | purge (jobId : Text)

/-- Whether a call returned, and the database it left. -/
def settled {α : Type} (outcome : Except IndexError α × IndexDb) : Bool × IndexDb :=
  (outcome.1.isOk, outcome.2)

namespace PairedCall

variable {unicode : UnicodeData}

/-- A call whose marked statements fail. -/
def attempt (call : PairedCall unicode) (failures : List Bool) (db : IndexDb) : Bool × IndexDb :=
  match call with
  | .upsert entry body now =>
    settled ((upsertStatements entry body now).attemptSavepoint .operationalError failures db)
  | .markStale jobId now =>
    settled ((markStaleStatements jobId now).attempt .operationalError failures db)
  | .markMissing jobId now =>
    settled ((markMissingStatements jobId now).attemptSavepoint .operationalError failures db)
  | .purge jobId =>
    settled ((purgeStatements jobId).attemptSavepoint .operationalError failures db)

/-- The index texts an upsert of this document wrote. -/
def writes (jobId : Text) : PairedCall unicode → Option FtsTexts
  | .upsert entry body _ =>
    if entry.jobId = jobId then some (ftsRowValues unicode entry.toEntryColumns body) else none
  | _ => none

def purges (jobId : Text) : PairedCall unicode → Bool
  | .purge other => other = jobId
  | _ => false

end PairedCall

/-- A database, and the calls that returned on the way there, oldest first. -/
structure PairedHistory (unicode : UnicodeData) where
  db : IndexDb := {}
  successes : List (PairedCall unicode) := []

namespace PairedHistory

variable {unicode : UnicodeData}

def call (history : PairedHistory unicode) (step : PairedCall unicode × List Bool) :
    PairedHistory unicode :=
  match step.1.attempt step.2 history.db with
  | (true, after) => ⟨after, history.successes ++ [step.1]⟩
  | (false, after) => ⟨after, history.successes⟩

/-- The index texts of the latest upsert of a document that returned. -/
def latestUpsert (history : PairedHistory unicode) (jobId : Text) : Option FtsTexts :=
  history.successes.reverse.findSome? (PairedCall.writes jobId)

end PairedHistory

/-- Calls in one transaction, each with its failing statements, and whether the
transaction is committed. -/
structure PairedTransaction (unicode : UnicodeData) where
  calls : List (PairedCall unicode × List Bool)
  commits : Bool

def commitPaired {unicode : UnicodeData} (history : PairedHistory unicode)
    (transaction : PairedTransaction unicode) : PairedHistory unicode :=
  if transaction.commits then run PairedHistory.call history transaction.calls else history

variable {unicode : UnicodeData}

/-! ## One call -/

/-- What a call that returns does to the database. -/
def PairedCall.effect (call : PairedCall unicode) (db : IndexDb) : IndexDb :=
  match call with
  | .upsert entry body now =>
    db.upserted entry.toEntryColumns (ftsRowValues unicode entry.toEntryColumns body) now
  | .markStale jobId now => db.markedStale jobId now
  | .markMissing jobId now => db.markedMissing jobId now
  | .purge jobId => db.purged jobId

theorem settled_of_savepoint {α : Type} {body : IndexStatements α} {failures : List Bool}
    {db after : IndexDb} {condition : Prop} [Decidable condition] {value : α}
    (ran : (Script.savepoint body.script).run db =
      if condition then (.ok value, after) else (.error .unicodeEncodeError, db)) :
    (condition ∧ settled (body.attemptSavepoint .operationalError failures db) = (true, after)) ∨
      settled (body.attemptSavepoint .operationalError failures db) = (false, db) := by
  rcases Statements.attemptSavepoint_outcome IndexError.operationalError body failures db with
    undisturbed | failed
  · rw [undisturbed, ran]
    split
    next holds => exact .inl ⟨holds, rfl⟩
    next => exact .inr rfl
  · rw [failed]
    exact .inr rfl

/-- `mark_report_stale` needs no savepoint: it writes with its last statement. -/
theorem markStale_settled (jobId : Text) (now : Time) (failures : List Bool) (db : IndexDb) :
    settled ((markStaleStatements jobId now).attempt .operationalError failures db) =
        (true, db.markedStale jobId now) ∨
      settled ((markStaleStatements jobId now).attempt .operationalError failures db) =
        (false, db) := by
  unfold markStaleStatements IndexDb.markedStale
  rw [Statements.attempt_execute_bind, selectDocument_run]
  split
  next => exact .inr rfl
  next =>
    by_cases encodable : Encodable jobId
    · simp only [if_pos encodable]
      cases db.findDocument jobId with
      | none => exact .inl rfl
      | some row =>
        by_cases inactive : row.docStatus ≠ .active
        · simp only [if_pos inactive]
          exact .inl rfl
        · simp only [if_neg inactive, Statements.attempt_execute_bind]
          split
          next => exact .inr rfl
          next => exact .inl rfl
    · simp only [if_neg encodable]
      exact .inr rfl

/-- Under any failures a call does all of its work, or raises and changes nothing. -/
theorem attempt_settled {db : IndexDb} (formed : db.WellFormed) (call : PairedCall unicode)
    (failures : List Bool) :
    ((call.effect db).WellFormed ∧ call.attempt failures db = (true, call.effect db)) ∨
      call.attempt failures db = (false, db) := by
  cases call with
  | upsert entry body now =>
    exact (settled_of_savepoint (upsertReportDocument_run formed entry body now)).imp_left
      (And.imp_left fun bound =>
        formed.upserted (EntryColumns.accepted_named entry.checked) bound now)
  | markStale jobId now =>
    exact (markStale_settled jobId now failures db).imp_left
      fun settled => ⟨(formed.markedStale jobId now).1, settled⟩
  | markMissing jobId now =>
    obtain ⟨changed, ran⟩ := markReportMissing_run jobId now db
    exact (settled_of_savepoint ran).imp_left
      (And.imp_left fun _ => formed.markedMissing jobId now)
  | purge jobId =>
    obtain ⟨changed, ran⟩ := purgeReportDocument_run jobId db
    exact (settled_of_savepoint ran).imp_left (And.imp_left fun _ => formed.purged jobId)

/-! ## The pairing -/

/-- What keeps the tables paired: a searchable document has exactly the texts of
its latest upsert in the index. -/
structure Paired (history : PairedHistory unicode) : Prop where
  formed : history.db.WellFormed
  latest : ∀ jobId seen, history.db.view jobId = some seen → seen.docStatus ≠ .missing →
    ∃ texts, seen.texts = [texts] ∧ history.latestUpsert jobId = some texts

theorem latestUpsert_append (history : PairedHistory unicode) (call : PairedCall unicode)
    (db : IndexDb) (jobId : Text) :
    PairedHistory.latestUpsert ⟨db, history.successes ++ [call]⟩ jobId =
      (call.writes jobId).or (history.latestUpsert jobId) := by
  unfold PairedHistory.latestUpsert
  simp only [List.reverse_append, List.reverse_cons, List.reverse_nil, List.nil_append,
    List.singleton_append, List.findSome?_cons]
  cases call.writes jobId <;> rfl

theorem paired_effect {history : PairedHistory unicode} (paired : Paired history)
    (call : PairedCall unicode) (formed : (call.effect history.db).WellFormed) :
    Paired ⟨call.effect history.db, history.successes ++ [call]⟩ where
  formed := formed
  latest := by
    intro jobId seen known visible
    rw [latestUpsert_append]
    cases call with
    | upsert entry body now =>
      change (history.db.upserted _ _ now).view jobId = some seen at known
      rw [paired.formed.view_upserted (EntryColumns.accepted_named entry.checked)] at known
      have wrote : (PairedCall.upsert entry body now).writes jobId =
          if entry.jobId = jobId then some (ftsRowValues unicode entry.toEntryColumns body)
          else none := rfl
      rw [wrote]
      split at known
      next same =>
        cases known
        exact ⟨_, rfl, by rw [if_pos same.symm, Option.some_or]⟩
      next apart =>
        rw [if_neg (Ne.symm apart), Option.none_or]
        exact paired.latest jobId seen known visible
    | markStale other now =>
      change (history.db.markedStale other now).view jobId = some seen at known
      rw [(paired.formed.markedStale other now).2] at known
      change ∃ texts, seen.texts = [texts] ∧ history.latestUpsert jobId = some texts
      split at known
      next same =>
        subst same
        obtain ⟨old, stored, rfl⟩ := Option.map_eq_some_iff.1 known
        unfold DocView.stale at visible ⊢
        split at visible
        next active =>
          rw [if_pos active]
          exact paired.latest jobId old stored (by rw [active]; decide)
        next inactive =>
          rw [if_neg inactive]
          exact paired.latest jobId old stored visible
      next => exact paired.latest jobId seen known visible
    | markMissing other now =>
      change (history.db.markedMissing other now).view jobId = some seen at known
      rw [paired.formed.view_markedMissing] at known
      split at known
      next =>
        obtain ⟨old, stored, rfl⟩ := Option.map_eq_some_iff.1 known
        exact absurd rfl visible
      next => exact paired.latest jobId seen known visible
    | purge other =>
      change (history.db.purged other).view jobId = some seen at known
      rw [paired.formed.view_purged] at known
      split at known
      next => cases known
      next => exact paired.latest jobId seen known visible

theorem paired_call {history : PairedHistory unicode} (step : PairedCall unicode × List Bool)
    (paired : Paired history) : Paired (history.call step) := by
  unfold PairedHistory.call
  rcases attempt_settled paired.formed step.1 step.2 with ⟨formed, returned⟩ | raised
  · rw [returned]
    exact paired_effect paired step.1 formed
  · rw [raised]
    exact paired

theorem paired_commit {history : PairedHistory unicode} (transaction : PairedTransaction unicode)
    (paired : Paired history) : Paired (commitPaired history transaction) := by
  unfold commitPaired
  split
  · exact run_invariant (fun _ step kept => paired_call step kept) paired transaction.calls
  · exact paired

theorem paired_run (transactions : List (PairedTransaction unicode)) :
    Paired (run commitPaired ({} : PairedHistory unicode) transactions) := by
  apply run_invariant fun _ transaction kept => paired_commit transaction kept
  exact ⟨IndexDb.wellFormed_empty, fun jobId seen known => by cases known⟩

/-! ## The id of a document -/

/-- The document of a job keeps its id as long as the log gains no purge of it. -/
def KeepsId (row : ReportRow) (before after : PairedHistory unicode) : Prop :=
  ∃ added, after.successes = before.successes ++ added ∧
    ((∀ call ∈ added, call.purges row.jobId = false) →
      ∃ kept ∈ after.db.documents, kept.jobId = row.jobId ∧ kept.id = row.id)

theorem effect_keeps {db : IndexDb} (formed : db.WellFormed) (call : PairedCall unicode)
    {row : ReportRow} (mem : row ∈ db.documents) (spared : call.purges row.jobId = false) :
    ∃ kept ∈ (call.effect db).documents, kept.jobId = row.jobId ∧ kept.id = row.id := by
  cases call with
  | upsert entry body now =>
    change ∃ kept ∈ (db.upserted _ _ now).documents, _
    unfold IndexDb.upserted
    split
    next => exact ⟨row, List.mem_append_left _ mem, rfl, rfl⟩
    next old _ =>
      have keys := (updatedRow_keeps entry.toEntryColumns now).map old.id row
      exact ⟨_, List.mem_map.2 ⟨row, mem, rfl⟩, keys.2, keys.1⟩
  | markStale jobId now =>
    change ∃ kept ∈ (db.markedStale jobId now).documents, _
    unfold IndexDb.markedStale
    split
    next => exact ⟨row, mem, rfl, rfl⟩
    next old _ =>
      split
      next => exact ⟨row, mem, rfl, rfl⟩
      next =>
        have keys := (restatedRow_keeps .stale now).map old.id row
        exact ⟨_, List.mem_map.2 ⟨row, mem, rfl⟩, keys.2, keys.1⟩
  | markMissing jobId now =>
    change ∃ kept ∈ (db.markedMissing jobId now).documents, _
    unfold IndexDb.markedMissing
    split
    next => exact ⟨row, mem, rfl, rfl⟩
    next old _ =>
      split
      next => exact ⟨row, mem, rfl, rfl⟩
      next =>
        have keys := (restatedRow_keeps .missing now).map old.id row
        exact ⟨_, List.mem_map.2 ⟨row, mem, rfl⟩, keys.2, keys.1⟩
  | purge jobId =>
    change ∃ kept ∈ (db.purged jobId).documents, _
    unfold IndexDb.purged
    split
    next => exact ⟨row, mem, rfl, rfl⟩
    next old found =>
      obtain ⟨memOld, rfl⟩ := IndexDb.findDocument_spec found
      have apart : row.id ≠ old.id := by
        intro same
        rw [PairedCall.purges, formed.row_of_id mem memOld same] at spared
        simp at spared
      exact ⟨row, List.mem_filter.2 ⟨mem, by simpa using apart⟩, rfl, rfl⟩

theorem keepsId_call {row : ReportRow} {before history : PairedHistory unicode}
    (paired : Paired history) (step : PairedCall unicode × List Bool)
    (keeps : KeepsId row before history) : KeepsId row before (history.call step) := by
  obtain ⟨added, successes, kept⟩ := keeps
  unfold PairedHistory.call
  rcases attempt_settled paired.formed step.1 step.2 with ⟨_, returned⟩ | raised
  · rw [returned]
    refine ⟨added ++ [step.1], by rw [successes, List.append_assoc], fun spared => ?_⟩
    obtain ⟨old, mem, sameJob, sameId⟩ := kept fun call member =>
      spared call (List.mem_append_left _ member)
    obtain ⟨last, memLast, lastJob, lastId⟩ := effect_keeps paired.formed step.1 mem
      (sameJob ▸ spared step.1 (by simp))
    exact ⟨last, memLast, lastJob.trans sameJob, lastId.trans sameId⟩
  · rw [raised]
    exact ⟨added, successes, kept⟩

theorem keepsId_run {row : ReportRow} {before : PairedHistory unicode} (paired : Paired before)
    (mem : row ∈ before.db.documents) (transactions : List (PairedTransaction unicode)) :
    KeepsId row before (run commitPaired before transactions) := by
  have eachCall : ∀ history step, Paired history ∧ KeepsId row before history →
      Paired (PairedHistory.call history step) ∧
        KeepsId row before (PairedHistory.call history step) :=
    fun _ step kept => ⟨paired_call step kept.1, keepsId_call kept.1 step kept.2⟩
  have eachTransaction : ∀ history transaction, Paired history ∧ KeepsId row before history →
      Paired (commitPaired history transaction) ∧
        KeepsId row before (commitPaired history transaction) := by
    intro history transaction kept
    refine ⟨paired_commit transaction kept.1, ?_⟩
    unfold commitPaired
    split
    · exact (run_invariant eachCall kept transaction.calls).2
    · exact kept.2
  exact (run_invariant eachTransaction
    ⟨paired, [], by simp, fun _ => ⟨row, mem, rfl, rfl⟩⟩ transactions).2

/-- After any committed transactions the index rows are those of the active and stale
documents, each with the texts of the latest upsert that returned; `verify_fts`
reports consistency; and a document keeps its id until a purge of it returns. -/
theorem fts_pairing (transactions : List (PairedTransaction unicode)) :
    let history := run commitPaired ({} : PairedHistory unicode) transactions
    (∀ id, (∃ fts ∈ history.db.fts, fts.rowid = id) ↔
      ∃ row ∈ history.db.documents, row.id = id ∧
        (row.docStatus = .active ∨ row.docStatus = .stale)) ∧
    (∀ fts ∈ history.db.fts, ∃ row ∈ history.db.documents, row.id = fts.rowid ∧
      history.latestUpsert row.jobId = some fts.toFtsTexts) ∧
    history.db.ftsConsistent = true ∧
    ∀ row ∈ history.db.documents, ∀ later : List (PairedTransaction unicode),
      ∃ added, (run commitPaired history later).successes = history.successes ++ added ∧
        ((∀ call ∈ added, call.purges row.jobId = false) →
          ∃ kept ∈ (run commitPaired history later).db.documents,
            kept.jobId = row.jobId ∧ kept.id = row.id) := by
  intro history
  have paired : Paired history := paired_run transactions
  refine ⟨fun id => ?_, fun fts mem => ?_, paired.formed.ftsConsistent,
    fun row mem later => keepsId_run paired mem later⟩
  · rw [paired.formed.rowid_iff id]
    simp only [ReportRow.searchable, Bool.or_eq_true, decide_eq_true_eq]
  · obtain ⟨row, memRow, rowId, searchable⟩ := paired.formed.owned fts mem
    refine ⟨row, memRow, rowId, ?_⟩
    have visible : row.docStatus ≠ .missing := by
      intro gone
      simp [ReportRow.searchable, gone] at searchable
    obtain ⟨texts, one, latest⟩ :=
      paired.latest row.jobId _ (paired.formed.view_of_mem memRow) visible
    have member : fts.toFtsTexts ∈ history.db.textsOf row.id :=
      List.mem_map.2 ⟨fts, List.mem_filter.2 ⟨mem, by simpa using rowId.symm⟩, rfl⟩
    rw [show history.db.textsOf row.id = [texts] from one, List.mem_singleton] at member
    rw [latest, member]

end EvoBlue.Guarantees
