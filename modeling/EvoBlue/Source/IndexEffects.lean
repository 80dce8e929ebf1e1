import EvoBlue.Source.ReportIndex

/-!
# What the index functions do

An index is well formed when its keys are unique, when a document carries its own
analysis id, when the searchable documents and the index rows are paired, and when
every stored text was one that could be encoded. Over a well-formed index a document is seen by its job id only: its columns, its status
and its index texts. Every function of the repository is described by what it
does to this view.
-/

namespace EvoBlue.Source

open EvoBlue.Kernel

/-- What history and search can tell of one document. -/
structure DocView where
  columns : EntryColumns
  docStatus : DocStatus
  texts : List FtsTexts
  deriving DecidableEq

namespace IndexDb

/-- The index texts of one document id. -/
def textsOf (db : IndexDb) (id : Nat) : List FtsTexts :=
  (db.fts.filter fun row => row.rowid = id).map (·.toFtsTexts)

def view (db : IndexDb) (jobId : Text) : Option DocView :=
  (db.findDocument jobId).map fun row => ⟨row.toEntryColumns, row.docStatus, db.textsOf row.id⟩

structure WellFormed (db : IndexDb) : Prop where
  jobs : (db.documents.map (·.jobId)).Nodup
  ids : (db.documents.map (·.id)).Nodup
  fresh : ∀ row ∈ db.documents, row.id < db.nextDocumentId
  named : ∀ row ∈ db.documents, row.analysisId = row.jobId
  paired : ∀ row ∈ db.documents, row.searchable = true → ∃ texts, db.textsOf row.id = [texts]
  owned : ∀ fts ∈ db.fts, ∃ row ∈ db.documents, row.id = fts.rowid ∧ row.searchable = true
  stored : ∀ row ∈ db.documents, ∀ t ∈ entryTexts row.toEntryColumns, Encodable t
  indexed : ∀ fts ∈ db.fts, ∀ t ∈ ftsTexts fts.toFtsTexts, Encodable t

theorem wellFormed_empty : ({} : IndexDb).WellFormed := by
  constructor <;> simp

/-- Two databases that differ at most in their issues and their status. -/
def SameIndex (db after : IndexDb) : Prop :=
  after.documents = db.documents ∧ after.fts = db.fts ∧
    after.nextDocumentId = db.nextDocumentId

theorem SameIndex.rfl {db : IndexDb} : db.SameIndex db := ⟨Eq.refl _, Eq.refl _, Eq.refl _⟩

theorem SameIndex.trans {db middle after : IndexDb} (first : db.SameIndex middle)
    (last : middle.SameIndex after) : db.SameIndex after :=
  ⟨last.1.trans first.1, last.2.1.trans first.2.1, last.2.2.trans first.2.2⟩

theorem SameIndex.view {db after : IndexDb} (same : db.SameIndex after) (jobId : Text) :
    after.view jobId = db.view jobId := by
  unfold IndexDb.view findDocument textsOf
  rw [same.1, same.2.1]

theorem SameIndex.wellFormed {db after : IndexDb} (same : db.SameIndex after)
    (formed : db.WellFormed) : after.WellFormed := by
  obtain ⟨documents, fts, next⟩ := same
  refine ⟨?_, ?_, ?_, ?_, ?_, ?_, ?_, ?_⟩
  · simpa [documents] using formed.jobs
  · simpa [documents] using formed.ids
  · simpa [documents, next] using formed.fresh
  · simpa [documents] using formed.named
  · simpa [documents, textsOf, fts] using formed.paired
  · simpa [documents, fts] using formed.owned
  · simpa only [documents] using formed.stored
  · simpa only [fts] using formed.indexed

/-! ## Looking a document up -/

theorem findDocument_spec {db : IndexDb} {jobId : Text} {row : ReportRow}
    (found : db.findDocument jobId = some row) : row ∈ db.documents ∧ row.jobId = jobId := by
  have same := List.find?_some found
  exact ⟨List.mem_of_find?_eq_some found, by simpa using same⟩

theorem findDocument_none {db : IndexDb} {jobId : Text} :
    db.findDocument jobId = none ↔ ∀ row ∈ db.documents, row.jobId ≠ jobId := by
  unfold findDocument
  simp

theorem WellFormed.find {db : IndexDb} (formed : db.WellFormed) {row : ReportRow}
    (mem : row ∈ db.documents) : db.findDocument row.jobId = some row := by
  cases found : db.findDocument row.jobId with
  | none => exact absurd rfl (findDocument_none.1 found row mem)
  | some other =>
    obtain ⟨memOther, same⟩ := findDocument_spec found
    rw [List.inj_on_of_nodup_map formed.jobs memOther mem same]

theorem WellFormed.row_of_id {db : IndexDb} (formed : db.WellFormed) {row other : ReportRow}
    (mem : row ∈ db.documents) (memOther : other ∈ db.documents) (same : row.id = other.id) :
    row = other :=
  List.inj_on_of_nodup_map formed.ids mem memOther same

theorem WellFormed.id_eq_iff {db : IndexDb} (formed : db.WellFormed) {row other : ReportRow}
    (mem : row ∈ db.documents) (memOther : other ∈ db.documents) :
    row.id = other.id ↔ row.jobId = other.jobId := by
  constructor
  · intro same
    rw [formed.row_of_id mem memOther same]
  · intro same
    rw [List.inj_on_of_nodup_map formed.jobs mem memOther same]

theorem view_of_find {db : IndexDb} {jobId : Text} {row : ReportRow}
    (found : db.findDocument jobId = some row) :
    db.view jobId = some ⟨row.toEntryColumns, row.docStatus, db.textsOf row.id⟩ := by
  unfold view
  rw [found]
  rfl

theorem view_none {db : IndexDb} {jobId : Text} :
    db.view jobId = none ↔ db.findDocument jobId = none := by
  unfold view
  simp

theorem WellFormed.view_of_mem {db : IndexDb} (formed : db.WellFormed) {row : ReportRow}
    (mem : row ∈ db.documents) :
    db.view row.jobId = some ⟨row.toEntryColumns, row.docStatus, db.textsOf row.id⟩ :=
  view_of_find (formed.find mem)

theorem view_jobId {db : IndexDb} {jobId : Text} {seen : DocView}
    (known : db.view jobId = some seen) : seen.columns.jobId = jobId := by
  obtain ⟨row, found, rfl⟩ := Option.map_eq_some_iff.1 known
  exact (findDocument_spec found).2

/-- Only searchable documents have index texts. -/
theorem WellFormed.texts_nil {db : IndexDb} (formed : db.WellFormed) {row : ReportRow}
    (mem : row ∈ db.documents) (hidden : row.searchable = false) : db.textsOf row.id = [] := by
  unfold textsOf
  simp only [List.map_eq_nil_iff, List.filter_eq_nil_iff, decide_eq_true_eq]
  intro fts memFts same
  obtain ⟨owner, memOwner, ownerId, searchable⟩ := formed.owned fts memFts
  rw [formed.row_of_id memOwner mem (ownerId.trans same), hidden] at searchable
  cases searchable

/-- The index rows are those of the searchable documents. -/
theorem WellFormed.rowid_iff {db : IndexDb} (formed : db.WellFormed) (id : Nat) :
    (∃ fts ∈ db.fts, fts.rowid = id) ↔
      ∃ row ∈ db.documents, row.id = id ∧ row.searchable = true := by
  constructor
  · rintro ⟨fts, mem, rfl⟩
    exact formed.owned fts mem
  · rintro ⟨row, mem, rfl, searchable⟩
    obtain ⟨texts, one⟩ := formed.paired row mem searchable
    unfold textsOf at one
    obtain ⟨fts, kept, _⟩ := List.map_eq_singleton_iff.1 one
    have memFilter : fts ∈ db.fts.filter fun other => other.rowid = row.id := by simp [kept]
    exact ⟨fts, (List.mem_filter.1 memFilter).1, by simpa using (List.mem_filter.1 memFilter).2⟩

theorem WellFormed.rowids_nodup {db : IndexDb} (formed : db.WellFormed) :
    (db.fts.map (·.rowid)).Nodup := by
  rw [List.nodup_iff_count_le_one]
  intro id
  have counted : (db.fts.map (·.rowid)).count id = (db.textsOf id).length := by
    unfold textsOf List.count
    rw [List.countP_map, List.countP_eq_length_filter, List.length_map]
    rfl
  rw [counted]
  by_cases owned : ∃ row ∈ db.documents, row.id = id ∧ row.searchable = true
  · obtain ⟨row, mem, rfl, searchable⟩ := owned
    obtain ⟨texts, one⟩ := formed.paired row mem searchable
    simp [one]
  · have absent : db.textsOf id = [] := by
      unfold textsOf
      simp only [List.map_eq_nil_iff, List.filter_eq_nil_iff, decide_eq_true_eq]
      intro fts mem same
      exact owned ((formed.rowid_iff id).1 ⟨fts, mem, same⟩)
    simp [absent]

/-- Over a well-formed index `verify_fts` reports consistency. -/
theorem WellFormed.ftsConsistent {db : IndexDb} (formed : db.WellFormed) :
    db.ftsConsistent = true := by
  have same : ((db.documents.filter ReportRow.searchable).map (·.id)).Perm
      (db.fts.map (·.rowid)) := by
    refine (List.perm_ext_iff_of_nodup (formed.ids.sublist (List.filter_sublist.map _))
      formed.rowids_nodup).2 fun id => ?_
    simp only [List.mem_map, List.mem_filter]
    rw [formed.rowid_iff id]
    constructor
    · rintro ⟨row, ⟨mem, searchable⟩, rowId⟩
      exact ⟨row, mem, rowId, searchable⟩
    · rintro ⟨row, mem, rowId, searchable⟩
      exact ⟨row, ⟨mem, searchable⟩, rowId⟩
  have lengths := same.length_eq
  simp only [List.length_map] at lengths
  unfold IndexDb.ftsConsistent
  simp only [Bool.and_eq_true, decide_eq_true_eq, List.all_eq_true, Bool.or_eq_true,
    Bool.not_eq_true', List.any_eq_true]
  refine ⟨⟨lengths, fun row mem => ?_⟩, fun fts mem => ?_⟩
  · cases searchable : row.searchable with
    | false => exact .inl rfl
    | true => exact .inr ((formed.rowid_iff row.id).2 ⟨row, mem, rfl, searchable⟩)
  · obtain ⟨row, memRow, rowId, searchable⟩ := formed.owned fts mem
    exact ⟨row, memRow, rowId, searchable⟩

/-! ## Rewriting one document -/

/-- Change one row, and give it the index texts `texts` in place of its own. -/
def rewrite (db : IndexDb) (id : Nat) (change : ReportRow → ReportRow) (texts : List FtsTexts) :
    IndexDb :=
  { db with
    documents := db.documents.map fun row => if row.id = id then change row else row
    fts := db.fts.filter (fun row => row.rowid ≠ id) ++ texts.map fun t => { t with rowid := id } }

/-- A change that keeps the keys of a row. -/
structure KeepsKeys (change : ReportRow → ReportRow) : Prop where
  id : ∀ row, (change row).id = row.id
  jobId : ∀ row, (change row).jobId = row.jobId
  analysisId : ∀ row, row.analysisId = row.jobId → (change row).analysisId = row.jobId

theorem KeepsKeys.map {change : ReportRow → ReportRow} (keeps : KeepsKeys change) (id : Nat)
    (row : ReportRow) :
    (if row.id = id then change row else row).id = row.id ∧
      (if row.id = id then change row else row).jobId = row.jobId := by
  split
  · exact ⟨keeps.id row, keeps.jobId row⟩
  · exact ⟨rfl, rfl⟩

theorem textsOf_rewrite (db : IndexDb) (id : Nat) (change : ReportRow → ReportRow)
    (texts : List FtsTexts) (other : Nat) :
    (db.rewrite id change texts).textsOf other = if other = id then texts else db.textsOf other := by
  unfold textsOf rewrite
  simp only [List.filter_append, List.map_append, List.filter_filter, List.filter_map,
    List.map_map]
  by_cases same : other = id
  · subst same
    have none : db.fts.filter (fun row => decide (row.rowid = other) && decide (row.rowid ≠ other))
        = [] := by
      simp
    simp only [none, Function.comp_def]
    simp
  · have old : db.fts.filter (fun row => decide (row.rowid = other) && decide (row.rowid ≠ id)) =
        db.fts.filter (fun row => decide (row.rowid = other)) := by
      apply List.filter_congr
      intro row _
      by_cases hit : row.rowid = other
      · simp [hit, same]
      · simp [hit]
    simp only [old, Function.comp_def]
    simp [Ne.symm same, same]

theorem findDocument_rewrite (db : IndexDb) (id : Nat) {change : ReportRow → ReportRow}
    (keeps : KeepsKeys change) (texts : List FtsTexts) (jobId : Text) :
    (db.rewrite id change texts).findDocument jobId =
      (db.findDocument jobId).map fun row => if row.id = id then change row else row := by
  have sameKey : ((fun row : ReportRow => decide (row.jobId = jobId)) ∘
      fun row => if row.id = id then change row else row) =
      fun row => decide (row.jobId = jobId) := by
    funext row
    simp only [Function.comp_apply, (keeps.map id row).2]
  unfold findDocument rewrite
  simp only [List.find?_map, sameKey]

theorem WellFormed.rewrite {db : IndexDb} (formed : db.WellFormed) {row : ReportRow}
    (mem : row ∈ db.documents) {change : ReportRow → ReportRow} (keeps : KeepsKeys change)
    {texts : List FtsTexts}
    (pairs : ((change row).searchable = true ∧ ∃ one, texts = [one]) ∨
      ((change row).searchable = false ∧ texts = []))
    (bound : ∀ t ∈ entryTexts (change row).toEntryColumns, Encodable t)
    (indexed : ∀ one ∈ texts, ∀ t ∈ ftsTexts one, Encodable t) :
    (db.rewrite row.id change texts).WellFormed where
  jobs := by
    have same : ((db.rewrite row.id change texts).documents.map (·.jobId)) =
        db.documents.map (·.jobId) := by
      unfold IndexDb.rewrite
      simp only [List.map_map, Function.comp_def, (keeps.map row.id _).2]
    rw [same]
    exact formed.jobs
  ids := by
    have same : ((db.rewrite row.id change texts).documents.map (·.id)) =
        db.documents.map (·.id) := by
      unfold IndexDb.rewrite
      simp only [List.map_map, Function.comp_def, (keeps.map row.id _).1]
    rw [same]
    exact formed.ids
  fresh := by
    intro after memAfter
    obtain ⟨old, memOld, rfl⟩ := List.mem_map.1 memAfter
    rw [(keeps.map row.id old).1]
    exact formed.fresh old memOld
  named := by
    intro after memAfter
    obtain ⟨old, memOld, rfl⟩ := List.mem_map.1 memAfter
    split
    · rw [keeps.jobId, keeps.analysisId old (formed.named old memOld)]
    · exact formed.named old memOld
  paired := by
    intro after memAfter searchable
    obtain ⟨old, memOld, rfl⟩ := List.mem_map.1 memAfter
    rw [(keeps.map row.id old).1, textsOf_rewrite]
    by_cases hit : old.id = row.id
    · rw [if_pos hit] at searchable ⊢
      rw [formed.row_of_id memOld mem hit] at searchable
      rcases pairs with ⟨_, one⟩ | ⟨hidden, _⟩
      · exact one
      · rw [hidden] at searchable
        cases searchable
    · rw [if_neg hit] at searchable ⊢
      exact formed.paired old memOld searchable
  owned := by
    intro fts memFts
    rcases List.mem_append.1 memFts with old | new
    · obtain ⟨memOld, apart⟩ := List.mem_filter.1 old
      obtain ⟨owner, memOwner, ownerId, searchable⟩ := formed.owned fts memOld
      refine ⟨owner, List.mem_map.2 ⟨owner, memOwner, if_neg ?_⟩, ownerId, searchable⟩
      rw [ownerId]
      simpa using apart
    · obtain ⟨one, memOne, rfl⟩ := List.mem_map.1 new
      refine ⟨change row, List.mem_map.2 ⟨row, mem, if_pos rfl⟩, keeps.id row, ?_⟩
      rcases pairs with ⟨searchable, _⟩ | ⟨_, empty⟩
      · exact searchable
      · rw [empty] at memOne
        cases memOne
  stored := by
    intro after memAfter
    obtain ⟨old, memOld, rfl⟩ := List.mem_map.1 memAfter
    split
    next hit =>
      rw [formed.row_of_id memOld mem hit]
      exact bound
    next => exact formed.stored old memOld
  indexed := by
    intro fts memFts
    rcases List.mem_append.1 memFts with old | new
    · exact formed.indexed fts (List.mem_filter.1 old).1
    · obtain ⟨one, memOne, rfl⟩ := List.mem_map.1 new
      exact indexed one memOne

theorem WellFormed.view_rewrite {db : IndexDb} (formed : db.WellFormed) {row : ReportRow}
    (mem : row ∈ db.documents) {change : ReportRow → ReportRow} (keeps : KeepsKeys change)
    (texts : List FtsTexts) (jobId : Text) :
    (db.rewrite row.id change texts).view jobId =
      if jobId = row.jobId then
        some ⟨(change row).toEntryColumns, (change row).docStatus, texts⟩
      else db.view jobId := by
  unfold IndexDb.view
  rw [findDocument_rewrite db row.id keeps texts jobId]
  by_cases same : jobId = row.jobId
  · rw [if_pos same, same, formed.find mem]
    simp only [Option.map_some, if_true, keeps.id, textsOf_rewrite]
  · rw [if_neg same]
    cases found : db.findDocument jobId with
    | none => rfl
    | some other =>
      obtain ⟨memOther, otherJob⟩ := findDocument_spec found
      have apart : other.id ≠ row.id := by
        intro sameId
        exact same (otherJob.symm.trans ((formed.id_eq_iff memOther mem).1 sameId))
      simp only [Option.map_some, if_neg apart, textsOf_rewrite]

/-! ## Adding and deleting a document -/

/-- Delete and reinsert the index row of a document. -/
def replaceFts (db : IndexDb) (id : Nat) (texts : FtsTexts) : IndexDb :=
  (db.deleteFts id).insertFts id texts

/-- A new document with its index row. -/
def added (db : IndexDb) (entry : EntryColumns) (texts : FtsTexts) (now : Time) : IndexDb :=
  (db.insertDocument entry now).replaceFts db.nextDocumentId texts

theorem textsOf_replaceFts (db : IndexDb) (id : Nat) (texts : FtsTexts) (other : Nat) :
    (db.replaceFts id texts).textsOf other = if other = id then [texts] else db.textsOf other :=
  textsOf_rewrite db id (fun row => row) [texts] other

theorem WellFormed.added {db : IndexDb} (formed : db.WellFormed) {entry : EntryColumns}
    (absent : db.findDocument entry.jobId = none) (named : entry.analysisId = entry.jobId)
    {texts : FtsTexts} (bound : ∀ t ∈ entryTexts entry ++ ftsTexts texts, Encodable t)
    (now : Time) : (db.added entry texts now).WellFormed where
  jobs := by
    have others := findDocument_none.1 absent
    unfold IndexDb.added replaceFts deleteFts insertFts insertDocument
    simp only [List.map_append, List.map_cons, List.map_nil]
    refine List.nodup_append.2 ⟨formed.jobs, by simp, ?_⟩
    intro a memA b memB
    obtain ⟨row, mem, rfl⟩ := List.mem_map.1 memA
    rw [List.mem_singleton.1 memB]
    exact others row mem
  ids := by
    unfold IndexDb.added replaceFts deleteFts insertFts insertDocument
    simp only [List.map_append, List.map_cons, List.map_nil]
    refine List.nodup_append.2 ⟨formed.ids, by simp, ?_⟩
    intro a memA b memB
    obtain ⟨row, mem, rfl⟩ := List.mem_map.1 memA
    rw [List.mem_singleton.1 memB]
    exact Nat.ne_of_lt (formed.fresh row mem)
  fresh := by
    intro row mem
    rcases List.mem_append.1 mem with old | new
    · exact Nat.lt_succ_of_lt (formed.fresh row old)
    · rw [List.mem_singleton.1 new]
      exact Nat.lt_succ_self _
  named := by
    intro row mem
    rcases List.mem_append.1 mem with old | new
    · exact formed.named row old
    · rw [List.mem_singleton.1 new]
      exact named
  paired := by
    intro row mem searchable
    unfold IndexDb.added
    rw [textsOf_replaceFts]
    rcases List.mem_append.1 mem with old | new
    · rw [if_neg (Nat.ne_of_lt (formed.fresh row old))]
      exact formed.paired row old searchable
    · rw [List.mem_singleton.1 new, if_pos rfl]
      exact ⟨texts, rfl⟩
  owned := by
    intro fts memFts
    rcases List.mem_append.1 memFts with old | new
    · obtain ⟨row, mem, rowId, searchable⟩ := formed.owned fts (List.mem_filter.1 old).1
      exact ⟨row, List.mem_append_left _ mem, rowId, searchable⟩
    · rw [List.mem_singleton.1 new]
      exact ⟨_, List.mem_append_right _ (List.mem_singleton.2 rfl), rfl, rfl⟩
  stored := by
    intro row mem
    rcases List.mem_append.1 mem with old | new
    · exact formed.stored row old
    · rw [List.mem_singleton.1 new]
      exact (List.forall_mem_append.1 bound).1
  indexed := by
    intro fts memFts
    rcases List.mem_append.1 memFts with old | new
    · exact formed.indexed fts (List.mem_filter.1 old).1
    · rw [List.mem_singleton.1 new]
      exact (List.forall_mem_append.1 bound).2

theorem WellFormed.view_added {db : IndexDb} (formed : db.WellFormed) {entry : EntryColumns}
    (absent : db.findDocument entry.jobId = none) (texts : FtsTexts) (now : Time)
    (jobId : Text) :
    (db.added entry texts now).view jobId =
      if jobId = entry.jobId then some ⟨entry, .active, [texts]⟩ else db.view jobId := by
  have looked : (db.added entry texts now).findDocument jobId =
      (db.findDocument jobId).or (if entry.jobId = jobId then
        some { entry with id := db.nextDocumentId, docStatus := .active, indexedAt := now, updatedAt := now }
        else none) := by
    unfold findDocument IndexDb.added replaceFts deleteFts insertFts insertDocument
    rw [List.find?_append]
    congr 1
    by_cases same : entry.jobId = jobId <;> simp [same]
  unfold IndexDb.view
  rw [looked]
  by_cases same : jobId = entry.jobId
  · subst same
    rw [if_pos rfl, absent]
    unfold IndexDb.added
    simp only [Option.none_or, if_true, Option.map_some, textsOf_replaceFts]
  · rw [if_neg same, if_neg (Ne.symm same), Option.or_none]
    cases found : db.findDocument jobId with
    | none => rfl
    | some row =>
      have older := Nat.ne_of_lt (formed.fresh row (findDocument_spec found).1)
      unfold IndexDb.added
      simp only [Option.map_some, textsOf_replaceFts, if_neg older]
      rfl

/-- A document and its index row deleted. -/
def dropped (db : IndexDb) (id : Nat) : IndexDb := (db.deleteFts id).deleteDocument id

theorem textsOf_dropped (db : IndexDb) {id other : Nat} (apart : other ≠ id) :
    (db.dropped id).textsOf other = db.textsOf other := by
  unfold textsOf dropped deleteFts deleteDocument
  simp only [List.filter_filter]
  congr 1
  apply List.filter_congr
  intro row _
  by_cases hit : row.rowid = other
  · simp [hit, apart]
  · simp [hit]

theorem WellFormed.dropped {db : IndexDb} (formed : db.WellFormed) (id : Nat) :
    (db.dropped id).WellFormed where
  jobs := formed.jobs.sublist (List.filter_sublist.map _)
  ids := formed.ids.sublist (List.filter_sublist.map _)
  fresh := fun row mem => formed.fresh row (List.mem_filter.1 mem).1
  named := fun row mem => formed.named row (List.mem_filter.1 mem).1
  paired := by
    intro row mem searchable
    obtain ⟨memOld, apart⟩ := List.mem_filter.1 mem
    rw [textsOf_dropped db (by simpa using apart)]
    exact formed.paired row memOld searchable
  owned := by
    intro fts memFts
    obtain ⟨memOld, apart⟩ := List.mem_filter.1 memFts
    obtain ⟨row, mem, rowId, searchable⟩ := formed.owned fts memOld
    refine ⟨row, List.mem_filter.2 ⟨mem, ?_⟩, rowId, searchable⟩
    rw [rowId]
    exact apart
  stored := fun row mem => formed.stored row (List.mem_filter.1 mem).1
  indexed := fun fts mem => formed.indexed fts (List.mem_filter.1 mem).1

theorem WellFormed.view_dropped {db : IndexDb} (formed : db.WellFormed) {row : ReportRow}
    (mem : row ∈ db.documents) (jobId : Text) :
    (db.dropped row.id).view jobId = if jobId = row.jobId then none else db.view jobId := by
  by_cases same : jobId = row.jobId
  · rw [if_pos same, view_none, findDocument_none]
    intro other memOther
    obtain ⟨memOld, apart⟩ := List.mem_filter.1 memOther
    intro otherJob
    exact absurd ((formed.id_eq_iff memOld mem).2 (otherJob.trans same)) (by simpa using apart)
  · rw [if_neg same]
    cases found : db.findDocument jobId with
    | none =>
      rw [view_none.2 found, view_none, findDocument_none]
      intro other memOther
      exact findDocument_none.1 found other (List.mem_filter.1 memOther).1
    | some other =>
      obtain ⟨memOther, otherJob⟩ := findDocument_spec found
      have apart : other.id ≠ row.id := by
        intro sameId
        exact same (otherJob.symm.trans ((formed.id_eq_iff memOther mem).1 sameId))
      have kept : other ∈ (db.dropped row.id).documents :=
        List.mem_filter.2 ⟨memOther, by simpa using apart⟩
      rw [← otherJob, (formed.dropped row.id).view_of_mem kept, formed.view_of_mem memOther,
        textsOf_dropped db apart]

end IndexDb

/-! ## The repository functions -/

theorem bindTexts_bind_run {α : Type} (texts : List Text) (next : Unit → IndexScript α)
    (db : IndexDb) :
    (bindTexts texts >>= next).run db =
      if ∀ t ∈ texts, Encodable t then (next ()).run db else (.error .unicodeEncodeError, db) := by
  unfold bindTexts
  split <;> rfl

theorem selectDocument_run (jobId : Text) (db : IndexDb) :
    (selectDocument jobId).run db =
      if Encodable jobId then (.ok (db.findDocument jobId), db)
      else (.error .unicodeEncodeError, db) := by
  unfold selectDocument
  rw [bindTexts_bind_run]
  by_cases encodable : Encodable jobId
  · rw [if_pos encodable, if_pos (by simpa using encodable)]
    rfl
  · rw [if_neg encodable, if_neg (by simpa using encodable)]

theorem selectDocument_bind_run {α : Type} {jobId : Text} (encodable : Encodable jobId)
    (next : Option ReportRow → IndexScript α) (db : IndexDb) :
    (selectDocument jobId >>= next).run db = (next (db.findDocument jobId)).run db := by
  apply Script.bind_of_ok
  rw [selectDocument_run, if_pos encodable]

theorem selectDocument_bind_raises {α : Type} {jobId : Text} (unencodable : ¬ Encodable jobId)
    (next : Option ReportRow → IndexScript α) (db : IndexDb) :
    (selectDocument jobId >>= next).run db = (.error .unicodeEncodeError, db) := by
  apply Script.bind_of_error
  rw [selectDocument_run, if_neg unencodable]

namespace IndexDb

/-- The id a document has, or will get. -/
def documentId (db : IndexDb) (jobId : Text) : Nat :=
  match db.findDocument jobId with
  | none => db.nextDocumentId
  | some row => row.id

/-- The database after an upsert. -/
def upserted (db : IndexDb) (entry : EntryColumns) (texts : FtsTexts) (now : Time) : IndexDb :=
  match db.findDocument entry.jobId with
  | none => db.added entry texts now
  | some row => (db.updateDocument row.id entry now).replaceFts row.id texts

end IndexDb

/-- The row an update leaves. -/
def updatedRow (entry : EntryColumns) (now : Time) (row : ReportRow) : ReportRow :=
  { entry with
    id := row.id
    jobId := row.jobId
    analysisId := row.analysisId
    docStatus := .active
    indexedAt := now
    updatedAt := now }

theorem updatedRow_keeps (entry : EntryColumns) (now : Time) :
    IndexDb.KeepsKeys (updatedRow entry now) :=
  ⟨fun _ => rfl, fun _ => rfl, fun _ named => named⟩

theorem updatedRow_columns {entry : EntryColumns} {now : Time} {row : ReportRow}
    (rowNamed : row.analysisId = row.jobId) (rowJob : row.jobId = entry.jobId)
    (named : entry.analysisId = entry.jobId) :
    (updatedRow entry now row).toEntryColumns = entry := by
  have rowAnalysis : row.analysisId = entry.analysisId :=
    rowNamed.trans (rowJob.trans named.symm)
  unfold updatedRow
  simp only [rowJob, rowAnalysis]

namespace IndexDb

theorem WellFormed.upserted {db : IndexDb} (formed : db.WellFormed) {entry : EntryColumns}
    (named : entry.analysisId = entry.jobId) {texts : FtsTexts}
    (bound : ∀ t ∈ entryTexts entry ++ ftsTexts texts, Encodable t) (now : Time) :
    (db.upserted entry texts now).WellFormed := by
  unfold IndexDb.upserted
  split
  next absent => exact formed.added absent named bound now
  next row found =>
    have mem := (findDocument_spec found).1
    obtain ⟨columns, indexed⟩ := List.forall_mem_append.1 bound
    refine formed.rewrite mem (updatedRow_keeps entry now) (.inl ⟨rfl, texts, rfl⟩) ?_
      (by simpa using indexed)
    rw [updatedRow_columns (formed.named row mem) (findDocument_spec found).2 named]
    exact columns

theorem WellFormed.view_upserted {db : IndexDb} (formed : db.WellFormed) {entry : EntryColumns}
    (named : entry.analysisId = entry.jobId) (texts : FtsTexts) (now : Time) (jobId : Text) :
    (db.upserted entry texts now).view jobId =
      if jobId = entry.jobId then some ⟨entry, .active, [texts]⟩ else db.view jobId := by
  unfold IndexDb.upserted
  split
  next absent => exact formed.view_added absent texts now jobId
  next row found =>
    obtain ⟨mem, rowJob⟩ := findDocument_spec found
    have sameColumns := @updatedRow_columns entry now row (formed.named row mem) rowJob named
    have seen := formed.view_rewrite mem (updatedRow_keeps entry now) [texts] jobId
    rw [rowJob, sameColumns] at seen
    exact seen

/-- An upsert touches neither the issues nor the rebuild state. -/
theorem upserted_issues (db : IndexDb) (entry : EntryColumns) (texts : FtsTexts) (now : Time) :
    (db.upserted entry texts now).issues = db.issues ∧
      (db.upserted entry texts now).status = db.status := by
  unfold IndexDb.upserted
  split <;> exact ⟨rfl, rfl⟩

theorem upserted_nextIssueId (db : IndexDb) (entry : EntryColumns) (texts : FtsTexts)
    (now : Time) : (db.upserted entry texts now).nextIssueId = db.nextIssueId := by
  unfold IndexDb.upserted
  split <;> rfl

end IndexDb

theorem storeDocument_run {db : IndexDb} (formed : db.WellFormed) {entry : EntryColumns}
    (named : entry.analysisId = entry.jobId) (now : Time) :
    (storeDocument (db.findDocument entry.jobId) entry now).script.run db =
      if ∀ t ∈ entryTexts entry, Encodable t then
        (.ok (db.documentId entry.jobId),
          match db.findDocument entry.jobId with
          | none => db.insertDocument entry now
          | some row => db.updateDocument row.id entry now)
      else (.error .unicodeEncodeError, db) := by
  unfold storeDocument IndexDb.documentId
  cases found : db.findDocument entry.jobId with
  | none =>
    have others := IndexDb.findDocument_none.1 found
    have free : db.documents.any (fun row =>
        decide (row.jobId = entry.jobId) || decide (row.analysisId = entry.analysisId)) = false := by
      rw [List.any_eq_false]
      intro row mem
      simp [formed.named row mem, named, others row mem]
    simp only [Statements.script_execute_run, insertReport, bindTexts_bind_run,
      Script.read_bind_run, free]
    rfl
  | some row =>
    simp only [Statements.script_execute_bind, updateReport, Script.bind_assoc_run,
      bindTexts_bind_run, Script.write_bind_run]
    rfl

theorem EntryColumns.accepted_named {unicode : UnicodeData} {entry : EntryColumns}
    (checked : entry.accepted unicode = true) : entry.analysisId = entry.jobId := by
  unfold EntryColumns.accepted at checked
  simp only [Bool.and_eq_true, decide_eq_true_eq] at checked
  tauto

/-- The statements of an upsert bind every text of the entry and of its index row. -/
theorem upsertStatements_run {unicode : UnicodeData} {db : IndexDb}
    (formed : db.WellFormed) (entry : ReportIndexEntry unicode) (body : FtsBodyTexts)
    (now : Time) :
    if ∀ t ∈ entryTexts entry.toEntryColumns ++
        ftsTexts (ftsRowValues unicode entry.toEntryColumns body), Encodable t then
      (upsertStatements entry body now).script.run db =
        (.ok (db.documentId entry.jobId),
          db.upserted entry.toEntryColumns (ftsRowValues unicode entry.toEntryColumns body) now)
    else ∃ after, (upsertStatements entry body now).script.run db =
      (.error .unicodeEncodeError, after) := by
  have stored := storeDocument_run formed (EntryColumns.accepted_named entry.checked) now
  simp only [upsertStatements, Statements.script_execute_bind]
  by_cases bound : ∀ t ∈ entryTexts entry.toEntryColumns, Encodable t
  · have encodable : Encodable entry.jobId := bound entry.jobId (by simp [entryTexts])
    rw [if_pos bound] at stored
    rw [selectDocument_bind_run encodable, Statements.script_bind_run, Script.bind_of_ok stored]
    simp only [Statements.script_execute_bind, deleteFtsRow, Script.write_bind_run, insertFtsRow,
      Script.bind_assoc_run, bindTexts_bind_run]
    by_cases indexed : ∀ t ∈ ftsTexts (ftsRowValues unicode entry.toEntryColumns body), Encodable t
    · rw [if_pos (List.forall_mem_append.2 ⟨bound, indexed⟩), if_pos indexed]
      unfold IndexDb.upserted IndexDb.documentId
      cases db.findDocument entry.jobId <;> rfl
    · rw [if_neg fun all => indexed (List.forall_mem_append.1 all).2, if_neg indexed]
      exact ⟨_, rfl⟩
  · rw [if_neg fun all => bound (List.forall_mem_append.1 all).1]
    rw [if_neg bound] at stored
    by_cases encodable : Encodable entry.jobId
    · rw [selectDocument_bind_run encodable, Statements.script_bind_run,
        Script.bind_of_error stored]
      exact ⟨_, rfl⟩
    · rw [selectDocument_bind_raises encodable]
      exact ⟨_, rfl⟩

/-- An upsert returns when all it binds can be encoded; otherwise nothing changes. -/
theorem upsertReportDocument_run {unicode : UnicodeData} {db : IndexDb}
    (formed : db.WellFormed) (entry : ReportIndexEntry unicode) (body : FtsBodyTexts)
    (now : Time) :
    (upsertReportDocument entry body now).run db =
      if ∀ t ∈ entryTexts entry.toEntryColumns ++
          ftsTexts (ftsRowValues unicode entry.toEntryColumns body), Encodable t then
        (.ok (db.documentId entry.jobId),
          db.upserted entry.toEntryColumns (ftsRowValues unicode entry.toEntryColumns body) now)
      else (.error .unicodeEncodeError, db) := by
  have ran := upsertStatements_run formed entry body now
  unfold upsertReportDocument
  split at ran
  next all => rw [if_pos all, Script.savepoint_returned.2 ran]
  next unbound =>
    obtain ⟨after, raised⟩ := ran
    rw [if_neg unbound, Script.savepoint_raised raised]

/-! ## Status changes -/

/-- The row a status change leaves. -/
def restatedRow (docStatus : DocStatus) (now : Time) (row : ReportRow) : ReportRow :=
  { row with docStatus, updatedAt := now }

theorem restatedRow_keeps (docStatus : DocStatus) (now : Time) :
    IndexDb.KeepsKeys (restatedRow docStatus now) :=
  ⟨fun _ => rfl, fun _ => rfl, fun _ named => named⟩

/-- A document that left history and search. -/
def DocView.missing (seen : DocView) : DocView := { seen with docStatus := .missing, texts := [] }

/-- Only an active document becomes stale. -/
def DocView.stale (seen : DocView) : DocView :=
  if seen.docStatus = .active then { seen with docStatus := .stale } else seen

namespace IndexDb

def markedMissing (db : IndexDb) (jobId : Text) (now : Time) : IndexDb :=
  match db.findDocument jobId with
  | none => db
  | some row =>
    if row.docStatus = .missing then db else db.rewrite row.id (restatedRow .missing now) []

def purged (db : IndexDb) (jobId : Text) : IndexDb :=
  match db.findDocument jobId with
  | none => db
  | some row => db.dropped row.id

def markedStale (db : IndexDb) (jobId : Text) (now : Time) : IndexDb :=
  match db.findDocument jobId with
  | none => db
  | some row => if row.docStatus ≠ .active then db else db.setStatus row.id .stale now

theorem WellFormed.markedMissing {db : IndexDb} (formed : db.WellFormed) (jobId : Text)
    (now : Time) : (db.markedMissing jobId now).WellFormed := by
  unfold IndexDb.markedMissing
  split
  next => exact formed
  next row found =>
    split
    next => exact formed
    next =>
      have mem := (findDocument_spec found).1
      exact formed.rewrite mem (restatedRow_keeps .missing now) (.inr ⟨rfl, rfl⟩)
        (formed.stored row mem) (fun one memOne => by cases memOne)

theorem WellFormed.view_markedMissing {db : IndexDb} (formed : db.WellFormed) (jobId : Text)
    (now : Time) (other : Text) :
    (db.markedMissing jobId now).view other =
      if other = jobId then (db.view jobId).map DocView.missing else db.view other := by
  unfold IndexDb.markedMissing
  split
  next absent =>
    split
    next same => rw [same, view_none.2 absent, Option.map_none]
    next => rfl
  next row found =>
    obtain ⟨mem, rfl⟩ := findDocument_spec found
    have seen := formed.view_of_mem mem
    split
    next gone =>
      have texts := formed.texts_nil mem (by simp [ReportRow.searchable, gone])
      split
      next same =>
        rw [same, seen, texts, gone]
        rfl
      next => rfl
    next =>
      rw [formed.view_rewrite mem (restatedRow_keeps .missing now) [] other, seen]
      rfl

theorem WellFormed.purged {db : IndexDb} (formed : db.WellFormed) (jobId : Text) :
    (db.purged jobId).WellFormed := by
  unfold IndexDb.purged
  split
  next => exact formed
  next row _ => exact formed.dropped row.id

theorem WellFormed.view_purged {db : IndexDb} (formed : db.WellFormed) (jobId other : Text) :
    (db.purged jobId).view other = if other = jobId then none else db.view other := by
  unfold IndexDb.purged
  split
  next absent =>
    split
    next same => rw [same, view_none.2 absent]
    next => rfl
  next row found =>
    obtain ⟨mem, rfl⟩ := findDocument_spec found
    exact formed.view_dropped mem other

theorem textsOf_setStatus (db : IndexDb) (id : Nat) (docStatus : DocStatus) (now : Time)
    (other : Nat) : (db.setStatus id docStatus now).textsOf other = db.textsOf other := rfl

/-- A status change keeps the index rows, so it must not hide a document. -/
theorem WellFormed.setStatus {db : IndexDb} (formed : db.WellFormed) {row : ReportRow}
    (mem : row ∈ db.documents) (docStatus : DocStatus) (now : Time)
    (same : (restatedRow docStatus now row).searchable = true ∧ row.searchable = true) :
    (db.setStatus row.id docStatus now).WellFormed ∧
      ∀ jobId, (db.setStatus row.id docStatus now).view jobId =
        if jobId = row.jobId then some ⟨row.toEntryColumns, docStatus, db.textsOf row.id⟩
        else db.view jobId := by
  obtain ⟨texts, one⟩ := formed.paired row mem same.2
  have keeps := restatedRow_keeps docStatus now
  have seen := fun jobId => formed.view_rewrite mem keeps [texts] jobId
  have indexed : ∀ t ∈ ftsTexts texts, Encodable t := by
    have member : texts ∈ db.textsOf row.id := by simp [one]
    obtain ⟨fts, memFts, rfl⟩ := List.mem_map.1 member
    exact formed.indexed fts (List.mem_filter.1 memFts).1
  have rewritten := formed.rewrite mem keeps (.inl ⟨same.1, texts, rfl⟩) (formed.stored row mem)
    (by simpa using indexed)
  have documents : (db.setStatus row.id docStatus now).documents =
      (db.rewrite row.id (restatedRow docStatus now) [texts]).documents := rfl
  have sameTexts : ∀ id, (db.setStatus row.id docStatus now).textsOf id =
      (db.rewrite row.id (restatedRow docStatus now) [texts]).textsOf id := by
    intro id
    rw [textsOf_setStatus, textsOf_rewrite]
    split
    next hit => rw [hit, one]
    next => rfl
  constructor
  · refine ⟨rewritten.jobs, rewritten.ids, rewritten.fresh, rewritten.named, ?_, ?_,
      rewritten.stored, formed.indexed⟩
    · intro other memOther searchable
      rw [sameTexts]
      exact rewritten.paired other memOther searchable
    · intro fts memFts
      obtain ⟨owner, memOwner, ownerId, searchable⟩ := formed.owned fts memFts
      refine ⟨_, List.mem_map.2 ⟨owner, memOwner, rfl⟩, ?_, ?_⟩
      · rw [← ownerId]
        split <;> rfl
      · split
        next hit =>
          rw [formed.row_of_id memOwner mem hit]
          exact same.1
        next => exact searchable
  · intro jobId
    refine Eq.trans ?_ ((seen jobId).trans ?_)
    · unfold IndexDb.view findDocument
      simp only [documents, sameTexts]
    · rw [one]
      rfl

theorem WellFormed.markedStale {db : IndexDb} (formed : db.WellFormed) (jobId : Text)
    (now : Time) :
    (db.markedStale jobId now).WellFormed ∧
      ∀ other, (db.markedStale jobId now).view other =
        if other = jobId then (db.view jobId).map DocView.stale else db.view other := by
  unfold IndexDb.markedStale
  split
  next absent =>
    refine ⟨formed, fun other => ?_⟩
    split
    next same => rw [same, view_none.2 absent, Option.map_none]
    next => rfl
  next row found =>
    obtain ⟨mem, rfl⟩ := findDocument_spec found
    have seen := formed.view_of_mem mem
    split
    next inactive =>
      refine ⟨formed, fun other => ?_⟩
      split
      next same =>
        rw [same, seen, Option.map_some, DocView.stale, if_neg inactive]
      next => rfl
    next active =>
      have now_active : row.docStatus = .active := by simpa using active
      have marked := formed.setStatus mem .stale now
        ⟨by rfl, by simp [ReportRow.searchable, now_active]⟩
      refine ⟨marked.1, fun other => ?_⟩
      rw [marked.2 other, seen, Option.map_some, DocView.stale, if_pos now_active]

end IndexDb

theorem markReportMissing_run (jobId : Text) (now : Time) (db : IndexDb) :
    ∃ changed, (markReportMissing jobId now).run db =
      if Encodable jobId then (.ok changed, db.markedMissing jobId now)
      else (.error .unicodeEncodeError, db) := by
  unfold markReportMissing markMissingStatements
  rw [Statements.script_execute_bind]
  by_cases encodable : Encodable jobId
  · simp only [if_pos encodable, Script.savepoint_returned, selectDocument_bind_run encodable]
    unfold IndexDb.markedMissing
    cases db.findDocument jobId with
    | none => exact ⟨false, rfl⟩
    | some row =>
      by_cases gone : row.docStatus = .missing
      · exact ⟨false, by simp only [if_pos gone, Statements.script_pure, Script.pure_run]⟩
      · refine ⟨true, ?_⟩
        simp only [if_neg gone, Statements.script_execute_bind, updateStatus, deleteFtsRow,
          Script.write_bind_run, Statements.script_pure, Script.pure_run]
        simp [IndexDb.setStatus, IndexDb.deleteFts, IndexDb.rewrite, restatedRow]
  · refine ⟨false, ?_⟩
    rw [if_neg encodable]
    apply Script.savepoint_raised
    rw [selectDocument_bind_raises encodable]

theorem purgeReportDocument_run (jobId : Text) (db : IndexDb) :
    ∃ changed, (purgeReportDocument jobId).run db =
      if Encodable jobId then (.ok changed, db.purged jobId)
      else (.error .unicodeEncodeError, db) := by
  unfold purgeReportDocument purgeStatements
  rw [Statements.script_execute_bind]
  by_cases encodable : Encodable jobId
  · simp only [if_pos encodable, Script.savepoint_returned, selectDocument_bind_run encodable]
    unfold IndexDb.purged
    cases db.findDocument jobId with
    | none => exact ⟨false, rfl⟩
    | some row => exact ⟨true, rfl⟩
  · refine ⟨false, ?_⟩
    rw [if_neg encodable]
    apply Script.savepoint_raised
    rw [selectDocument_bind_raises encodable]

theorem markReportStale_run (jobId : Text) (now : Time) (db : IndexDb) :
    ∃ changed, (markReportStale jobId now).run db =
      if Encodable jobId then (.ok changed, db.markedStale jobId now)
      else (.error .unicodeEncodeError, db) := by
  unfold markReportStale markStaleStatements
  rw [Statements.script_execute_bind]
  by_cases encodable : Encodable jobId
  · simp only [if_pos encodable, selectDocument_bind_run encodable]
    unfold IndexDb.markedStale
    cases db.findDocument jobId with
    | none => exact ⟨false, rfl⟩
    | some row =>
      by_cases inactive : row.docStatus ≠ .active
      · exact ⟨false, by simp only [if_pos inactive, Statements.script_pure, Script.pure_run]⟩
      · refine ⟨true, ?_⟩
        simp only [if_neg inactive, Statements.script_execute_bind, updateStatus,
          Script.write_bind_run, Statements.script_pure, Script.pure_run]
  · refine ⟨false, ?_⟩
    rw [if_neg encodable]
    exact selectDocument_bind_raises encodable _ db

end EvoBlue.Source
