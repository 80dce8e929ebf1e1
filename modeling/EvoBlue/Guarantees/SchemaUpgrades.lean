import EvoBlue.Source.Migrations
import Mathlib.Tactic.IntervalCases

/-!
# Schema upgrades

A database of any version of the chain is brought to the newest schema with its rows
in place, or is left as it was.
-/

namespace EvoBlue.Guarantees

open EvoBlue.Kernel EvoBlue.Kernel.Relational EvoBlue.Source EvoBlue.Source.Ddl

/-- The schema of a database that has run the chain up to a version. -/
def schemaAt : Nat → SqlSchema
  | 0 => ⟨[(.schemaMigrations, Ddl.schemaMigrations)], []⟩
  | v + 1 =>
    match reshapeAll (applyVersion (v + 1) (schemaAt v)) (schemaAt v) with
    | .ok schema => schema
    | .error _ => schemaAt v

/-- A database at version `v`: any rows its constraints admit. -/
structure Historical (v : Nat) (db : SqlDb) : Prop where
  consistent : Consistent db
  schema : db.schema = schemaAt v
  recorded : appliedVersion db = v

theorem reshape_fits (v : Nat) (below : v < 10) :
    reshapeAll (applyVersion (v + 1) (schemaAt v)) (schemaAt v) = .ok (schemaAt (v + 1)) := by
  interval_cases v <;> rfl

/-! ## What each version asks of the rows -/

/-- The ids a version 3 upgrade puts under a unique index. -/
def jobIds (db : SqlDb) : List (Option SqlValue) := (db.rows .jobs).map fun row => row .jobId

/-- A row as `_JOBS_V3_REBUILD` copies it. -/
def copyJob (schema : SqlSchema) (row : SqlRow) : SqlRow :=
  schema.newRow .jobsNew (jobsV3Copy.map fun pair => (pair.1, row pair.2))

theorem copyJob_accepted {row : SqlRow} (admitted : jobsV1.admits row) (schema : SqlSchema) :
    jobsV3.accepts (copyJob schema row) = true := by
  -- every required column is copied from a required one
  have sources : ∀ column ∈ jobsV3.columns, column.notNull = true →
      ∃ source ∈ jobsV1.columns, source.notNull = true ∧
        Dict.get column.name jobsV3Copy = some source.name := by decide
  unfold Table.accepts
  rw [Bool.and_eq_true, List.all_eq_true]
  refine ⟨fun column mem => ?_, rfl⟩
  cases needed : column.notNull with
  | false => rfl
  | true =>
    obtain ⟨source, declared, notNull, listed⟩ := sources column mem needed
    unfold copyJob
    rw [newRow_copied schema .jobsNew listed, admitted.2.1 source declared notNull]
    rfl

theorem uniqueOn_copied {column : SqlColumn} (listed : Dict.get column jobsV3Copy = some column)
    (schema : SqlSchema) (rows : List SqlRow) :
    uniqueOn [column] (rows.map (copyJob schema)) = uniqueOn [column] rows := by
  have sameKey : ∀ row : SqlRow, keyOf [column] (copyJob schema row) = keyOf [column] row := by
    intro row
    unfold keyOf copyJob
    rw [List.mapM_cons, List.mapM_cons, newRow_copied schema .jobsNew listed]
    rfl
  unfold uniqueOn
  rw [List.filterMap_map]
  simp only [Function.comp_def, sameKey]

theorem copied_kept {rows : List SqlRow} (admitted : ∀ row ∈ rows, jobsV1.admits row)
    (ids : uniqueOn [.id] rows = true) (jobIds : uniqueOn [.jobId] rows = true)
    (schema after : SqlSchema) {name : SqlName}
    (keys : ∀ key ∈ after.uniqueKeys name jobsV3, key.2 = .all ∧
      (key.1 = [.id] ∨ key.1 = [.jobId])) :
    ((rows.map (copyJob schema)).all jobsV3.accepts &&
      after.keysDistinct name jobsV3 (rows.map (copyJob schema))) = true := by
  rw [Bool.and_eq_true, List.all_eq_true, keysDistinct_iff]
  constructor
  · intro row mem
    obtain ⟨original, listed, rfl⟩ := List.mem_map.1 mem
    exact copyJob_accepted (admitted original listed) schema
  · intro key mem
    obtain ⟨whole, columns⟩ := keys key mem
    rw [whole, filter_all]
    cases columns with
    | inl id => rw [id, uniqueOn_copied rfl, ids]
    | inr jobId => rw [jobId, uniqueOn_copied rfl, jobIds]

theorem v3_keeps {db : SqlDb} (historical : Historical 2 db)
    (distinct : uniqueOn [.jobId] (db.rows .jobs) = true) :
    keepsAll applyV3 (schemaAt 2) db.rows = true := by
  have before := historical.consistent.stored .jobs jobsV1 (by rw [historical.schema]; rfl)
  have ids := before.distinct ([.id], .all) (by rw [historical.schema]; decide)
  rw [filter_all] at ids
  have kept := fun schema after name keys =>
    @copied_kept (db.rows .jobs) before.admitted ids distinct schema after name keys
  unfold applyV3
  refine keepsAll_cons rfl (keepsAll_cons (keeps_createIndex_empty _ _ _ rfl) ?_)
  refine keepsAll_cons rfl (keepsAll_cons (kept _ _ .jobsNew (by decide)) ?_)
  refine keepsAll_cons rfl (keepsAll_cons rfl ?_)
  refine keepsAll_cons (kept _ _ .jobs (by decide)) ?_
  refine keepsAll_cons (kept _ _ .jobs (by decide)) ?_
  exact keepsAll_cons (kept _ _ .jobs (by decide)) rfl

/-- The row version 8 writes. -/
def idleStatus : SqlRow := fun column =>
  match column with
  | .id => some (.integer 1)
  | .state => some (literal "idle")
  | .scanned | .indexed | .unchanged | .quarantined | .duplicates | .removed | .purged =>
    some (.integer 0)
  | _ => none

theorem v8_keeps (rows : SqlName → List SqlRow) :
    keepsAll applyV8 (schemaAt 7) rows = true := by
  unfold applyV8
  refine keepsAll_cons rfl (keepsAll_cons (keeps_createIndex_empty _ _ _ rfl) ?_)
  refine keepsAll_cons (keeps_createIndex_empty _ _ _ rfl) ?_
  refine keepsAll_cons (keeps_createIndex_empty _ _ _ rfl) ?_
  refine keepsAll_cons rfl (keepsAll_cons rfl ?_)
  refine keepsAll_cons (keeps_createIndex_empty _ _ _ rfl) ?_
  refine keepsAll_cons (keeps_createIndex_empty _ _ _ rfl) ?_
  exact keepsAll_cons rfl (keepsAll_cons rfl rfl)

theorem v6_keeps (rows : SqlName → List SqlRow) :
    keepsAll applyV6 (schemaAt 5) rows = true := by
  unfold applyV6
  refine keepsAll_cons rfl (keepsAll_cons rfl (keepsAll_cons rfl (keepsAll_cons rfl ?_)))
  exact keepsAll_cons (keeps_createIndex_empty _ _ _ rfl) rfl

/-- `app_settings` of version 9. -/
def appSettingsV9 : SqlTable :=
  { appSettingsV2 with
    columns := appSettingsV2.columns ++ [optional .llmBaseUrl "VARCHAR",
      optional .llmCredentialRef "VARCHAR(128)", optional .asrProvider "VARCHAR(64)",
      optional .whisperCppExecutable "VARCHAR"] }

/-- A settings row after version 10: the credential is bound to the stored address. -/
def bindOrigin (row : SqlRow) : SqlRow :=
  let widened := Function.update row .llmCredentialOrigin none
  if [SqlColumn.llmCredentialRef, .llmBaseUrl].all fun name => (widened name).isSome then
    Function.update widened .llmCredentialOrigin (widened .llmBaseUrl)
  else widened

theorem bindOrigin_other (row : SqlRow) {column : SqlColumn}
    (other : column ≠ .llmCredentialOrigin) : bindOrigin row column = row column := by
  unfold bindOrigin
  split
  · rw [Function.update_of_ne other, Function.update_of_ne other]
  · rw [Function.update_of_ne other]

/-- The two statements of version 10 on one row. -/
theorem bindOrigin_rows (rows : List SqlRow) :
    (rows.map fun row => Function.update row SqlColumn.llmCredentialOrigin none).map
      (fun row => if [SqlColumn.llmCredentialRef, .llmBaseUrl].all fun name => (row name).isSome then
        Function.update row .llmCredentialOrigin (row .llmBaseUrl) else row) =
      rows.map bindOrigin := by
  rw [List.map_map]
  rfl

/-- `app_settings` of version 10. -/
def appSettingsV10 : SqlTable :=
  { appSettingsV9 with
    columns := appSettingsV9.columns ++ [optional .llmCredentialOrigin "VARCHAR(512)"] }

theorem bound_kept {rows : List SqlRow} (admitted : ∀ row ∈ rows, appSettingsV9.admits row)
    (ids : uniqueOn [.id] rows = true) (after : SqlSchema)
    (keys : ∀ key ∈ after.uniqueKeys .appSettings appSettingsV10, key = ([.id], .all)) :
    ((rows.map bindOrigin).all appSettingsV10.accepts &&
      after.keysDistinct .appSettings appSettingsV10 (rows.map bindOrigin)) = true := by
  have required : ∀ column ∈ appSettingsV10.columns, column.notNull = true →
      column ∈ appSettingsV9.columns ∧ column.name ≠ .llmCredentialOrigin := by decide
  rw [Bool.and_eq_true, List.all_eq_true, keysDistinct_iff]
  constructor
  · intro row mem
    obtain ⟨original, listed, rfl⟩ := List.mem_map.1 mem
    unfold Table.accepts
    rw [Bool.and_eq_true, List.all_eq_true]
    refine ⟨fun column declared => ?_, rfl⟩
    cases needed : column.notNull with
    | false => rfl
    | true =>
      obtain ⟨old, other⟩ := required column declared needed
      rw [bindOrigin_other original other, (admitted original listed).2.1 column old needed]
      rfl
  · intro key mem
    rw [keys key mem, filter_all]
    have sameKey : ∀ row : SqlRow,
        keyOf [SqlColumn.id] (bindOrigin row) = keyOf [SqlColumn.id] row := by
      intro row
      unfold keyOf
      rw [List.mapM_cons, List.mapM_cons, bindOrigin_other row (by decide)]
      rfl
    unfold uniqueOn at ids ⊢
    rw [List.filterMap_map]
    simpa only [Function.comp_def, sameKey] using ids

theorem v10_keeps {db : SqlDb} (historical : Historical 9 db) :
    keepsAll applyV10 (schemaAt 9) db.rows = true := by
  have before := historical.consistent.stored .appSettings appSettingsV9
    (by rw [historical.schema]; rfl)
  have ids := before.distinct ([.id], .all) (by rw [historical.schema]; decide)
  rw [filter_all] at ids
  have kept := fun after keys => bound_kept before.admitted ids after keys
  rw [← bindOrigin_rows] at kept
  exact keepsAll_cons rfl (keepsAll_cons (kept _ (by decide)) rfl)

/-- Each version's statements keep every constraint; version 3 needs the job ids to
be distinct. -/
theorem version_keeps {v : Nat} (below : v < 10) {db : SqlDb} (historical : Historical v db)
    (distinct : v = 2 → uniqueOn [.jobId] (db.rows .jobs) = true) :
    keepsAll (applyVersion (v + 1) (schemaAt v)) (schemaAt v) db.rows = true := by
  interval_cases v
  · exact keepsAll_unchecked rfl _ db.rows
  · exact keepsAll_unchecked rfl _ db.rows
  · exact v3_keeps historical (distinct rfl)
  · exact keepsAll_unchecked rfl _ db.rows
  · exact keepsAll_unchecked rfl _ db.rows
  · exact v6_keeps db.rows
  · exact keepsAll_unchecked rfl _ db.rows
  · exact v8_keeps db.rows
  · exact keepsAll_unchecked rfl _ db.rows
  · exact v10_keeps historical

/-! ## The version row -/

/-- The row `init_db` records a version with. -/
def versionRow (now : ℚ) (v : Nat) : SqlRow := fun column =>
  match column with
  | .version => some (.integer v)
  | .appliedAt => some (.real now)
  | _ => none

theorem migrations_table {v : Nat} (below : v ≤ 10) :
    Dict.get .schemaMigrations (schemaAt v).tables = some Ddl.schemaMigrations ∧
      (schemaAt v).uniqueKeys .schemaMigrations Ddl.schemaMigrations = [([.version], .all)] := by
  interval_cases v <;> exact ⟨rfl, rfl⟩

theorem recorded_row {v : Nat} (below : v ≤ 10) (now : ℚ) (w : Nat) :
    (schemaAt v).newRow .schemaMigrations [(.version, some (.integer w)),
      (.appliedAt, some (.real now))] = versionRow now w := by
  funext column
  unfold Schema.newRow
  rw [(migrations_table below).1]
  cases column <;> rfl

theorem versions_bounded {db : SqlDb} {v : Nat} (recorded : appliedVersion db = v) :
    ∀ w ∈ (db.rows .schemaMigrations).filterMap versionOf, w ≤ v := by
  intro w mem
  unfold appliedVersion at recorded
  cases found : ((db.rows .schemaMigrations).filterMap versionOf).max? with
  | none =>
    rw [List.max?_eq_none_iff] at found
    rw [found] at mem
    cases mem
  | some top =>
    rw [found] at recorded
    have bound := (List.max?_eq_some_iff.1 found).2 w mem
    simp only [Option.getD_some] at recorded
    omega

theorem record_runs {v : Nat} (below : v < 10) {db : SqlDb} (consistent : Consistent db)
    (schema : db.schema = schemaAt (v + 1)) (recorded : appliedVersion db = v) (now : ℚ) :
    exec (recordVersion now (v + 1)) db = .ok ⟨db.schema,
      Function.update db.rows .schemaMigrations
        (db.rows .schemaMigrations ++ [versionRow now (v + 1)])⟩ := by
  have table := migrations_table (v := v + 1) (by omega)
  have before := consistent.stored .schemaMigrations Ddl.schemaMigrations
    (by rw [schema]; exact table.1)
  have named : reshape (recordVersion now (v + 1)) (schemaAt (v + 1)) = .ok (schemaAt (v + 1)) := by
    simp only [reshape, recordVersion, table.1]
    rfl
  have refilled : refill (recordVersion now (v + 1)) (schemaAt (v + 1)) db.rows =
      Function.update db.rows .schemaMigrations
        (db.rows .schemaMigrations ++ [versionRow now (v + 1)]) := by
    simp only [refill, recordVersion]
    rw [recorded_row (by omega)]
  have keys := before.distinct ([.version], .all) (by rw [schema, table.2]; exact List.mem_singleton_self _)
  rw [filter_all] at keys
  unfold exec
  rw [schema, named]
  dsimp only
  rw [refilled, if_pos]
  simp only [keeps, recordVersion, table.1, Function.update_self]
  rw [Bool.and_eq_true, List.all_eq_true, keysDistinct_iff, table.2]
  constructor
  · intro row mem
    cases List.mem_append.1 mem with
    | inl old => exact accepts_of_admits (before.admitted row old)
    | inr new =>
      rw [List.mem_singleton] at new
      rw [new]
      rfl
  · intro key mem
    rw [List.mem_singleton] at mem
    rw [mem, filter_all]
    unfold uniqueOn at keys ⊢
    rw [decide_eq_true_eq] at keys ⊢
    rw [List.filterMap_append]
    refine List.Nodup.append keys (List.nodup_singleton _) ?_
    intro found old new
    obtain ⟨row, stored, same⟩ := List.mem_filterMap.1 old
    have newKey : found = [SqlValue.integer (v + 1)] := by
      simpa [keyOf, versionRow] using new
    have version : row .version = some (.integer (v + 1)) := by
      rw [newKey] at same
      cases held : row .version with
      | none => simp [keyOf, held] at same
      | some value => simpa [keyOf, held] using same
    have seen := versions_bounded recorded (v + 1)
      (List.mem_filterMap.2 ⟨row, stored, by simp [versionOf, version]⟩)
    omega

theorem record_advances {db : SqlDb} {v : Nat} (recorded : appliedVersion db = v) (now : ℚ)
    {rows : SqlName → List SqlRow} (appended : rows .schemaMigrations =
      db.rows .schemaMigrations ++ [versionRow now (v + 1)]) (schema : SqlSchema) :
    appliedVersion ⟨schema, rows⟩ = (v + 1 : Nat) := by
  have bounded := versions_bounded recorded
  have top : ((db.rows .schemaMigrations).filterMap versionOf ++ [((v + 1 : Nat) : Int)]).max? =
      some ((v + 1 : Nat) : Int) := by
    rw [List.max?_eq_some_iff]
    refine ⟨by simp, fun w mem => ?_⟩
    cases List.mem_append.1 mem with
    | inl old =>
      have below := bounded w old
      omega
    | inr new => simp_all
  unfold appliedVersion
  dsimp only
  rw [appended, List.filterMap_append]
  change ((db.rows .schemaMigrations).filterMap versionOf ++ [((v + 1 : Nat) : Int)]).max?.getD 0 = _
  rw [top]
  rfl

/-! ## What one version does to the rows -/

/-- Where version `v` of the chain keeps a column of the version before. -/
def renamedBy (v : Nat) (table : SqlName) (column : SqlColumn) : SqlColumn :=
  if v = 3 ∧ table = .jobs ∧ column = .idempotencyKey then .requestFingerprint else column

/-- The credential of a settings row belongs to the address stored with it, when it
has both. -/
def OriginBound (row : SqlRow) : Prop :=
  row .llmCredentialOrigin =
    if (row .llmCredentialRef).isSome = true ∧ (row .llmBaseUrl).isSome = true then
      row .llmBaseUrl
    else none

/-- A row of version `v` and what version `v + 1` makes of it. -/
structure StepRow (v : Nat) (table : SqlName) (row row' : SqlRow) : Prop where
  kept : ∀ column ∈ (schemaAt v).columnsOf table,
    renamedBy (v + 1) table column ∈ (schemaAt (v + 1)).columnsOf table ∧
      row' (renamedBy (v + 1) table column) = row column
  added : ∀ column ∈ (schemaAt (v + 1)).columnsOf table,
    column ∉ ((schemaAt v).columnsOf table).map (renamedBy (v + 1) table) →
      column ≠ .llmCredentialOrigin → row' column = none
  bound : v = 9 → table = .appSettings → OriginBound row'

/-- The tables a version keeps: all but the install state of version 5, and the
version table, which gains a row. -/
def Continues (table : SqlName) : Prop := table ≠ .modelInstallState ∧ table ≠ .schemaMigrations

instance (table : SqlName) : Decidable (Continues table) :=
  inferInstanceAs (Decidable (_ ∧ _))

def tablesAt (v : Nat) : List SqlName := Dict.keys (schemaAt v).tables

structure Step (v : Nat) (db after : SqlDb) : Prop where
  recorded : ∃ row, after.rows .schemaMigrations = db.rows .schemaMigrations ++ [row] ∧
    versionOf row = some ((v + 1 : Nat) : Int)
  carried : ∀ table ∈ tablesAt v, Continues table →
    List.Forall₂ (StepRow v table) (db.rows table) (after.rows table)
  created : ∀ table ∈ tablesAt (v + 1), table ∉ tablesAt v →
    after.rows table = if table = .indexStatus then [idleStatus] else []

/-- The tables whose rows a version rewrites. -/
def Altered (v : Nat) (table : SqlName) : Prop :=
  (v, table) ∈ [(2, SqlName.jobs), (3, .appSettings), (6, .jobs), (6, .appSettings), (8, .jobs),
    (9, .appSettings)]

instance (v : Nat) (table : SqlName) : Decidable (Altered v table) :=
  inferInstanceAs (Decidable (_ ∈ _))

theorem untouched {v : Nat} (below : v < 10) {table : SqlName} (there : table ∈ tablesAt v)
    (kept : Continues table) (plain : ¬Altered v table) :
    (∀ statement ∈ applyVersion (v + 1) (schemaAt v), table ∉ statement.writes) ∧
      (schemaAt (v + 1)).columnsOf table = (schemaAt v).columnsOf table ∧
        ¬(v + 1 = 3 ∧ table = .jobs) ∧ ¬(v = 9 ∧ table = .appSettings) := by
  revert table
  interval_cases v <;> decide

theorem forall₂_map {α : Type} {R : α → α → Prop} {f : α → α} {l : List α}
    (each : ∀ x ∈ l, R x (f x)) : List.Forall₂ R l (l.map f) :=
  List.forall₂_map_right_iff.2 (List.forall₂_same.2 each)

theorem stepRow_same {v : Nat} (below : v < 10) {table : SqlName} (there : table ∈ tablesAt v)
    (kept : Continues table) (plain : ¬Altered v table) (row : SqlRow) : StepRow v table row row := by
  obtain ⟨_, columns, notJobs, notSettings⟩ := untouched below there kept plain
  have named : ∀ column, renamedBy (v + 1) table column = column := fun column =>
    if_neg fun all => notJobs ⟨all.1, all.2.1⟩
  refine ⟨fun column mem => ?_, fun column mem fresh _ => ?_, fun last settings => ?_⟩
  · rw [named, columns]
    exact ⟨mem, rfl⟩
  · rw [columns] at mem
    exact absurd (List.mem_map.2 ⟨column, mem, named column⟩) fresh
  · exact absurd ⟨last, settings⟩ notSettings

/-- Columns that are added read `NULL`, and the others are what they were. -/
theorem stepRow_widened {v : Nat} {table : SqlName} {names : List SqlColumn}
    (shape : (∀ column ∈ (schemaAt v).columnsOf table, renamedBy (v + 1) table column = column ∧
        column ∉ names) ∧
      (schemaAt (v + 1)).columnsOf table = (schemaAt v).columnsOf table ++ names ∧ v ≠ 9)
    (row : SqlRow) :
    StepRow v table row fun column => if column ∈ names then none else row column := by
  obtain ⟨old, grown, notLast⟩ := shape
  refine ⟨fun column mem => ?_, fun column mem fresh _ => ?_, fun last _ => absurd last notLast⟩
  · rw [(old column mem).1, grown, if_neg (old column mem).2]
    exact ⟨List.mem_append_left _ mem, rfl⟩
  · rw [grown] at mem
    cases List.mem_append.1 mem with
    | inl before => exact absurd (List.mem_map.2 ⟨column, before, (old column before).1⟩) fresh
    | inr new => exact if_pos new

theorem stepRow_copied (schema : SqlSchema) (row : SqlRow) :
    StepRow 2 .jobs row (copyJob schema row) := by
  have listed : ∀ column ∈ (schemaAt 2).columnsOf .jobs,
      renamedBy 3 .jobs column ∈ (schemaAt 3).columnsOf .jobs ∧
        Dict.get (renamedBy 3 .jobs column) jobsV3Copy = some column := by decide
  have nothingNew : ∀ column ∈ (schemaAt 3).columnsOf .jobs,
      column ∈ ((schemaAt 2).columnsOf .jobs).map (renamedBy 3 .jobs) := by decide
  refine ⟨fun column mem => ⟨(listed column mem).1, ?_⟩, fun column mem fresh _ => ?_,
    fun last _ => by omega⟩
  · exact newRow_copied schema .jobsNew (listed column mem).2 row
  · exact absurd (nothingNew column mem) fresh

theorem bindOrigin_bound (row : SqlRow) : OriginBound (bindOrigin row) := by
  have present : ([SqlColumn.llmCredentialRef, .llmBaseUrl].all fun name =>
      ((Function.update row SqlColumn.llmCredentialOrigin none) name).isSome) = true ↔
      (row .llmCredentialRef).isSome = true ∧ (row .llmBaseUrl).isSome = true := by
    simp [Function.update_of_ne]
  have ref : bindOrigin row .llmCredentialRef = row .llmCredentialRef :=
    bindOrigin_other row (by decide)
  have address : bindOrigin row .llmBaseUrl = row .llmBaseUrl :=
    bindOrigin_other row (by decide)
  unfold OriginBound
  rw [ref, address]
  unfold bindOrigin
  by_cases both : (row .llmCredentialRef).isSome = true ∧ (row .llmBaseUrl).isSome = true
  · rw [if_pos both, if_pos (present.2 both), Function.update_self, Function.update_of_ne (by decide)]
  · rw [if_neg both, if_neg fun all => both (present.1 all), Function.update_self]

theorem stepRow_bound (row : SqlRow) : StepRow 9 .appSettings row (bindOrigin row) := by
  have columns : (schemaAt 10).columnsOf .appSettings =
      (schemaAt 9).columnsOf .appSettings ++ [.llmCredentialOrigin] := by decide
  have old : ∀ column ∈ (schemaAt 9).columnsOf .appSettings,
      renamedBy 10 .appSettings column = column ∧ column ≠ .llmCredentialOrigin := by decide
  refine ⟨fun column mem => ?_, fun column mem fresh other => ?_, fun _ _ => bindOrigin_bound row⟩
  · rw [(old column mem).1, columns, bindOrigin_other row (old column mem).2]
    exact ⟨List.mem_append_left _ mem, rfl⟩
  · rw [columns, List.mem_append, List.mem_singleton] at mem
    exact absurd (List.mem_map.2 ⟨column, mem.resolve_right other,
      (old column (mem.resolve_right other)).1⟩) fresh

/-- The rows of a rewritten table, version by version. -/
theorem rewritten_rows (rows : SqlName → List SqlRow) {v : Nat} {table : SqlName}
    (rewritten : Altered v table) :
    List.Forall₂ (StepRow v table) (rows table)
      (refillAll (applyVersion (v + 1) (schemaAt v)) (schemaAt v) rows table) := by
  have widened : ∀ {v : Nat} {table : SqlName} (names : List SqlColumn),
      ((∀ column ∈ (schemaAt v).columnsOf table, renamedBy (v + 1) table column = column ∧
        column ∉ names) ∧
      (schemaAt (v + 1)).columnsOf table = (schemaAt v).columnsOf table ++ names ∧ v ≠ 9) →
      List.Forall₂ (StepRow v table) (rows table)
        (names.foldl (fun rows name => rows.map fun row => Function.update row name none)
          (rows table)) := by
    intro v table names shape
    rw [map_nullColumns]
    exact forall₂_map fun row _ => stepRow_widened shape row
  simp only [Altered, List.mem_cons, Prod.mk.injEq, List.not_mem_nil, or_false] at rewritten
  obtain ⟨rfl, rfl⟩ | ⟨rfl, rfl⟩ | ⟨rfl, rfl⟩ | ⟨rfl, rfl⟩ | ⟨rfl, rfl⟩ | ⟨rfl, rfl⟩ := rewritten
  · exact forall₂_map fun row _ => stepRow_copied _ row
  · exact widened [.llmBaseUrl, .llmCredentialRef] (by decide)
  · exact widened [.asrProviderId, .asrModelId, .asrModelVersion, .asrRecommendationModelId]
      (by decide)
  · exact widened [.asrProvider, .whisperCppExecutable] (by decide)
  · exact widened [.title, .platform, .subtitleProbe] (by decide)
  · have bound : List.Forall₂ (StepRow 9 .appSettings) (rows .appSettings)
        ((rows .appSettings).map bindOrigin) := forall₂_map fun row _ => stepRow_bound row
    rw [← bindOrigin_rows] at bound
    exact bound

/-- Where each table of the chain begins. -/
def Begins (v : Nat) (table : SqlName) : Prop :=
  (v, table) ∈ [(0, SqlName.jobs), (1, .appSettings), (2, .jobArtifacts),
    (4, .modelInstallState), (5, .modelInstall), (5, .activeModel), (5, .modelDownload),
    (7, .reportDocuments), (7, .reportFts), (7, .indexIssues), (7, .indexStatus)]

instance (v : Nat) (table : SqlName) : Decidable (Begins v table) :=
  inferInstanceAs (Decidable (_ ∈ _))

theorem begins {v : Nat} (below : v < 10) {table : SqlName} (there : table ∈ tablesAt (v + 1))
    (new : table ∉ tablesAt v) : Begins v table := by
  revert table
  interval_cases v <;> decide

theorem idle_row : (schemaAt 8).newRow .indexStatus
    [(.id, some (.integer 1)), (.state, some (literal "idle"))] = idleStatus := by
  funext column
  cases column <;> rfl

theorem created_rows {v : Nat} {table : SqlName} (new : Begins v table)
    (rows : SqlName → List SqlRow) :
    refillAll (applyVersion (v + 1) (schemaAt v)) (schemaAt v) rows table =
      if table = .indexStatus then [idleStatus] else [] := by
  simp only [Begins, List.mem_cons, Prod.mk.injEq, List.not_mem_nil, or_false] at new
  obtain ⟨rfl, rfl⟩ | ⟨rfl, rfl⟩ | ⟨rfl, rfl⟩ | ⟨rfl, rfl⟩ | ⟨rfl, rfl⟩ | ⟨rfl, rfl⟩ | ⟨rfl, rfl⟩ |
    ⟨rfl, rfl⟩ | ⟨rfl, rfl⟩ | ⟨rfl, rfl⟩ | ⟨rfl, rfl⟩ := new
  · rfl
  · rfl
  · rfl
  · rfl
  · rfl
  · rfl
  · rfl
  · rfl
  · rfl
  · rfl
  · rw [← idle_row]
    rfl

theorem migrations_frame {v : Nat} (below : v < 10) (rows : SqlName → List SqlRow) :
    refillAll (applyVersion (v + 1) (schemaAt v)) (schemaAt v) rows .schemaMigrations =
      rows .schemaMigrations := by
  apply refillAll_frame
  interval_cases v <;> decide

/-- One version of the chain, applied and recorded. -/
theorem version_step {v : Nat} (below : v < 10) {db after : SqlDb} (now : ℚ)
    (historical : Historical v db)
    (ran : execAll (applyVersion (v + 1) db.schema ++ [recordVersion now (v + 1)]) db =
      .ok after) : Historical (v + 1) after ∧ Step v db after := by
  rw [execAll_append, historical.schema] at ran
  split at ran
  case h_2 => cases ran
  rename_i applied first
  obtain ⟨shape, _, rows⟩ := (execAll_ok_iff _ _ _).1 first
  rw [historical.schema] at shape rows
  have schema : applied.schema = schemaAt (v + 1) :=
    (Except.ok.inj ((reshape_fits v below).symm.trans shape)).symm
  have consistent := execAll_consistent historical.consistent first
  have migrations : applied.rows .schemaMigrations = db.rows .schemaMigrations := by
    rw [rows, migrations_frame below]
  have recorded : appliedVersion applied = v := by
    unfold appliedVersion
    rw [migrations]
    exact historical.recorded
  have second := record_runs below consistent schema recorded now
  simp only [execAll, second, Except.ok.injEq] at ran
  subst ran
  refine ⟨⟨exec_consistent consistent second, schema, ?_⟩, ⟨?_, ?_, ?_⟩⟩
  · exact record_advances recorded now (by rw [Function.update_self]) applied.schema
  · refine ⟨versionRow now (v + 1), ?_, rfl⟩
    dsimp only
    rw [Function.update_self, migrations]
  · intro table there kept
    dsimp only
    rw [Function.update_of_ne kept.2, rows]
    by_cases plain : Altered v table
    · exact rewritten_rows db.rows plain
    · rw [refillAll_frame (untouched below there kept plain).1]
      exact List.forall₂_same.2 fun row _ => stepRow_same below there kept plain row
  · intro table there new
    have first := begins below there new
    have other : table ≠ .schemaMigrations := by
      intro same
      subst same
      revert first
      unfold Begins
      simp
    dsimp only
    rw [Function.update_of_ne other, rows]
    exact created_rows first db.rows

theorem version_runs {v : Nat} (below : v < 10) {db : SqlDb} (now : ℚ)
    (historical : Historical v db)
    (distinct : v = 2 → uniqueOn [.jobId] (db.rows .jobs) = true) :
    ∃ after, execAll (applyVersion (v + 1) db.schema ++ [recordVersion now (v + 1)]) db =
      .ok after := by
  have shape := reshape_fits v below
  have keeps := version_keeps below historical distinct
  rw [← historical.schema] at keeps shape
  have first := execAll_of shape keeps
  have consistent := execAll_consistent historical.consistent first
  have recorded : appliedVersion ⟨schemaAt (v + 1),
      refillAll (applyVersion (v + 1) db.schema) db.schema db.rows⟩ = v := by
    unfold appliedVersion
    dsimp only
    rw [historical.schema, migrations_frame below]
    exact historical.recorded
  rw [execAll_append, first]
  simp only [execAll, record_runs below consistent rfl recorded now]
  exact ⟨_, rfl⟩

/-! ## The whole chain -/

/-- Where the newest schema keeps a column of version `v`. -/
def renamedFrom (v : Nat) (table : SqlName) (column : SqlColumn) : SqlColumn :=
  if v < 3 ∧ table = .jobs ∧ column = .idempotencyKey then .requestFingerprint else column

/-- A row of version `v` and the same row under the newest schema. -/
structure UpgradedRow (v : Nat) (table : SqlName) (row row' : SqlRow) : Prop where
  kept : ∀ column ∈ (schemaAt v).columnsOf table, row' (renamedFrom v table column) = row column
  added : ∀ column ∈ (schemaAt 10).columnsOf table,
    column ∉ ((schemaAt v).columnsOf table).map (renamedFrom v table) →
      column ≠ .llmCredentialOrigin → row' column = none
  bound : v < 10 → table = .appSettings → OriginBound row'

/-- The versions still to come after `v`. -/
def pending (v : Nat) : List Nat := List.range' (v + 1) (10 - v)

/-- The version table keeps its rows, and those of the versions still to come follow. Every
other table keeps its rows, in order, and the tables the old version lacked begin empty, but
for the one status row. -/
structure Upgraded (v : Nat) (db after : SqlDb) : Prop where
  recorded : ∃ rows, after.rows .schemaMigrations = db.rows .schemaMigrations ++ rows ∧
    rows.map versionOf = (pending v).map fun w : Nat => some (w : Int)
  carried : ∀ table ∈ tablesAt v, Continues table →
    List.Forall₂ (UpgradedRow v table) (db.rows table) (after.rows table)
  created : ∀ table ∈ tablesAt 10, table ∉ tablesAt v →
    after.rows table = if table = .indexStatus then [idleStatus] else []

theorem renamed_step (v : Nat) (table : SqlName) (column : SqlColumn) :
    renamedFrom (v + 1) table (renamedBy (v + 1) table column) = renamedFrom v table column := by
  unfold renamedFrom renamedBy
  by_cases third : v + 1 = 3 ∧ table = .jobs ∧ column = .idempotencyKey
  · obtain ⟨last, rfl, rfl⟩ := third
    simp [last, show v < 3 by omega]
  · rw [if_neg third]
    by_cases early : v + 1 < 3 ∧ table = .jobs ∧ column = .idempotencyKey
    · rw [if_pos early, if_pos ⟨by omega, early.2⟩]
    · rw [if_neg early, if_neg]
      intro all
      by_cases second : v + 1 = 3
      · exact third ⟨second, all.2⟩
      · exact early ⟨by omega, all.2⟩

theorem renamed_origin (v : Nat) (table : SqlName) :
    renamedFrom v table .llmCredentialOrigin = .llmCredentialOrigin :=
  if_neg fun all => by cases all.2.2

theorem upgradedRow_refl (table : SqlName) (row : SqlRow) : UpgradedRow 10 table row row := by
  have named : ∀ column, renamedFrom 10 table column = column := fun column =>
    if_neg fun all => by omega
  refine ⟨fun column _ => by rw [named], fun column mem fresh _ => ?_, fun below _ => by omega⟩
  exact absurd (List.mem_map.2 ⟨column, mem, named column⟩) fresh

theorem upgradedRow_step {v : Nat} (below : v < 10) {table : SqlName} {row mid row' : SqlRow}
    (first : StepRow v table row mid) (rest : UpgradedRow (v + 1) table mid row') :
    UpgradedRow v table row row' := by
  refine ⟨fun column mem => ?_, fun column mem fresh other => ?_, fun _ settings => ?_⟩
  · obtain ⟨there, same⟩ := first.kept column mem
    rw [← renamed_step, rest.kept _ there, same]
  · by_cases before : column ∈ ((schemaAt (v + 1)).columnsOf table).map (renamedFrom (v + 1) table)
    · obtain ⟨source, listed, rfl⟩ := List.mem_map.1 before
      rw [rest.kept source listed]
      refine first.added source listed (fun old => fresh ?_) fun origin => other ?_
      · obtain ⟨original, inOld, rfl⟩ := List.mem_map.1 old
        exact List.mem_map.2 ⟨original, inOld, (renamed_step v table original).symm⟩
      · rw [origin, renamed_origin]
    · exact rest.added column mem before other
  · by_cases last : v = 9
    · subst last
      subst settings
      have keeps : ∀ column ∈ (schemaAt 10).columnsOf .appSettings, row' column = mid column := by
        intro column mem
        have same := rest.kept column mem
        rwa [show renamedFrom 10 .appSettings column = column from if_neg fun all => by omega]
          at same
      have bound := first.bound rfl rfl
      unfold OriginBound at bound ⊢
      rw [keeps .llmCredentialOrigin (by decide), keeps .llmCredentialRef (by decide),
        keeps .llmBaseUrl (by decide)]
      exact bound
    · exact rest.bound (by omega) settings

theorem tables_kept {v : Nat} (below : v < 10) {table : SqlName} (there : table ∈ tablesAt v)
    (kept : Continues table) : table ∈ tablesAt (v + 1) := by
  revert table
  interval_cases v <;> decide

theorem newest_kept {table : SqlName} (there : table ∈ tablesAt 10)
    (new : table ≠ .schemaMigrations) : Continues table := by
  revert table
  decide

theorem forall₂_trans {α : Type} {R S T : α → α → Prop} (both : ∀ a b c, R a b → S b c → T a c)
    {k l m : List α} (first : List.Forall₂ R k l) (second : List.Forall₂ S l m) :
    List.Forall₂ T k m := by
  induction first generalizing m with
  | nil =>
    cases second
    exact .nil
  | cons here _ ih =>
    cases second with
    | cons next rest => exact .cons (both _ _ _ here next) (ih rest)

/-- A row carried from a version that already had its table, with nothing outside the
columns, is the row it was when its table's columns did not change since. -/
theorem idle_carried {v : Nat} (late : 8 ≤ v) (below : v ≤ 10) {row : SqlRow}
    (carried : UpgradedRow v .indexStatus idleStatus row) (admitted : indexStatusV8.admits row) :
    row = idleStatus := by
  have columns : (schemaAt v).columnsOf .indexStatus = indexStatusV8.columnNames := by
    interval_cases v <;> decide
  funext column
  by_cases there : column ∈ indexStatusV8.columnNames
  · have same := carried.kept column (columns ▸ there)
    rwa [show renamedFrom v .indexStatus column = column from if_neg fun all => by omega] at same
  · rw [admitted.1 column there]
    revert there
    cases column <;> decide

theorem pending_cons {v : Nat} (below : v < 10) : pending v = (v + 1) :: pending (v + 1) := by
  unfold pending
  rw [show 10 - v = (10 - (v + 1)) + 1 by omega, List.range'_succ]

theorem pending_last : pending 10 = [] := rfl

theorem upgraded_step {v : Nat} (below : v < 10) {db mid after : SqlDb} (first : Step v db mid)
    (rest : Upgraded (v + 1) mid after) (newest : Historical 10 after) : Upgraded v db after := by
  refine ⟨?_, fun table there kept => ?_, fun table there new => ?_⟩
  · obtain ⟨row, begun, version⟩ := first.recorded
    obtain ⟨rows, follow, versions⟩ := rest.recorded
    refine ⟨row :: rows, ?_, ?_⟩
    · rw [follow, begun, List.append_assoc]
      rfl
    · rw [pending_cons below, List.map_cons, List.map_cons, version, versions]
  · have both : ∀ row mid row', StepRow v table row mid → UpgradedRow (v + 1) table mid row' →
        UpgradedRow v table row row' := fun _ _ _ => upgradedRow_step below
    exact forall₂_trans both (first.carried table there kept)
      (rest.carried table (tables_kept below there kept) kept)
  · by_cases next : table ∈ tablesAt (v + 1)
    · have made := first.created table next new
      have begun := begins below next new
      have kept := newest_kept there fun same => by
        subst same
        revert begun
        unfold Begins
        simp
      have carried := rest.carried table next kept
      rw [made] at carried
      split at carried
      · rename_i status
        subst status
        have late : v = 7 := by simpa [Begins] using begun
        obtain ⟨row', others, same, none, written⟩ := List.forall₂_cons_left_iff.1 carried
        rw [List.forall₂_nil_left_iff] at none
        have stored := newest.consistent.stored .indexStatus indexStatusV8
          (by rw [newest.schema]; rfl)
        have admitted := stored.admitted row' (by rw [written]; exact List.mem_cons_self)
        rw [if_pos rfl, written, none, idle_carried (by omega) (by omega) same admitted]
      · rename_i other
        rw [if_neg other]
        exact List.forall₂_nil_left_iff.1 carried
    · exact rest.created table there next

/-- Versions that are recorded already are passed over. -/
theorem runMigrations_pending (clock : Nat → ℚ) (v : Nat) (below : v ≤ 10) (db : SqlDb) :
    runMigrations clock none v migrationVersions db = runMigrations clock none v (pending v) db := by
  have skipped : ∀ first second : List Nat, (∀ w ∈ first, w ≤ v) →
      runMigrations clock none v (first ++ second) db = runMigrations clock none v second db := by
    intro first second old
    induction first with
    | nil => rfl
    | cons w rest ih =>
      have here : ((w : Nat) : Int) ≤ v := by
        have := old w List.mem_cons_self
        omega
      rw [List.cons_append, runMigrations, if_pos here]
      exact ih fun w mem => old w (List.mem_cons_of_mem _ mem)
  have split : migrationVersions = List.range' 1 v ++ pending v := by
    unfold pending
    rw [Nat.add_comm v 1, List.range'_append_1, show v + (10 - v) = 10 by omega]
    rfl
  rw [split]
  refine skipped _ _ fun w mem => ?_
  rw [List.mem_range'_1] at mem
  omega

/-- No two jobs of a database that still has to pass version 3 share a job id. -/
def DistinctJobs (v : Nat) (db : SqlDb) : Prop :=
  v < 3 → uniqueOn [.jobId] (db.rows .jobs) = true

theorem keyOf_single (column : SqlColumn) (row : SqlRow) :
    keyOf [column] row = (row column).map fun value => [value] := by
  unfold keyOf
  cases held : row column <;> simp [held]

theorem uniqueOn_congr {column : SqlColumn} {rows rows' : List SqlRow}
    (same : rows.map (fun row => row column) = rows'.map fun row => row column) :
    uniqueOn [column] rows = uniqueOn [column] rows' := by
  have keys : ∀ rows : List SqlRow, rows.filterMap (keyOf [column]) =
      (rows.map fun row => row column).filterMap fun cell => cell.map fun value => [value] := by
    intro rows
    rw [List.filterMap_map]
    exact List.filterMap_congr fun row _ => keyOf_single column row
  unfold uniqueOn
  rw [keys rows, keys rows', same]

theorem forall₂_column {R : SqlRow → SqlRow → Prop} {column : SqlColumn}
    (kept : ∀ row row', R row row' → row' column = row column) {rows rows' : List SqlRow}
    (carried : List.Forall₂ R rows rows') :
    rows'.map (fun row => row column) = rows.map fun row => row column := by
  induction carried with
  | nil => rfl
  | cons here _ ih => rw [List.map_cons, List.map_cons, kept _ _ here, ih]

theorem distinct_step {v : Nat} {db mid : SqlDb} (step : Step v db mid)
    (distinct : DistinctJobs v db) : DistinctJobs (v + 1) mid := by
  intro early
  have cases' : v = 0 ∨ v = 1 := by omega
  cases cases' with
  | inl first =>
    subst first
    rw [step.created .jobs (by decide) (by decide)]
    rfl
  | inr second =>
    subst second
    have sameId : ∀ row row', StepRow 1 .jobs row row' → row' .jobId = row .jobId :=
      fun row row' step => (step.kept .jobId (by decide)).2
    have carried := step.carried .jobs (by decide) (by decide)
    rw [uniqueOn_congr (forall₂_column sameId carried)]
    exact distinct (by omega)

theorem chain_upgrades (clock : Nat → ℚ) {applied : Int} {n : Nat} :
    ∀ {v : Nat} {db after : SqlDb}, v + n = 10 → applied ≤ v → Historical v db →
      runMigrations clock none applied (pending v) db = .ok after →
      Historical 10 after ∧ Upgraded v db after := by
  induction n with
  | zero =>
    intro v db after last old historical ran
    obtain rfl : v = 10 := by omega
    rw [pending_last, runMigrations] at ran
    obtain rfl := Except.ok.inj ran
    refine ⟨historical, ⟨⟨[], (List.append_nil _).symm, rfl⟩, fun table _ _ => ?_,
      fun table there new => absurd there new⟩⟩
    exact List.forall₂_same.2 fun row _ => upgradedRow_refl table row
  | succ n ih =>
    intro v db after total old historical ran
    have below : v < 10 := by omega
    rw [pending_cons below, runMigrations, if_neg (by omega), if_neg (by simp)] at ran
    split at ran
    · rename_i mid applied
      obtain ⟨next, step⟩ := version_step below _ historical applied
      obtain ⟨newest, upgraded⟩ := ih (by omega) (by omega) next ran
      exact ⟨newest, upgraded_step below step upgraded newest⟩
    · cases ran

theorem chain_runs (clock : Nat → ℚ) {applied : Int} {n : Nat} :
    ∀ {v : Nat} {db : SqlDb}, v + n = 10 → applied ≤ v → Historical v db → DistinctJobs v db →
      ∃ after, runMigrations clock none applied (pending v) db = .ok after := by
  induction n with
  | zero =>
    intro v db last old historical distinct
    obtain rfl : v = 10 := by omega
    exact ⟨db, rfl⟩
  | succ n ih =>
    intro v db total old historical distinct
    have below : v < 10 := by omega
    obtain ⟨mid, applied⟩ := version_runs below (clock (v + 1)) historical
      fun second => distinct (by omega)
    obtain ⟨next, step⟩ := version_step below _ historical applied
    obtain ⟨after, rest⟩ := ih (by omega) (by omega) next (distinct_step step distinct)
    refine ⟨after, ?_⟩
    rw [pending_cons below, runMigrations, if_neg (by omega), if_neg (by simp), applied]
    exact rest

/-! ## `init_db` -/

/-- What `init_db` may find: a new file, or a database of some version. -/
def Stored (v : Nat) (db : SqlDb) : Prop := Historical v db ∨ v = 0 ∧ db = emptyDb

theorem ensure_historical {v : Nat} (below : v ≤ 10) {db : SqlDb} (stored : Stored v db) :
    ∃ ensured, ensureSchemaMigrations db = .ok ensured ∧ Historical v ensured ∧
      jobIds ensured = jobIds db ∧
        ensured.rows .schemaMigrations = db.rows .schemaMigrations ∧ (v ≠ 0 → ensured = db) := by
  cases stored with
  | inl historical =>
    have there : SqlName.schemaMigrations ∈ Dict.keys db.schema.tables := by
      by_contra missing
      rw [← Dict.get_eq_none, historical.schema, (migrations_table below).1] at missing
      cases missing
    unfold ensureSchemaMigrations
    rw [if_pos there]
    exact ⟨db, rfl, historical, rfl, rfl, fun _ => rfl⟩
  | inr fresh =>
    obtain ⟨rfl, rfl⟩ := fresh
    have made : exec (.createTable .schemaMigrations Ddl.schemaMigrations) emptyDb =
        .ok ⟨schemaAt 0, Function.update emptyDb.rows .schemaMigrations []⟩ := rfl
    have consistent : Consistent emptyDb := by
      refine ⟨fun _ _ found => ?_, fun _ _ => rfl, fun _ mem => ?_⟩
      · cases found
      · cases mem
    exact ⟨_, made, ⟨exec_consistent consistent made, rfl, rfl⟩, rfl, rfl,
      fun nonzero => absurd rfl nonzero⟩

theorem distinct_of_newest {db : SqlDb} (newest : Historical 10 db) :
    uniqueOn [.jobId] (db.rows .jobs) = true := by
  obtain ⟨table, found, keyed⟩ : ∃ table, Dict.get .jobs (schemaAt 10).tables = some table ∧
      ([SqlColumn.jobId], Filter.all) ∈ (schemaAt 10).uniqueKeys .jobs table :=
    ⟨_, rfl, by decide⟩
  have sound := newest.consistent.stored .jobs table (by rw [newest.schema]; exact found)
  have distinct := sound.distinct _ (by rw [newest.schema]; exact keyed)
  rwa [filter_all] at distinct

/-- Job ids are never `NULL`, so the unique index asks for distinct ids. -/
theorem uniqueOn_jobIds {db : SqlDb}
    (present : ∀ row ∈ db.rows .jobs, (row .jobId).isSome = true) :
    uniqueOn [.jobId] (db.rows .jobs) = true ↔ (jobIds db).Nodup := by
  unfold jobIds uniqueOn
  generalize db.rows .jobs = rows at present
  have listed : (rows.filterMap (keyOf [.jobId])).map List.head? =
      rows.map fun row => row .jobId := by
    induction rows with
    | nil => rfl
    | cons row rest ih =>
      obtain ⟨value, held⟩ := Option.isSome_iff_exists.1 (present row List.mem_cons_self)
      rw [List.filterMap_cons, keyOf_single, held, Option.map_some, List.map_cons, List.map_cons,
        ih fun row mem => present row (List.mem_cons_of_mem _ mem), held]
      rfl
  have single : ∀ key ∈ rows.filterMap (keyOf [SqlColumn.jobId]), ∃ value, key = [value] := by
    intro key mem
    obtain ⟨row, _, made⟩ := List.mem_filterMap.1 mem
    rw [keyOf_single] at made
    obtain ⟨value, _, rfl⟩ := Option.map_eq_some_iff.1 made
    exact ⟨value, rfl⟩
  rw [decide_eq_true_eq, ← listed]
  constructor
  · refine List.Nodup.map_on fun key mem other listed' same => ?_
    obtain ⟨value, rfl⟩ := single key mem
    obtain ⟨value', rfl⟩ := single other listed'
    simpa using same
  · exact List.Nodup.of_map _

theorem early_jobs {v : Nat} (early : v < 3) {db : SqlDb} (historical : Historical v db) :
    (∀ row ∈ db.rows .jobs, (row .jobId).isSome = true) ∧
      ∀ {after : SqlDb}, Upgraded v db after → jobIds after = jobIds db := by
  have cases' : v = 0 ∨ (v = 1 ∨ v = 2) := by omega
  cases cases' with
  | inl first =>
    subst first
    have none : db.rows .jobs = [] :=
      historical.consistent.absent .jobs (by rw [historical.schema]; decide)
    refine ⟨fun row mem => ?_, fun upgraded => ?_⟩
    · rw [none] at mem
      cases mem
    · unfold jobIds
      rw [none, upgraded.created .jobs (by decide) (by decide)]
      rfl
  | inr later =>
    have table : Dict.get .jobs (schemaAt v).tables = some jobsV1 ∧ SqlName.jobs ∈ tablesAt v ∧
        SqlColumn.jobId ∈ (schemaAt v).columnsOf .jobs := by
      cases later with
      | inl second =>
        subst second
        exact ⟨rfl, by decide, by decide⟩
      | inr third =>
        subst third
        exact ⟨rfl, by decide, by decide⟩
    have sound := historical.consistent.stored .jobs jobsV1 (by rw [historical.schema]; exact table.1)
    refine ⟨fun row mem => ?_, fun upgraded => ?_⟩
    · exact (sound.admitted row mem).2.1 (required .jobId "VARCHAR(64)") (by decide) rfl
    · have sameId : ∀ row row', UpgradedRow v .jobs row row' → row' .jobId = row .jobId := by
        intro row row' carried
        have kept := carried.kept .jobId table.2.2
        rwa [show renamedFrom v .jobs .jobId = .jobId from if_neg fun all => by cases all.2.2] at kept
      exact forall₂_column sameId (upgraded.carried .jobs table.2.1 (by decide))

/-- From every version and with every rows the version admits, `init_db` fails only
when it would put two jobs with one id under the unique index of version 3. Else it
reaches the newest schema with every constraint kept, every table's rows in place and
their columns unchanged, the missing versions recorded, and running it again changes
nothing. -/
theorem init_db_upgrades {v : Nat} (known : v ≤ 10) {db : SqlDb} (stored : Stored v db)
    (clock : Nat → ℚ) :
    ((∃ after, initDb clock none db = .ok after) ↔ (v < 3 → (jobIds db).Nodup)) ∧
      ∀ after, initDb clock none db = .ok after →
        Historical 10 after ∧ Upgraded v db after ∧
          ∀ later, initDb later none after = .ok after := by
  obtain ⟨ensured, made, historical, sameIds, sameVersions, same⟩ := ensure_historical known stored
  have chain : initDb clock none db = runMigrations clock none v (pending v) ensured := by
    unfold initDb
    rw [made]
    dsimp only
    rw [historical.recorded, runMigrations_pending clock v known]
  rw [chain]
  have total : v + (10 - v) = 10 := by omega
  have upgrades : ∀ after, runMigrations clock none v (pending v) ensured = .ok after →
      Historical 10 after ∧ Upgraded v ensured after :=
    fun after ran => chain_upgrades clock total le_rfl historical ran
  constructor
  · constructor
    · intro succeeded early
      obtain ⟨after, ran⟩ := succeeded
      obtain ⟨newest, upgraded⟩ := upgrades after ran
      have jobs := early_jobs early historical
      rw [← sameIds, ← jobs.2 upgraded, ← uniqueOn_jobIds]
      · exact distinct_of_newest newest
      · intro row mem
        obtain ⟨table, found, declared⟩ : ∃ table,
            Dict.get .jobs (schemaAt 10).tables = some table ∧
              required .jobId "VARCHAR(64)" ∈ table.columns := ⟨_, rfl, by decide⟩
        have sound := newest.consistent.stored .jobs table (by rw [newest.schema]; exact found)
        exact (sound.admitted row mem).2.1 _ declared rfl
    · intro distinct
      refine chain_runs clock total le_rfl historical fun early => ?_
      rw [uniqueOn_jobIds (early_jobs early historical).1, sameIds]
      exact distinct early
  · intro after ran
    obtain ⟨newest, upgraded⟩ := upgrades after ran
    refine ⟨newest, ⟨?_, fun table there kept => ?_, upgraded.created⟩, fun later => ?_⟩
    · rw [← sameVersions]
      exact upgraded.recorded
    · by_cases new : v = 0
      · subst new
        have only : table = .schemaMigrations := by simpa [tablesAt, schemaAt, Dict.keys] using there
        exact absurd only kept.2
      · rw [← same new]
        exact upgraded.carried table there kept
    · obtain ⟨again, remade, _, _, _, unchanged⟩ := ensure_historical le_rfl (.inl newest)
      have self := unchanged (by decide)
      subst self
      unfold initDb
      rw [remade]
      dsimp only
      rw [newest.recorded, runMigrations_pending later 10 le_rfl]
      rfl

/-- A database of version 2 with one job. -/
def secondVersion : List SqlStatement :=
  .createTable .schemaMigrations Ddl.schemaMigrations ::
    (applyV1 ++ [recordVersion 1 1] ++ applyV2 ++ [recordVersion 2 2] ++
      [.insert .jobs [(.id, some (.integer 1)), (.jobId, some (literal "job-1")),
        (.idempotencyKey, some (literal "key")), (.url, some (literal "https://b.tv/v")),
        (.mode, some (literal "auto")), (.asr, some (literal "auto")),
        (.configFingerprint, some (literal "c")), (.status, some (literal "queued")),
        (.progress, some (.integer 0)), (.attempt, some (.integer 0)),
        (.maxAttempts, some (.integer 3)), (.retryable, some (.integer 0)),
        (.createdAt, some (.real 1)), (.updatedAt, some (.real 1))]])

def secondVersionDb : SqlDb := ⟨schemaAt 2, refillAll secondVersion ⟨[], []⟩ fun _ => []⟩

theorem emptyDb_consistent : Consistent emptyDb := by
  refine ⟨fun _ _ found => ?_, fun _ _ => rfl, fun _ mem => ?_⟩
  · cases found
  · cases mem

theorem secondVersion_historical : Historical 2 secondVersionDb :=
  ⟨execAll_consistent emptyDb_consistent
    ((execAll_ok_iff secondVersion emptyDb secondVersionDb).2 ⟨rfl, rfl, rfl⟩), rfl, rfl⟩

theorem init_db_upgrades_second :
    ((∃ after, initDb (fun _ => 3) none secondVersionDb = .ok after) ↔
      (2 < 3 → (jobIds secondVersionDb).Nodup)) ∧
      ∀ after, initDb (fun _ => 3) none secondVersionDb = .ok after →
        Historical 10 after ∧ Upgraded 2 secondVersionDb after ∧
          ∀ later, initDb later none after = .ok after :=
  init_db_upgrades (by decide) (.inl secondVersion_historical) fun _ => 3

/-! ## Starts and the copies they take -/

/-- What the engine does to its files over time: it starts, with a start that may fail
at any point, or it writes rows while it serves, once it has the newest schema. -/
inductive Lives (usual : Start → Prop) (files : DatabaseFiles) : DatabaseFiles → Prop
  | none : Lives usual files files
  | start {later : DatabaseFiles} (before : Lives usual files later) (start : Start)
      (plain : usual start) : Lives usual files (later.start start)
  | session {later : DatabaseFiles} (before : Lives usual files later)
      (served : Historical 10 later.live) (rows : SqlDb) (kept : Historical 10 rows) :
      Lives usual files { later with live := rows }

theorem readSchemaVersion_historical {v : Nat} (known : v ≤ 10) {db : SqlDb}
    (historical : Historical v db) : readSchemaVersion db = some (v : Int) := by
  have there : SqlName.schemaMigrations ∈ Dict.keys db.schema.tables := by
    by_contra missing
    rw [← Dict.get_eq_none, historical.schema, (migrations_table known).1] at missing
    cases missing
  unfold readSchemaVersion
  rw [if_pos there, historical.recorded]

/-- What the backup step can do to the copies, and when it must. -/
theorem backup_cases {v : Nat} (known : v ≤ 10) (start : Start) {files : DatabaseFiles}
    (historical : Historical v files.live) :
    (backupBeforeUpgrade start files).live = files.live ∧
      ((backupBeforeUpgrade start files).copies = files.copies ∧
          (0 < v → v < 10 → start.versionReadable = false) ∨
        (0 < v ∧ v < 10) ∧ (backupBeforeUpgrade start files).copies =
          Function.update files.copies v
            (snapshot files.live (files.copies v) start.snapshot)) := by
  unfold backupBeforeUpgrade
  rw [readSchemaVersion_historical known historical]
  cases readable : start.versionReadable with
  | false => simp
  | true =>
    simp only [if_true]
    by_cases settled : (v : Int) = 0 ∨ (SCHEMA_VERSION : Int) ≤ v
    · rw [if_pos settled]
      refine ⟨rfl, .inl ⟨rfl, fun positive below => ?_⟩⟩
      unfold SCHEMA_VERSION at settled
      omega
    · rw [if_neg settled]
      unfold SCHEMA_VERSION at settled
      exact ⟨rfl, .inr ⟨by omega, rfl⟩⟩

/-- A start leaves the database as it was, or brings it to the newest schema. -/
theorem start_live {v : Nat} (known : v ≤ 10) (start : Start) {files : DatabaseFiles}
    (historical : Historical v files.live) :
    (files.start start).copies = (backupBeforeUpgrade start files).copies ∧
      ((files.start start).live = files.live ∨ Historical 10 (files.start start).live) := by
  have same := (backup_cases known start historical).1
  unfold DatabaseFiles.start
  dsimp only
  split
  · rename_i after ran
    rw [same] at ran
    split
    · exact ⟨rfl, .inr ((init_db_upgrades known (.inl historical) _).2 after ran).1⟩
    · exact ⟨rfl, .inl same⟩
  · exact ⟨rfl, .inl same⟩

/-- The copy is the one it was or the image before the upgrade; or it is the empty file
that a snapshot made and did not fill. -/
def CopyKept (live : SqlDb) (before after : Option SqlDb) : Prop :=
  after = before ∨ after = some live ∨ (before = none ∧ after = some emptyDb)

theorem CopyKept.snapshot {live : SqlDb} {before copy : Option SqlDb}
    (kept : CopyKept live before copy) (ends : SnapshotEnd) :
    CopyKept live before (snapshot live copy ends) := by
  cases ends with
  | unopened => exact kept
  | written => exact .inr (.inl rfl)
  | brokenOff =>
    cases copy with
    | some image => exact kept
    | none =>
      obtain same | filled | ⟨absent, filled⟩ := kept
      · exact .inr (.inr ⟨same.symm, rfl⟩)
      · cases filled
      · cases filled

/-- Over any number of starts and sessions the copy of the old version is kept or is the
image before the upgrade, no other copy changes, and where every start writes its copy the
database is not upgraded without one. -/
theorem old_image_survives {usual : Start → Prop} {files later : DatabaseFiles} {v : Nat}
    (positive : 0 < v) (old : v < 10) (historical : Historical v files.live)
    (lives : Lives usual files later) :
    (later.live = files.live ∨ Historical 10 later.live) ∧
      (∀ u : Int, u ≠ v → later.copies u = files.copies u) ∧
        CopyKept files.live (files.copies v) (later.copies v) ∧
          ((∀ start, usual start → start.versionReadable = true ∧ start.snapshot = .written) →
            later.live = files.live ∨ later.copies v = some files.live) := by
  induction lives with
  | none => exact ⟨.inl rfl, fun _ _ => rfl, .inl rfl, fun _ => .inl rfl⟩
  | session before served rows kept ih =>
    obtain ⟨_, others, own, covered⟩ := ih
    refine ⟨.inr kept, others, own, fun reliable => ?_⟩
    cases covered reliable with
    | inl unchanged =>
      rw [unchanged] at served
      have versions := historical.recorded.symm.trans served.recorded
      omega
    | inr copied => exact .inr copied
  | @start mid before start plain ih =>
    obtain ⟨live, others, own, covered⟩ := ih
    cases live with
    | inl unchanged =>
      have here : Historical v mid.live := by rw [unchanged]; exact historical
      have copies := (backup_cases (by omega) start here).2
      obtain ⟨saved, outcome⟩ := start_live (by omega) start here
      rw [unchanged] at outcome copies
      rw [saved]
      cases copies with
      | inl none =>
        rw [none.1]
        refine ⟨outcome, others, own, fun reliable => ?_⟩
        have readable := (reliable start plain).1
        rw [none.2 positive old] at readable
        cases readable
      | inr taken =>
        rw [taken.2]
        refine ⟨outcome, fun u other => ?_, ?_, fun reliable => ?_⟩
        · rw [Function.update_of_ne other]
          exact others u other
        · rw [Function.update_self]
          exact own.snapshot start.snapshot
        · rw [Function.update_self, (reliable start plain).2]
          exact .inr rfl
    | inr newest =>
      have copies := (backup_cases le_rfl start newest).2
      obtain ⟨saved, outcome⟩ := start_live le_rfl start newest
      have kept : (mid.start start).copies = mid.copies := by
        rw [saved]
        cases copies with
        | inl none => exact none.1
        | inr taken => omega
      have upgraded : Historical 10 (mid.start start).live := by
        cases outcome with
        | inl same => rw [same]; exact newest
        | inr again => exact again
      rw [kept]
      refine ⟨.inr upgraded, others, own, fun reliable => ?_⟩
      cases covered reliable with
      | inl unchanged =>
        rw [unchanged] at newest
        have versions := historical.recorded.symm.trans newest.recorded
        omega
      | inr copied => exact .inr copied

def secondFiles : DatabaseFiles := ⟨secondVersionDb, fun _ => none⟩

def plainStart : Start := ⟨true, .written, true, fun _ => 3⟩

/-- The first start comes to no copy, the second one upgrades. -/
def brokenStart : Start := ⟨true, .brokenOff, false, fun _ => 3⟩

theorem old_image_survives_second :
    let later := (secondFiles.start brokenStart).start plainStart
    (secondFiles.start brokenStart).copies (2 : Nat) = some emptyDb ∧
      (later.live = secondFiles.live ∨ Historical 10 later.live) ∧
        (∀ u : Int, u ≠ (2 : Nat) → later.copies u = secondFiles.copies u) ∧
          CopyKept secondFiles.live (secondFiles.copies (2 : Nat)) (later.copies (2 : Nat)) := by
  have lives : Lives (fun _ => True) secondFiles ((secondFiles.start brokenStart).start plainStart) :=
    .start (.start .none brokenStart trivial) plainStart trivial
  have survives := old_image_survives (by decide) (by decide) secondVersion_historical lives
  refine ⟨?_, survives.1, survives.2.1, survives.2.2.1⟩
  have two : 2 ≤ 10 := by decide
  have here : Historical 2 secondFiles.live := secondVersion_historical
  rw [(start_live two brokenStart here).1]
  obtain ⟨_, readable⟩ | ⟨_, taken⟩ :=
    (backup_cases two brokenStart here).2
  · cases readable (by decide) (by decide)
  · rw [taken, Function.update_self]
    rfl

end EvoBlue.Guarantees
