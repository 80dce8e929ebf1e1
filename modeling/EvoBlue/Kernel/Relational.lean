import EvoBlue.Kernel.OrderedDict
import Mathlib.Data.List.Forall2
import Mathlib.Logic.Function.Basic

/-!
# Relational tables and their definition statements

A database is a schema and the rows of each table. A statement first reshapes the
schema, which no row can influence, then refills the rows; it is refused when the
table it touched no longer keeps its constraints. A statement that is refused
changes nothing.
-/

namespace EvoBlue.Kernel.Relational

/-- A row by column name; `none` is `NULL`. -/
abbrev Row (κ V : Type) := κ → Option V

structure Column (κ V : Type) where
  name : κ
  type : String
  notNull : Bool
  default : Option V
  deriving DecidableEq

/-- The `WHERE` of a partial index. -/
inductive Filter (κ V : Type)
  | all
  | isNull (column : κ)
  | isIn (column : κ) (values : List V)
  deriving DecidableEq

structure Index (ν κ V : Type) where
  table : ν
  columns : List κ
  unique : Bool
  filter : Filter κ V

structure Table (κ V : Type) where
  columns : List (Column κ V)
  primaryKey : List κ
  unique : List (List κ)
  check : List (κ × V)

structure Schema (ν κ V : Type) where
  tables : List (ν × Table κ V)
  indexes : List (ν × Index ν κ V)

structure Database (ν κ V : Type) where
  schema : Schema ν κ V
  rows : ν → List (Row κ V)

inductive SqlError | tableExists | noSuchTable | indexExists | duplicateColumn | noSuchColumn
  | nullDefault | integrity
  deriving DecidableEq

/-- The statements a schema migration is written in. -/
inductive Statement (ν κ V : Type)
  | createTable (name : ν) (table : Table κ V)
  | createIndex (name : ν) (index : Index ν κ V)
  | dropTable (name : ν)
  | renameTable (name newName : ν)
  | addColumn (table : ν) (column : Column κ V)
  /-- `INSERT INTO target (..) SELECT .. FROM source`, target column by source column. -/
  | copyRows (target source : ν) (columns : List (κ × κ))
  | insert (table : ν) (values : List (κ × Option V))
  /-- `UPDATE table SET column = source WHERE .. IS NOT NULL AND ..`. -/
  | update (table : ν) (column source : κ) (present : List κ)

section
variable {ν κ V : Type} [DecidableEq ν] [DecidableEq κ] [DecidableEq V]

def Table.columnNames (table : Table κ V) : List κ := table.columns.map Column.name

/-- The columns of a table, none when the table does not exist. -/
def Schema.columnsOf (schema : Schema ν κ V) (name : ν) : List κ :=
  match Dict.get name schema.tables with
  | some table => table.columnNames
  | none => []

/-- What a column holds in a row that does not name it. -/
def Table.defaultOf (table : Table κ V) (column : κ) : Option V :=
  (table.columns.find? (·.name = column)).bind Column.default

def Filter.holds (filter : Filter κ V) (row : Row κ V) : Bool :=
  match filter with
  | .all => true
  | .isNull column => (row column).isNone
  | .isIn column values => (row column).any fun value => values.contains value

def Filter.columns (filter : Filter κ V) : List κ :=
  match filter with
  | .all => []
  | .isNull column => [column]
  | .isIn column _ => [column]

omit [DecidableEq ν] [DecidableEq κ] in
@[simp] theorem filter_all (rows : List (Row κ V)) :
    rows.filter (Filter.all : Filter κ V).holds = rows :=
  List.filter_eq_self.2 fun _ _ => rfl

/-- The key of a row; no key when a part of it is `NULL`. -/
def keyOf (columns : List κ) (row : Row κ V) : Option (List V) := columns.mapM row

/-- No two rows have the same key. -/
def uniqueOn (columns : List κ) (rows : List (Row κ V)) : Bool :=
  decide (rows.filterMap (keyOf columns)).Nodup

/-- A row holds nothing outside the columns, no `NULL` where one is refused, and
passes the checks. -/
def Table.admits (table : Table κ V) (row : Row κ V) : Prop :=
  (∀ column, column ∉ table.columnNames → row column = none) ∧
    (∀ column ∈ table.columns, column.notNull = true → (row column.name).isSome = true) ∧
    ∀ pair ∈ table.check, row pair.1 = some pair.2

/-- The part of `admits` a statement checks. -/
def Table.accepts (table : Table κ V) (row : Row κ V) : Bool :=
  (table.columns.all fun column => !column.notNull || (row column.name).isSome) &&
    table.check.all fun pair => row pair.1 = some pair.2

/-- The unique keys of a table: its own and those of its unique indexes. -/
def Schema.uniqueKeys (schema : Schema ν κ V) (name : ν) (table : Table κ V) :
    List (List κ × Filter κ V) :=
  (table.primaryKey :: table.unique).map (fun columns => (columns, Filter.all)) ++
    schema.indexes.filterMap fun index =>
      if index.2.table = name ∧ index.2.unique = true then
        some (index.2.columns, index.2.filter)
      else none

/-- No unique key of the table occurs twice. -/
def Schema.keysDistinct (schema : Schema ν κ V) (name : ν) (table : Table κ V)
    (rows : List (Row κ V)) : Bool :=
  (schema.uniqueKeys name table).all fun key => uniqueOn key.1 (rows.filter key.2.holds)

/-! ## Statements -/

/-- What a statement does to the schema. -/
def reshape (statement : Statement ν κ V) (schema : Schema ν κ V) :
    Except SqlError (Schema ν κ V) :=
  match statement with
  | .createTable name table =>
    if name ∈ Dict.keys schema.tables then .error .tableExists
    else if ¬table.columnNames.Nodup then .error .duplicateColumn
    else if (table.primaryKey ++ table.unique.flatten ++ table.check.map Prod.fst).all
        (table.columnNames.contains ·) then
      .ok { schema with tables := schema.tables ++ [(name, table)] }
    else .error .noSuchColumn
  | .createIndex name index =>
    if name ∈ Dict.keys schema.indexes then .error .indexExists
    else
      match Dict.get index.table schema.tables with
      | none => .error .noSuchTable
      | some table =>
        if (index.columns ++ index.filter.columns).all (table.columnNames.contains ·) then
          .ok { schema with indexes := schema.indexes ++ [(name, index)] }
        else .error .noSuchColumn
  | .dropTable name =>
    if name ∈ Dict.keys schema.tables then
      .ok { tables := schema.tables.filter (·.1 ≠ name)
            indexes := schema.indexes.filter (·.2.table ≠ name) }
    else .error .noSuchTable
  | .renameTable name newName =>
    if name ∉ Dict.keys schema.tables then .error .noSuchTable
    else if newName ∈ Dict.keys schema.tables then .error .tableExists
    else
      .ok { tables := schema.tables.map fun pair =>
              if pair.1 = name then (newName, pair.2) else pair
            indexes := schema.indexes.map fun pair =>
              if pair.2.table = name then (pair.1, { pair.2 with table := newName }) else pair }
  | .addColumn name column =>
    match Dict.get name schema.tables with
    | none => .error .noSuchTable
    | some table =>
      if column.name ∈ table.columnNames then .error .duplicateColumn
      else if column.notNull = true ∧ column.default = none then .error .nullDefault
      else
        .ok { schema with
          tables := Dict.set name { table with columns := table.columns ++ [column] }
            schema.tables }
  | .copyRows target source columns =>
    match Dict.get target schema.tables, Dict.get source schema.tables with
    | some into, some from' =>
      if columns.all fun pair =>
          into.columnNames.contains pair.1 && from'.columnNames.contains pair.2 then
        .ok schema
      else .error .noSuchColumn
    | _, _ => .error .noSuchTable
  | .insert name values =>
    match Dict.get name schema.tables with
    | none => .error .noSuchTable
    | some table =>
      if values.all fun pair => table.columnNames.contains pair.1 then .ok schema
      else .error .noSuchColumn
  | .update name column source present =>
    match Dict.get name schema.tables with
    | none => .error .noSuchTable
    | some table =>
      if (column :: source :: present).all (table.columnNames.contains ·) then .ok schema
      else .error .noSuchColumn

/-- A row written by `INSERT`: the named columns, and the defaults of the others. -/
def Schema.newRow (schema : Schema ν κ V) (name : ν) (values : List (κ × Option V)) :
    Row κ V := fun column =>
  match Dict.get column values with
  | some value => value
  | none => (Dict.get name schema.tables).bind fun table => table.defaultOf column

/-- What a statement does to the rows. -/
def refill (statement : Statement ν κ V) (schema : Schema ν κ V) (rows : ν → List (Row κ V)) :
    ν → List (Row κ V) :=
  match statement with
  | .createTable name _ => Function.update rows name []
  | .createIndex _ _ => rows
  | .dropTable name => Function.update rows name []
  | .renameTable name newName =>
    Function.update (Function.update rows newName (rows name)) name []
  | .addColumn name column =>
    Function.update rows name
      ((rows name).map fun row => Function.update row column.name column.default)
  | .copyRows target source columns =>
    Function.update rows target
      (rows target ++ (rows source).map fun row =>
        schema.newRow target (columns.map fun pair => (pair.1, row pair.2)))
  | .insert name values =>
    Function.update rows name (rows name ++ [schema.newRow name values])
  | .update name column source present =>
    Function.update rows name
      ((rows name).map fun row =>
        if present.all fun name => (row name).isSome then
          Function.update row column (row source)
        else row)

/-- Whether the table a statement wrote still keeps its constraints. -/
def keeps (statement : Statement ν κ V) (schema : Schema ν κ V) (rows : ν → List (Row κ V)) :
    Bool :=
  let keepsTable := fun name =>
    match Dict.get name schema.tables with
    | some table => (rows name).all table.accepts && schema.keysDistinct name table (rows name)
    | none => true
  match statement with
  | .createIndex _ index => keepsTable index.table
  | .copyRows target _ _ => keepsTable target
  | .insert name _ => keepsTable name
  | .update name _ _ _ => keepsTable name
  | _ => true

def exec (statement : Statement ν κ V) (db : Database ν κ V) :
    Except SqlError (Database ν κ V) :=
  match reshape statement db.schema with
  | .error failure => .error failure
  | .ok schema =>
    let rows := refill statement schema db.rows
    if keeps statement schema rows then .ok ⟨schema, rows⟩ else .error .integrity

/-- The statements of a script, one after another; the first failure ends it. -/
def execAll : List (Statement ν κ V) → Database ν κ V → Except SqlError (Database ν κ V)
  | [], db => .ok db
  | statement :: rest, db =>
    match exec statement db with
    | .ok after => execAll rest after
    | .error failure => .error failure

/-- What a script does to the schema. -/
def reshapeAll : List (Statement ν κ V) → Schema ν κ V → Except SqlError (Schema ν κ V)
  | [], schema => .ok schema
  | statement :: rest, schema =>
    match reshape statement schema with
    | .ok after => reshapeAll rest after
    | .error failure => .error failure

/-- What a script does to the rows. -/
def refillAll : List (Statement ν κ V) → Schema ν κ V → (ν → List (Row κ V)) →
    ν → List (Row κ V)
  | [], _, rows => rows
  | statement :: rest, schema, rows =>
    match reshape statement schema with
    | .ok after => refillAll rest after (refill statement after rows)
    | .error _ => rows

/-- Every statement of a script keeps the constraints of the table it writes. -/
def keepsAll : List (Statement ν κ V) → Schema ν κ V → (ν → List (Row κ V)) → Bool
  | [], _, _ => true
  | statement :: rest, schema, rows =>
    match reshape statement schema with
    | .ok after =>
      let refilled := refill statement after rows
      keeps statement after refilled && keepsAll rest after refilled
    | .error _ => true

/-- A script runs when it fits the schema and its rows keep the constraints, and
the two halves of its result do not depend on each other's checks. -/
theorem execAll_ok_iff (script : List (Statement ν κ V)) (db after : Database ν κ V) :
    execAll script db = .ok after ↔
      reshapeAll script db.schema = .ok after.schema ∧ keepsAll script db.schema db.rows = true ∧
        after.rows = refillAll script db.schema db.rows := by
  induction script generalizing db with
  | nil =>
    obtain ⟨schema, rows⟩ := db
    obtain ⟨schema', rows'⟩ := after
    simp only [execAll, reshapeAll, keepsAll, refillAll, Except.ok.injEq, Database.mk.injEq,
      true_and]
    constructor
    · intro same
      exact ⟨same.1, same.2.symm⟩
    · intro same
      exact ⟨same.1, same.2.symm⟩
  | cons statement rest ih =>
    simp only [execAll, reshapeAll, keepsAll, refillAll, exec]
    cases shaped : reshape statement db.schema with
    | error failure => simp
    | ok schema =>
      dsimp only
      by_cases kept : keeps statement schema (refill statement schema db.rows) = true
      · rw [if_pos kept]
        dsimp only
        rw [ih, kept, Bool.true_and]
      · rw [if_neg kept]
        simp [Bool.eq_false_iff.2 kept]

theorem execAll_append (first second : List (Statement ν κ V)) (db : Database ν κ V) :
    execAll (first ++ second) db =
      match execAll first db with
      | .ok after => execAll second after
      | .error failure => .error failure := by
  induction first generalizing db with
  | nil => rfl
  | cons statement rest ih =>
    simp only [List.cons_append, execAll]
    cases exec statement db with
    | error failure => rfl
    | ok after => exact ih after

/-! ## Running a script -/

/-- The schema after a statement that fits it. -/
def reshaped (statement : Statement ν κ V) (schema : Schema ν κ V) : Schema ν κ V :=
  match reshape statement schema with
  | .ok after => after
  | .error _ => schema

theorem keepsAll_cons {statement : Statement ν κ V} {rest : List (Statement ν κ V)}
    {schema : Schema ν κ V} {rows : ν → List (Row κ V)}
    (first : keeps statement (reshaped statement schema)
      (refill statement (reshaped statement schema) rows) = true)
    (others : keepsAll rest (reshaped statement schema)
      (refill statement (reshaped statement schema) rows) = true) :
    keepsAll (statement :: rest) schema rows = true := by
  unfold reshaped at first others
  unfold keepsAll
  split
  · rename_i after shaped
    rw [shaped] at first others
    dsimp only at first others ⊢
    rw [first, others, Bool.and_self]
  · rfl

/-- Statements that write no row under a check. -/
def Statement.unchecked : Statement ν κ V → Bool
  | .createTable _ _ | .dropTable _ | .renameTable _ _ | .addColumn _ _ => true
  | _ => false

theorem keepsAll_unchecked {script : List (Statement ν κ V)}
    (plain : script.all Statement.unchecked = true) (schema : Schema ν κ V)
    (rows : ν → List (Row κ V)) : keepsAll script schema rows = true := by
  induction script generalizing schema rows with
  | nil => rfl
  | cons statement rest ih =>
    rw [List.all_cons, Bool.and_eq_true] at plain
    refine keepsAll_cons ?_ (ih plain.2 _ _)
    cases statement <;> first | rfl | cases plain.1

omit [DecidableEq κ] in
theorem keeps_createIndex_empty (name : ν) (index : Index ν κ V) (schema : Schema ν κ V)
    {rows : ν → List (Row κ V)} (none : rows index.table = []) :
    keeps (.createIndex name index) schema rows = true := by
  unfold keeps
  dsimp only
  split
  · rw [none]
    simp [Schema.keysDistinct, uniqueOn]
  · rfl

/-- The tables whose rows a statement rewrites. -/
def Statement.writes : Statement ν κ V → List ν
  | .createTable name _ | .dropTable name | .addColumn name _ | .insert name _ => [name]
  | .update name _ _ _ => [name]
  | .renameTable name newName => [name, newName]
  | .copyRows target _ _ => [target]
  | .createIndex _ _ => []

omit [DecidableEq V] in
theorem refill_frame {statement : Statement ν κ V} {name : ν}
    (apart : name ∉ statement.writes) (schema : Schema ν κ V) (rows : ν → List (Row κ V)) :
    refill statement schema rows name = rows name := by
  cases statement <;> simp_all [Statement.writes, refill, Function.update_of_ne]

omit [DecidableEq V] in
theorem refillAll_frame {script : List (Statement ν κ V)} {name : ν}
    (apart : ∀ statement ∈ script, name ∉ statement.writes) (schema : Schema ν κ V)
    (rows : ν → List (Row κ V)) : refillAll script schema rows name = rows name := by
  induction script generalizing schema rows with
  | nil => rfl
  | cons statement rest ih =>
    simp only [refillAll]
    cases reshape statement schema with
    | ok after =>
      dsimp only
      rw [ih fun statement mem => apart statement (List.mem_cons_of_mem _ mem)]
      exact refill_frame (apart statement List.mem_cons_self) after rows
    | error failure => rfl

omit [DecidableEq ν] [DecidableEq V] in
theorem get_copied {columns : List (κ × κ)} {target source : κ}
    (listed : Dict.get target columns = some source) (row : Row κ V) :
    Dict.get target (columns.map fun pair => (pair.1, row pair.2)) = some (row source) := by
  induction columns with
  | nil => cases listed
  | cons pair rest ih =>
    rw [Dict.get_cons] at listed
    rw [List.map_cons, Dict.get_cons]
    split at listed
    · rename_i same
      obtain rfl := Option.some.inj listed
      rw [if_pos same]
    · rename_i apart
      rw [if_neg apart]
      exact ih listed

omit [DecidableEq V] in
/-- A copied column holds what its source column held. -/
theorem newRow_copied (schema : Schema ν κ V) (name : ν) {columns : List (κ × κ)}
    {target source : κ} (listed : Dict.get target columns = some source) (row : Row κ V) :
    schema.newRow name (columns.map fun pair => (pair.1, row pair.2)) target = row source := by
  unfold Schema.newRow
  rw [get_copied listed]

omit [DecidableEq V] in
/-- Columns added without a default are `NULL` in every row. -/
theorem map_nullColumns (names : List κ) (rows : List (Row κ V)) :
    names.foldl (fun rows name => rows.map fun row => Function.update row name none) rows =
      rows.map fun row column => if column ∈ names then none else row column := by
  induction names generalizing rows with
  | nil => simp
  | cons name rest ih =>
    rw [List.foldl_cons, ih, List.map_map]
    refine List.map_congr_left fun row _ => ?_
    funext column
    by_cases here : column = name
    · simp [here]
    · simp [here]

/-- A script that fits the schema and keeps the constraints runs. -/
theorem execAll_of {script : List (Statement ν κ V)} {db : Database ν κ V}
    {schema : Schema ν κ V} (shaped : reshapeAll script db.schema = .ok schema)
    (kept : keepsAll script db.schema db.rows = true) :
    execAll script db = .ok ⟨schema, refillAll script db.schema db.rows⟩ :=
  (execAll_ok_iff script db _).2 ⟨shaped, kept, rfl⟩

/-! ## Consistent databases -/

/-- The rows of a table keep its constraints, and its unique keys are made of its
own columns. -/
structure Sound (schema : Schema ν κ V) (name : ν) (table : Table κ V)
    (rows : List (Row κ V)) : Prop where
  admitted : ∀ row ∈ rows, table.admits row
  distinct : ∀ key ∈ schema.uniqueKeys name table,
    uniqueOn key.1 (rows.filter key.2.holds) = true
  within : ∀ key ∈ schema.uniqueKeys name table, ∀ column ∈ key.1 ++ key.2.columns,
    column ∈ table.columnNames

structure Consistent (db : Database ν κ V) : Prop where
  stored : ∀ name table, Dict.get name db.schema.tables = some table →
    Sound db.schema name table (db.rows name)
  absent : ∀ name, name ∉ Dict.keys db.schema.tables → db.rows name = []
  indexed : ∀ pair ∈ db.schema.indexes, pair.2.table ∈ Dict.keys db.schema.tables

omit [DecidableEq κ] in
theorem keysDistinct_iff (schema : Schema ν κ V) (name : ν) (table : Table κ V)
    (rows : List (Row κ V)) :
    schema.keysDistinct name table rows = true ↔
      ∀ key ∈ schema.uniqueKeys name table, uniqueOn key.1 (rows.filter key.2.holds) = true := by
  unfold Schema.keysDistinct
  rw [List.all_eq_true]

omit [DecidableEq κ] in
theorem uniqueOn_nil (columns : List κ) : uniqueOn columns ([] : List (Row κ V)) = true := by
  simp [uniqueOn]

omit [DecidableEq κ] in
theorem Sound.empty (schema : Schema ν κ V) (name : ν) (table : Table κ V)
    (within : ∀ key ∈ schema.uniqueKeys name table, ∀ column ∈ key.1 ++ key.2.columns,
      column ∈ table.columnNames) : Sound schema name table [] where
  admitted _ mem := absurd mem List.not_mem_nil
  distinct key _ := uniqueOn_nil key.1
  within := within

omit [DecidableEq κ] [DecidableEq V] in
/-- Only the indexes of a table decide its unique keys. -/
theorem uniqueKeys_congr {schema schema' : Schema ν κ V} {name : ν} (table : Table κ V)
    (same : (schema'.indexes.filter fun pair => pair.2.table = name) =
      schema.indexes.filter fun pair => pair.2.table = name) :
    schema'.uniqueKeys name table = schema.uniqueKeys name table := by
  have own : ∀ indexes : List (ν × Index ν κ V),
      (indexes.filterMap fun index =>
        if index.2.table = name ∧ index.2.unique = true then
          some (index.2.columns, index.2.filter) else none) =
      (indexes.filter fun pair => pair.2.table = name).filterMap fun index =>
        if index.2.table = name ∧ index.2.unique = true then
          some (index.2.columns, index.2.filter) else none := by
    intro indexes
    induction indexes with
    | nil => rfl
    | cons pair rest ih =>
      by_cases here : pair.2.table = name
      · rw [List.filter_cons_of_pos (by simpa using here), List.filterMap_cons,
          List.filterMap_cons, ih]
      · simp only [List.filterMap_cons, here, false_and, if_false]
        rw [List.filter_cons_of_neg (by simpa using here)]
        exact ih
  unfold Schema.uniqueKeys
  rw [own schema'.indexes, own schema.indexes, same]

omit [DecidableEq κ] in
theorem Sound.congr {schema schema' : Schema ν κ V} {name : ν} {table : Table κ V}
    {rows : List (Row κ V)} (sound : Sound schema name table rows)
    (same : (schema'.indexes.filter fun pair => pair.2.table = name) =
      schema.indexes.filter fun pair => pair.2.table = name) :
    Sound schema' name table rows where
  admitted := sound.admitted
  distinct := by
    rw [uniqueKeys_congr table same]
    exact sound.distinct
  within := by
    rw [uniqueKeys_congr table same]
    exact sound.within

omit [DecidableEq κ] in
theorem admits_of_accepts {table : Table κ V} {row : Row κ V}
    (outside : ∀ column, column ∉ table.columnNames → row column = none)
    (accepted : table.accepts row = true) : table.admits row := by
  unfold Table.accepts at accepted
  rw [Bool.and_eq_true, List.all_eq_true, List.all_eq_true] at accepted
  refine ⟨outside, fun column mem notNull => ?_, fun pair mem => ?_⟩
  · have checked := accepted.1 column mem
    simpa [notNull] using checked
  · exact of_decide_eq_true (accepted.2 pair mem)

omit [DecidableEq κ] in
theorem accepts_of_admits {table : Table κ V} {row : Row κ V} (admitted : table.admits row) :
    table.accepts row = true := by
  unfold Table.accepts
  rw [Bool.and_eq_true, List.all_eq_true, List.all_eq_true]
  constructor
  · intro column mem
    cases needed : column.notNull with
    | false => rfl
    | true => simp [admitted.2.1 column mem needed]
  · intro pair mem
    exact decide_eq_true (admitted.2.2 pair mem)

omit [DecidableEq κ] in
/-- Rows written under the check of their table. -/
theorem Consistent.rewritten {db : Database ν κ V} (consistent : Consistent db) {name : ν}
    {table : Table κ V} (stored : Dict.get name db.schema.tables = some table)
    {rows : List (Row κ V)}
    (outside : ∀ row ∈ rows, ∀ column, column ∉ table.columnNames → row column = none)
    (kept : (rows.all table.accepts && db.schema.keysDistinct name table rows) = true) :
    Consistent ⟨db.schema, Function.update db.rows name rows⟩ where
  stored other entry found := by
    by_cases same : other = name
    · subst same
      obtain rfl : entry = table := Option.some.inj (found.symm.trans stored)
      dsimp only
      rw [Function.update_self]
      rw [Bool.and_eq_true, List.all_eq_true, keysDistinct_iff] at kept
      have before := consistent.stored other entry found
      exact ⟨fun row mem => admits_of_accepts (outside row mem) (kept.1 row mem), kept.2,
        before.within⟩
    · dsimp only
      rw [Function.update_of_ne same]
      exact consistent.stored other entry found
  absent other missing := by
    have apart : other ≠ name := by
      intro same
      subst same
      rw [Dict.get_eq_none.2 missing] at stored
      cases stored
    dsimp only
    rw [Function.update_of_ne apart]
    exact consistent.absent other missing
  indexed := consistent.indexed

omit [DecidableEq V] in
theorem newRow_outside {schema : Schema ν κ V} {name : ν} {table : Table κ V}
    (stored : Dict.get name schema.tables = some table) {values : List (κ × Option V)}
    (named : ∀ pair ∈ values, pair.1 ∈ table.columnNames) {column : κ}
    (outside : column ∉ table.columnNames) : schema.newRow name values column = none := by
  have unnamed : Dict.get column values = none := by
    rw [Dict.get_eq_none]
    intro mem
    obtain ⟨pair, listed, same⟩ := List.mem_map.1 mem
    exact outside (same ▸ named pair listed)
  have noDefault : table.columns.find? (·.name = column) = none := by
    rw [List.find?_eq_none]
    intro entry mem same
    exact outside (List.mem_map.2 ⟨entry, mem, of_decide_eq_true same⟩)
  unfold Schema.newRow Table.defaultOf
  rw [unnamed, stored]
  simp [noDefault]

/-! ## What each statement keeps -/

theorem get_append_of_absent {α β : Type} [DecidableEq α] {key : α} {d : List (α × β)}
    (absent : key ∉ Dict.keys d) (value : β) (other : α) :
    Dict.get other (d ++ [(key, value)]) =
      if other = key then some value else Dict.get other d := by
  rw [← Dict.set_of_absent absent]
  split
  · rename_i same
    rw [same, Dict.get_set_self]
  · rename_i apart
    exact Dict.get_set_ne apart value d

omit [DecidableEq κ] in
theorem created_consistent {db : Database ν κ V} (consistent : Consistent db) {name : ν}
    {table : Table κ V} (fresh : name ∉ Dict.keys db.schema.tables)
    (within : ∀ column ∈ table.primaryKey ++ table.unique.flatten ++ table.check.map Prod.fst,
      column ∈ table.columnNames) :
    Consistent ⟨{ db.schema with tables := db.schema.tables ++ [(name, table)] },
      Function.update db.rows name []⟩ where
  stored other entry found := by
    dsimp only at found ⊢
    rw [get_append_of_absent fresh] at found
    by_cases same : other = name
    · subst same
      rw [if_pos rfl] at found
      obtain rfl : table = entry := Option.some.inj found
      rw [Function.update_self]
      -- no index can already be on a table that did not exist
      have noIndex : (db.schema.indexes.filter fun pair => pair.2.table = other) = [] := by
        rw [List.filter_eq_nil_iff]
        intro pair mem same
        exact fresh (of_decide_eq_true same ▸ consistent.indexed pair mem)
      refine Sound.empty _ _ _ fun key mem column inKey => ?_
      have plain : { db.schema with tables := db.schema.tables ++ [(other, table)] }.uniqueKeys
          other table = (Schema.mk [] [] : Schema ν κ V).uniqueKeys other table :=
        uniqueKeys_congr table noIndex
      rw [plain] at mem
      simp only [Schema.uniqueKeys, List.filterMap_nil, List.append_nil, List.mem_map] at mem
      obtain ⟨columns, listed, rfl⟩ := mem
      rw [List.mem_append] at inKey
      apply within
      rw [List.mem_append, List.mem_append]
      cases List.mem_cons.1 listed with
      | inl primary =>
        subst primary
        exact .inl (.inl (inKey.resolve_right List.not_mem_nil))
      | inr declared =>
        exact .inl (.inr (List.mem_flatten.2
          ⟨columns, declared, inKey.resolve_right List.not_mem_nil⟩))
    · rw [if_neg same] at found
      rw [Function.update_of_ne same]
      exact (consistent.stored other entry found).congr rfl
  absent other missing := by
    dsimp only at missing ⊢
    rw [Dict.keys_append, List.mem_append, not_or] at missing
    have apart : other ≠ name := fun same => missing.2 (by simp [same])
    rw [Function.update_of_ne apart]
    exact consistent.absent other missing.1
  indexed pair mem := by
    dsimp only at mem ⊢
    rw [Dict.keys_append]
    exact List.mem_append_left _ (consistent.indexed pair mem)

omit [DecidableEq κ] in
theorem indexed_consistent {db : Database ν κ V} (consistent : Consistent db) {name : ν}
    {index : Index ν κ V} {table : Table κ V}
    (stored : Dict.get index.table db.schema.tables = some table)
    (within : ∀ column ∈ index.columns ++ index.filter.columns, column ∈ table.columnNames)
    (distinct : { db.schema with
      indexes := db.schema.indexes ++ [(name, index)] }.keysDistinct index.table table
        (db.rows index.table) = true) :
    Consistent ⟨{ db.schema with indexes := db.schema.indexes ++ [(name, index)] },
      db.rows⟩ where
  stored other entry found := by
    dsimp only at found ⊢
    have before := consistent.stored other entry found
    by_cases same : index.table = other
    · subst same
      obtain rfl : table = entry := Option.some.inj (stored.symm.trans found)
      refine ⟨before.admitted, (keysDistinct_iff _ _ _ _).1 distinct, fun key mem => ?_⟩
      unfold Schema.uniqueKeys at mem
      rw [List.filterMap_append, ← List.append_assoc, List.mem_append] at mem
      cases mem with
      | inl old => exact before.within key old
      | inr new =>
        simp only [List.filterMap_cons, true_and, List.filterMap_nil] at new
        split at new
        · exact absurd new List.not_mem_nil
        · rename_i made
          split at made
          · obtain rfl := Option.some.inj made
            rw [List.mem_singleton] at new
            subst new
            exact within
          · cases made
    · apply before.congr
      dsimp only
      rw [List.filter_append, List.filter_cons_of_neg (by simpa using same), List.filter_nil,
        List.append_nil]
  absent := consistent.absent
  indexed pair mem := by
    cases List.mem_append.1 mem with
    | inl old => exact consistent.indexed pair old
    | inr new =>
      rw [List.mem_singleton] at new
      subst new
      by_contra missing
      rw [Dict.get_eq_none.2 missing] at stored
      cases stored

omit [DecidableEq κ] in
theorem dropped_consistent {db : Database ν κ V} (consistent : Consistent db) (name : ν) :
    Consistent ⟨⟨db.schema.tables.filter (·.1 ≠ name),
      db.schema.indexes.filter (·.2.table ≠ name)⟩, Function.update db.rows name []⟩ where
  stored other entry found := by
    dsimp only at found ⊢
    have apart : other ≠ name := by
      intro same
      subst same
      have popped : Dict.get other (Dict.pop other db.schema.tables) = some entry := found
      rw [Dict.get_pop_self] at popped
      cases popped
    have kept : Dict.get other (Dict.pop name db.schema.tables) = some entry := found
    rw [Dict.get_pop_ne apart] at kept
    rw [Function.update_of_ne apart]
    apply (consistent.stored other entry kept).congr
    dsimp only
    rw [List.filter_filter]
    refine List.filter_congr fun pair _ => ?_
    by_cases same : pair.2.table = other <;> simp [same, apart]
  absent other missing := by
    dsimp only at missing ⊢
    by_cases same : other = name
    · rw [same, Function.update_self]
    · rw [Function.update_of_ne same]
      apply consistent.absent
      intro mem
      apply missing
      have filtered : other ∈ Dict.keys (Dict.pop name db.schema.tables) := by
        rw [Dict.keys_pop, List.mem_filter]
        exact ⟨mem, decide_eq_true same⟩
      exact filtered
  indexed pair mem := by
    dsimp only at mem ⊢
    rw [List.mem_filter] at mem
    have filtered : pair.2.table ∈ Dict.keys (Dict.pop name db.schema.tables) := by
      rw [Dict.keys_pop, List.mem_filter]
      exact ⟨consistent.indexed pair mem.1, by simpa using mem.2⟩
    exact filtered

theorem get_renamed {α β : Type} [DecidableEq α] {name newName : α} {d : List (α × β)}
    (fresh : newName ∉ Dict.keys d) (other : α) :
    Dict.get other (d.map fun pair => if pair.1 = name then (newName, pair.2) else pair) =
      if other = newName then Dict.get name d
      else if other = name then none else Dict.get other d := by
  induction d with
  | nil => simp [Dict.get]
  | cons pair d ih =>
    rw [Dict.keys_cons, List.mem_cons, not_or] at fresh
    have rest := ih fresh.2
    rw [List.map_cons, Dict.get_cons, rest, Dict.get_cons, Dict.get_cons]
    by_cases here : pair.1 = name
    · grind
    · grind

omit [DecidableEq κ] [DecidableEq V] in
/-- The indexes of a renamed table are those it had under its old name. -/
theorem uniqueKeys_renamed {schema : Schema ν κ V} (name : ν) {newName : ν}
    (fresh : ∀ pair ∈ schema.indexes, pair.2.table ≠ newName) (table : Table κ V) (other : ν)
    (tables : List (ν × Table κ V)) :
    (Schema.mk tables (schema.indexes.map fun pair =>
        if pair.2.table = name then (pair.1, { pair.2 with table := newName }) else pair)).uniqueKeys
      other table =
      if other = newName then schema.uniqueKeys name table
      else if other = name then (Schema.mk tables []).uniqueKeys name table
      else schema.uniqueKeys other table := by
  have moved : ∀ indexes : List (ν × Index ν κ V), (∀ pair ∈ indexes, pair.2.table ≠ newName) →
      ((indexes.map fun pair =>
          if pair.2.table = name then (pair.1, { pair.2 with table := newName })
          else pair).filterMap fun index =>
        if index.2.table = other ∧ index.2.unique = true then
          some (index.2.columns, index.2.filter) else none) =
      if other = newName then
        indexes.filterMap fun index =>
          if index.2.table = name ∧ index.2.unique = true then
            some (index.2.columns, index.2.filter) else none
      else if other = name then []
      else indexes.filterMap fun index =>
        if index.2.table = other ∧ index.2.unique = true then
          some (index.2.columns, index.2.filter) else none := by
    intro indexes
    induction indexes with
    | nil => intro _; simp
    | cons pair rest ih =>
      intro fresh
      have here := fresh pair List.mem_cons_self
      have tail := ih fun pair mem => fresh pair (List.mem_cons_of_mem _ mem)
      rw [List.map_cons, List.filterMap_cons, tail, List.filterMap_cons, List.filterMap_cons]
      by_cases named : pair.2.table = name
      · by_cases new : other = newName
        · simp [named, new]
        · by_cases old : other = name
          · subst old
            simp [named, new, Ne.symm new]
          · simp [named, new, old, Ne.symm new, Ne.symm old]
      · by_cases new : other = newName
        · simp [named, new, here]
        · by_cases old : other = name
          · simp [named, old]
          · simp [named, new, old]
  unfold Schema.uniqueKeys
  rw [moved schema.indexes fresh]
  by_cases new : other = newName
  · simp [new]
  · by_cases old : other = name
    · subst old
      simp [new]
    · simp [new, old]

omit [DecidableEq κ] in
theorem renamed_consistent {db : Database ν κ V} (consistent : Consistent db)
    {name newName : ν} (there : name ∈ Dict.keys db.schema.tables)
    (fresh : newName ∉ Dict.keys db.schema.tables) :
    Consistent ⟨⟨db.schema.tables.map fun pair =>
        if pair.1 = name then (newName, pair.2) else pair,
      db.schema.indexes.map fun pair =>
        if pair.2.table = name then (pair.1, { pair.2 with table := newName }) else pair⟩,
      Function.update (Function.update db.rows newName (db.rows name)) name []⟩ := by
  have apart : newName ≠ name := fun same => fresh (same ▸ there)
  have noIndex : ∀ pair ∈ db.schema.indexes, pair.2.table ≠ newName :=
    fun pair mem same => fresh (same ▸ consistent.indexed pair mem)
  have tableKeys : ∀ other, other ∈ Dict.keys (db.schema.tables.map fun pair =>
      if pair.1 = name then (newName, pair.2) else pair) ↔
      other = newName ∨ other ≠ name ∧ other ∈ Dict.keys db.schema.tables := by
    intro other
    rw [← not_iff_not, ← Dict.get_eq_none, get_renamed fresh]
    by_cases new : other = newName
    · simp [new, Dict.get_eq_none, there]
    · by_cases old : other = name
      · simp [old, Ne.symm apart]
      · simp [new, old, Dict.get_eq_none]
  refine ⟨fun other entry found => ?_, fun other missing => ?_, fun pair mem => ?_⟩
  · dsimp only at found ⊢
    rw [get_renamed fresh] at found
    by_cases new : other = newName
    · rw [if_pos new] at found
      have before := consistent.stored name entry found
      have moved := uniqueKeys_renamed name noIndex entry newName
        (db.schema.tables.map fun pair => if pair.1 = name then (newName, pair.2) else pair)
      rw [if_pos rfl] at moved
      rw [new, Function.update_of_ne apart, Function.update_self]
      exact ⟨before.admitted, moved ▸ before.distinct, moved ▸ before.within⟩
    · rw [if_neg new] at found
      by_cases old : other = name
      · rw [if_pos old] at found
        cases found
      · rw [if_neg old] at found
        have before := consistent.stored other entry found
        have moved := uniqueKeys_renamed name noIndex entry other
          (db.schema.tables.map fun pair => if pair.1 = name then (newName, pair.2) else pair)
        rw [if_neg new, if_neg old] at moved
        rw [Function.update_of_ne old, Function.update_of_ne new]
        exact ⟨before.admitted, moved ▸ before.distinct, moved ▸ before.within⟩
  · dsimp only at missing ⊢
    rw [tableKeys, not_or, not_and_or, not_not] at missing
    by_cases old : other = name
    · rw [old, Function.update_self]
    · rw [Function.update_of_ne old, Function.update_of_ne missing.1]
      exact consistent.absent other (missing.2.resolve_left old)
  · dsimp only at mem ⊢
    rw [tableKeys]
    obtain ⟨index, listed, rfl⟩ := List.mem_map.1 mem
    by_cases here : index.2.table = name
    · left
      simp [here]
    · right
      rw [if_neg here]
      exact ⟨here, consistent.indexed index listed⟩

theorem widened_consistent {db : Database ν κ V} (consistent : Consistent db) {name : ν}
    {table : Table κ V} (stored : Dict.get name db.schema.tables = some table)
    {column : Column κ V} (fresh : column.name ∉ table.columnNames)
    (nullable : ¬(column.notNull = true ∧ column.default = none)) :
    Consistent ⟨{ db.schema with
        tables := Dict.set name { table with columns := table.columns ++ [column] }
          db.schema.tables },
      Function.update db.rows name
        ((db.rows name).map fun row => Function.update row column.name column.default)⟩ where
  stored other entry found := by
    dsimp only at found ⊢
    by_cases same : other = name
    · subst same
      rw [Dict.get_set_self] at found
      obtain rfl := Option.some.inj found
      rw [Function.update_self]
      have before := consistent.stored other table stored
      -- no key of the table mentions the new column
      have apart : ∀ key ∈ db.schema.uniqueKeys other table,
          ∀ used ∈ key.1 ++ key.2.columns, used ≠ column.name :=
        fun key mem used inKey same => fresh (same ▸ before.within key mem used inKey)
      refine ⟨fun row mem => ?_, fun key mem => ?_, fun key mem used inKey => ?_⟩
      · obtain ⟨old, listed, rfl⟩ := List.mem_map.1 mem
        have admitted := before.admitted old listed
        refine ⟨fun used outside => ?_, fun entry mem notNull => ?_, fun pair mem => ?_⟩
        · simp only [Table.columnNames, List.map_append, List.map_cons, List.map_nil,
            List.mem_append, List.mem_singleton, not_or] at outside
          rw [Function.update_of_ne outside.2]
          exact admitted.1 used outside.1
        · cases List.mem_append.1 mem with
          | inl declared =>
            have inTable : entry.name ∈ table.columnNames := List.mem_map.2 ⟨entry, declared, rfl⟩
            have other : entry.name ≠ column.name := fun same => fresh (same ▸ inTable)
            rw [Function.update_of_ne other]
            exact admitted.2.1 entry declared notNull
          | inr new =>
            rw [List.mem_singleton] at new
            subst new
            rw [Function.update_self, Option.isSome_iff_ne_none]
            exact fun absent => nullable ⟨notNull, absent⟩
        · rw [Function.update_of_ne]
          · exact admitted.2.2 pair mem
          · intro same
            have held := admitted.2.2 pair mem
            rw [same, admitted.1 column.name fresh] at held
            cases held
      · have unchanged := before.distinct key mem
        have filtered : ((db.rows other).map fun row =>
              Function.update row column.name column.default).filter key.2.holds =
            ((db.rows other).filter key.2.holds).map fun row =>
              Function.update row column.name column.default := by
          rw [List.filter_map]
          congr 1
          refine List.filter_congr fun row _ => ?_
          have inFilter := fun used mem' => apart key mem used (List.mem_append_right _ mem')
          cases shape : key.2 with
          | all => rfl
          | isNull used =>
            rw [shape] at inFilter
            simp [Filter.holds, Function.update_of_ne (inFilter used List.mem_cons_self)]
          | isIn used values =>
            rw [shape] at inFilter
            simp [Filter.holds, Function.update_of_ne (inFilter used List.mem_cons_self)]
        have sameKeys : ∀ row : Row κ V,
            keyOf key.1 (Function.update row column.name column.default) = keyOf key.1 row := by
          intro row
          have inKey := fun used mem' => apart key mem used (List.mem_append_left _ mem')
          unfold keyOf
          generalize key.1 = columns at inKey
          induction columns with
          | nil => rfl
          | cons used rest ih =>
            rw [List.mapM_cons, List.mapM_cons,
              Function.update_of_ne (inKey used List.mem_cons_self),
              ih fun used mem => inKey used (List.mem_cons_of_mem _ mem)]
        unfold uniqueOn at unchanged ⊢
        rw [filtered, List.filterMap_map]
        simpa [Function.comp_def, sameKeys] using unchanged
      · have old := before.within key mem used inKey
        simp only [Table.columnNames, List.map_append, List.mem_append]
        exact .inl old
    · rw [Dict.get_set_ne same] at found
      rw [Function.update_of_ne same]
      exact (consistent.stored other entry found).congr rfl
  absent other missing := by
    dsimp only at missing ⊢
    have there : name ∈ Dict.keys db.schema.tables := by
      by_contra missing
      rw [Dict.get_eq_none.2 missing] at stored
      cases stored
    rw [Dict.keys_set, if_pos there] at missing
    have apart : other ≠ name := fun same => missing (same ▸ there)
    rw [Function.update_of_ne apart]
    exact consistent.absent other missing
  indexed pair mem := by
    dsimp only at mem ⊢
    have listed := consistent.indexed pair mem
    rw [Dict.keys_set]
    split
    · exact listed
    · exact List.mem_append_left _ listed

/-- Every statement keeps a database consistent. -/
theorem exec_consistent {statement : Statement ν κ V} {db after : Database ν κ V}
    (consistent : Consistent db) (ran : exec statement db = .ok after) : Consistent after := by
  unfold exec at ran
  split at ran
  · cases ran
  rename_i schema shaped
  dsimp only at ran
  split at ran
  case isFalse => cases ran
  rename_i kept
  obtain rfl := Except.ok.inj ran
  cases statement with
  | createTable name table =>
    simp only [reshape] at shaped
    split at shaped
    · cases shaped
    rename_i fresh
    split at shaped
    · cases shaped
    split at shaped
    · rename_i within
      obtain rfl := Except.ok.inj shaped
      rw [List.all_eq_true] at within
      exact created_consistent consistent fresh fun column mem => by simpa using within column mem
    · cases shaped
  | createIndex name index =>
    simp only [reshape] at shaped
    split at shaped
    · cases shaped
    split at shaped
    · cases shaped
    rename_i table stored
    split at shaped
    · rename_i within
      obtain rfl := Except.ok.inj shaped
      rw [List.all_eq_true] at within
      simp only [keeps, refill, stored, Bool.and_eq_true] at kept
      exact indexed_consistent consistent stored (fun column mem => by simpa using within column mem)
        kept.2
    · cases shaped
  | dropTable name =>
    simp only [reshape] at shaped
    split at shaped
    · obtain rfl := Except.ok.inj shaped
      exact dropped_consistent consistent name
    · cases shaped
  | renameTable name newName =>
    simp only [reshape] at shaped
    split at shaped
    · cases shaped
    rename_i there
    split at shaped
    · cases shaped
    rename_i fresh
    obtain rfl := Except.ok.inj shaped
    exact renamed_consistent consistent (not_not.1 there) fresh
  | addColumn name column =>
    simp only [reshape] at shaped
    split at shaped
    · cases shaped
    rename_i table stored
    split at shaped
    · cases shaped
    rename_i fresh
    split at shaped
    · cases shaped
    rename_i nullable
    obtain rfl := Except.ok.inj shaped
    exact widened_consistent consistent stored fresh nullable
  | copyRows target source columns =>
    simp only [reshape] at shaped
    split at shaped
    · rename_i into from' intoStored _
      split at shaped
      · rename_i named
        obtain rfl := Except.ok.inj shaped
        rw [List.all_eq_true] at named
        simp only [keeps, refill, intoStored, Function.update_self] at kept
        refine consistent.rewritten intoStored (fun row mem => ?_) kept
        cases List.mem_append.1 mem with
        | inl old => exact ((consistent.stored target into intoStored).admitted row old).1
        | inr new =>
          obtain ⟨original, _, rfl⟩ := List.mem_map.1 new
          intro column outside
          refine newRow_outside intoStored (fun pair listed => ?_) outside
          obtain ⟨entry, inColumns, rfl⟩ := List.mem_map.1 listed
          have both := named entry inColumns
          rw [Bool.and_eq_true] at both
          simpa using both.1
      · cases shaped
    · cases shaped
  | insert name values =>
    simp only [reshape] at shaped
    split at shaped
    · cases shaped
    rename_i table stored
    split at shaped
    · rename_i named
      obtain rfl := Except.ok.inj shaped
      rw [List.all_eq_true] at named
      simp only [keeps, refill, stored, Function.update_self] at kept
      refine consistent.rewritten stored (fun row mem => ?_) kept
      cases List.mem_append.1 mem with
      | inl old => exact ((consistent.stored name table stored).admitted row old).1
      | inr new =>
        rw [List.mem_singleton] at new
        subst new
        intro column outside
        exact newRow_outside stored (fun pair listed => by simpa using named pair listed) outside
    · cases shaped
  | update name column source present =>
    simp only [reshape] at shaped
    split at shaped
    · cases shaped
    rename_i table stored
    split at shaped
    · rename_i named
      obtain rfl := Except.ok.inj shaped
      rw [List.all_eq_true] at named
      simp only [keeps, refill, stored, Function.update_self] at kept
      refine consistent.rewritten stored (fun row mem used outside => ?_) kept
      obtain ⟨original, listed, rfl⟩ := List.mem_map.1 mem
      have before := ((consistent.stored name table stored).admitted original listed).1
      split
      · have declared : column ∈ table.columnNames := by
          simpa using named column List.mem_cons_self
        have other : used ≠ column := fun same => outside (same ▸ declared)
        rw [Function.update_of_ne other]
        exact before used outside
      · exact before used outside
    · cases shaped

theorem execAll_consistent {script : List (Statement ν κ V)} {db after : Database ν κ V}
    (consistent : Consistent db) (ran : execAll script db = .ok after) : Consistent after := by
  induction script generalizing db with
  | nil =>
    obtain rfl := Except.ok.inj ran
    exact consistent
  | cons statement rest ih =>
    rw [execAll] at ran
    split at ran
    · rename_i mid first
      exact ih (exec_consistent consistent first) ran
    · cases ran

end

end EvoBlue.Kernel.Relational
