import EvoBlue.Source.IndexEffects

/-!
# What the issue functions do

An issue is open on a path under a code. Recording one opens that issue and no
other, resolving one closes it and no other, and neither touches documents, index
rows or the rebuild state.
-/

namespace EvoBlue.Source

open EvoBlue.Kernel

namespace IndexDb

/-- An open issue of this code on this path. -/
def HasOpen (db : IndexDb) (code : IssueCode) (path : Text) : Prop :=
  ∃ row ∈ db.issues, row.isOpen code path = true

end IndexDb

/-- What recording or resolving issues may change. -/
structure IssueEffect (db after : IndexDb) : Prop where
  same : db.SameIndex after
  status : after.status = db.status

theorem IssueEffect.rfl {db : IndexDb} : IssueEffect db db := ⟨.rfl, Eq.refl _⟩

theorem IssueEffect.trans {db middle after : IndexDb} (first : IssueEffect db middle)
    (last : IssueEffect middle after) : IssueEffect db after :=
  ⟨first.same.trans last.same, last.status.trans first.status⟩

theorem bindPath_bind_run {α : Type} (path : Text) (next : Unit → IndexScript α) (db : IndexDb) :
    (bindTexts [path] >>= next).run db =
      if Encodable path then (next ()).run db else (.error .unicodeEncodeError, db) := by
  rw [bindTexts_bind_run]
  by_cases encodable : Encodable path
  · rw [if_pos encodable, if_pos (by simpa using encodable)]
  · rw [if_neg encodable, if_neg (by simpa using encodable)]

namespace IndexDb

/-- The database after an open issue was refreshed or a new one inserted. -/
def recorded (db : IndexDb) (code : IssueCode) (path : Text) (now : Time) : IndexDb :=
  match db.issues.find? fun row => row.isOpen code path with
  | some found =>
    { db with
      issues := db.issues.map fun row =>
        if row.id = found.id then { row with lastSeenAt := now } else row }
  | none =>
    { db with
      issues := db.issues ++
        [{ id := db.nextIssueId, issueCode := code, relativePath := path, firstSeenAt := now,
           lastSeenAt := now }]
      nextIssueId := db.nextIssueId + 1 }

/-- The database after the rows that satisfy `closes` were resolved. -/
def resolved (db : IndexDb) (closes : IssueRow → Bool) (now : Time) : IndexDb :=
  { db with
    issues := db.issues.map fun row =>
      if closes row then { row with resolvedAt := some now } else row }

theorem recorded_effect (db : IndexDb) (code : IssueCode) (path : Text) (now : Time) :
    IssueEffect db (db.recorded code path now) := by
  unfold recorded
  split <;> exact ⟨⟨rfl, rfl, rfl⟩, rfl⟩

/-- Recording an issue opens that issue and no other. -/
theorem recorded_open {db : IndexDb} {code otherCode : IssueCode} {path otherPath : Text}
    {now : Time} :
    (db.recorded code path now).HasOpen otherCode otherPath ↔
      db.HasOpen otherCode otherPath ∨ (otherCode = code ∧ otherPath = path) := by
  unfold recorded HasOpen
  split
  next found hit =>
    have sameOpen : ∀ row : IssueRow,
        (if row.id = found.id then { row with lastSeenAt := now } else row : IssueRow).isOpen
          otherCode otherPath = row.isOpen otherCode otherPath := by
      intro row
      split <;> rfl
    simp only [List.mem_map, exists_exists_and_eq_and, sameOpen]
    constructor
    · exact .inl
    · rintro (isOpen | ⟨rfl, rfl⟩)
      · exact isOpen
      · exact ⟨found, List.mem_of_find?_eq_some hit, by simpa using List.find?_some hit⟩
  next =>
    simp only [List.mem_append, List.mem_singleton, or_and_right, exists_or, exists_eq_left]
    apply or_congr Iff.rfl
    simp only [IssueRow.isOpen, Option.isNone_none, Bool.and_true, Bool.and_eq_true,
      decide_eq_true_eq]
    exact and_congr eq_comm eq_comm

theorem resolved_effect (db : IndexDb) (closes : IssueRow → Bool) (now : Time) :
    IssueEffect db (db.resolved closes now) := ⟨⟨rfl, rfl, rfl⟩, rfl⟩

theorem resolved_none {db : IndexDb} {closes : IssueRow → Bool} (now : Time)
    (untouched : ∀ row ∈ db.issues, closes row = false) : db.resolved closes now = db := by
  have same : db.issues.map (fun row =>
      if closes row then { row with resolvedAt := some now } else row) = db.issues.map id :=
    List.map_congr_left fun row mem => by simp [untouched row mem]
  unfold resolved
  rw [same, List.map_id]

/-- What resolving leaves open. -/
theorem resolved_open {db : IndexDb} {closes : IssueRow → Bool} {now : Time} {code : IssueCode}
    {path : Text} :
    (db.resolved closes now).HasOpen code path ↔
      ∃ row ∈ db.issues, row.isOpen code path = true ∧ closes row = false := by
  constructor
  · rintro ⟨row, mem, rowOpen⟩
    obtain ⟨old, memOld, rfl⟩ := List.mem_map.1 mem
    split at rowOpen
    next => simp [IssueRow.isOpen] at rowOpen
    next apart => exact ⟨old, memOld, rowOpen, by simpa using apart⟩
  · rintro ⟨row, mem, rowOpen, apart⟩
    exact ⟨row, List.mem_map.2 ⟨row, mem, if_neg (by simp [apart])⟩, rowOpen⟩

/-- The ids of issues are unique and below the next one. -/
structure IssuesFormed (db : IndexDb) : Prop where
  ids : (db.issues.map (·.id)).Nodup
  fresh : ∀ row ∈ db.issues, row.id < db.nextIssueId

theorem issuesFormed_empty : ({} : IndexDb).IssuesFormed := by
  constructor <;> simp

theorem IssuesFormed.of_issues {db after : IndexDb} (formed : db.IssuesFormed)
    (issues : after.issues = db.issues) (next : after.nextIssueId = db.nextIssueId) :
    after.IssuesFormed := by
  constructor
  · rw [issues]
    exact formed.ids
  · rw [issues, next]
    exact formed.fresh

theorem IssuesFormed.recorded {db : IndexDb} (formed : db.IssuesFormed) (code : IssueCode)
    (path : Text) (now : Time) : (db.recorded code path now).IssuesFormed := by
  unfold IndexDb.recorded
  split
  next found _ =>
    have sameId : ∀ row : IssueRow,
        (if row.id = found.id then { row with lastSeenAt := now } else row : IssueRow).id =
          row.id := by
      intro row
      split <;> rfl
    constructor
    · simp only [List.map_map, Function.comp_def, sameId]
      exact formed.ids
    · intro row mem
      obtain ⟨old, memOld, rfl⟩ := List.mem_map.1 mem
      rw [sameId]
      exact formed.fresh old memOld
  next =>
    constructor
    · simp only [List.map_append, List.map_cons, List.map_nil]
      refine List.nodup_append.2 ⟨formed.ids, by simp, ?_⟩
      intro a memA b memB
      obtain ⟨row, mem, rfl⟩ := List.mem_map.1 memA
      rw [List.mem_singleton.1 memB]
      exact Nat.ne_of_lt (formed.fresh row mem)
    · intro row mem
      rcases List.mem_append.1 mem with old | new
      · exact Nat.lt_succ_of_lt (formed.fresh row old)
      · rw [List.mem_singleton.1 new]
        exact Nat.lt_succ_self _

theorem IssuesFormed.resolved {db : IndexDb} (formed : db.IssuesFormed)
    (closes : IssueRow → Bool) (now : Time) : (db.resolved closes now).IssuesFormed := by
  have sameId : ∀ row : IssueRow,
      (if closes row then { row with resolvedAt := some now } else row : IssueRow).id = row.id := by
    intro row
    split <;> rfl
  constructor
  · unfold IndexDb.resolved
    simp only [List.map_map, Function.comp_def, sameId]
    exact formed.ids
  · intro row mem
    obtain ⟨old, memOld, rfl⟩ := List.mem_map.1 mem
    rw [sameId]
    exact formed.fresh old memOld

/-- The rows `resolve_index_issue` closes. -/
def closesIssue (db : IndexDb) (code : IssueCode) (path : Text) (row : IssueRow) : Bool :=
  (db.issues.filter fun other => other.isOpen code path).any fun other => other.id = row.id

/-- Resolving one issue closes it and leaves the others. -/
theorem IssuesFormed.resolved_issue {db : IndexDb} (formed : db.IssuesFormed)
    {code otherCode : IssueCode} {path otherPath : Text} {now : Time} :
    (db.resolved (db.closesIssue code path) now).HasOpen otherCode otherPath ↔
      db.HasOpen otherCode otherPath ∧ ¬(otherCode = code ∧ otherPath = path) := by
  rw [resolved_open]
  constructor
  · rintro ⟨row, mem, rowOpen, apart⟩
    refine ⟨⟨row, mem, rowOpen⟩, ?_⟩
    rintro ⟨rfl, rfl⟩
    rw [closesIssue, List.any_eq_false] at apart
    exact apart row (List.mem_filter.2 ⟨mem, rowOpen⟩) (by simp)
  · rintro ⟨⟨row, mem, rowOpen⟩, apart⟩
    refine ⟨row, mem, rowOpen, ?_⟩
    rw [closesIssue, List.any_eq_false]
    intro other memOther same
    obtain ⟨memIssues, otherOpen⟩ := List.mem_filter.1 memOther
    have one := List.inj_on_of_nodup_map formed.ids memIssues mem (by simpa using same)
    rw [one] at otherOpen
    simp only [IssueRow.isOpen, Bool.and_eq_true, decide_eq_true_eq] at rowOpen otherOpen
    exact apart ⟨rowOpen.1.1.symm.trans otherOpen.1.1, rowOpen.1.2.symm.trans otherOpen.1.2⟩

end IndexDb

theorem recordIndexIssue_run (code : IssueCode) (path : Text) (now : Time) (db : IndexDb) :
    ∃ id, (recordIndexIssue code path now).run db =
      if Encodable path then (.ok id, db.recorded code path now)
      else (.error .unicodeEncodeError, db) := by
  unfold recordIndexIssue IndexDb.recorded
  rw [bindPath_bind_run]
  simp only [Script.read_bind_run]
  cases db.issues.find? fun row => row.isOpen code path with
  | some found => exact ⟨found.id, if_congr Iff.rfl rfl rfl⟩
  | none => exact ⟨db.nextIssueId, if_congr Iff.rfl rfl rfl⟩

theorem resolveIndexIssue_run (code : IssueCode) (path : Text) (now : Time) (db : IndexDb) :
    ∃ count, (resolveIndexIssue code path now).run db =
      if Encodable path then (.ok count, db.resolved (db.closesIssue code path) now)
      else (.error .unicodeEncodeError, db) := by
  unfold resolveIndexIssue IndexDb.closesIssue
  rw [bindPath_bind_run]
  simp only [Script.read_bind_run]
  cases none : (db.issues.filter fun row => row.isOpen code path).isEmpty with
  | true =>
    refine ⟨0, if_congr Iff.rfl ?_ rfl⟩
    rw [List.isEmpty_iff.1 none, IndexDb.resolved_none now fun row _ => List.any_nil]
    rfl
  | false =>
    refine ⟨(db.issues.filter fun row => row.isOpen code path).length, if_congr Iff.rfl ?_ rfl⟩
    rfl

/-! ## The sweep -/

theorem prepareVariables_bind_run {α : Type} (maxVariables count : Nat)
    (next : Unit → IndexScript α) (db : IndexDb) :
    (prepareVariables maxVariables count >>= next).run db =
      if count ≤ maxVariables then (next ()).run db else (.error .operationalError, db) := by
  unfold prepareVariables
  split <;> rfl

/-- The sweep can bind the paths. The UPDATE needs one parameter more, and runs only when an
issue is open on another path. -/
structure BindsPaths (maxVariables : Nat) (paths : List Text) (db : IndexDb) : Prop where
  few : paths.length ≤ maxVariables
  spare : ∀ code path, db.HasOpen code path → path ∉ paths → paths.length < maxVariables
  encodable : ∀ t ∈ paths, Encodable t

/-- The rows the sweep closes. -/
def sweeps (paths : List Text) (row : IssueRow) : Bool :=
  row.resolvedAt.isNone && !paths.contains row.relativePath

theorem sweeps_iff {paths : List Text} {row : IssueRow} :
    sweeps paths row = true ↔
      row.isOpen row.issueCode row.relativePath = true ∧ row.relativePath ∉ paths := by
  simp [sweeps, IssueRow.isOpen]

theorem resolveIssuesForAbsentPaths_eq (maxVariables : Nat) (paths : List Text) (now : Time)
    (db : IndexDb) :
    (resolveIssuesForAbsentPaths maxVariables paths now).run db =
      if paths.length ≤ maxVariables then
        if ∀ t ∈ paths, Encodable t then
          if (db.issues.filter (sweeps paths)).isEmpty = true then (.ok 0, db)
          else if paths.length + 1 ≤ maxVariables then
            (.ok (db.issues.filter (sweeps paths)).length, db.resolved (sweeps paths) now)
          else (.error .operationalError, db)
        else (.error .unicodeEncodeError, db)
      else (.error .operationalError, db) := by
  unfold resolveIssuesForAbsentPaths
  rw [prepareVariables_bind_run, bindTexts_bind_run, Script.read_bind_run]
  change _ = ite _ (ite _ (ite ((db.issues.filter fun row =>
    row.resolvedAt.isNone && !paths.contains row.relativePath).isEmpty = true) _ _) _) _
  refine if_congr Iff.rfl (if_congr Iff.rfl ?_ rfl) rfl
  dsimp only
  split
  next => rfl
  next =>
    rw [prepareVariables_bind_run]
    rfl

/-- The sweep returns exactly when it can bind the paths. -/
theorem resolveIssuesForAbsentPaths_run (maxVariables : Nat) (paths : List Text) (now : Time)
    (db : IndexDb) :
    (BindsPaths maxVariables paths db →
      ∃ count, (resolveIssuesForAbsentPaths maxVariables paths now).run db =
        (.ok count, db.resolved (sweeps paths) now)) ∧
    (¬ BindsPaths maxVariables paths db →
      ∃ raised, (resolveIssuesForAbsentPaths maxVariables paths now).run db =
        (.error raised, db)) := by
  rw [resolveIssuesForAbsentPaths_eq]
  by_cases few : paths.length ≤ maxVariables
  swap
  · rw [if_neg few]
    exact ⟨fun binds => absurd binds.few few, fun _ => ⟨_, rfl⟩⟩
  rw [if_pos few]
  by_cases encodable : ∀ t ∈ paths, Encodable t
  swap
  · rw [if_neg encodable]
    exact ⟨fun binds => absurd binds.encodable encodable, fun _ => ⟨_, rfl⟩⟩
  rw [if_pos encodable]
  by_cases none : db.issues.filter (sweeps paths) = []
  · have untouched := List.filter_eq_nil_iff.1 none
    rw [if_pos (List.isEmpty_iff.2 none)]
    refine ⟨fun _ => ⟨0, ?_⟩, fun cannot => absurd ⟨few, ?_, encodable⟩ cannot⟩
    · rw [IndexDb.resolved_none now fun row mem => Bool.eq_false_iff.2 (untouched row mem)]
    · rintro code path ⟨row, mem, isOpen⟩ absent
      simp only [IssueRow.isOpen, Bool.and_eq_true, decide_eq_true_eq] at isOpen
      refine absurd (sweeps_iff.2 ⟨?_, ?_⟩) (untouched row mem)
      · simp [IssueRow.isOpen, isOpen.2]
      · rw [isOpen.1.2]
        exact absent
  · obtain ⟨row, mem⟩ := List.exists_mem_of_ne_nil _ none
    obtain ⟨mem, swept⟩ := List.mem_filter.1 mem
    rw [if_neg fun empty => none (List.isEmpty_iff.1 empty)]
    by_cases room : paths.length + 1 ≤ maxVariables
    · rw [if_pos room]
      exact ⟨fun _ => ⟨_, rfl⟩, fun cannot => absurd ⟨few, fun _ _ _ _ => room, encodable⟩ cannot⟩
    · rw [if_neg room]
      obtain ⟨isOpen, absent⟩ := sweeps_iff.1 swept
      exact ⟨fun binds => absurd (binds.spare _ _ ⟨row, mem, isOpen⟩ absent) room,
        fun _ => ⟨_, rfl⟩⟩

theorem resolveIssuesForAbsentPaths_returned {maxVariables : Nat} {paths : List Text} {now : Time}
    {db after : IndexDb} {count : Nat}
    (ran : (resolveIssuesForAbsentPaths maxVariables paths now).run db = (.ok count, after)) :
    after = db.resolved (sweeps paths) now := by
  obtain ⟨returns, raises⟩ := resolveIssuesForAbsentPaths_run maxVariables paths now db
  by_cases binds : BindsPaths maxVariables paths db
  · obtain ⟨_, returned⟩ := returns binds
    rw [ran] at returned
    exact congrArg Prod.snd returned
  · obtain ⟨_, error⟩ := raises binds
    rw [ran] at error
    cases congrArg Prod.fst error

end EvoBlue.Source
