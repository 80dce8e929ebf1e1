import EvoBlue.Source.TrashedModels

/-!
# Uninstalling and crashing

Whatever an uninstall leaves behind, the files of the model are in its directory, or in the
trash while its record is still there, or nobody has them and the record is gone. The clean-up
restores from the trash what comes first by name; names there are random, so this is the copy
that was moved last only where no earlier leftover sorts before it.
-/

namespace EvoBlue.Guarantees

open EvoBlue.Kernel EvoBlue.Source

/-- The model is installed as it was, or gone without a trace. -/
def Whole (files : FileTree) (shelf : ModelShelf) : Prop :=
  (shelf.record = true ∧ shelf.directory = some files) ∨
    (shelf.record = false ∧ shelf.directory = none ∧ shelf.trash = [])

/-- The record is there and the directory is not. -/
def Stranded (shelf : ModelShelf) : Prop := shelf.record = true ∧ shelf.directory = none

/-- The directory first by name in the trash. -/
def IsFirst (trash : List (Text × FileTree)) (entry : Text × FileTree) : Prop :=
  entry ∈ trash ∧ ∀ other ∈ trash, entry.1 ≤ other.1

/-- The directory was moved under this name, and the rest was in the trash before. -/
def MovedAs (files : FileTree) (earlier : List (Text × FileTree)) (shelf : ModelShelf)
    (name : Text) : Prop :=
  (name, files) ∈ shelf.trash ∧ ∀ entry ∈ shelf.trash, entry.1 ≠ name → entry ∈ earlier

/-- What a history of uninstalls comes to. -/
structure Accounted (files : FileTree) (earlier : List (Text × FileTree)) (shelf : ModelShelf) :
    Prop where
  distinct : (shelf.trash.map (·.1)).Nodup
  kept : (shelf.record = true ∧ shelf.directory = some files ∧ ∀ entry ∈ shelf.trash, entry ∈ earlier) ∨
    (Stranded shelf ∧ ∃ name, MovedAs files earlier shelf name) ∨
    (shelf.record = false ∧ shelf.directory = none)

/-- What an uninstall has done where it stands. -/
def StandsAt (files : FileTree) (earlier : List (Text × FileTree)) (shelf : ModelShelf) :
    UninstallPosition → Prop
  | .deleting none => shelf.directory = none
  | .deleting (some name) => Stranded shelf ∧ MovedAs files earlier shelf name
  | .restoring name => Stranded shelf ∧ MovedAs files earlier shelf name
  | .reclaiming _ => shelf.record = false ∧ shelf.directory = none
  | _ => True

structure OnItsWay (files : FileTree) (earlier : List (Text × FileTree))
    (state : ModelShelf × UninstallPosition) : Prop where
  accounted : Accounted files earlier state.1
  placed : StandsAt files earlier state.1 state.2

section

variable {files : FileTree} {earlier : List (Text × FileTree)} {shelf : ModelShelf}

/-! ## Steps of an uninstall -/

theorem entry_of_name {trash : List (Text × FileTree)} (distinct : (trash.map (·.1)).Nodup)
    {entry other : Text × FileTree} (mem : entry ∈ trash) (memOther : other ∈ trash)
    (same : entry.1 = other.1) : entry = other :=
  List.inj_on_of_nodup_map distinct mem memOther same

theorem names_filter_nodup {trash : List (Text × FileTree)} (distinct : (trash.map (·.1)).Nodup)
    (kept : Text × FileTree → Bool) : ((trash.filter kept).map (·.1)).Nodup :=
  distinct.sublist (List.filter_sublist.map _)

theorem putTrash_nodup {trash : List (Text × FileTree)} (distinct : (trash.map (·.1)).Nodup)
    (name : Text) (files : FileTree) : ((putTrash trash name files).map (·.1)).Nodup := by
  unfold putTrash
  rw [List.map_append, List.nodup_append]
  refine ⟨names_filter_nodup distinct _, by simp, ?_⟩
  intro other memOther last memLast
  obtain ⟨entry, mem, rfl⟩ := List.mem_map.mp memOther
  have differs := (List.mem_filter.mp mem).2
  have same : last = name := by simpa using memLast
  rw [same]
  simpa using differs

theorem reclaimTrash_nodup {trash : List (Text × FileTree)} (distinct : (trash.map (·.1)).Nodup)
    (leaves : Text → Option (String → Bool)) :
    ((reclaimTrash leaves trash).map (·.1)).Nodup := by
  have among : ((reclaimTrash leaves trash).map (·.1)).Sublist (trash.map (·.1)) := by
    unfold reclaimTrash
    clear distinct
    induction trash with
    | nil => exact List.Sublist.refl _
    | cons entry trash ih =>
      cases left : leaves entry.1 with
      | none =>
        rw [List.filterMap_cons_none (by rw [left]; rfl)]
        exact ih.cons _
      | some keep =>
        rw [List.filterMap_cons_some (by rw [left]; rfl)]
        exact ih.cons_cons _
  exact distinct.sublist among

theorem moved_putTrash {shelf : ModelShelf} (known : ∀ entry ∈ shelf.trash, entry ∈ earlier)
    (name : Text) : MovedAs files earlier
      { shelf with directory := none, trash := putTrash shelf.trash name files } name := by
  constructor
  · simp [putTrash]
  · intro entry mem differs
    rcases List.mem_append.mp mem with front | back
    · exact known entry (List.mem_filter.mp front).1
    · rw [List.mem_singleton.mp back] at differs
      exact absurd rfl differs

/-- Where the directory is there, it is as it was. -/
theorem held_of_directory {found : FileTree} (accounted : Accounted files earlier shelf)
    (there : shelf.directory = some found) : found = files ∧ shelf.record = true ∧
      ∀ entry ∈ shelf.trash, entry ∈ earlier := by
  rcases accounted.kept with ⟨record, held, known⟩ | ⟨⟨-, gone⟩, -⟩ | ⟨-, gone⟩
  · rw [held] at there
    cases there
    exact ⟨rfl, record, known⟩
  · rw [gone] at there
    cases there
  · rw [gone] at there
    cases there

theorem step_onItsWay {state : ModelShelf × UninstallPosition}
    (way : OnItsWay files earlier state) (moment : UninstallMoment) :
    OnItsWay files earlier (uninstallStep state moment) := by
  obtain ⟨shelf, position⟩ := state
  obtain ⟨accounted, placed⟩ := way
  dsimp only at accounted placed
  cases position with
  | checking =>
    unfold uninstallStep
    cases moment.active with
    | true => exact ⟨accounted, trivial⟩
    | false => exact ⟨accounted, trivial⟩
  | moving =>
    unfold uninstallStep
    dsimp only
    cases there : shelf.directory with
    | none => exact ⟨accounted, there⟩
    | some found =>
      obtain ⟨rfl, record, known⟩ := held_of_directory accounted there
      dsimp only
      by_cases goes : (moment.moves && isFree shelf.trash moment.name) = true
      · rw [if_pos goes]
        have moved := @moved_putTrash found earlier shelf known moment.name
        constructor
        · exact ⟨putTrash_nodup accounted.distinct _ _, .inr (.inl ⟨⟨record, rfl⟩, _, moved⟩)⟩
        · exact ⟨⟨record, rfl⟩, moved⟩
      · rw [if_neg goes]
        exact ⟨accounted, trivial⟩
  | deleting moved =>
    have gone : shelf.directory = none := by
      cases moved with
      | none => exact placed
      | some name => exact placed.1.2
    unfold uninstallStep
    dsimp only
    by_cases commits : moment.commits = true
    · rw [if_pos commits]
      exact ⟨⟨accounted.distinct, .inr (.inr ⟨rfl, gone⟩)⟩, ⟨rfl, gone⟩⟩
    · rw [if_neg commits]
      cases moved with
      | none => exact ⟨accounted, trivial⟩
      | some name => exact ⟨accounted, placed⟩
  | restoring name =>
    obtain ⟨⟨record, gone⟩, moved⟩ := placed
    unfold uninstallStep
    dsimp only
    cases found : shelf.trash.find? fun entry => entry.1 = name with
    | none => exact ⟨accounted, trivial⟩
    | some entry =>
      have named : entry.1 = name := by simpa using List.find?_some found
      have same : entry = (name, files) :=
        entry_of_name accounted.distinct (List.mem_of_find?_eq_some found) moved.1 named
      dsimp only
      by_cases restores : moment.restores = true
      · rw [if_pos restores]
        constructor
        · constructor
          · exact names_filter_nodup accounted.distinct _
          · refine .inl ⟨record, congrArg (fun e => some e.2) same, ?_⟩
            intro other mem
            obtain ⟨memTrash, differs⟩ := List.mem_filter.mp mem
            exact moved.2 other memTrash (by simpa using differs)
        · trivial
      · rw [if_neg restores]
        exact ⟨accounted, trivial⟩
  | reclaiming moved =>
    obtain ⟨deleted, gone⟩ := placed
    unfold uninstallStep
    cases moved with
    | none => exact ⟨accounted, trivial⟩
    | some name =>
      exact ⟨⟨reclaimTrash_nodup accounted.distinct _, .inr (.inr ⟨deleted, gone⟩)⟩, trivial⟩
  | returned => exact ⟨accounted, trivial⟩
  | raised => exact ⟨accounted, trivial⟩

/-- An uninstall, cut short anywhere, accounts for the files. -/
theorem uninstallUpTo_accounted (accounted : Accounted files earlier shelf)
    (moments : List UninstallMoment) : Accounted files earlier (uninstallUpTo shelf moments) := by
  have begins : OnItsWay files earlier (shelf, .checking) := ⟨accounted, trivial⟩
  have ends := @run_invariant _ _ uninstallStep (OnItsWay files earlier)
    (fun _ moment way => step_onItsWay way moment) _ begins moments
  exact ends.accounted

theorem afterUninstalls_accounted (accounted : Accounted files earlier shelf)
    (attempts : List (List UninstallMoment)) :
    Accounted files earlier (afterUninstalls shelf attempts) :=
  @run_invariant _ _ uninstallUpTo (Accounted files earlier)
    (fun _ moments before => uninstallUpTo_accounted before moments) _ accounted attempts

/-! ## The clean-up -/

theorem cleanupEntries_held {entries : List (Text × FileTree)} {found : FileTree}
    (there : shelf.directory = some found) :
    (run cleanupEntry shelf entries).directory = some found ∧
      (run cleanupEntry shelf entries).record = shelf.record := by
  induction entries generalizing shelf with
  | nil => exact ⟨there, rfl⟩
  | cons entry entries ih =>
    have kept : (cleanupEntry shelf entry).directory = some found := by
      unfold cleanupEntry
      rw [there]
    have record : (cleanupEntry shelf entry).record = shelf.record := by
      unfold cleanupEntry
      rw [there]
    rw [run_cons]
    obtain ⟨directory, same⟩ := ih kept
    exact ⟨directory, same.trans record⟩

/-- The first entry is the one that is restored. -/
theorem cleanupEntries_stranded {first : Text × FileTree} {rest : List (Text × FileTree)}
    (gone : shelf.directory = none) :
    (run cleanupEntry shelf (first :: rest)).directory = some first.2 ∧
      (run cleanupEntry shelf (first :: rest)).record = shelf.record := by
  have restored : (cleanupEntry shelf first).directory = some first.2 := by
    unfold cleanupEntry
    rw [gone]
  have record : (cleanupEntry shelf first).record = shelf.record := by
    unfold cleanupEntry
    rw [gone]
  rw [run_cons]
  obtain ⟨directory, same⟩ := @cleanupEntries_held _ rest _ restored
  exact ⟨directory, same.trans record⟩

theorem isFirst_of_sorted {trash : List (Text × FileTree)} {first : Text × FileTree}
    {rest : List (Text × FileTree)} (sorted : sortedTrash trash = first :: rest) :
    IsFirst trash first := by
  have perm : (first :: rest).Perm trash := by
    rw [← sorted]
    exact List.mergeSort_perm _ _
  have ordered : (first :: rest).Pairwise fun a b => decide (a.1 ≤ b.1) = true := by
    rw [← sorted]
    apply List.pairwise_mergeSort
    · intro a b c before after
      simp only [decide_eq_true_eq] at before after ⊢
      exact le_trans before after
    · intro a b
      simp only [Bool.or_eq_true, decide_eq_true_eq]
      exact le_total a.1 b.1
  constructor
  · exact perm.mem_iff.mp List.mem_cons_self
  · intro other mem
    rcases List.mem_cons.mp (perm.mem_iff.mpr mem) with same | later
    · rw [same]
    · exact of_decide_eq_true ((List.pairwise_cons.mp ordered).1 other later)

theorem isFirst_unique {trash : List (Text × FileTree)} (distinct : (trash.map (·.1)).Nodup)
    {first other : Text × FileTree} (one : IsFirst trash first) (two : IsFirst trash other) :
    first = other :=
  entry_of_name distinct one.1 two.1 (le_antisymm (one.2 other two.1) (two.2 first one.1))

/-- The clean-up puts things right, unless the wrong copy comes first. -/
theorem cleanup_whole_iff (accounted : Accounted files earlier shelf) :
    Whole files (cleanupTrash shelf) ↔
      (Stranded shelf → ∀ first, IsFirst shelf.trash first → first.2 = files) := by
  unfold cleanupTrash
  rcases accounted.kept with ⟨record, held, -⟩ | ⟨stranded, name, moved⟩ | ⟨deleted, gone⟩
  · rw [if_pos record]
    constructor
    · intro _ stranded
      rw [stranded.2] at held
      cases held
    · intro _
      obtain ⟨directory, same⟩ := @cleanupEntries_held _ (sortedTrash shelf.trash) _ held
      exact .inl ⟨same.trans record, directory⟩
  · rw [if_pos stranded.1]
    cases sorted : sortedTrash shelf.trash with
    | nil =>
      have mem : (name, files) ∈ sortedTrash shelf.trash := List.mem_mergeSort.mpr moved.1
      rw [sorted] at mem
      cases mem
    | cons first rest =>
      have leads := isFirst_of_sorted sorted
      obtain ⟨directory, same⟩ := @cleanupEntries_stranded _ first rest stranded.2
      constructor
      · intro whole _ other leadsOther
        rw [← isFirst_unique accounted.distinct leads leadsOther]
        rcases whole with ⟨-, held⟩ | ⟨-, gone, -⟩
        · rw [directory] at held
          exact Option.some.inj held
        · rw [directory] at gone
          cases gone
      · intro right
        refine .inl ⟨same.trans stranded.1, ?_⟩
        rw [directory, right stranded first leads]
  · have absent : ¬ shelf.record = true := by simp [deleted]
    rw [if_neg absent]
    constructor
    · intro _ stranded
      exact absurd stranded.1 absent
    · intro _
      exact .inr ⟨deleted, gone, rfl⟩

/-- After any history of uninstalls the clean-up leaves the model as it was or gone, exactly
when it does not find it stranded behind other files; and a stranded model lies in the trash
besides what lay there before. -/
theorem uninstalls_crash_consistently (installed : shelf.record = true)
    (held : shelf.directory = some files) (distinct : (shelf.trash.map (·.1)).Nodup)
    (attempts : List (List UninstallMoment)) :
    (Whole files (cleanupTrash (afterUninstalls shelf attempts)) ↔
      (Stranded (afterUninstalls shelf attempts) →
        ∀ first, IsFirst (afterUninstalls shelf attempts).trash first → first.2 = files)) ∧
    (Stranded (afterUninstalls shelf attempts) →
      ∃ name, MovedAs files shelf.trash (afterUninstalls shelf attempts) name) := by
  have accounted : Accounted files shelf.trash (afterUninstalls shelf attempts) := by
    apply afterUninstalls_accounted
    exact ⟨distinct, .inl ⟨installed, held, fun _ mem => mem⟩⟩
  constructor
  · exact cleanup_whole_iff accounted
  · intro stranded
    rcases accounted.kept with ⟨-, there, -⟩ | ⟨-, moved⟩ | ⟨deleted, -⟩
    · rw [stranded.2] at there
      cases there
    · exact moved
    · rw [stranded.1] at deleted
      cases deleted

end

/-! ## An old leftover -/

/-- A model that was installed again after an uninstall whose reclaiming had failed halfway. -/
def reinstalled (leftovers : List (Text × FileTree)) : ModelShelf where
  record := true
  directory := some [("model.bin", [1, 2])]
  trash := leftovers

/-- The process ends after the move. -/
def movedOnly : List UninstallMoment := [{ name := text "c0ffee00" }, { name := text "c0ffee00" }]

/-- With an empty trash the copy that was moved is restored. -/
theorem moved_model_is_restored :
    Whole [("model.bin", [1, 2])] (cleanupTrash (afterUninstalls (reinstalled []) [movedOnly])) := by
  have only : (afterUninstalls (reinstalled []) [movedOnly]).trash =
      [(text "c0ffee00", [("model.bin", [1, 2])])] := by decide +kernel
  have consistent := @uninstalls_crash_consistently [("model.bin", [1, 2])] (reinstalled []) rfl rfl
    List.nodup_nil [movedOnly]
  apply consistent.1.mpr
  intro _ first leads
  rw [only] at leads
  rw [List.mem_singleton.mp leads.1]

/-- A leftover that sorts before it is restored in its place, and the model is lost. -/
theorem leftover_replaces_model :
    ¬ Whole [("model.bin", [1, 2])] (cleanupTrash
      (afterUninstalls (reinstalled [(text "0badf00d", [("readme", [3])])]) [movedOnly])) := by
  have both : (afterUninstalls (reinstalled [(text "0badf00d", [("readme", [3])])])
      [movedOnly]).trash = [(text "0badf00d", [("readme", [3])]),
        (text "c0ffee00", [("model.bin", [1, 2])])] := by decide +kernel
  have stranded : Stranded (afterUninstalls (reinstalled [(text "0badf00d", [("readme", [3])])])
      [movedOnly]) := by
    constructor <;> decide +kernel
  have accounted : Accounted [("model.bin", [1, 2])] [(text "0badf00d", [("readme", [3])])]
      (afterUninstalls (reinstalled [(text "0badf00d", [("readme", [3])])]) [movedOnly]) := by
    apply afterUninstalls_accounted
    exact ⟨List.nodup_singleton _, .inl ⟨rfl, rfl, fun _ mem => mem⟩⟩
  intro whole
  have right := (cleanup_whole_iff accounted).mp whole stranded
    (text "0badf00d", [("readme", [3])])
  have leads : IsFirst [(text "0badf00d", [("readme", [3])]),
      (text "c0ffee00", [("model.bin", [1, 2])])] (text "0badf00d", [("readme", [3])]) := by
    constructor
    · exact List.mem_cons_self
    · have before : text "0badf00d" ≤ text "c0ffee00" := by decide +kernel
      intro other mem
      rcases List.mem_cons.mp mem with same | later
      · rw [same]
      · rw [List.mem_singleton.mp later]
        exact before
  rw [both] at right
  exact absurd (right leads) (by decide)

end EvoBlue.Guarantees
