import Mathlib.Data.List.AList
import Mathlib.Data.List.Nodup
import Mathlib.Order.Lattice

/-!
# Keeping the greatest

A retention rule sorts what there is from the greatest down and drops all after
the first few. An element is dropped exactly when enough others are greater.
Files that stand next to each other are an association list without repeated
names.
-/

namespace EvoBlue.Kernel

/-! ## The greatest of a list -/

section

variable {α : Type*} [LinearOrder α]

/-- From the greatest down. -/
def descending (items : List α) : List α := items.mergeSort fun a b => decide (b ≤ a)

theorem mem_descending {x : α} {items : List α} : x ∈ descending items ↔ x ∈ items :=
  List.mem_mergeSort

theorem pairwise_descending {items : List α} (distinct : items.Nodup) :
    (descending items).Pairwise fun a b => b < a := by
  have sorted : (descending items).Pairwise fun a b => decide (b ≤ a) = true := by
    apply List.pairwise_mergeSort
    · intro a b c first second
      simp only [decide_eq_true_eq] at first second ⊢
      exact second.trans first
    · intro a b
      simp only [Bool.or_eq_true, decide_eq_true_eq]
      exact le_total b a
  have apart : (descending items).Nodup := (List.mergeSort_perm _ _).nodup_iff.2 distinct
  refine (sorted.and apart).imp fun {a b} both => ?_
  exact lt_of_le_of_ne (of_decide_eq_true both.1) (Ne.symm both.2)

/-- Behind the first `n` of a descending list stands what has `n` greater elements. -/
theorem mem_drop_of_descending {items : List α} (sorted : items.Pairwise fun a b => b < a)
    (n : Nat) (x : α) :
    x ∈ items.drop n ↔ x ∈ items ∧ n ≤ items.countP fun y => decide (x < y) := by
  induction items generalizing n with
  | nil => simp
  | cons first rest ih =>
    obtain ⟨below, sorted⟩ := List.pairwise_cons.1 sorted
    cases n with
    | zero => simp
    | succ n =>
      rw [List.drop_succ_cons, ih sorted n, List.mem_cons, List.countP_cons]
      constructor
      · rintro ⟨mem, enough⟩
        have less : x < first := below x mem
        simp only [less, decide_true, if_true]
        exact ⟨.inr mem, by omega⟩
      · rintro ⟨rfl | mem, enough⟩
        · have none : rest.countP (fun y => decide (x < y)) = 0 := by
            rw [List.countP_eq_zero]
            intro y there
            simpa using (below y there).le
          simp only [none, lt_irrefl, decide_false, Bool.false_eq_true, if_false] at enough
          omega
        · have less : x < first := below x mem
          simp only [less, decide_true, if_true] at enough
          exact ⟨mem, by omega⟩

/-- How many are greater. -/
def countGreater (items : List α) (x : α) : Nat := items.countP fun y => decide (x < y)

theorem countGreater_cons_self (items : List α) (x : α) :
    countGreater (x :: items) x = countGreater items x := by
  simp [countGreater]

/-- What a retention of `n` drops. -/
theorem mem_dropped_iff {items : List α} (distinct : items.Nodup) (n : Nat) (x : α) :
    x ∈ (descending items).drop n ↔ x ∈ items ∧ n ≤ countGreater items x := by
  have perm : (descending items).Perm items := List.mergeSort_perm _ _
  rw [mem_drop_of_descending (pairwise_descending distinct), mem_descending, perm.countP_eq]
  rfl

/-- No more than `n` are kept. -/
theorem length_kept_le {items kept : List α} {n : Nat} (distinct : kept.Nodup)
    (rest : ∀ x ∈ kept, x ∈ items ∧ x ∉ (descending items).drop n) : kept.length ≤ n := by
  have front : kept ⊆ (descending items).take n := by
    intro x mem
    have there : x ∈ (descending items).take n ++ (descending items).drop n := by
      rw [List.take_append_drop]
      exact mem_descending.2 (rest x mem).1
    rcases List.mem_append.1 there with early | late
    · exact early
    · exact absurd late (rest x mem).2
  exact (List.subperm_of_subset distinct front).length_le.trans (List.length_take_le n _)

end

/-! ## Files next to each other -/

section

variable {κ β : Type*} [DecidableEq κ]

abbrev Siblings (κ β : Type*) := AList fun _ : κ => β

/-- All of these names removed. -/
def Siblings.eraseAll (files : Siblings κ β) (names : List κ) : Siblings κ β :=
  names.foldl (fun files name => files.erase name) files

theorem lookup_eraseAll_of_notMem {names : List κ} {name : κ} (kept : name ∉ names)
    (files : Siblings κ β) : (files.eraseAll names).lookup name = files.lookup name := by
  unfold Siblings.eraseAll
  induction names generalizing files with
  | nil => rfl
  | cons first rest ih =>
    simp only [List.mem_cons, not_or] at kept
    rw [List.foldl_cons, ih kept.2, AList.lookup_erase_ne kept.1]

theorem lookup_eraseAll_of_mem {names : List κ} {name : κ} (dropped : name ∈ names)
    (files : Siblings κ β) : (files.eraseAll names).lookup name = none := by
  unfold Siblings.eraseAll
  induction names generalizing files with
  | nil => cases dropped
  | cons first rest ih =>
    rw [List.foldl_cons]
    by_cases later : name ∈ rest
    · exact ih later _
    · have here : name = first := (List.mem_cons.1 dropped).resolve_right later
      have kept := lookup_eraseAll_of_notMem later (files.erase first)
      unfold Siblings.eraseAll at kept
      rw [kept, here, AList.lookup_erase]

theorem mem_keys_eraseAll {files : Siblings κ β} {names : List κ} {name : κ}
    (mem : name ∈ (files.eraseAll names).keys) : name ∈ files.keys ∧ name ∉ names := by
  rw [← AList.mem_keys, ← AList.lookup_isSome] at mem
  by_cases dropped : name ∈ names
  · rw [lookup_eraseAll_of_mem dropped] at mem
    cases mem
  · rw [lookup_eraseAll_of_notMem dropped, AList.lookup_isSome, AList.mem_keys] at mem
    exact ⟨mem, dropped⟩

theorem keys_insert_fresh {files : Siblings κ β} {name : κ} (fresh : files.lookup name = none)
    (content : β) : (files.insert name content).keys = name :: files.keys := by
  rw [AList.lookup_eq_none, AList.mem_keys] at fresh
  rw [AList.keys_insert, List.erase_of_not_mem fresh]

theorem keys_erase_sublist (files : Siblings κ β) (name : κ) :
    (files.erase name).keys.Sublist files.keys := by
  rw [AList.keys_erase]
  exact List.erase_sublist

theorem keys_insert_sublist (files : Siblings κ β) (name : κ) (content : β) :
    (files.insert name content).keys.Sublist (name :: files.keys) := by
  rw [AList.keys_insert]
  exact List.erase_sublist.cons_cons name

end

end EvoBlue.Kernel
