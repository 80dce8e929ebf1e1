import Mathlib.Algebra.GroupWithZero.Nat
import Mathlib.Data.List.Basic

/-!
# Joined pieces

Pieces that are joined by a separator can be told from the joined sequence as soon as it is
known how many separators each of them holds itself.
-/

namespace EvoBlue.Kernel

theorem intercalate_cons_cons_eq {α : Type*} {sep : α} (piece next : List α) (pieces : List (List α)) :
    [sep].intercalate (piece :: next :: pieces) =
      piece ++ sep :: [sep].intercalate (next :: pieces) := by
  rw [List.intercalate_cons_cons, List.append_assoc, List.singleton_append]

variable {α : Type*} [DecidableEq α] {sep : α}

/-- The place of the separator behind a first part with so many separators of its own. -/
theorem append_sep_inj {front front' back back' : List α}
    (same : front ++ sep :: back = front' ++ sep :: back')
    (counts : front.count sep = front'.count sep) : front = front' ∧ back = back' := by
  induction front generalizing front' with
  | nil =>
    cases front' with
    | nil =>
      rw [List.nil_append, List.nil_append, List.cons.injEq] at same
      exact ⟨rfl, same.2⟩
    | cons c front' =>
      rw [List.nil_append, List.cons_append, List.cons.injEq] at same
      rw [← same.1, List.count_nil, List.count_cons_self] at counts
      omega
  | cons c front ih =>
    cases front' with
    | nil =>
      rw [List.nil_append, List.cons_append, List.cons.injEq] at same
      rw [same.1, List.count_nil, List.count_cons_self] at counts
      omega
    | cons d front' =>
      rw [List.cons_append, List.cons_append, List.cons.injEq] at same
      rw [same.1, List.count_cons, List.count_cons] at counts
      obtain ⟨fronts, backs⟩ := ih same.2 (by omega)
      rw [same.1, fronts]
      exact ⟨rfl, backs⟩

/-- Joined sequences whose pieces hold equally many separators have equal pieces. -/
theorem intercalate_inj_of_counts {pieces pieces' : List (List α)}
    (counts : pieces.map (List.count sep) = pieces'.map (List.count sep))
    (same : [sep].intercalate pieces = [sep].intercalate pieces') : pieces = pieces' := by
  induction pieces generalizing pieces' with
  | nil =>
    cases pieces' with
    | nil => rfl
    | cons piece' pieces' => cases counts
  | cons piece pieces ih =>
    cases pieces' with
    | nil => cases counts
    | cons piece' pieces' =>
      rw [List.map_cons, List.map_cons, List.cons.injEq] at counts
      obtain ⟨first, others⟩ := counts
      cases pieces with
      | nil =>
        cases pieces' with
        | nil =>
          rw [List.intercalate_singleton, List.intercalate_singleton] at same
          rw [same]
        | cons next' pieces' => cases others
      | cons next pieces =>
        cases pieces' with
        | nil => cases others
        | cons next' pieces' =>
          rw [intercalate_cons_cons_eq, intercalate_cons_cons_eq] at same
          obtain ⟨pieceSame, restSame⟩ := append_sep_inj same first
          rw [pieceSame, ih others restSame]

/-- The separators of a joined sequence: those between the pieces, and those inside. -/
theorem count_intercalate (piece : List α) (pieces : List (List α)) :
    ([sep].intercalate (piece :: pieces)).count sep =
      pieces.length + ((piece :: pieces).map (List.count sep)).sum := by
  induction pieces generalizing piece with
  | nil => simp
  | cons next pieces ih =>
    rw [intercalate_cons_cons_eq, List.count_append, List.count_cons_self, ih next]
    simp only [List.map_cons, List.sum_cons, List.length_cons]
    omega

end EvoBlue.Kernel
