import EvoBlue.Kernel.EditDistance
import Mathlib.Data.List.Infix

/-!
# The error metrics of the benchmark

`_levenshtein` of `asr/benchmark/metrics.py`, which fills the table of distances row by
row and keeps one row of it. `none` is an `IndexError`.
-/

namespace EvoBlue.Source

open EvoBlue.Kernel

variable {α : Type*} [DecidableEq α]

/-- The row of the `i`-th element `x`, below the row `prev`. -/
def levenshteinRow (prev : List Nat) (b : List α) (x : α) (i : Nat) : Option (List Nat) :=
  (b.zipIdx 1).foldlM (fun cur (y, j) => do
      let above ← prev[j]?
      let left ← cur[j - 1]?
      let corner ← prev[j - 1]?
      return cur ++ [min (min (above + 1) (left + 1)) (corner + if x = y then 0 else 1)])
    [i]

/-- `_levenshtein`. -/
def levenshtein (a b : List α) : Option Nat :=
  if a = b then some 0
  else do
    let prev ← (a.zipIdx 1).foldlM (fun prev (x, i) => levenshteinRow prev b x i)
      (List.range (b.length + 1))
    prev.getLast?

/-! ## The rows of the table -/

/-- The distances of a sequence from the initial segments of another. -/
def distanceRow (a b : List α) : List Nat := b.inits.map (editDistance a)

theorem distanceRow_snoc (a b : List α) (y : α) :
    distanceRow a (b ++ [y]) = distanceRow a b ++ [editDistance a (b ++ [y])] := by
  simp [distanceRow, List.inits_append]

theorem length_distanceRow (a b : List α) : (distanceRow a b).length = b.length + 1 := by
  simp [distanceRow]

theorem distanceRow_nil (b : List α) : distanceRow [] b = List.range (b.length + 1) := by
  apply List.ext_getElem
  · rw [length_distanceRow, List.length_range]
  · intro j bound other
    rw [length_distanceRow] at bound
    simp only [distanceRow, List.getElem_map, List.getElem_inits, editDistance_nil_left,
      List.length_take, List.getElem_range]
    omega

/-- The entry of an initial segment. -/
theorem distanceRow_get (a front back : List α) :
    (distanceRow a (front ++ back))[front.length]? = some (editDistance a front) := by
  have inside : front.length < (front ++ back).inits.length := by
    rw [List.length_inits, List.length_append]
    omega
  rw [distanceRow, List.getElem?_map, List.getElem?_eq_getElem inside, List.getElem_inits,
    List.take_left, Option.map_some]

theorem getLast_distanceRow (a b : List α) : (distanceRow a b).getLast? = some (editDistance a b) := by
  rw [List.getLast?_eq_getElem?, length_distanceRow]
  have last := distanceRow_get a b []
  rwa [List.append_nil] at last

/-- The inner loop: the row as far as the elements in front leads to the whole row. -/
theorem levenshteinRow_from (a front back : List α) (x : α) :
    (back.zipIdx (front.length + 1)).foldlM (fun cur (y, j) => do
        let above ← (distanceRow a (front ++ back))[j]?
        let left ← cur[j - 1]?
        let corner ← (distanceRow a (front ++ back))[j - 1]?
        return cur ++ [min (min (above + 1) (left + 1)) (corner + if x = y then 0 else 1)])
      (distanceRow (a ++ [x]) front) = some (distanceRow (a ++ [x]) (front ++ back)) := by
  induction back generalizing front with
  | nil => simp
  | cons y back ih =>
    have above : (distanceRow a (front ++ y :: back))[front.length + 1]? =
        some (editDistance a (front ++ [y])) := by
      have entry := distanceRow_get a (front ++ [y]) back
      rwa [List.append_assoc, List.length_append] at entry
    have left : (distanceRow (a ++ [x]) front)[front.length]? =
        some (editDistance (a ++ [x]) front) := by
      have entry := distanceRow_get (a ++ [x]) front []
      rwa [List.append_nil] at entry
    have corner := distanceRow_get a front (y :: back)
    have rest := ih (front ++ [y])
    rw [List.length_append, List.append_assoc, List.singleton_append] at rest
    rw [List.zipIdx_cons, List.foldlM_cons]
    simp only [above, Nat.add_sub_cancel, left, corner, Option.bind_eq_bind, Option.bind_some,
      Option.pure_def]
    rw [← editDistance_concat, ← distanceRow_snoc]
    exact rest

theorem levenshteinRow_eq (a b : List α) (x : α) :
    levenshteinRow (distanceRow a b) b x (a.length + 1) = some (distanceRow (a ++ [x]) b) := by
  have whole := levenshteinRow_from a [] b x
  have first : distanceRow (a ++ [x]) [] = [a.length + 1] := by
    simp [distanceRow]
  rwa [first, List.nil_append, List.length_nil] at whole

/-- The outer loop: the row of the elements in front leads to the last row. -/
theorem levenshtein_rows (front back b : List α) :
    (back.zipIdx (front.length + 1)).foldlM (fun prev (x, i) => levenshteinRow prev b x i)
      (distanceRow front b) = some (distanceRow (front ++ back) b) := by
  induction back generalizing front with
  | nil => simp
  | cons x back ih =>
    have rest := ih (front ++ [x])
    rw [List.length_append, List.append_assoc, List.singleton_append] at rest
    rw [List.zipIdx_cons, List.foldlM_cons]
    simp only [levenshteinRow_eq, Option.bind_eq_bind, Option.bind_some]
    exact rest

/-- The row-by-row computation is the recursive edit distance. -/
theorem levenshtein_eq (a b : List α) : levenshtein a b = some (editDistance a b) := by
  unfold levenshtein
  by_cases same : a = b
  · rw [if_pos same, editDistance_eq_zero.2 same]
  · have rows := levenshtein_rows [] a b
    rw [distanceRow_nil, List.nil_append, List.length_nil] at rows
    rw [if_neg same]
    simp only [rows, Option.bind_eq_bind, Option.bind_some]
    exact getLast_distanceRow a b

end EvoBlue.Source
