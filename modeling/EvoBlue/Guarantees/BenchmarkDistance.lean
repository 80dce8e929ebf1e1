import EvoBlue.Source.BenchmarkMetrics

/-!
# The distance behind the error rates

What the benchmark counts as errors is the least number of edits between two sequences,
whatever their elements are.
-/

namespace EvoBlue.Guarantees

open EvoBlue.Kernel EvoBlue.Source

/-- `_levenshtein` returns the recursive edit distance, which is the least number of
insertions, deletions and substitutions; so it is symmetric, zero on equal sequences alone,
and no more than the longer length. -/
theorem levenshtein_counts_edits {α : Type*} [DecidableEq α] (a b : List α) :
    ∃ distance, levenshtein a b = some distance ∧ distance = editDistance a b ∧
      IsLeast {n | Edits n a b} distance ∧ levenshtein b a = some distance ∧
      (distance = 0 ↔ a = b) ∧ distance ≤ max a.length b.length := by
  refine ⟨editDistance a b, levenshtein_eq a b, rfl, isLeast_editDistance a b, ?_,
    editDistance_eq_zero, editDistance_le_length a b⟩
  rw [levenshtein_eq, editDistance_comm]

example : levenshtein "kitten".toList "sitting".toList = some 3 := by decide

end EvoBlue.Guarantees
