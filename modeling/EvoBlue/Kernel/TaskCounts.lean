import Mathlib.Data.List.Basic

/-!
# Counting the tasks of a table

A flag that stands for "one task holds it" is right when it counts the tasks that do.
Replacing one task changes such a count by what the old and the new task say.
-/

namespace EvoBlue.Kernel

variable {τ : Type*} {p : τ → Bool} {tasks : List τ} {i : Nat} {old : τ}

theorem countP_replaced (p : τ → Bool) (new : τ) (found : tasks[i]? = some old) :
    (tasks.set i new).countP p + (p old).toNat = tasks.countP p + (p new).toNat := by
  induction tasks generalizing i with
  | nil => simp at found
  | cons head tail ih =>
    cases i with
    | zero =>
      simp only [List.getElem?_cons_zero, Option.some.injEq] at found
      subst found
      simp only [List.set_cons_zero, List.countP_cons]
      cases p head <;> cases p new <;> simp
    | succ i =>
      have later := ih (i := i) (by simpa using found)
      simp only [List.set_cons_succ, List.countP_cons]
      omega

theorem countP_spawned (p : τ → Bool) (tasks : List τ) (new : τ) : (tasks ++ [new]).countP p = tasks.countP p + (p new).toNat := by
  rw [List.countP_append]
  cases told : p new <;> simp [told]

/-- A task that holds is counted. -/
theorem countP_held (found : tasks[i]? = some old) (holds : p old = true) : 0 < tasks.countP p :=
  List.countP_pos_iff.2 ⟨old, List.mem_of_getElem? found, holds⟩

/-- Where at most one task holds, it is the only one. -/
theorem countP_only {j : Nat} {other : τ} (few : tasks.countP p ≤ 1) (found : tasks[i]? = some old)
    (found' : tasks[j]? = some other) (holds : p old = true) (holds' : p other = true) : i = j := by
  by_contra different
  -- with the task at `i` replaced by itself and not counted, the one at `j` is still there
  induction tasks generalizing i j with
  | nil => simp at found
  | cons head tail ih =>
    rw [List.countP_cons] at few
    cases i with
    | zero =>
      cases j with
      | zero => exact different rfl
      | succ j =>
        simp only [List.getElem?_cons_zero, Option.some.injEq] at found
        have later : 0 < tail.countP p := countP_held (by simpa using found') holds'
        subst found
        rw [if_pos holds] at few
        omega
    | succ i =>
      have later : 0 < tail.countP p := countP_held (by simpa using found) holds
      cases j with
      | zero =>
        simp only [List.getElem?_cons_zero, Option.some.injEq] at found'
        subst found'
        rw [if_pos holds'] at few
        omega
      | succ j =>
        refine ih (by omega) (by simpa using found) (by simpa using found') ?_
        intro same
        exact different (congrArg Nat.succ same)

end EvoBlue.Kernel
