import Mathlib.Data.List.Forall2

/-!
# Going down a list until something fails

`mapM` in `Except`: it succeeds when every element does, and else fails as the first element
that fails.
-/

namespace EvoBlue.Kernel

variable {ε α β : Type} {attempt : α → Except ε β} {xs : List α}

theorem mapM_cons_ok {x : α} {y : β} (done : attempt x = .ok y) :
    (x :: xs).mapM attempt = (xs.mapM attempt).map (y :: ·) := by
  rw [List.mapM_cons, done]
  cases xs.mapM attempt <;> rfl

theorem mapM_cons_error {x : α} {error : ε} (failed : attempt x = .error error) :
    (x :: xs).mapM attempt = .error error := by
  rw [List.mapM_cons, failed]
  rfl

/-- What succeeded, one by one and in order. -/
theorem mapM_ok {ys : List β} (done : xs.mapM attempt = .ok ys) :
    List.Forall₂ (fun x y => attempt x = .ok y) xs ys := by
  induction xs generalizing ys with
  | nil =>
    cases done
    exact .nil
  | cons x xs ih =>
    cases first : attempt x with
    | error error =>
      rw [mapM_cons_error first] at done
      cases done
    | ok y =>
      rw [mapM_cons_ok first] at done
      cases others : xs.mapM attempt with
      | error error =>
        rw [others] at done
        cases done
      | ok rest =>
        rw [others] at done
        cases done
        exact .cons first (ih others)

/-- The first element that fails decides. -/
theorem mapM_error_iff {error : ε} :
    xs.mapM attempt = .error error ↔ ∃ before x after, xs = before ++ x :: after ∧
      (∀ y ∈ before, ∃ value, attempt y = .ok value) ∧ attempt x = .error error := by
  induction xs with
  | nil =>
    constructor
    · intro failed
      cases failed
    · intro ⟨before, x, after, whole, _⟩
      simp at whole
  | cons x xs ih =>
    cases first : attempt x with
    | error other =>
      rw [mapM_cons_error first]
      constructor
      · intro same
        cases same
        exact ⟨[], x, xs, rfl, by simp, first⟩
      · intro ⟨before, y, after, whole, fine, failed⟩
        cases before with
        | nil =>
          cases whole
          rw [first] at failed
          cases failed
          rfl
        | cons head tail =>
          cases whole
          obtain ⟨value, done⟩ := fine x List.mem_cons_self
          rw [first] at done
          cases done
    | ok value =>
      rw [mapM_cons_ok first]
      have later : (xs.mapM attempt).map (value :: ·) = .error error ↔
          xs.mapM attempt = .error error := by
        cases xs.mapM attempt <;> simp [Except.map]
      rw [later, ih]
      constructor
      · intro ⟨before, y, after, whole, fine, failed⟩
        rw [whole]
        exact ⟨x :: before, y, after, rfl, List.forall_mem_cons.2 ⟨⟨value, first⟩, fine⟩, failed⟩
      · intro ⟨before, y, after, whole, fine, failed⟩
        cases before with
        | nil =>
          cases whole
          rw [first] at failed
          cases failed
        | cons head tail =>
          cases whole
          exact ⟨tail, y, after, rfl, fun z mem => fine z (List.mem_cons_of_mem _ mem), failed⟩

/-- Each of the results has its origin. -/
theorem origin_of_mem {related : α → β → Prop} {ys : List β} (pairs : List.Forall₂ related xs ys)
    {y : β} (mem : y ∈ ys) : ∃ x ∈ xs, related x y := by
  induction pairs with
  | nil => cases mem
  | cons here later ih =>
    rcases List.mem_cons.mp mem with same | tail
    · exact ⟨_, List.mem_cons_self, same ▸ here⟩
    · obtain ⟨x, memX, holds⟩ := ih tail
      exact ⟨x, List.mem_cons_of_mem _ memX, holds⟩

end EvoBlue.Kernel
