import Mathlib.Order.Bounds.Defs
import Mathlib.Order.MinMax
import Mathlib.Data.List.Basic

/-!
# Edit distance

An edit inserts, deletes or replaces one element somewhere in a sequence. The recursive
distance of two sequences is the least number of edits that turn the one into the
other; what is known of edit scripts (they run backwards, and on reversed sequences)
then holds of the distance.
-/

namespace EvoBlue.Kernel

section

variable {α : Type*}

/-- One edit, with what stands before and after it. -/
inductive Edit : List α → List α → Prop
  | insert (pre post : List α) (y : α) : Edit (pre ++ post) (pre ++ y :: post)
  | delete (pre post : List α) (x : α) : Edit (pre ++ x :: post) (pre ++ post)
  | substitute (pre post : List α) (x y : α) : Edit (pre ++ x :: post) (pre ++ y :: post)

/-- So many edits lead from the one sequence to the other. -/
inductive Edits : Nat → List α → List α → Prop
  | done (a : List α) : Edits 0 a a
  | step {n : Nat} {a b c : List α} (first : Edit a b) (rest : Edits n b c) : Edits (n + 1) a c

theorem Edit.symm {a b : List α} (edit : Edit a b) : Edit b a := by
  cases edit with
  | insert pre post y => exact .delete pre post y
  | delete pre post x => exact .insert pre post x
  | substitute pre post x y => exact .substitute pre post y x

theorem Edit.cons {a b : List α} (x : α) (edit : Edit a b) : Edit (x :: a) (x :: b) := by
  cases edit with
  | insert pre post y => exact .insert (x :: pre) post y
  | delete pre post y => exact .delete (x :: pre) post y
  | substitute pre post y z => exact .substitute (x :: pre) post y z

theorem Edit.reverse {a b : List α} (edit : Edit a b) : Edit a.reverse b.reverse := by
  cases edit with
  | insert pre post y =>
    simpa using Edit.insert post.reverse pre.reverse y
  | delete pre post x =>
    simpa using Edit.delete post.reverse pre.reverse x
  | substitute pre post x y =>
    simpa using Edit.substitute post.reverse pre.reverse x y

theorem Edits.snoc {n : Nat} {a b c : List α} (edits : Edits n a b) (last : Edit b c) :
    Edits (n + 1) a c := by
  induction edits with
  | done a => exact .step last (.done c)
  | step first rest ih => exact .step first (ih last)

theorem Edits.symm {n : Nat} {a b : List α} (edits : Edits n a b) : Edits n b a := by
  induction edits with
  | done a => exact .done a
  | step first rest ih => exact ih.snoc first.symm

theorem Edits.cons {n : Nat} {a b : List α} (x : α) (edits : Edits n a b) :
    Edits n (x :: a) (x :: b) := by
  induction edits with
  | done a => exact .done (x :: a)
  | step first rest ih => exact .step (first.cons x) ih

theorem Edits.reverse {n : Nat} {a b : List α} (edits : Edits n a b) :
    Edits n a.reverse b.reverse := by
  induction edits with
  | done a => exact .done a.reverse
  | step first rest ih => exact .step first.reverse ih

theorem Edits.min {m n : Nat} {a b : List α} (one : Edits m a b) (other : Edits n a b) :
    Edits (min m n) a b := by
  rcases min_choice m n with left | right
  · rwa [left]
  · rwa [right]

theorem edits_of_insertions (b : List α) : Edits b.length [] b := by
  induction b with
  | nil => exact .done []
  | cons y b ih => exact ih.snoc (.insert [] b y)

end

section

variable {α : Type*} [DecidableEq α]

/-- The edit distance by recursion on the first elements. -/
def editDistance : List α → List α → Nat
  | [], b => b.length
  | a, [] => a.length
  | x :: a, y :: b =>
    min (min (editDistance a (y :: b) + 1) (editDistance (x :: a) b + 1))
      (editDistance a b + if x = y then 0 else 1)
termination_by a b => a.length + b.length

@[simp] theorem editDistance_nil_left (b : List α) : editDistance [] b = b.length := by
  rw [editDistance]

@[simp] theorem editDistance_nil_right (a : List α) : editDistance a [] = a.length := by
  cases a with
  | nil => rw [editDistance]
  | cons x a => rw [editDistance]; simp

theorem editDistance_cons (x y : α) (a b : List α) : editDistance (x :: a) (y :: b) =
    min (min (editDistance a (y :: b) + 1) (editDistance (x :: a) b + 1))
      (editDistance a b + if x = y then 0 else 1) := by
  rw [editDistance]

/-! ## No script is shorter -/

/-- A first element more costs at most one edit. -/
theorem editDistance_cons_le (x : α) (a c : List α) :
    editDistance (x :: a) c ≤ editDistance a c + 1 := by
  cases c with
  | nil => simp
  | cons z c =>
    rw [editDistance_cons]
    omega

theorem editDistance_le_cons_right (a : List α) (z : α) (c : List α) :
    editDistance a (z :: c) ≤ editDistance a c + 1 := by
  cases a with
  | nil => simp
  | cons x a =>
    rw [editDistance_cons]
    omega

/-- A first element fewer costs at most one edit. -/
theorem editDistance_le_cons (x : α) (a c : List α) :
    editDistance a c ≤ editDistance (x :: a) c + 1 := by
  induction c with
  | nil =>
    simp only [editDistance_nil_right, List.length_cons]
    omega
  | cons z c ih =>
    have longer := editDistance_le_cons_right a z c
    rw [editDistance_cons]
    omega

theorem editDistance_replace_head (x y : α) (a c : List α) :
    editDistance (x :: a) c ≤ editDistance (y :: a) c + 1 := by
  induction c with
  | nil => simp
  | cons z c ih =>
    rw [editDistance_cons x, editDistance_cons y]
    split <;> split <;> omega

/-- What one edit costs behind a first element it costs without it. -/
theorem editDistance_cons_mono {a b : List α} (x : α)
    (near : ∀ c, editDistance a c ≤ editDistance b c + 1) (c : List α) :
    editDistance (x :: a) c ≤ editDistance (x :: b) c + 1 := by
  induction c with
  | nil =>
    have ends := near []
    simp only [editDistance_nil_right, List.length_cons] at ends ⊢
    omega
  | cons z c ih =>
    have whole := near (z :: c)
    have rest := near c
    rw [editDistance_cons, editDistance_cons]
    omega

theorem editDistance_append_mono {a b : List α} (pre : List α)
    (near : ∀ c, editDistance a c ≤ editDistance b c + 1) (c : List α) :
    editDistance (pre ++ a) c ≤ editDistance (pre ++ b) c + 1 := by
  induction pre generalizing c with
  | nil => exact near c
  | cons x pre ih => exact editDistance_cons_mono x ih c

/-- An edit brings a sequence nearer to another by at most one. -/
theorem Edit.editDistance_le {a b : List α} (edit : Edit a b) (c : List α) :
    editDistance a c ≤ editDistance b c + 1 := by
  cases edit with
  | insert pre post y =>
    apply editDistance_append_mono
    intro c
    exact editDistance_le_cons y post c
  | delete pre post x =>
    apply editDistance_append_mono
    intro c
    exact editDistance_cons_le x post c
  | substitute pre post x y =>
    apply editDistance_append_mono
    intro c
    exact editDistance_replace_head x y post c

theorem editDistance_self (a : List α) : editDistance a a = 0 := by
  induction a with
  | nil => simp
  | cons x a ih => simp [editDistance_cons, ih]

theorem Edits.editDistance_le {n : Nat} {a b : List α} (edits : Edits n a b) :
    editDistance a b ≤ n := by
  induction edits with
  | done a => rw [editDistance_self]
  | @step n a b c first rest ih =>
    have nearer := first.editDistance_le c
    omega

/-! ## A script as short -/

theorem edits_editDistance (a b : List α) : Edits (editDistance a b) a b := by
  induction a, b using editDistance.induct with
  | case1 b =>
    rw [editDistance_nil_left]
    exact edits_of_insertions b
  | case2 a =>
    rw [editDistance_nil_right]
    exact (edits_of_insertions a).symm
  | case3 x a y b deleted inserted kept =>
    have deletes : Edits (editDistance a (y :: b) + 1) (x :: a) (y :: b) :=
      .step (.delete [] a x) deleted
    have inserts : Edits (editDistance (x :: a) b + 1) (x :: a) (y :: b) :=
      inserted.snoc (.insert [] b y)
    have keeps : Edits (editDistance a b + if x = y then 0 else 1) (x :: a) (y :: b) := by
      split
      next same =>
        rw [same]
        exact kept.cons y
      next => exact (kept.cons x).snoc (.substitute [] b x y)
    rw [editDistance_cons]
    exact (deletes.min inserts).min keeps

/-- The edit distance is the least number of edits between two sequences. -/
theorem isLeast_editDistance (a b : List α) : IsLeast {n | Edits n a b} (editDistance a b) := by
  constructor
  · exact edits_editDistance a b
  · intro n edits
    exact Edits.editDistance_le edits

theorem editDistance_comm (a b : List α) : editDistance a b = editDistance b a := by
  apply Nat.le_antisymm
  · exact (edits_editDistance b a).symm.editDistance_le
  · exact (edits_editDistance a b).symm.editDistance_le

theorem editDistance_reverse (a b : List α) :
    editDistance a.reverse b.reverse = editDistance a b := by
  apply Nat.le_antisymm
  · exact (edits_editDistance a b).reverse.editDistance_le
  · have back := (edits_editDistance a.reverse b.reverse).reverse.editDistance_le
    rwa [List.reverse_reverse, List.reverse_reverse] at back

theorem editDistance_eq_zero {a b : List α} : editDistance a b = 0 ↔ a = b := by
  constructor
  · intro none
    have edits := edits_editDistance a b
    rw [none] at edits
    cases edits
    rfl
  · intro same
    rw [same, editDistance_self]

theorem editDistance_le_length (a b : List α) : editDistance a b ≤ max a.length b.length := by
  induction a, b using editDistance.induct with
  | case1 b => simp
  | case2 a => simp
  | case3 x a y b deleted inserted kept =>
    rw [editDistance_cons]
    simp only [List.length_cons]
    split <;> omega

/-- The same recursion on the last elements. -/
theorem editDistance_concat (x y : α) (a b : List α) : editDistance (a ++ [x]) (b ++ [y]) =
    min (min (editDistance a (b ++ [y]) + 1) (editDistance (a ++ [x]) b + 1))
      (editDistance a b + if x = y then 0 else 1) := by
  rw [← editDistance_reverse (a ++ [x]), ← editDistance_reverse a (b ++ [y]),
    ← editDistance_reverse (a ++ [x]) b, ← editDistance_reverse a b]
  simp only [List.reverse_append, List.reverse_singleton, List.singleton_append]
  exact editDistance_cons x y a.reverse b.reverse

end

end EvoBlue.Kernel
