import Mathlib.Data.List.Induction

/-!
# Runs of a labelled system

A system is a step function that takes a state and a label; every choice the
environment makes (who moves, which clock reading, which answer) is in the
label, so a run is a list of labels. The rules below package the inductions
the guarantees need: invariants, invariants under a condition on the labels,
and statements that also speak about the past of the run.
-/

namespace EvoBlue.Kernel

variable {σ α : Type*}

/-- The state a list of labels leads to. -/
def run (step : σ → α → σ) (start : σ) (labels : List α) : σ :=
  labels.foldl step start

@[simp] theorem run_nil (step : σ → α → σ) (start : σ) : run step start [] = start := rfl

@[simp] theorem run_cons (step : σ → α → σ) (start : σ) (label : α) (labels : List α) :
    run step start (label :: labels) = run step (step start label) labels := rfl

theorem run_append (step : σ → α → σ) (start : σ) (first last : List α) :
    run step start (first ++ last) = run step (run step start first) last := by
  simp only [run, List.foldl_append]

theorem run_concat (step : σ → α → σ) (start : σ) (labels : List α) (label : α) :
    run step start (labels ++ [label]) = step (run step start labels) label := by
  rw [run_append]
  rfl

/-- Every label is taken in a state that admits it. -/
def Meets (step : σ → α → σ) (admits : σ → α → Prop) : σ → List α → Prop
  | _, [] => True
  | state, label :: labels => admits state label ∧ Meets step admits (step state label) labels

instance Meets.decidable (step : σ → α → σ) (admits : σ → α → Prop)
    [∀ state label, Decidable (admits state label)] :
    ∀ state labels, Decidable (Meets step admits state labels)
  | _, [] => .isTrue trivial
  | state, label :: labels =>
    @instDecidableAnd _ _ inferInstance (Meets.decidable step admits (step state label) labels)

theorem Meets.and {step : σ → α → σ} {admits also : σ → α → Prop} {start : σ} {labels : List α}
    (meets : Meets step admits start labels) (meets' : Meets step also start labels) :
    Meets step (fun state label => admits state label ∧ also state label) start labels := by
  induction labels generalizing start with
  | nil => trivial
  | cons label labels ih => exact ⟨⟨meets.1, meets'.1⟩, ih meets.2 meets'.2⟩

/-- What admitted labels keep holds after every run of admitted labels. -/
theorem run_of_meets {step : σ → α → σ} {admits : σ → α → Prop} {kept : σ → Prop}
    (keep : ∀ state label, admits state label → kept state → kept (step state label))
    {start : σ} {labels : List α} (begins : kept start) (meets : Meets step admits start labels) :
    kept (run step start labels) := by
  induction labels generalizing start with
  | nil => exact begins
  | cons label labels ih =>
    rw [run_cons]
    exact ih (keep start label meets.1 begins) meets.2

theorem meets_concat {step : σ → α → σ} {admits : σ → α → Prop} {start : σ} {labels : List α}
    {label : α} : Meets step admits start (labels ++ [label]) ↔
      Meets step admits start labels ∧ admits (run step start labels) label := by
  induction labels generalizing start with
  | nil => simp [Meets]
  | cons first labels ih => simp only [List.cons_append, Meets, ih, run_cons, and_assoc]

/-- An invariant kept by every label holds after every run. -/
theorem run_invariant {step : σ → α → σ} {kept : σ → Prop}
    (keep : ∀ state label, kept state → kept (step state label))
    {start : σ} (begins : kept start) (labels : List α) : kept (run step start labels) := by
  induction labels generalizing start with
  | nil => exact begins
  | cons label labels ih => exact ih (keep start label begins)

/-- A rank that every label lowers is used up by as many labels. -/
theorem run_rank {step : σ → α → σ} {rank : σ → Nat}
    (lowers : ∀ state label, rank (step state label) ≤ rank state - 1) (start : σ)
    (labels : List α) : rank (run step start labels) ≤ rank start - labels.length := by
  induction labels generalizing start with
  | nil => exact Nat.le_refl _
  | cons label labels ih =>
    have later := ih (step start label)
    have first := lowers start label
    rw [run_cons, List.length_cons]
    omega

/-- Invariants that relate the state to the labels already taken. -/
theorem run_history {step : σ → α → σ} {start : σ} {kept : List α → σ → Prop}
    (begins : kept [] start)
    (keep : ∀ past label, kept past (run step start past) →
      kept (past ++ [label]) (step (run step start past) label)) (labels : List α) :
    kept labels (run step start labels) := by
  induction labels using List.reverseRecOn with
  | nil => exact begins
  | append_singleton past label ih =>
    rw [run_concat]
    exact keep past label ih

/-- The same, where admitted labels keep it. -/
theorem run_history_of_meets {step : σ → α → σ} {admits : σ → α → Prop} {start : σ}
    {kept : List α → σ → Prop} (begins : kept [] start)
    (keep : ∀ past label, admits (run step start past) label → kept past (run step start past) →
      kept (past ++ [label]) (step (run step start past) label))
    {labels : List α} (meets : Meets step admits start labels) : kept labels (run step start labels) := by
  induction labels using List.reverseRecOn with
  | nil => exact begins
  | append_singleton past label ih =>
    obtain ⟨before, admitted⟩ := meets_concat.1 meets
    rw [run_concat]
    exact keep past label admitted (ih before)

end EvoBlue.Kernel
