import EvoBlue.Kernel.Protocol
import EvoBlue.Kernel.Runs

/-!
# Routines on an event loop

A routine makes calls of two kinds. Some are answered on the spot, from state that all
routines share; at the others it waits, and any number of other routines may run before
it goes on. Between two waits nothing else runs. What a routine ends with, whatever the
others do, is read off its text by a protocol whose phase is the shared state.
-/

namespace EvoBlue.Kernel

variable {Now Later : Type} {Reply : Now → Type} {Answer : Later → Type} {σ α Op : Type}

def LoopAnswer (Reply : Now → Type) (Answer : Later → Type) : Now ⊕ Later → Type
  | .inl now => Reply now
  | .inr later => Answer later

abbrev Routine (Now Later : Type) (Reply : Now → Type) (Answer : Later → Type) (α : Type) :=
  Process (Now ⊕ Later) (LoopAnswer Reply Answer) α

/-- Up to the next wait, or the end. -/
def settle (serve : ∀ now, σ → Reply now × σ) :
    Routine Now Later Reply Answer α → σ → Routine Now Later Reply Answer α × σ
  | .ask (.inl now) next, shared => settle serve (next (serve now shared).1) (serve now shared).2
  | .ask (.inr later) next, shared => (.ask (.inr later) next, shared)
  | .done value, shared => (.done value, shared)

/-- Calls answered on the spot move the shared state; at a wait it may move anywhere. -/
def interleaved (Later : Type) (Answer : Later → Type) (serve : ∀ now, σ → Reply now × σ) :
    Protocol (Now ⊕ Later) (LoopAnswer Reply Answer) σ where
  allowed _ _ := True
  moves
    | shared, .inl now, answer, after => serve now shared = (answer, after)
    | _, .inr _, _, _ => True

structure Loop (Now Later : Type) (Reply : Now → Type) (Answer : Later → Type) (σ α : Type) where
  tasks : List (Routine Now Later Reply Answer α) := []
  shared : σ

/-- The loop starts an operation, or lets a task go on with an answer. -/
inductive LoopTurn (Op Later : Type) (Answer : Later → Type) where
  | start (op : Op)
  | resume (task : Nat) (answers : ∀ later, Answer later)

def Loop.turn (serve : ∀ now, σ → Reply now × σ) (routine : Op → Routine Now Later Reply Answer α)
    (loop : Loop Now Later Reply Answer σ α) : LoopTurn Op Later Answer → Loop Now Later Reply Answer σ α
  | .start op =>
    let ran := settle serve (routine op) loop.shared
    { tasks := loop.tasks ++ [ran.1], shared := ran.2 }
  | .resume i answers =>
    match loop.tasks[i]? with
    | some (.ask (.inr later) next) =>
      let ran := settle serve (next (answers later)) loop.shared
      { tasks := loop.tasks.set i ran.1, shared := ran.2 }
    | _ => loop

variable {serve : ∀ now, σ → Reply now × σ} {post : α → Prop}

/-- What follows the protocol from one state still does after it has run to a wait, from
every state. -/
theorem follows_settle {routine : Routine Now Later Reply Answer α} {shared : σ}
    (follows : routine.Follows (interleaved Later Answer serve) (fun _ => post) shared) (after : σ) :
    (settle serve routine shared).1.Follows (interleaved Later Answer serve) (fun _ => post) after := by
  induction routine generalizing shared with
  | done value => exact follows
  | ask call next ih =>
    cases call with
    | inl now => exact ih _ (follows.2 _ _ rfl)
    | inr later =>
      refine ⟨trivial, fun answer moved _ => ?_⟩
      exact follows.2 answer moved trivial

/-- No task strays, whatever the state it goes on in. -/
def Loop.Steady (serve : ∀ now, σ → Reply now × σ) (post : α → Prop)
    (loop : Loop Now Later Reply Answer σ α) : Prop :=
  ∀ task ∈ loop.tasks, ∀ shared,
    task.Follows (interleaved Later Answer serve) (fun _ => post) shared

theorem steady_turn {routine : Op → Routine Now Later Reply Answer α}
    (follows : ∀ op shared,
      (routine op).Follows (interleaved Later Answer serve) (fun _ => post) shared)
    (loop : Loop Now Later Reply Answer σ α) (turn : LoopTurn Op Later Answer)
    (steady : loop.Steady serve post) : (loop.turn serve routine turn).Steady serve post := by
  cases turn with
  | start op =>
    intro task mem shared
    rcases List.mem_append.1 mem with old | new
    · exact steady task old shared
    · rw [List.mem_singleton.1 new]
      exact follows_settle (follows op loop.shared) shared
  | resume i answers =>
    unfold Loop.turn
    dsimp only
    split
    next later next waiting =>
      have waited := steady _ (List.mem_of_getElem? waiting) loop.shared
      intro task mem shared
      rcases List.mem_or_eq_of_mem_set mem with old | new
      · exact steady task old shared
      · rw [new]
        exact follows_settle (waited.2 (answers later) loop.shared trivial) shared
    next => exact steady

/-- Every value that an operation ends with, in any run of the loop, is one of `post`. -/
theorem loop_results {routine : Op → Routine Now Later Reply Answer α}
    (follows : ∀ op shared,
      (routine op).Follows (interleaved Later Answer serve) (fun _ => post) shared)
    (shared : σ) (turns : List (LoopTurn Op Later Answer)) {task : Routine Now Later Reply Answer α}
    (mem : task ∈ (run (Loop.turn serve routine) { shared } turns).tasks) {value : α}
    (ended : task.result = some value) : post value := by
  have steady : (run (Loop.turn serve routine) { shared } turns).Steady serve post := by
    apply run_invariant (steady_turn follows)
    intro task mem
    cases mem
  have done := steady task mem shared
  rw [Process.done_of_result ended] at done
  exact done

end EvoBlue.Kernel
