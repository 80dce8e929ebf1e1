import EvoBlue.Kernel.Script

/-!
# Functions as sequences of statements

A database function sends one statement after another, and what it sends next
depends on what came back. `script` runs it with a database that answers every
statement; `attempt` runs it against a schedule of failures, in which any
statement may raise instead. A statement that fails changes nothing, so inside a
savepoint a failure leaves no trace of the whole function.
-/

namespace EvoBlue.Kernel

inductive Statements (σ ε α : Type) : Type 1
  | done (value : α)
  | send {β : Type} (statement : Script σ ε β) (next : β → Statements σ ε α)

namespace Statements

variable {σ ε α β : Type}

protected def bind : Statements σ ε α → (α → Statements σ ε β) → Statements σ ε β
  | .done value, next => next value
  | .send statement rest, next => .send statement fun answer => (rest answer).bind next

instance : Monad (Statements σ ε) where
  pure := .done
  bind := Statements.bind

/-- One statement. -/
def execute (statement : Script σ ε α) : Statements σ ε α := .send statement .done

/-- The function when no statement fails. -/
def script : Statements σ ε α → Script σ ε α
  | .done value => pure value
  | .send statement next => statement >>= fun answer => (next answer).script

/-- The function when the statements marked in `failures` raise `failure`. -/
def attempt (failure : ε) : Statements σ ε α → List Bool → σ → Except ε α × σ
  | .done value, _, db => (.ok value, db)
  | .send statement next, failures, db =>
    if failures.headD false then (.error failure, db)
    else
      match statement.run db with
      | (.ok answer, after) => (next answer).attempt failure failures.tail after
      | (.error raised, after) => (.error raised, after)

/-- The statements of a function inside a savepoint: `SAVEPOINT`, its own, and
`RELEASE SAVEPOINT`. -/
def bracketed (body : Statements σ ε α) : Statements σ ε α := do
  execute (pure ())
  let value ← body
  execute (pure ())
  return value

/-- A function inside a savepoint: whatever raises, the savepoint is rolled back. -/
def attemptSavepoint (failure : ε) (body : Statements σ ε α) (failures : List Bool) (db : σ) :
    Except ε α × σ :=
  match body.bracketed.attempt failure failures db with
  | (.ok value, after) => (.ok value, after)
  | (.error raised, _) => (.error raised, db)

/-! ## Symbolic execution -/

@[simp] theorem script_pure (value : α) :
    (pure value : Statements σ ε α).script = pure value := rfl

@[simp] theorem script_execute_bind (statement : Script σ ε α) (next : α → Statements σ ε β) :
    (execute statement >>= next).script = statement >>= fun answer => (next answer).script := rfl

theorem script_execute_run (statement : Script σ ε α) (db : σ) :
    (execute statement).script.run db = statement.run db := by
  change (Script.bind statement fun answer => pure answer).run db = statement.run db
  unfold Script.bind
  simp only
  rcases statement.run db with ⟨result, after⟩
  cases result <;> rfl

theorem script_bind_run (first : Statements σ ε α) (next : α → Statements σ ε β) (db : σ) :
    (first >>= next).script.run db = (first.script >>= fun value => (next value).script).run db := by
  induction first generalizing db with
  | done value => rfl
  | send statement rest ih =>
    change (statement >>= fun answer => ((rest answer).bind next).script).run db =
      ((statement >>= fun answer => (rest answer).script) >>= fun value => (next value).script).run db
    rw [Script.bind_assoc_run]
    cases began : statement.run db with
    | mk result after =>
      cases result with
      | error raised => rw [Script.bind_of_error began, Script.bind_of_error began]
      | ok answer =>
        rw [Script.bind_of_ok began, Script.bind_of_ok began]
        exact ih answer after

section

variable {γ : Type} {reads : σ → γ}

theorem leaves_done (value : α) : (pure value : Statements σ ε α).script.Leaves reads :=
  Script.leaves_pure value

theorem leaves_execute {statement : Script σ ε α} (leaves : statement.Leaves reads) :
    (execute statement).script.Leaves reads := by
  intro db
  rw [script_execute_run]
  exact leaves db

theorem leaves_bind {first : Statements σ ε α} {next : α → Statements σ ε β}
    (one : first.script.Leaves reads) (rest : ∀ value, (next value).script.Leaves reads) :
    (first >>= next).script.Leaves reads := by
  intro db
  rw [script_bind_run]
  exact (one.bind rest) db

end

theorem attempt_execute_bind (failure : ε) (statement : Script σ ε α)
    (next : α → Statements σ ε β) (failures : List Bool) (db : σ) :
    (execute statement >>= next).attempt failure failures db =
      if failures.headD false then (.error failure, db)
      else
        match statement.run db with
        | (.ok answer, after) => (next answer).attempt failure failures.tail after
        | (.error raised, after) => (.error raised, after) := by
  change (Statements.send statement next).attempt failure failures db = _
  rw [attempt]

/-- Under any schedule a function does what it does without failures, or raises. -/
theorem attempt_outcome (failure : ε) (body : Statements σ ε α) (failures : List Bool) (db : σ) :
    body.attempt failure failures db = body.script.run db ∨
      ∃ after, body.attempt failure failures db = (.error failure, after) := by
  induction body generalizing failures db with
  | done value => exact .inl rfl
  | send statement next ih =>
    unfold attempt
    split
    next => exact .inr ⟨db, rfl⟩
    next =>
      cases began : statement.run db with
      | mk result after =>
        cases result with
        | error raised => exact .inl (Script.bind_of_error began _).symm
        | ok answer =>
          rw [show (Statements.send statement next).script.run db = (next answer).script.run after
            from Script.bind_of_ok began _]
          exact ih answer failures.tail after

/-- Inside a savepoint a failure leaves the database as it was. -/
theorem attemptSavepoint_outcome (failure : ε) (body : Statements σ ε α) (failures : List Bool)
    (db : σ) :
    body.attemptSavepoint failure failures db = (Script.savepoint body.script).run db ∨
      body.attemptSavepoint failure failures db = (.error failure, db) := by
  have bracketed : ∀ db, body.bracketed.script.run db = body.script.run db := by
    intro db
    change (body >>= fun value => execute (pure ()) >>= fun _ => pure value).script.run db = _
    rw [script_bind_run]
    cases began : body.script.run db with
    | mk result after =>
      cases result with
      | error raised => rw [Script.bind_of_error began]
      | ok value =>
        rw [Script.bind_of_ok began]
        rfl
  unfold attemptSavepoint Script.savepoint
  rcases attempt_outcome failure body.bracketed failures db with undisturbed | ⟨after, failed⟩
  · rw [undisturbed, bracketed]
    exact .inl rfl
  · rw [failed]
    exact .inr rfl

end Statements

end EvoBlue.Kernel
