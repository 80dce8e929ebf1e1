/-!
# Statements inside an open write transaction

A function that reads and writes inside a transaction of its caller, and never
commits, is a script over the working database. It may raise, and what it wrote
before stays written unless a savepoint undoes it. The caller's transaction
commits a script that returns and rolls back one that raises.
-/

namespace EvoBlue.Kernel

/-- Statements on a working database `σ` that may raise `ε`. -/
structure Script (σ ε α : Type) where
  run : σ → Except ε α × σ

namespace Script

variable {σ ε α β : Type}

protected def pure (value : α) : Script σ ε α := ⟨fun db => (.ok value, db)⟩

protected def bind (first : Script σ ε α) (next : α → Script σ ε β) : Script σ ε β :=
  ⟨fun db =>
    match first.run db with
    | (.ok value, after) => (next value).run after
    | (.error raised, after) => (.error raised, after)⟩

instance : Monad (Script σ ε) where
  pure := Script.pure
  bind := Script.bind

def raise (error : ε) : Script σ ε α := ⟨fun db => (.error error, db)⟩

def read : Script σ ε σ := ⟨fun db => (.ok db, db)⟩

def write (update : σ → σ) : Script σ ε Unit := ⟨fun db => (.ok (), update db)⟩

/-- Inside a savepoint: what was written is undone when the body raises. -/
def savepoint (body : Script σ ε α) : Script σ ε α :=
  ⟨fun db =>
    match body.run db with
    | (.ok value, after) => (.ok value, after)
    | (.error raised, _) => (.error raised, db)⟩

/-- A write transaction of its own around the script: the result, and the
database once it is committed or rolled back. -/
def transaction (body : Script σ ε α) (db : σ) : Except ε α × σ :=
  match body.run db with
  | (.ok value, after) => (.ok value, after)
  | (.error raised, _) => (.error raised, db)

/-! ## Symbolic execution -/

@[simp] theorem pure_run (value : α) (db : σ) :
    (pure value : Script σ ε α).run db = (.ok value, db) := rfl

@[simp] theorem raise_run (error : ε) (db : σ) :
    (raise error : Script σ ε α).run db = (.error error, db) := rfl

@[simp] theorem write_run (update : σ → σ) (db : σ) :
    (write update : Script σ ε Unit).run db = (.ok (), update db) := rfl

@[simp] theorem pure_bind_run (value : α) (next : α → Script σ ε β) (db : σ) :
    ((pure value : Script σ ε α) >>= next).run db = (next value).run db := rfl

@[simp] theorem raise_bind_run (error : ε) (next : α → Script σ ε β) (db : σ) :
    ((raise error : Script σ ε α) >>= next).run db = (.error error, db) := rfl

@[simp] theorem read_bind_run (next : σ → Script σ ε β) (db : σ) :
    ((read : Script σ ε σ) >>= next).run db = (next db).run db := rfl

@[simp] theorem write_bind_run (update : σ → σ) (next : Unit → Script σ ε β) (db : σ) :
    ((write update : Script σ ε Unit) >>= next).run db = (next ()).run (update db) := rfl

@[simp] theorem bind_assoc_run {γ : Type} (first : Script σ ε α) (next : α → Script σ ε β)
    (last : β → Script σ ε γ) (db : σ) :
    ((first >>= next) >>= last).run db = (first >>= fun value => next value >>= last).run db := by
  change (Script.bind (Script.bind first next) last).run db = (Script.bind first _).run db
  unfold Script.bind
  simp only
  rcases first.run db with ⟨result, after⟩
  cases result <;> rfl

/-- A sequence, by how its first part ends. -/
theorem bind_run (first : Script σ ε α) (next : α → Script σ ε β) (db : σ) :
    (first >>= next).run db =
      match first.run db with
      | (.ok value, after) => (next value).run after
      | (.error raised, after) => (.error raised, after) := rfl

theorem bind_of_ok {first : Script σ ε α} {value : α} {db after : σ}
    (returned : first.run db = (.ok value, after)) (next : α → Script σ ε β) :
    (first >>= next).run db = (next value).run after := by
  change (Script.bind first next).run db = _
  unfold Script.bind
  simp only [returned]

theorem bind_of_error {first : Script σ ε α} {raised : ε} {db after : σ}
    (error : first.run db = (.error raised, after)) (next : α → Script σ ε β) :
    (first >>= next).run db = (.error raised, after) := by
  change (Script.bind first next).run db = _
  unfold Script.bind
  simp only [error]

/-- A sequence that returned: its first part returned, and so did the rest. -/
theorem bind_returned {first : Script σ ε α} {next : α → Script σ ε β} {result : β} {db last : σ}
    (returned : (first >>= next).run db = (.ok result, last)) :
    ∃ value after, first.run db = (.ok value, after) ∧
      (next value).run after = (.ok result, last) := by
  cases begun : first.run db with
  | mk outcome after =>
    cases outcome with
    | error raised =>
      rw [bind_of_error begun] at returned
      cases returned
    | ok value =>
      rw [bind_of_ok begun] at returned
      exact ⟨value, after, rfl, returned⟩

/-- A sequence that raised: its first part did, or the rest after it. -/
theorem bind_raised {first : Script σ ε α} {next : α → Script σ ε β} {raised : ε} {db last : σ}
    (error : (first >>= next).run db = (.error raised, last)) :
    first.run db = (.error raised, last) ∨
      ∃ value after, first.run db = (.ok value, after) ∧
        (next value).run after = (.error raised, last) := by
  cases begun : first.run db with
  | mk outcome after =>
    cases outcome with
    | error other =>
      rw [bind_of_error begun] at error
      cases error
      exact .inl rfl
    | ok value =>
      rw [bind_of_ok begun] at error
      exact .inr ⟨value, after, rfl, error⟩

/-- What comes after and writes nothing leaves the database of the first part. -/
theorem bind_frame {first : Script σ ε α} {next : α → Script σ ε β}
    (frame : ∀ value db, ((next value).run db).2 = db) (db : σ) :
    ((first >>= next).run db).2 = (first.run db).2 := by
  rw [bind_run]
  rcases first.run db with ⟨outcome, after⟩
  cases outcome with
  | error raised => rfl
  | ok value => exact frame value after

theorem savepoint_returned {body : Script σ ε α} {value : α} {db after : σ} :
    (savepoint body).run db = (.ok value, after) ↔ body.run db = (.ok value, after) := by
  unfold savepoint
  simp only
  rcases body.run db with ⟨outcome, last⟩
  cases outcome <;> simp

/-- A savepoint whose body raised is undone. -/
theorem savepoint_raised {body : Script σ ε α} {raised : ε} {db after : σ}
    (error : body.run db = (.error raised, after)) :
    (savepoint body).run db = (.error raised, db) := by
  unfold savepoint
  simp only [error]

theorem transaction_returned {body : Script σ ε α} {value : α} {db after : σ} :
    transaction body db = (.ok value, after) ↔ body.run db = (.ok value, after) := by
  unfold transaction
  rcases body.run db with ⟨outcome, last⟩
  cases outcome <;> simp

/-- A transaction that raised left the database as it was. -/
theorem transaction_raised {body : Script σ ε α} {raised : ε} {db after : σ}
    (error : transaction body db = (.error raised, after)) : after = db := by
  unfold transaction at error
  split at error
  next => cases error
  next =>
    cases error
    rfl

/-! ## What a script leaves alone -/

section

variable {γ : Type} {reads : σ → γ}

/-- However the script ends, `reads` sees what it saw before. -/
def Leaves (reads : σ → γ) (body : Script σ ε α) : Prop := ∀ db, reads (body.run db).2 = reads db

theorem leaves_pure (value : α) : Leaves reads (pure value : Script σ ε α) := fun _ => rfl

theorem leaves_raise (error : ε) : Leaves reads (raise error : Script σ ε α) := fun _ => rfl

theorem leaves_read : Leaves reads (read : Script σ ε σ) := fun _ => rfl

theorem leaves_write {update : σ → σ} (same : ∀ db, reads (update db) = reads db) :
    Leaves reads (write update : Script σ ε Unit) := same

theorem Leaves.bind {first : Script σ ε α} {next : α → Script σ ε β} (one : Leaves reads first)
    (rest : ∀ value, Leaves reads (next value)) : Leaves reads (first >>= next) := by
  intro db
  have same := one db
  rw [bind_run]
  cases begun : first.run db with
  | mk outcome after =>
    rw [begun] at same
    cases outcome with
    | error raised => exact same
    | ok value => exact (rest value after).trans same

theorem Leaves.savepoint {body : Script σ ε α} (leaves : Leaves reads body) :
    Leaves reads (savepoint body) := by
  intro db
  have same := leaves db
  unfold Script.savepoint
  dsimp only
  cases ran : body.run db with
  | mk outcome after =>
    rw [ran] at same
    cases outcome with
    | error raised => rfl
    | ok value => exact same

theorem Leaves.transaction {body : Script σ ε α} (leaves : Leaves reads body) (db : σ) :
    reads (transaction body db).2 = reads db := leaves.savepoint db

end

end Script

end EvoBlue.Kernel
