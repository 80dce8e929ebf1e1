/-!
# Database sessions and their transactions

A session sees the durable database, and the working copy of the transaction
it has open. A transaction script runs statements on the working copy, commits,
rolls back and may raise; raising does not roll back by itself. The scripts of
a repository are written in the monad `Tx`; the rules below execute them
symbolically, statement by statement.

Another connection's write never falls between two statements of an open
`immediate` transaction, since that holds the write lock from its start.
-/

namespace EvoBlue.Kernel

/-- Whether a session has a transaction open, and how it began. -/
inductive TxMode where
  | closed
  | deferred
  | immediate
  deriving DecidableEq, Repr

structure Session (σ : Type) where
  durable : σ
  working : σ
  mode : TxMode
  wrote : Bool

namespace Session

variable {σ : Type}

/-- A session that has not begun a transaction. -/
def fresh (database : σ) : Session σ := ⟨database, database, .closed, false⟩

/-- A statement on a session without a transaction begins a deferred one. -/
def begun (s : Session σ) : Session σ :=
  match s.mode with
  | .closed => ⟨s.durable, s.durable, .deferred, false⟩
  | _ => s

/-- A read-only transaction publishes nothing when it commits. -/
def committed (s : Session σ) : Session σ :=
  if s.wrote then ⟨s.working, s.working, .closed, false⟩
  else ⟨s.durable, s.durable, .closed, false⟩

def rolledBack (s : Session σ) : Session σ := ⟨s.durable, s.durable, .closed, false⟩

end Session

/-- A transaction script over databases `σ` that may raise `ε`. -/
structure Tx (σ ε α : Type) where
  run : Session σ → Except ε α × Session σ

namespace Tx

variable {σ ε α β : Type}

protected def pure (value : α) : Tx σ ε α := ⟨fun s => (.ok value, s)⟩

protected def bind (first : Tx σ ε α) (next : α → Tx σ ε β) : Tx σ ε β :=
  ⟨fun s =>
    match first.run s with
    | (.ok value, after) => (next value).run after
    | (.error raised, after) => (.error raised, after)⟩

instance : Monad (Tx σ ε) where
  pure := Tx.pure
  bind := Tx.bind

/-- Raise: the open transaction stays as it is. -/
def raise (error : ε) : Tx σ ε α := ⟨fun s => (.error error, s)⟩

/-- The database as the open transaction sees it. -/
def read : Tx σ ε σ := ⟨fun s => (.ok s.begun.working, s.begun)⟩

/-- One writing statement on the working copy. -/
def write (update : σ → σ) : Tx σ ε Unit :=
  ⟨fun s => (.ok (), { s.begun with working := update s.begun.working, wrote := true })⟩

def commit : Tx σ ε Unit := ⟨fun s => (.ok (), s.committed)⟩

def rollback : Tx σ ε Unit := ⟨fun s => (.ok (), s.rolledBack)⟩

/-- Be at the start of, or inside, an immediate transaction. A deferred
transaction that already wrote is refused; a read-only one is closed first. -/
def ensureImmediate (refused : ε) : Tx σ ε Unit :=
  ⟨fun s =>
    match s.mode with
    | .closed => (.ok (), ⟨s.durable, s.durable, .immediate, false⟩)
    | .immediate => (.ok (), s)
    | .deferred =>
      if s.wrote then (.error refused, s)
      else (.ok (), ⟨s.durable, s.durable, .immediate, false⟩)⟩

/-- Run `body` as one immediate write: commit when it returns, roll back and
re-raise when it raises. Leaving reopens the session in deferred mode. -/
def immediately (refused : ε) (body : Tx σ ε α) : Tx σ ε α :=
  ⟨fun s =>
    match (ensureImmediate refused).run s with
    | (.error raised, after) => (.error raised, after)
    | (.ok (), opened) =>
      match body.run opened with
      | (.ok value, after) => (.ok value, after.committed.begun)
      | (.error raised, after) => (.error raised, after.rolledBack.begun)⟩

/-- Result and durable database of a script run in a session of its own, which
is discarded afterwards. -/
def atomically (script : Tx σ ε α) (database : σ) : Except ε α × σ :=
  ((script.run (.fresh database)).1, (script.run (.fresh database)).2.durable)

/-! ## Symbolic execution -/

@[simp] theorem pure_run (value : α) (s : Session σ) :
    (pure value : Tx σ ε α).run s = (.ok value, s) := rfl

@[simp] theorem raise_run (error : ε) (s : Session σ) :
    (raise error : Tx σ ε α).run s = (.error error, s) := rfl

@[simp] theorem pure_bind_run (value : α) (next : α → Tx σ ε β) (s : Session σ) :
    ((pure value : Tx σ ε α) >>= next).run s = (next value).run s := rfl

@[simp] theorem raise_bind_run (error : ε) (next : α → Tx σ ε β) (s : Session σ) :
    ((raise error : Tx σ ε α) >>= next).run s = (.error error, s) := rfl

@[simp] theorem read_bind_run (next : σ → Tx σ ε β) (s : Session σ) :
    ((read : Tx σ ε σ) >>= next).run s = (next s.begun.working).run s.begun := rfl

@[simp] theorem write_bind_run (update : σ → σ) (next : Unit → Tx σ ε β) (s : Session σ) :
    ((write update : Tx σ ε Unit) >>= next).run s =
      (next ()).run { s.begun with working := update s.begun.working, wrote := true } := rfl

@[simp] theorem commit_bind_run (next : Unit → Tx σ ε β) (s : Session σ) :
    ((commit : Tx σ ε Unit) >>= next).run s = (next ()).run s.committed := rfl

@[simp] theorem rollback_bind_run (next : Unit → Tx σ ε β) (s : Session σ) :
    ((rollback : Tx σ ε Unit) >>= next).run s = (next ()).run s.rolledBack := rfl

@[simp] theorem bind_assoc_run {γ : Type} (first : Tx σ ε α) (next : α → Tx σ ε β)
    (last : β → Tx σ ε γ) (s : Session σ) :
    ((first >>= next) >>= last).run s = (first >>= fun value => next value >>= last).run s := by
  change (Tx.bind (Tx.bind first next) last).run s = (Tx.bind first _).run s
  unfold Tx.bind
  simp only
  rcases first.run s with ⟨result, after⟩
  cases result <;> rfl

theorem bind_of_ok {first : Tx σ ε α} {value : α} {s after : Session σ}
    (returned : first.run s = (.ok value, after)) (next : α → Tx σ ε β) :
    (first >>= next).run s = (next value).run after := by
  change (Tx.bind first next).run s = _
  unfold Tx.bind
  simp only [returned]

@[simp] theorem begun_immediate (durable working : σ) (wrote : Bool) :
    (⟨durable, working, .immediate, wrote⟩ : Session σ).begun =
      ⟨durable, working, .immediate, wrote⟩ := rfl

@[simp] theorem begun_closed (durable working : σ) (wrote : Bool) :
    (⟨durable, working, .closed, wrote⟩ : Session σ).begun =
      ⟨durable, durable, .deferred, false⟩ := rfl

@[simp] theorem committed_wrote (durable working : σ) (mode : TxMode) :
    (⟨durable, working, mode, true⟩ : Session σ).committed =
      ⟨working, working, .closed, false⟩ := rfl

/-- Inside an immediate transaction the guard changes nothing. -/
@[simp] theorem ensureImmediate_inside (refused : ε) (next : Unit → Tx σ ε β)
    (durable working : σ) (wrote : Bool) :
    (ensureImmediate refused >>= next).run ⟨durable, working, .immediate, wrote⟩ =
      (next ()).run ⟨durable, working, .immediate, wrote⟩ := rfl

/-- A script that starts with the guard behaves, in a session of its own, as
inside an immediate transaction that has not written yet. -/
theorem atomically_guarded (refused : ε) (next : Unit → Tx σ ε β) (database : σ) :
    atomically (ensureImmediate refused >>= next) database =
      (((next ()).run ⟨database, database, .immediate, false⟩).1,
        ((next ()).run ⟨database, database, .immediate, false⟩).2.durable) := rfl

end Tx

end EvoBlue.Kernel
