import EvoBlue.Kernel.Runs

/-!
# The write helper under cancellation

`immediate_write_transaction` of `storage/db.py`, await by await. The commit runs
in a task of its own that nobody cancels; the helper waits for it behind a shield
and may be cancelled at every wait, also after the task has finished and before
the helper has been resumed. What the body and the database do, and where
cancellations arrive, is in the events.
-/

namespace EvoBlue.Source

open EvoBlue.Kernel

/-- An exception: `CancelledError`, or another one. -/
inductive Raised where
  | cancelled
  | error (detail : String)
  deriving DecidableEq, Repr

/-- How a block of code ends. -/
abbrev Ending := Except Raised Unit

/-- The task of `session.commit()`; `finished none` is a durable commit. -/
inductive CommitTask where
  | notStarted
  | running
  | finished (failure : Option String)
  deriving DecidableEq, Repr

/-- An await of the helper at which a cancellation may be delivered. -/
inductive Awaited where
  | entry
  | rollback
  | commit
  | restore
  deriving DecidableEq, Repr

/-- Where the helper stands. -/
inductive HelperPoint where
  /-- `ensure_immediate_transaction`, before the `try`. -/
  | entering
  | body
  | rollingBack (error : Raised)
  /-- The first wait for the commit task. -/
  | committing
  /-- The loop of the `except CancelledError` block. -/
  | verdict
  /-- The `finally` block, with the way out that is due. -/
  | restoring (pending : Ending)
  | left (exit : Ending)
  deriving DecidableEq, Repr

structure WriteHelper where
  point : HelperPoint := .entering
  commit : CommitTask := .notStarted
  onCommitCalls : Nat := 0
  /-- The rollback has run to its end. -/
  rolledBack : Bool := false
  bodyEnded : Option Ending := none
  /-- The awaits at which a cancellation was delivered, the latest first. -/
  cancels : List Awaited := []
  deriving DecidableEq, Repr

inductive HelperEvent where
  | entered
  | refused (detail : String)
  | bodyEnds (ending : Ending)
  /-- The rollback returns, or raises what is suppressed. -/
  | rollbackEnds
  | commitEnds (failure : Option String)
  /-- The helper's wait for the commit task is over. -/
  | resumes
  /-- The execution option is restored, or that raises what is suppressed. -/
  | restoreEnds
  /-- A cancellation is delivered at the helper's await. -/
  | cancel
  deriving DecidableEq, Repr

namespace WriteHelper

/-- The end of the `except CancelledError` block, with the verdict in hand. -/
def verdictReached (helper : WriteHelper) : (failure : Option String) → WriteHelper
  | some detail => { helper with point := .restoring (.error (.error detail)) }
  | none =>
    { helper with
      onCommitCalls := helper.onCommitCalls + 1
      point := .restoring (.error .cancelled) }

/-- `while not commit_task.done()`. -/
def awaitVerdict (helper : WriteHelper) : WriteHelper :=
  match helper.commit with
  | .finished failure => helper.verdictReached failure
  | _ => { helper with point := .verdict }

def delivered (helper : WriteHelper) (awaited : Awaited) : WriteHelper :=
  { helper with cancels := awaited :: helper.cancels }

def cancel (helper : WriteHelper) : WriteHelper :=
  match helper.point with
  | .entering => { helper.delivered .entry with point := .left (.error .cancelled) }
  -- The rollback's `suppress(Exception)` lets the cancellation through.
  | .rollingBack _ => { helper.delivered .rollback with point := .restoring (.error .cancelled) }
  | .committing => (helper.delivered .commit).awaitVerdict
  | .verdict => (helper.delivered .commit).awaitVerdict
  -- And so does the one around the restored option.
  | .restoring _ => { helper.delivered .restore with point := .left (.error .cancelled) }
  | .body => helper
  | .left _ => helper

def resumes (helper : WriteHelper) : WriteHelper :=
  match helper.point, helper.commit with
  | .committing, .finished none =>
    { helper with onCommitCalls := helper.onCommitCalls + 1, point := .restoring (.ok ()) }
  | .committing, .finished (some detail) =>
    { helper with point := .restoring (.error (.error detail)) }
  | .verdict, .finished failure => helper.verdictReached failure
  | _, _ => helper

def step (helper : WriteHelper) : HelperEvent → WriteHelper
  | .entered => if helper.point = .entering then { helper with point := .body } else helper
  | .refused detail =>
    if helper.point = .entering then { helper with point := .left (.error (.error detail)) }
    else helper
  | .bodyEnds (.ok _) =>
    if helper.point = .body then
      { helper with point := .committing, commit := .running, bodyEnded := some (.ok ()) }
    else helper
  | .bodyEnds (.error error) =>
    if helper.point = .body then
      { helper with point := .rollingBack error, bodyEnded := some (.error error) }
    else helper
  | .rollbackEnds =>
    match helper.point with
    | .rollingBack error => { helper with point := .restoring (.error error), rolledBack := true }
    | _ => helper
  | .commitEnds failure =>
    if helper.commit = .running then { helper with commit := .finished failure } else helper
  | .resumes => helper.resumes
  | .restoreEnds =>
    match helper.point with
    | .restoring pending => { helper with point := .left pending }
    | _ => helper
  | .cancel => helper.cancel

/-- The helper after a list of events. -/
def after (events : List HelperEvent) : WriteHelper := run step {} events

end WriteHelper

end EvoBlue.Source
