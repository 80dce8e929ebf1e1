import EvoBlue.Source.JobEffects

/-!
# Applying a stage outcome

`runtime/worker.py`: what `run_worker_once` writes when a stage handler returns.
Each branch is one immediate write transaction around repository functions that
commit and roll back themselves. The worker's session enters it with the job
instance it refreshed before, which may by then be older than the row.
-/

namespace EvoBlue.Source

open EvoBlue.Kernel

/-- The columns a stage may report for display. -/
inductive DisplayColumn where
  | title
  | platform
  | subtitleProbe
  deriving DecidableEq, Repr

def DisplayColumn.set (column : DisplayColumn) (value : Option String) (row : Job) : Job :=
  match column with
  | .title => { row with title := value }
  | .platform => { row with platform := value }
  | .subtitleProbe => { row with subtitleProbe := value }

abbrev DisplayUpdate := List (DisplayColumn × Option String)

def displayedRow (update : DisplayUpdate) (row : Job) : Job :=
  update.foldl (fun row entry => entry.1.set entry.2 row) row

structure StageOutcome where
  target : Option JobStatus := none
  progress : Option Int := none
  artifact : Option ArtifactRecord := none
  errorCode : Option String := none
  errorDetail : Option String := none
  retryable : Bool := false
  nextRetryAt : Option Time := none
  displayUpdate : Option DisplayUpdate := none
  deriving DecidableEq, Repr

namespace StageOutcome

def success (target : JobStatus) (progress : Option Int) (artifact : Option ArtifactRecord)
    (displayUpdate : Option DisplayUpdate) : StageOutcome :=
  { target := some target, progress, artifact, displayUpdate }

def transient (errorCode : String) (nextRetryAt : Option Time) (errorDetail : Option String)
    (displayUpdate : Option DisplayUpdate) : StageOutcome :=
  { errorCode := some errorCode, errorDetail, retryable := true, displayUpdate, nextRetryAt }

def fatal (errorCode : String) (errorDetail : Option String)
    (displayUpdate : Option DisplayUpdate) : StageOutcome :=
  { errorCode := some errorCode, errorDetail, displayUpdate }

end StageOutcome

def missingHandlerError : String := "INTERNAL_ERROR"

def defaultRetryDelay : Time := 60

/-- The due time handed to `mark_failure`; `now` is read only for a retry without one. -/
def retryDueAt (nextRetryAt : Option Time) (retryable : Bool) (now : Time) : Option Time :=
  if nextRetryAt.isNone && retryable then some (now + defaultRetryDelay) else nextRetryAt

/-- `_apply_display_update`; an empty dictionary is no update. -/
def applyDisplayUpdate (jobId : String) (outcome : StageOutcome) : JobTx Unit :=
  match outcome.displayUpdate with
  | none => pure ()
  | some [] => pure ()
  | some update => do
    let _ ← updateJobs (fun row => row.jobId = jobId) (displayedRow update)
    return ()

/-- `immediate_write_transaction`. -/
abbrev immediateWrite {α : Type} (body : JobTx α) : JobTx α := Tx.immediately .beginRefused body

/-- The branches of `run_worker_once` after a handler returned `outcome` for
`job`. `dueNow` and `now` are two readings of the clock. -/
def applyOutcome (job : Job) (owner : String) (leaseSeconds dueNow now : Time)
    (outcome : StageOutcome) : JobTx Job :=
  if outcome.errorCode = some "CANCELLED_BY_USER" then
    immediateWrite (markCancelled (some job) job.jobId owner now)
  else
    match outcome.errorCode with
    | some errorCode =>
      let nextRetryAt := retryDueAt outcome.nextRetryAt outcome.retryable dueNow
      immediateWrite do
        applyDisplayUpdate job.jobId outcome
        markFailure (some job) job.jobId owner now errorCode outcome.retryable nextRetryAt
          outcome.errorDetail
    | none =>
      match outcome.target with
      | none =>
        immediateWrite do
          applyDisplayUpdate job.jobId outcome
          markFailure (some job) job.jobId owner now missingHandlerError false none
            (some "handler returned no target")
      | some target =>
        immediateWrite do
          applyDisplayUpdate job.jobId outcome
          match outcome.artifact with
          | some artifact =>
            commitArtifactAndAdvance (some job) job.jobId owner target now leaseSeconds artifact
              outcome.progress
          | none =>
            advanceJob (some job) job.jobId owner target now leaseSeconds none outcome.progress

end EvoBlue.Source
