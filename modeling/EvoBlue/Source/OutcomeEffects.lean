import EvoBlue.Source.JobMoves
import EvoBlue.Source.Worker

/-!
# What an outcome's branch writes

The branches of `applyOutcome`, as one change of the tables: applying an outcome
to a stored job makes that change, or none.
-/

namespace EvoBlue.Source

open EvoBlue.Kernel

/-- The columns of the job's row after the outcome's branch. `view` is the
instance the session holds, `row` the stored one. -/
def outcomeValues (view row : Job) (leaseSeconds dueNow now : Time) (outcome : StageOutcome) :
    Job → Job :=
  if outcome.errorCode = some "CANCELLED_BY_USER" then cancelledRow now
  else
    match outcome.errorCode with
    | some errorCode =>
      failedRow (failureStatus outcome.retryable) errorCode outcome.errorDetail outcome.retryable
        (retryDueAt outcome.nextRetryAt outcome.retryable dueNow) now
    | none =>
      match outcome.target with
      | none =>
        failedRow (failureStatus false) missingHandlerError (some "handler returned no target")
          false none now
      | some target =>
        match outcome.artifact with
        | some _ => commitValues view target now leaseSeconds outcome.progress
        | none => advanceValues view row.cancelRequestedAt target now leaseSeconds none
            outcome.progress

/-- The artifact the branch registers, if it is the one that does. -/
def outcomeArtifact (outcome : StageOutcome) : Option ArtifactRecord :=
  if outcome.errorCode.isSome then none
  else if outcome.target.isNone then none
  else outcome.artifact

/-- The display columns the branch writes. -/
def outcomeDisplay (outcome : StageOutcome) : DisplayUpdate :=
  if outcome.errorCode = some "CANCELLED_BY_USER" then [] else outcome.displayUpdate.getD []

/-- Everything the branch for the outcome writes, together. -/
def outcomeWritten (db : JobsDb) (job row : Job) (leaseSeconds dueNow now : Time)
    (outcome : StageOutcome) : JobsDb :=
  let displayed := displayedRow (outcomeDisplay outcome)
  let values := outcomeValues (identityMapped (some job) (displayed row)) row leaseSeconds dueNow
    now outcome
  let registered :=
    match outcomeArtifact outcome with
    | some artifact => db.registerArtifact job.jobId now artifact
    | none => db
  registered.modifyJob row.id fun stored => values (displayed stored)

/-! ## Display columns -/

/-- A display update changes the three display columns alone. -/
theorem displayedRow_frame (update : DisplayUpdate) (row : Job) :
    ∃ title platform subtitleProbe,
      displayedRow update row = { row with title, platform, subtitleProbe } := by
  unfold displayedRow
  induction update generalizing row with
  | nil => exact ⟨row.title, row.platform, row.subtitleProbe, rfl⟩
  | cons entry update ih =>
    obtain ⟨title, platform, subtitleProbe, same⟩ := ih (entry.1.set entry.2 row)
    refine ⟨title, platform, subtitleProbe, same.trans ?_⟩
    rcases entry with ⟨column, value⟩
    cases column <;> rfl

theorem displayedRow_id (update : DisplayUpdate) (row : Job) :
    (displayedRow update row).id = row.id := by
  obtain ⟨title, platform, subtitleProbe, same⟩ := displayedRow_frame update row
  rw [same]

theorem displayedRow_jobId (update : DisplayUpdate) (row : Job) :
    (displayedRow update row).jobId = row.jobId := by
  obtain ⟨title, platform, subtitleProbe, same⟩ := displayedRow_frame update row
  rw [same]

/-- The tables after the display update of one job. -/
def displayedDb (db : JobsDb) (row : Job) (update : DisplayUpdate) : JobsDb :=
  db.modifyJob row.id (displayedRow update)

section

variable {db : JobsDb} {row : Job}

theorem displayedDb_keyed (keyed : db.Keyed) (row : Job) (update : DisplayUpdate) :
    (displayedDb db row update).Keyed :=
  keyed.modified _ (displayedRow_id update) (displayedRow_jobId update)

theorem displayedDb_findJob {jobId : String} (found : db.findJob jobId = some row)
    (update : DisplayUpdate) :
    (displayedDb db row update).findJob jobId = some (displayedRow update row) :=
  JobsDb.findJob_modified found (displayedRow_jobId update)

theorem displayedDb_modifyJob (db : JobsDb) (row : Job) (update : DisplayUpdate)
    (values : Job → Job) :
    (displayedDb db row update).modifyJob row.id values =
      db.modifyJob row.id fun stored => values (displayedRow update stored) := by
  unfold displayedDb JobsDb.modifyJob
  simp only [List.map_map]
  congr 1
  refine List.map_congr_left fun other _ => ?_
  by_cases same : other.id = row.id
  · simp [same, displayedRow_id]
  · simp [same]

/-- The display statement inside the write transaction. -/
theorem applyDisplayUpdate_bind {α : Type} (keyed : db.Keyed) {jobId : String}
    (found : db.findJob jobId = some row) (outcome : StageOutcome) (next : Unit → JobTx α) :
    ∃ wrote, (applyDisplayUpdate jobId outcome >>= next).run ⟨db, db, .immediate, false⟩ =
      (next ()).run ⟨db, displayedDb db row (outcome.displayUpdate.getD []), .immediate, wrote⟩ := by
  have none : displayedDb db row [] = db := JobsDb.modifyJob_self db row.id
  unfold applyDisplayUpdate
  match outcome.displayUpdate with
  | .none =>
    refine ⟨false, ?_⟩
    rw [Option.getD_none, none]
    rfl
  | some [] =>
    refine ⟨false, ?_⟩
    rw [Option.getD_some, none]
    rfl
  | some (entry :: rest) =>
    refine ⟨true, ?_⟩
    have mem := JobsDb.mem_of_findJob found
    have hit : (fun other : Job => decide (other.jobId = jobId)) row = true := by
      simpa using JobsDb.jobId_of_findJob found
    have named : ∀ other ∈ db.jobs, decide (other.jobId = jobId) = true → other.id = row.id := by
      intro other memOther same
      refine congrArg Job.id (keyed.eq_of_jobId memOther mem ?_)
      rw [of_decide_eq_true same, JobsDb.jobId_of_findJob found]
    rw [Tx.bind_assoc_run, updateJobs_hit keyed mem hit named]
    rfl

end

/-! ## The transaction around a branch -/

/-- A body that returns after its commit, in a write entered from a read transaction. -/
theorem immediateWrite_ok {α : Type} {body : JobTx α} {db written : JobsDb} {value : α}
    (runs : body.run ⟨db, db, .immediate, false⟩ =
      (.ok value, ⟨written, written, .deferred, false⟩)) {mode : TxMode} (reading : mode ≠ .immediate)
    (view : JobsDb) :
    (immediateWrite body).run ⟨db, view, mode, false⟩ =
      (.ok value, ⟨written, written, .deferred, false⟩) := by
  have opened : (Tx.ensureImmediate JobError.beginRefused : JobTx Unit).run
      ⟨db, view, mode, false⟩ = (.ok (), ⟨db, db, .immediate, false⟩) := by
    cases mode <;> first | rfl | exact absurd rfl reading
  unfold immediateWrite Tx.immediately
  simp only [opened, runs]
  rfl

theorem immediateWrite_error {α : Type} {body : JobTx α} {db : JobsDb} {left : Session JobsDb}
    {error : JobError} (runs : body.run ⟨db, db, .immediate, false⟩ = (.error error, left))
    (untouched : left.durable = db) {mode : TxMode} (reading : mode ≠ .immediate) (view : JobsDb) :
    (immediateWrite body).run ⟨db, view, mode, false⟩ =
      (.error error, ⟨db, db, .deferred, false⟩) := by
  have opened : (Tx.ensureImmediate JobError.beginRefused : JobTx Unit).run
      ⟨db, view, mode, false⟩ = (.ok (), ⟨db, db, .immediate, false⟩) := by
    cases mode <;> first | rfl | exact absurd rfl reading
  unfold immediateWrite Tx.immediately
  simp only [opened, runs]
  unfold Session.rolledBack Session.begun
  rw [untouched]

section

variable {db : JobsDb} {row : Job}

theorem leaseGuard_displayed (job : Job) (owner : String) (now : Time) (update : DisplayUpdate)
    (row : Job) :
    leaseGuard job owner now (displayedRow update row) = leaseGuard job owner now row := by
  obtain ⟨title, platform, subtitleProbe, same⟩ := displayedRow_frame update row
  rw [same]
  rfl

theorem cancelRequestedAt_displayed (update : DisplayUpdate) (row : Job) :
    (displayedRow update row).cancelRequestedAt = row.cancelRequestedAt := by
  obtain ⟨title, platform, subtitleProbe, same⟩ := displayedRow_frame update row
  rw [same]

/-- The status the outcome's branch asks the transition table for. -/
def outcomeTarget (outcome : StageOutcome) : JobStatus :=
  match outcome.errorCode with
  | some _ => failureStatus outcome.retryable
  | none => outcome.target.getD .failed

/-- The branch asked for a transition of the table, or reports the user's cancellation. -/
def OutcomeLegal (view : Job) (outcome : StageOutcome) : Prop :=
  outcome.errorCode = some "CANCELLED_BY_USER" ∨
    isValidTransition view.status (outcomeTarget outcome) = true

/-- What applying an outcome to a stored job does: raise and change nothing, or
write everything and return the row, the latter under the lease and for a legal
branch. -/
def Settles (db : JobsDb) (ran : Except JobError Job × Session JobsDb) (job row : Job)
    (owner : String) (leaseSeconds dueNow now : Time) (outcome : StageOutcome) : Prop :=
  let displayed := displayedRow (outcomeDisplay outcome) row
  let view := identityMapped (some job) displayed
  let written := outcomeWritten db job row leaseSeconds dueNow now outcome
  (∃ error, ran = (.error error, ⟨db, db, .deferred, false⟩)) ∨
    leaseGuard view owner now row = true ∧ OutcomeLegal view outcome ∧
      ran = (.ok (outcomeValues view row leaseSeconds dueNow now outcome displayed),
        ⟨written, written, .deferred, false⟩)

variable (view : JobsDb) (owner : String) (leaseSeconds dueNow now : Time) {outcome : StageOutcome}

theorem applyOutcome_cancelled (keyed : db.Keyed) {job : Job}
    (found : db.findJob job.jobId = some row)
    (reported : outcome.errorCode = some "CANCELLED_BY_USER") :
    Settles db ((applyOutcome job owner leaseSeconds dueNow now outcome).run
      ⟨db, view, .deferred, false⟩) job row owner leaseSeconds dueNow now outcome := by
  have none : outcomeDisplay outcome = [] := if_pos reported
  have runs : (markCancelled (some job) job.jobId owner now).run ⟨db, db, .immediate, false⟩ = _ :=
    markCancelled_found keyed found rfl owner now
  unfold Settles applyOutcome
  rw [if_pos reported, none]
  split at runs
  next held =>
    refine .inr ⟨held, .inl reported, (immediateWrite_ok runs (by decide) view).trans ?_⟩
    simp [outcomeWritten, outcomeValues, outcomeArtifact, none, reported, displayedRow]
  next => exact .inl ⟨_, immediateWrite_error runs rfl (by decide) view⟩

/-- The branches that record a failure. -/
theorem failure_settles (keyed : db.Keyed) {job : Job} (found : db.findJob job.jobId = some row)
    (errorCode : String) (retryable : Bool) (nextRetryAt : Option Time)
    (errorDetail : Option String)
    (display : outcomeDisplay outcome = outcome.displayUpdate.getD [])
    (artifact : outcomeArtifact outcome = none)
    (target : outcomeTarget outcome = failureStatus retryable)
    (values : ∀ view row, outcomeValues view row leaseSeconds dueNow now outcome =
      failedRow (failureStatus retryable) errorCode errorDetail retryable nextRetryAt now) :
    Settles db ((immediateWrite do
        applyDisplayUpdate job.jobId outcome
        markFailure (some job) job.jobId owner now errorCode retryable nextRetryAt
          errorDetail).run ⟨db, view, .deferred, false⟩)
      job row owner leaseSeconds dueNow now outcome := by
  obtain ⟨wrote, displayed⟩ := applyDisplayUpdate_bind keyed found outcome fun _ =>
    markFailure (some job) job.jobId owner now errorCode retryable nextRetryAt errorDetail
  have runs := displayed.trans (markFailure_found (displayedDb_keyed keyed row _)
    (displayedDb_findJob found _) rfl owner now errorCode retryable nextRetryAt errorDetail)
  simp only [leaseGuard_displayed, displayedRow_id, displayedDb_modifyJob] at runs
  unfold Settles
  rw [display]
  split at runs
  next valid =>
    split at runs
    next held =>
      refine .inr ⟨held, .inr (by rw [target]; exact valid), (immediateWrite_ok runs (by decide) view).trans ?_⟩
      simp only [outcomeWritten, artifact, display, values]
    next => exact .inl ⟨_, immediateWrite_error runs rfl (by decide) view⟩
  next => exact .inl ⟨_, immediateWrite_error runs rfl (by decide) view⟩

theorem registered_displayed (db : JobsDb) (row : Job) (update : DisplayUpdate) (jobId : String)
    (now : Time) (artifact : ArtifactRecord) (values : Job → Job) :
    ((displayedDb db row update).registerArtifact jobId now artifact).modifyJob row.id values =
      (db.registerArtifact jobId now artifact).modifyJob row.id fun stored =>
        values (displayedRow update stored) := by
  rw [← displayedDb_modifyJob]
  unfold displayedDb JobsDb.registerArtifact
  have same : (db.modifyJob row.id (displayedRow update)).findArtifact jobId artifact.artifactType
      artifact.inputFingerprint =
        db.findArtifact jobId artifact.artifactType artifact.inputFingerprint := rfl
  rw [same]
  cases db.findArtifact jobId artifact.artifactType artifact.inputFingerprint <;> rfl

/-- The branches that move the job on. -/
theorem success_settles (keyed : db.Keyed) {job : Job} (found : db.findJob job.jobId = some row)
    {target : JobStatus} (noError : outcome.errorCode = none)
    (targeted : outcome.target = some target) :
    Settles db ((applyOutcome job owner leaseSeconds dueNow now outcome).run
      ⟨db, view, .deferred, false⟩) job row owner leaseSeconds dueNow now outcome := by
  have display : outcomeDisplay outcome = outcome.displayUpdate.getD [] := by
    simp [outcomeDisplay, noError]
  have asked : outcomeTarget outcome = target := by simp [outcomeTarget, noError, targeted]
  have keyedDisplayed := displayedDb_keyed keyed row (outcome.displayUpdate.getD [])
  have foundDisplayed := displayedDb_findJob found (outcome.displayUpdate.getD [])
  unfold Settles applyOutcome
  simp only [noError, targeted, reduceCtorEq, if_false]
  rw [display]
  cases registers : outcome.artifact with
  | some artifact =>
    simp only
    obtain ⟨wrote, displayed⟩ := applyDisplayUpdate_bind keyed found outcome fun _ =>
      commitArtifactAndAdvance (some job) job.jobId owner target now leaseSeconds artifact
        outcome.progress
    have runs := displayed.trans (commitArtifactAndAdvance_found now artifact
      (keyedDisplayed.registered job.jobId now artifact) foundDisplayed rfl owner target leaseSeconds
      outcome.progress)
    simp only [leaseGuard_displayed, displayedRow_id, registered_displayed] at runs
    split at runs
    next valid =>
      split at runs
      next held =>
        refine .inr ⟨held, .inr (by rw [asked]; exact valid), (immediateWrite_ok runs (by decide) view).trans ?_⟩
        simp [outcomeWritten, outcomeArtifact, outcomeValues, display, noError, targeted, registers]
      next => exact .inl ⟨_, immediateWrite_error runs rfl (by decide) view⟩
    next => exact .inl ⟨_, immediateWrite_error runs rfl (by decide) view⟩
  | none =>
    simp only
    obtain ⟨wrote, displayed⟩ := applyDisplayUpdate_bind keyed found outcome fun _ =>
      advanceJob (some job) job.jobId owner target now leaseSeconds none outcome.progress
    have runs := displayed.trans (advanceJob_found keyedDisplayed foundDisplayed rfl owner target now
      leaseSeconds none outcome.progress)
    simp only [leaseGuard_displayed, displayedRow_id, displayedDb_modifyJob,
      cancelRequestedAt_displayed] at runs
    split at runs
    next valid =>
      split at runs
      next held =>
        refine .inr ⟨held, .inr (by rw [asked]; exact valid), (immediateWrite_ok runs (by decide) view).trans ?_⟩
        simp [outcomeWritten, outcomeArtifact, outcomeValues, display, noError, targeted, registers]
      next => exact .inl ⟨_, immediateWrite_error runs rfl (by decide) view⟩
    next => exact .inl ⟨_, immediateWrite_error runs rfl (by decide) view⟩

theorem applyOutcome_settles (keyed : db.Keyed) {job : Job}
    (found : db.findJob job.jobId = some row) (outcome : StageOutcome) :
    Settles db ((applyOutcome job owner leaseSeconds dueNow now outcome).run
      ⟨db, view, .deferred, false⟩) job row owner leaseSeconds dueNow now outcome := by
  by_cases reported : outcome.errorCode = some "CANCELLED_BY_USER"
  · exact applyOutcome_cancelled view owner leaseSeconds dueNow now keyed found reported
  · have display : outcomeDisplay outcome = outcome.displayUpdate.getD [] := if_neg reported
    cases failure : outcome.errorCode with
    | some errorCode =>
      have settles := failure_settles view owner leaseSeconds dueNow now keyed found errorCode
        outcome.retryable (retryDueAt outcome.nextRetryAt outcome.retryable dueNow)
        outcome.errorDetail display (by simp [outcomeArtifact, failure])
        (by simp [outcomeTarget, failure]) fun view row => by
          unfold outcomeValues
          rw [if_neg reported, failure]
      unfold applyOutcome
      rw [if_neg reported, failure]
      exact settles
    | none =>
      cases targeted : outcome.target with
      | some target =>
        exact success_settles view owner leaseSeconds dueNow now keyed found failure targeted
      | none =>
        have settles := failure_settles view owner leaseSeconds dueNow now keyed found
          missingHandlerError false none (some "handler returned no target") display
          (by simp [outcomeArtifact, failure, targeted])
          (by simp [outcomeTarget, failure, targeted, failureStatus])
          (by simp [outcomeValues, failure, targeted])
        unfold applyOutcome
        rw [if_neg reported, failure, targeted]
        exact settles

end

/-- The columns an outcome's branch may write. -/
theorem outcomeValues_frame (view row : Job) (leaseSeconds dueNow now : Time)
    (outcome : StageOutcome) (stored : Job) :
    ∃ status stage progress errorCode errorDetail retryable nextRetryAt leaseOwner leaseExpiresAt
        updatedAt,
      outcomeValues view row leaseSeconds dueNow now outcome stored =
        { stored with status, stage, progress, errorCode, errorDetail, retryable, nextRetryAt,
                      leaseOwner, leaseExpiresAt, updatedAt } := by
  unfold outcomeValues
  split
  · exact ⟨_, _, _, _, _, _, _, _, _, _, rfl⟩
  · cases outcome.errorCode with
    | some errorCode => exact ⟨_, _, _, _, _, _, _, _, _, _, rfl⟩
    | none =>
      cases outcome.target with
      | none => exact ⟨_, _, _, _, _, _, _, _, _, _, rfl⟩
      | some target =>
        cases outcome.artifact with
        | some artifact => exact ⟨_, _, _, _, _, _, _, _, _, _, rfl⟩
        | none => exact ⟨_, _, _, _, _, _, _, _, _, _, rfl⟩

theorem outcomeValues_jobId (view row : Job) (leaseSeconds dueNow now : Time)
    (outcome : StageOutcome) (stored : Job) :
    (outcomeValues view row leaseSeconds dueNow now outcome stored).jobId = stored.jobId := by
  obtain ⟨_, _, _, _, _, _, _, _, _, _, same⟩ :=
    outcomeValues_frame view row leaseSeconds dueNow now outcome stored
  rw [same]

theorem outcomeValues_id (view row : Job) (leaseSeconds dueNow now : Time)
    (outcome : StageOutcome) (stored : Job) :
    (outcomeValues view row leaseSeconds dueNow now outcome stored).id = stored.id := by
  obtain ⟨_, _, _, _, _, _, _, _, _, _, same⟩ :=
    outcomeValues_frame view row leaseSeconds dueNow now outcome stored
  rw [same]

theorem outcomeWritten_findJob {db : JobsDb} {job row : Job}
    (found : db.findJob job.jobId = some row) (leaseSeconds dueNow now : Time)
    (outcome : StageOutcome) :
    (outcomeWritten db job row leaseSeconds dueNow now outcome).findJob job.jobId =
      some (outcomeValues (identityMapped (some job) (displayedRow (outcomeDisplay outcome) row)) row
        leaseSeconds dueNow now outcome (displayedRow (outcomeDisplay outcome) row)) := by
  have keeps : ∀ view stored, (outcomeValues view row leaseSeconds dueNow now outcome
      (displayedRow (outcomeDisplay outcome) stored)).jobId = stored.jobId := by
    intro view stored
    rw [outcomeValues_jobId, displayedRow_jobId]
  unfold outcomeWritten
  have registered : ∀ artifact, (db.registerArtifact job.jobId now artifact).findJob job.jobId =
      some row := by
    intro artifact
    rw [registerArtifact_findJob, found]
  cases outcomeArtifact outcome with
  | none => exact JobsDb.findJob_modified found (keeps _)
  | some artifact => exact JobsDb.findJob_modified (registered artifact) (keeps _)

/-- A job that is gone is not written. -/
theorem applyOutcome_missing {db : JobsDb} {job : Job} (missing : db.findJob job.jobId = none)
    (view : JobsDb) (owner : String) (leaseSeconds dueNow now : Time) (outcome : StageOutcome) :
    ∃ error, (applyOutcome job owner leaseSeconds dueNow now outcome).run
      ⟨db, view, .deferred, false⟩ = (.error error, ⟨db, db, .deferred, false⟩) := by
  have displayed : ∀ next : Unit → JobTx Job, ∃ wrote,
      (applyDisplayUpdate job.jobId outcome >>= next).run ⟨db, db, .immediate, false⟩ =
        (next ()).run ⟨db, db, .immediate, wrote⟩ := by
    intro next
    unfold applyDisplayUpdate
    match outcome.displayUpdate with
    | none => exact ⟨false, rfl⟩
    | some [] => exact ⟨false, rfl⟩
    | some (entry :: rest) =>
      refine ⟨true, ?_⟩
      have rejected : ∀ row ∈ db.jobs, decide (row.jobId = job.jobId) = false := by
        intro row mem
        simpa using List.find?_eq_none.1 missing row mem
      rw [Tx.bind_assoc_run, updateJobs_bind_run, JobsDb.sweep_eq_self rejected]
      rfl
  unfold applyOutcome
  split
  · exact ⟨_, immediateWrite_error (markCancelled_missing missing _ owner now) rfl (by decide) view⟩
  · cases outcome.errorCode with
    | some errorCode =>
      obtain ⟨wrote, runs⟩ := displayed _
      exact ⟨_, immediateWrite_error
        (runs.trans (markFailure_missing missing _ owner now errorCode _ _ _)) rfl (by decide) view⟩
    | none =>
      cases outcome.target with
      | none =>
        obtain ⟨wrote, runs⟩ := displayed _
        exact ⟨_, immediateWrite_error (runs.trans (markFailure_missing missing _ owner now _ _ _ _))
          rfl (by decide) view⟩
      | some target =>
        obtain ⟨wrote, runs⟩ := displayed fun _ =>
          match outcome.artifact with
          | some artifact =>
            commitArtifactAndAdvance (some job) job.jobId owner target now leaseSeconds artifact
              outcome.progress
          | none =>
            advanceJob (some job) job.jobId owner target now leaseSeconds none outcome.progress
        have ends : (match outcome.artifact with
          | some artifact =>
            commitArtifactAndAdvance (some job) job.jobId owner target now leaseSeconds artifact
              outcome.progress
          | none =>
            advanceJob (some job) job.jobId owner target now leaseSeconds none
              outcome.progress).run ⟨db, db, .immediate, wrote⟩ =
            (.error (.keyError job.jobId), ⟨db, db, .immediate, wrote⟩) := by
          cases outcome.artifact with
          | some artifact => exact commitArtifactAndAdvance_missing missing _ owner target now _ _ _
          | none => exact advanceJob_missing missing _ owner target now _ _ _
        exact ⟨_, immediateWrite_error (runs.trans ends) rfl (by decide) view⟩

end EvoBlue.Source
