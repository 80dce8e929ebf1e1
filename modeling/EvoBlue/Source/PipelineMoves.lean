import EvoBlue.Source.OutcomeEffects
import EvoBlue.Source.Pipeline

/-!
# What an event does to the job tables

Every event but a `settle` performs at most one repository operation, and a
`settle` writes the outcome's branch or the failure of its worker, or nothing.
`RowMove` lists what that means for the row of one job, `step_moved` says that
nothing else happens to it.
-/

namespace EvoBlue.Source

open EvoBlue.Kernel

namespace Pipeline

variable (config : PipelineConfig)

/-- The repository operation a call of the handler of `job` performs. -/
def callOp (owner : String) (job : Job) (now : Time) : Call → Option JobOp
  | .pinJobAsrRoute providerId modelId modelVersion recommendationModelId =>
    some (.pinJobAsrRoute job.jobId owner now providerId modelId modelVersion
      recommendationModelId)
  | .saveArtifactInline stage artifactType inputFingerprint schemaVersion payloadJson =>
    some (.saveArtifactInline job.jobId owner now stage artifactType inputFingerprint schemaVersion
      payloadJson)
  | .renewLease => some (.renewLease job.jobId owner now config.leaseSeconds)
  | _ => none

def claimOp (owner : String) (now : Time) : Option WorkerRun → Option JobOp
  | none => some (.claimNextJob owner config.leaseSeconds now)
  | some _ => none

def answerOp (owner : String) (now : Time) : Option WorkerRun → Option JobOp
  | some ⟨.handling job (.ask call _), _⟩ => callOp config owner job now call
  | _ => none

def heartbeatOp (owner : String) (now : Time) : Option WorkerRun → Option JobOp
  | some ⟨.handling job _, _⟩ => some (.renewLease job.jobId owner now config.leaseSeconds)
  | _ => none

/-- The repository operation an event performs, if it performs one. -/
def eventOp (pipeline : Pipeline) : PipelineEvent → Option JobOp
  | .submitVideo submission => some (.submitVideo submission)
  | .requestCancellation jobId now => some (.requestCancellation jobId now)
  | .resumeWaitingJobs modelId now => some (.resumeWaitingJobs modelId now)
  | .recoverStaleJobs now => some (.recoverStaleJobs now)
  | .failExhaustedRetries now => some (.failExhaustedRetries now)
  | .landDanglingCancellations now => some (.landDanglingCancellations now)
  | .claim owner now => claimOp config owner now (pipeline.workers owner)
  | .answer owner now _ => answerOp config owner now (pipeline.workers owner)
  | .heartbeat owner now => heartbeatOp config owner now (pipeline.workers owner)
  | _ => none

/-- The tables after an operation, or as they were. -/
def tablesAfter (jobs : JobsDb) : Option JobOp → JobsDb
  | some op => jobStep config.submit jobs op
  | none => jobs

/-- The event is one whose part in the tables is a repository operation. -/
def PipelineEvent.isSettle : PipelineEvent → Bool
  | .settle _ _ _ => true
  | _ => false

@[simp] theorem setWorker_db (pipeline : Pipeline) (owner : String) (run : Option WorkerRun) :
    (pipeline.setWorker owner run).db = pipeline.db := rfl

@[simp] theorem setWorker_self (pipeline : Pipeline) (owner : String) (run : Option WorkerRun) :
    (pipeline.setWorker owner run).workers owner = run := if_pos rfl

theorem setWorker_of_ne (pipeline : Pipeline) {owner other : String} (run : Option WorkerRun)
    (different : other ≠ owner) :
    (pipeline.setWorker owner run).workers other = pipeline.workers other := if_neg different

theorem answerCall_jobs (pipeline : Pipeline) (owner : String) (job : Job)
    (snapshot : Option PipelineDb) (now : Time) (outside : ∀ call, Answer call) (call : Call) :
    (answerCall config pipeline owner job snapshot now outside call).db.jobs =
      tablesAfter config pipeline.db.jobs (callOp config owner job now call) := by
  cases call <;> rfl

theorem answer_jobs (pipeline : Pipeline) (owner : String) (now : Time)
    (outside : ∀ call, Answer call) :
    (pipeline.answer config owner now outside).db.jobs =
      tablesAfter config pipeline.db.jobs (answerOp config owner now (pipeline.workers owner)) := by
  unfold answer
  split
  next job call next snapshot working =>
    rw [working]
    refine Eq.trans ?_ (answerCall_jobs config pipeline owner job snapshot now outside call)
    simp only
    split <;> rfl
  next other =>
    have none : answerOp config owner now (pipeline.workers owner) = none := by
      unfold answerOp
      split
      next job call next snapshot working => exact (other job call next snapshot working).elim
      next => rfl
    rw [none]
    rfl

theorem claim_jobs (pipeline : Pipeline) (owner : String) (now : Time) :
    (pipeline.claim config owner now).db.jobs =
      tablesAfter config pipeline.db.jobs (claimOp config owner now (pipeline.workers owner)) := by
  unfold claim
  cases pipeline.workers owner with
  | some run => rfl
  | none =>
    simp only
    split <;> rfl

theorem heartbeat_jobs (pipeline : Pipeline) (owner : String) (now : Time) :
    (pipeline.heartbeat config owner now).db.jobs =
      tablesAfter config pipeline.db.jobs
        (heartbeatOp config owner now (pipeline.workers owner)) := by
  unfold heartbeat
  split
  next job rest snapshot working =>
    rw [working]
    rfl
  next other =>
    have none : heartbeatOp config owner now (pipeline.workers owner) = none := by
      unfold heartbeatOp
      split
      next job rest snapshot working => exact (other job rest snapshot working).elim
      next => rfl
    rw [none]
    rfl

/-- The tables after every event but a `settle`. -/
theorem step_jobs (pipeline : Pipeline) {event : PipelineEvent}
    (other : PipelineEvent.isSettle event = false) :
    (pipeline.step config event).db.jobs =
      tablesAfter config pipeline.db.jobs (eventOp config pipeline event) := by
  cases event with
  | claim owner now => exact claim_jobs config pipeline owner now
  | answer owner now outside => exact answer_jobs config pipeline owner now outside
  | heartbeat owner now => exact heartbeat_jobs config pipeline owner now
  | raise owner =>
    simp only [step, raise, eventOp, tablesAfter]
    split <;> rfl
  | refresh owner =>
    simp only [step, refresh, eventOp, tablesAfter]
    split <;> rfl
  | settle owner dueNow now => cases other
  | _ => rfl

/-! ## A settle -/

variable {config}

/-- The failure of a worker is recorded on the row it has leased, or not at all. -/
theorem failing_run {db : JobsDb} (keyed : db.Keyed) (loaded : Option Job) (jobId owner : String)
    (now : Time) (detail : Option String) :
    let values := failedRow .failed missingHandlerError detail false none now
    let ran := (immediateWrite (markFailure loaded jobId owner now missingHandlerError false none
      detail)).run (.fresh db)
    (∃ error, ran = (.error error, ⟨db, db, .deferred, false⟩)) ∨
      ∃ row, db.findJob jobId = some row ∧
        leaseGuard (identityMapped loaded row) owner now row = true ∧
        isValidTransition (identityMapped loaded row).status .failed = true ∧
        ran = (.ok (values row),
          ⟨db.modifyJob row.id values, db.modifyJob row.id values, .deferred, false⟩) := by
  intro values ran
  cases found : db.findJob jobId with
  | none =>
    exact .inl ⟨_, immediateWrite_error (markFailure_missing found loaded owner now _ _ _ _) rfl
      (by decide) db⟩
  | some row =>
    have runs : (markFailure loaded jobId owner now missingHandlerError false none detail).run
        ⟨db, db, .immediate, false⟩ = _ :=
      markFailure_found keyed found rfl owner now missingHandlerError false none detail
    simp only at runs
    split at runs
    next valid =>
      split at runs
      next held => exact .inr ⟨row, rfl, held, valid, immediateWrite_ok runs (by decide) db⟩
      next => exact .inl ⟨_, immediateWrite_error runs rfl (by decide) db⟩
    next => exact .inl ⟨_, immediateWrite_error runs rfl (by decide) db⟩

/-- What a `settle` comes to. -/
inductive Settled (config : PipelineConfig) (pipeline : Pipeline) (owner : String)
    (dueNow now : Time) : Pipeline → Prop
  /-- No stage is over. -/
  | idle (working : ∀ job rest, ∀ snapshot,
      pipeline.workers owner ≠ some ⟨.returned job rest, snapshot⟩)
      (sound : ∀ job loaded detail snapshot,
        pipeline.workers owner ≠ some ⟨.failing job loaded detail, snapshot⟩) :
      Settled config pipeline owner dueNow now pipeline
  /-- The write raised, and the run is over. -/
  | raised {run : WorkerRun} (working : pipeline.workers owner = some run) :
      Settled config pipeline owner dueNow now (pipeline.setWorker owner none)
  | applied {job row : Job} {outcome : StageOutcome} {snapshot : Option PipelineDb}
      (working : pipeline.workers owner = some ⟨.returned job outcome, snapshot⟩)
      (found : pipeline.db.jobs.findJob job.jobId = some row)
      {displayed view moved : Job} (shown : displayed = displayedRow (outcomeDisplay outcome) row)
      (viewed : view = identityMapped (some job) displayed)
      (held : leaseGuard view owner now row = true) (legal : OutcomeLegal view outcome)
      (computed : moved =
        outcomeValues view row config.leaseSeconds dueNow now outcome displayed) :
      Settled config pipeline owner dueNow now
        ({ pipeline with
           db := { pipeline.db with
                   jobs := outcomeWritten pipeline.db.jobs job row config.leaseSeconds dueNow now
                     outcome } }.setWorker owner (afterOutcome config outcome moved))
  | broken {job row : Job} {loaded : Option Job} {detail : String} {snapshot : Option PipelineDb}
      (working : pipeline.workers owner = some ⟨.failing job loaded detail, snapshot⟩)
      (found : pipeline.db.jobs.findJob job.jobId = some row)
      (held : leaseGuard (identityMapped loaded row) owner now row = true)
      (valid : isValidTransition (identityMapped loaded row).status .failed = true) :
      Settled config pipeline owner dueNow now
        ({ pipeline with
           db := { pipeline.db with
                   jobs := pipeline.db.jobs.modifyJob row.id
                     (failedRow .failed missingHandlerError (some detail) false none now) } }.setWorker
          owner none)

theorem settle_settled {pipeline : Pipeline} (keyed : pipeline.db.jobs.Keyed) (owner : String)
    (dueNow now : Time) :
    Settled config pipeline owner dueNow now (pipeline.settle config owner dueNow now) := by
  unfold settle
  split
  next job outcome snapshot working =>
    simp only
    have ends : ∀ {error : JobError},
        (applyOutcome job owner config.leaseSeconds dueNow now outcome).run
            ⟨pipeline.db.jobs, (snapshot.getD pipeline.db).jobs, .deferred, false⟩ =
          (.error error, ⟨pipeline.db.jobs, pipeline.db.jobs, .deferred, false⟩) →
        Settled config pipeline owner dueNow now (pipeline.setWorker owner none) :=
      fun _ => .raised working
    cases found : pipeline.db.jobs.findJob job.jobId with
    | none =>
      obtain ⟨error, ran⟩ := applyOutcome_missing found (snapshot.getD pipeline.db).jobs owner
        config.leaseSeconds dueNow now outcome
      simp only [ran]
      exact ends ran
    | some row =>
      rcases applyOutcome_settles (snapshot.getD pipeline.db).jobs owner config.leaseSeconds dueNow
        now keyed found outcome with ⟨error, ran⟩ | ⟨held, legal, ran⟩
      · simp only [ran]
        exact ends ran
      · simp only [ran]
        exact .applied working found rfl rfl held legal rfl
  next working => exact .raised working
  next job loaded detail snapshot working =>
    simp only
    rcases failing_run keyed (some loaded) job.jobId owner now (some detail) with
      ⟨error, ran⟩ | ⟨row, found, held, valid, ran⟩
    · simp only [ran]
      exact .raised working
    · simp only [ran]
      exact .broken working found held valid
  next unreturned expired sound =>
    refine .idle unreturned fun job loaded detail snapshot working => ?_
    cases loaded with
    | none => exact expired _ _ _ working
    | some loaded => exact sound _ _ _ _ working

/-! ## The row of one job -/

/-- The repository operation of an event. -/
inductive Performs (config : PipelineConfig) (pipeline : Pipeline) : PipelineEvent → JobOp → Prop
  | submitVideo (submission : Submission) :
      Performs config pipeline (.submitVideo submission) (.submitVideo submission)
  | requestCancellation (jobId : String) (now : Time) :
      Performs config pipeline (.requestCancellation jobId now) (.requestCancellation jobId now)
  | resumeWaitingJobs (modelId : String) (now : Time) :
      Performs config pipeline (.resumeWaitingJobs modelId now) (.resumeWaitingJobs modelId now)
  | recoverStaleJobs (now : Time) :
      Performs config pipeline (.recoverStaleJobs now) (.recoverStaleJobs now)
  | failExhaustedRetries (now : Time) :
      Performs config pipeline (.failExhaustedRetries now) (.failExhaustedRetries now)
  | landDanglingCancellations (now : Time) :
      Performs config pipeline (.landDanglingCancellations now) (.landDanglingCancellations now)
  | claim {owner : String} (now : Time) (free : pipeline.workers owner = none) :
      Performs config pipeline (.claim owner now) (.claimNextJob owner config.leaseSeconds now)
  | heartbeat {owner : String} (now : Time) {job : Job} {rest : Stage}
      {snapshot : Option PipelineDb}
      (working : pipeline.workers owner = some ⟨.handling job rest, snapshot⟩) :
      Performs config pipeline (.heartbeat owner now)
        (.renewLease job.jobId owner now config.leaseSeconds)
  | answer {owner : String} (now : Time) (outside : ∀ call, Answer call) {job : Job} {call : Call}
      {next : Answer call → Stage} {snapshot : Option PipelineDb}
      (working : pipeline.workers owner = some ⟨.handling job (.ask call next), snapshot⟩)
      {op : JobOp} (calls : callOp config owner job now call = some op) :
      Performs config pipeline (.answer owner now outside) op

theorem performs_of_eventOp {pipeline : Pipeline} {event : PipelineEvent} {op : JobOp}
    (performs : eventOp config pipeline event = some op) : Performs config pipeline event op := by
  cases event with
  | claim owner now =>
    simp only [eventOp] at performs
    cases working : pipeline.workers owner with
    | some run =>
      rw [working] at performs
      cases performs
    | none =>
      rw [working] at performs
      cases performs
      exact .claim now working
  | answer owner now outside =>
    simp only [eventOp, answerOp] at performs
    split at performs
    next working => exact .answer now outside working performs
    next => cases performs
  | heartbeat owner now =>
    simp only [eventOp, heartbeatOp] at performs
    split at performs
    next working =>
      cases performs
      exact .heartbeat now working
    next => cases performs
  | submitVideo submission =>
    cases performs
    exact .submitVideo submission
  | requestCancellation jobId now =>
    cases performs
    exact .requestCancellation jobId now
  | resumeWaitingJobs modelId now =>
    cases performs
    exact .resumeWaitingJobs modelId now
  | recoverStaleJobs now =>
    cases performs
    exact .recoverStaleJobs now
  | failExhaustedRetries now =>
    cases performs
    exact .failExhaustedRetries now
  | landDanglingCancellations now =>
    cases performs
    exact .landDanglingCancellations now
  | _ => cases performs

/-- How an event may change the row of a job. -/
inductive RowMove (config : PipelineConfig) (pipeline : Pipeline) : PipelineEvent → Job → Job → Prop
  | unchanged (event : PipelineEvent) (row : Job) : RowMove config pipeline event row row
  | claimed {owner : String} {now : Time} {row : Job} (free : pipeline.workers owner = none)
      (claimable : claimableWhere now row = true) :
      RowMove config pipeline (.claim owner now) row
        (claimChange row owner config.leaseSeconds now row)
  | recovered {row : Job} {now : Time} (stale : isStale now row = true) :
      RowMove config pipeline (.recoverStaleJobs now) row (releasedRow now row)
  | cancelRequested {row : Job} (now : Time) (active : row.status.isTerminal = false) :
      RowMove config pipeline (.requestCancellation row.jobId now) row
        (cancelRequestedRow (isIdle row) now row)
  | resumed {row : Job} {modelId : String} (now : Time) (waits : isResumable modelId row = true) :
      RowMove config pipeline (.resumeWaitingJobs modelId now) row (resumedRow now row)
  | landed {row : Job} (now : Time) (dangling : isDangling row = true) :
      RowMove config pipeline (.landDanglingCancellations now) row (landedRow now row)
  | exhausted {row : Job} (now : Time) (spent : isExhausted row = true) :
      RowMove config pipeline (.failExhaustedRetries now) row (exhaustedRow now row)
  | pinned {owner : String} {now : Time} {outside : ∀ call, Answer call} {job row : Job}
      {providerId modelId modelVersion : String} {recommendationModelId : Option String}
      {next : Answer (.pinJobAsrRoute providerId modelId modelVersion recommendationModelId) → Stage}
      {snapshot : Option PipelineDb}
      (working : pipeline.workers owner = some ⟨.handling job (.ask
        (.pinJobAsrRoute providerId modelId modelVersion recommendationModelId) next), snapshot⟩)
      (own : row.jobId = job.jobId) (held : pinGuard row owner now row = true) :
      RowMove config pipeline (.answer owner now outside) row
        (pinnedRow providerId modelId modelVersion recommendationModelId now row)
  | renewed (event : PipelineEvent) {owner : String} {now : Time} {row : Job}
      (held : ownerGuard row.jobId owner now row = true) :
      RowMove config pipeline event row (renewedRow now config.leaseSeconds row)
  | settled {owner : String} {dueNow now : Time} {job row displayed view : Job}
      {outcome : StageOutcome} {snapshot : Option PipelineDb}
      (working : pipeline.workers owner = some ⟨.returned job outcome, snapshot⟩)
      (own : row.jobId = job.jobId)
      (shown : displayed = displayedRow (outcomeDisplay outcome) row)
      (viewed : view = identityMapped (some job) displayed)
      (held : leaseGuard view owner now row = true) (legal : OutcomeLegal view outcome) :
      RowMove config pipeline (.settle owner dueNow now) row
        (outcomeValues view row config.leaseSeconds dueNow now outcome displayed)
  | broken {owner : String} {dueNow now : Time} {job row : Job} {loaded : Option Job}
      {detail : String} {snapshot : Option PipelineDb}
      (working : pipeline.workers owner = some ⟨.failing job loaded detail, snapshot⟩)
      (own : row.jobId = job.jobId)
      (held : leaseGuard (identityMapped loaded row) owner now row = true)
      (valid : isValidTransition (identityMapped loaded row).status .failed = true) :
      RowMove config pipeline (.settle owner dueNow now) row
        (failedRow .failed missingHandlerError (some detail) false none now row)

/-- An operation of the pipeline moves a row in one of these ways. -/
theorem rowMove_of_moved {pipeline : Pipeline} {event : PipelineEvent} {op : JobOp}
    {row after : Job} (performs : Performs config pipeline event op) (moved : Moved op row after) :
    RowMove config pipeline event row after := by
  cases performs with
  | submitVideo =>
    cases moved
    exact .unchanged _ row
  | requestCancellation =>
    cases moved with
    | same => exact .unchanged _ row
    | cancelRequested _ active => exact .cancelRequested _ active
  | resumeWaitingJobs =>
    cases moved with
    | same => exact .unchanged _ row
    | resumed _ waits => exact .resumed _ waits
  | recoverStaleJobs =>
    cases moved with
    | same => exact .unchanged _ row
    | recovered stale => exact .recovered stale
  | failExhaustedRetries =>
    cases moved with
    | same => exact .unchanged _ row
    | exhausted _ spent => exact .exhausted _ spent
  | landDanglingCancellations =>
    cases moved with
    | same => exact .unchanged _ row
    | landed _ dangling => exact .landed _ dangling
  | claim now free =>
    cases moved with
    | same => exact .unchanged _ row
    | claimedNext owner leaseSeconds claimable => exact .claimed free claimable
  | @heartbeat owner now job rest snapshot working =>
    generalize named : job.jobId = jobId at moved
    cases moved with
    | same => exact .unchanged _ row
    | renewed leaseSeconds held => exact .renewed _ held
  | @answer owner now outside job call next snapshot working op calls =>
    cases call with
    | pinJobAsrRoute providerId modelId modelVersion recommendationModelId =>
      cases calls
      generalize named : job.jobId = jobId at moved
      cases moved with
      | same => exact .unchanged _ row
      | pinned _ _ _ _ held => exact .pinned working named.symm held
    | saveArtifactInline =>
      cases calls
      cases moved
      exact .unchanged _ row
    | renewLease =>
      cases calls
      generalize named : job.jobId = jobId at moved
      cases moved with
      | same => exact .unchanged _ row
      | renewed leaseSeconds held => exact .renewed _ held
    | _ => cases calls

theorem outcomeWritten_keyed {db : JobsDb} (keyed : db.Keyed) (job row : Job)
    (leaseSeconds dueNow now : Time) (outcome : StageOutcome) :
    (outcomeWritten db job row leaseSeconds dueNow now outcome).Keyed := by
  have ids : ∀ view stored, (outcomeValues view row leaseSeconds dueNow now outcome
      (displayedRow (outcomeDisplay outcome) stored)).id = stored.id := by
    intro view stored
    rw [outcomeValues_id, displayedRow_id]
  have jobIds : ∀ view stored, (outcomeValues view row leaseSeconds dueNow now outcome
      (displayedRow (outcomeDisplay outcome) stored)).jobId = stored.jobId := by
    intro view stored
    rw [outcomeValues_jobId, displayedRow_jobId]
  unfold outcomeWritten
  cases outcomeArtifact outcome with
  | none => exact keyed.modified _ (ids _) (jobIds _)
  | some artifact => exact (keyed.registered _ _ artifact).modified _ (ids _) (jobIds _)

theorem step_keyed {pipeline : Pipeline} (keyed : pipeline.db.jobs.Keyed) (event : PipelineEvent) :
    (pipeline.step config event).db.jobs.Keyed := by
  cases settles : PipelineEvent.isSettle event with
  | false =>
    rw [step_jobs config pipeline settles]
    cases eventOp config pipeline event with
    | none => exact keyed
    | some op => exact jobStep_keyed config.submit keyed op
  | true =>
    cases event with
    | settle owner dueNow now =>
      change (pipeline.settle config owner dueNow now).db.jobs.Keyed
      have settled := @settle_settled config _ keyed owner dueNow now
      generalize pipeline.settle config owner dueNow now = after at settled
      cases settled with
      | idle => exact keyed
      | raised => exact keyed
      | applied => exact outcomeWritten_keyed keyed _ _ _ _ _ _
      | broken => exact keyed.modified _ (fun _ => rfl) fun _ => rfl
    | _ => cases settles

theorem findJob_outcomeWritten (db : JobsDb) (job target : Job) (leaseSeconds dueNow now : Time)
    (outcome : StageOutcome) (jobId : String) :
    (outcomeWritten db job target leaseSeconds dueNow now outcome).findJob jobId =
      (db.findJob jobId).map fun stored =>
        if stored.id = target.id then
          outcomeValues (identityMapped (some job) (displayedRow (outcomeDisplay outcome) target))
            target leaseSeconds dueNow now outcome (displayedRow (outcomeDisplay outcome) stored)
        else stored := by
  have keeps : ∀ view stored, (outcomeValues view target leaseSeconds dueNow now outcome
      (displayedRow (outcomeDisplay outcome) stored)).jobId = stored.jobId := by
    intro view stored
    rw [outcomeValues_jobId, displayedRow_jobId]
  unfold outcomeWritten
  cases outcomeArtifact outcome with
  | none => exact JobsDb.findJob_modifyJob db (keeps _) _ _
  | some artifact =>
    simp only
    rw [findJob_registered_modifyJob]
    exact JobsDb.findJob_modifyJob db (keeps _) _ _

/-- Every job stays, and moves as `RowMove` says. -/
theorem step_moved {pipeline : Pipeline} (keyed : pipeline.db.jobs.Keyed) (event : PipelineEvent)
    {jobId : String} {row : Job} (found : pipeline.db.jobs.findJob jobId = some row) :
    ∃ after, (pipeline.step config event).db.jobs.findJob jobId = some after ∧
      RowMove config pipeline event row after := by
  cases settles : PipelineEvent.isSettle event with
  | false =>
    rw [step_jobs config pipeline settles]
    cases performs : eventOp config pipeline event with
    | none => exact ⟨row, found, .unchanged event row⟩
    | some op =>
      obtain ⟨after, foundAfter, moved⟩ := (exec_effect config.submit keyed op).moved keyed found
      exact ⟨after, foundAfter, rowMove_of_moved (performs_of_eventOp performs) moved⟩
  | true =>
    cases event with
    | settle owner dueNow now =>
      change ∃ after, (pipeline.settle config owner dueNow now).db.jobs.findJob jobId = some after ∧ _
      have settled := @settle_settled config _ keyed owner dueNow now
      generalize pipeline.settle config owner dueNow now = after at settled
      cases settled with
      | idle => exact ⟨row, found, .unchanged _ row⟩
      | raised => exact ⟨row, found, .unchanged _ row⟩
      | applied working foundTarget shown viewed held legal computed =>
        subst shown viewed
        simp only [setWorker_db, findJob_outcomeWritten, found, Option.map_some]
        split
        next same =>
          have one := keyed.eq_of_id (JobsDb.mem_of_findJob found)
            (JobsDb.mem_of_findJob foundTarget) same
          rw [one]
          exact ⟨_, rfl, .settled working (JobsDb.jobId_of_findJob foundTarget) rfl rfl held legal⟩
        next => exact ⟨row, rfl, .unchanged _ row⟩
      | @broken job target _ detail _ working foundTarget held valid =>
        have keeps : ∀ row, (failedRow .failed missingHandlerError (some detail) false none now
            row).jobId = row.jobId := fun _ => rfl
        simp only [setWorker_db, JobsDb.findJob_modifyJob _ keeps, found, Option.map_some]
        split
        next same =>
          have one := keyed.eq_of_id (JobsDb.mem_of_findJob found)
            (JobsDb.mem_of_findJob foundTarget) same
          rw [one]
          exact ⟨_, rfl, .broken working (JobsDb.jobId_of_findJob foundTarget) held valid⟩
        next => exact ⟨row, rfl, .unchanged _ row⟩
    | _ => cases settles

/-- Only a submission adds a job. -/
theorem step_unknown {pipeline : Pipeline} (keyed : pipeline.db.jobs.Keyed) {event : PipelineEvent}
    {jobId : String} (unknown : pipeline.db.jobs.findJob jobId = none) {row : Job}
    (found : (pipeline.step config event).db.jobs.findJob jobId = some row) :
    ∃ submission fingerprint url id, event = .submitVideo submission ∧
      row = submittedJob submission fingerprint url id := by
  cases settles : PipelineEvent.isSettle event with
  | false =>
    rw [step_jobs config pipeline settles] at found
    cases performs : eventOp config pipeline event with
    | none =>
      rw [performs] at found
      simp only [tablesAfter, unknown, reduceCtorEq] at found
    | some op =>
      rw [performs] at found
      obtain ⟨submission, fingerprint, url, named, rfl⟩ :=
        (exec_effect config.submit keyed op).unknown unknown found
      have performed := performs_of_eventOp performs
      rw [named] at performed
      cases performed with
      | submitVideo => exact ⟨submission, fingerprint, url, _, rfl, rfl⟩
      | @answer owner now outside job call next snapshot working _ calls =>
        cases call <;> cases calls
  | true =>
    cases event with
    | settle owner dueNow now =>
      change (pipeline.settle config owner dueNow now).db.jobs.findJob jobId = some row at found
      have settled := @settle_settled config _ keyed owner dueNow now
      generalize pipeline.settle config owner dueNow now = after at settled found
      cases settled with
      | idle => rw [unknown] at found; cases found
      | raised => rw [setWorker_db, unknown] at found; cases found
      | applied =>
        simp only [setWorker_db, findJob_outcomeWritten, unknown, Option.map_none,
          reduceCtorEq] at found
      | @broken job target _ detail =>
        have keeps : ∀ row, (failedRow .failed missingHandlerError (some detail) false none now
            row).jobId = row.jobId := fun _ => rfl
        simp only [setWorker_db, JobsDb.findJob_modifyJob _ keeps, unknown, Option.map_none,
          reduceCtorEq] at found
    | _ => cases settles

end Pipeline

end EvoBlue.Source
