import EvoBlue.Source.PipelineMoves

/-!
# What an event does to a worker

`WorkerMove` lists how the run of one worker goes on, `step_worker` says that
nothing else happens to it. What a worker may assume about its job is then kept
event by event.
-/

namespace EvoBlue.Source

open EvoBlue.Kernel

namespace Pipeline

/-- The worker whose own event this is. -/
def PipelineEvent.actor : PipelineEvent → Option String
  | .claim owner _ => some owner
  | .answer owner _ _ => some owner
  | .raise owner => some owner
  | .refresh owner => some owner
  | .settle owner _ _ => some owner
  | .heartbeat owner _ => some owner
  | .die owner => some owner
  | _ => none

variable {config : PipelineConfig}

/-- The event is not one in which this run writes what its stage came to. -/
def Unsettled (owner : String) (run : WorkerRun) (event : PipelineEvent) : Prop :=
  (∀ dueNow now, event ≠ .settle owner dueNow now) ∨ ∃ job rest, run.stage = .handling job rest

/-- The event neither settles this run nor answers a call of it. -/
structure Quiet (owner : String) (run : WorkerRun) (event : PipelineEvent) : Prop where
  unsettled : Unsettled owner run event
  unanswered : ∀ now outside, event = .answer owner now outside →
    ∀ job call next, run.stage ≠ .handling job (.ask call next)

/-- How the run of the worker `owner` goes on. -/
inductive WorkerMove (config : PipelineConfig) (pipeline : Pipeline) (owner : String) :
    PipelineEvent → Option WorkerRun → Prop
  | gone (event : PipelineEvent) : WorkerMove config pipeline owner event none
  | unchanged {event : PipelineEvent} {run : WorkerRun}
      (working : pipeline.workers owner = some run) (quiet : Quiet owner run event) :
      WorkerMove config pipeline owner event (some run)
  /-- The worker begins with the stage its job is in. -/
  | begun {event : PipelineEvent} {job : Job} {run : WorkerRun}
      (found : (pipeline.step config event).db.jobs.findJob job.jobId = some job)
      (begins : beginStage config job = some run) : WorkerMove config pipeline owner event (some run)
  | answered {now : Time} {outside : ∀ call, Answer call} {job : Job} {call : Call}
      {next : Answer call → Stage} {snapshot : Option PipelineDb} {value : Answer call}
      (working : pipeline.workers owner = some ⟨.handling job (.ask call next), snapshot⟩)
      (given : (answerCall config pipeline owner job snapshot now outside call).answer = some value) :
      WorkerMove config pipeline owner (.answer owner now outside)
        (some ⟨.handling job (next value),
          (answerCall config pipeline owner job snapshot now outside call).snapshot⟩)
  | broke {event : PipelineEvent} {job : Job} {rest : Stage} {snapshot : Option PipelineDb}
      {inTransaction : Bool}
      (working : pipeline.workers owner = some ⟨.handling job rest, snapshot⟩) :
      WorkerMove config pipeline owner event (some (failed job inTransaction))
  | refreshed {job row : Job} {outcome : StageOutcome} {snapshot : Option PipelineDb}
      (working : pipeline.workers owner =
        some ⟨.handling job (.done (.returned outcome)), snapshot⟩)
      (found : (snapshot.getD pipeline.db).jobs.findJob job.jobId = some row) :
      WorkerMove config pipeline owner (.refresh owner)
        (some ⟨.returned row outcome, some (snapshot.getD pipeline.db)⟩)

/-- An event of somebody else leaves the run alone. -/
theorem step_workers_of_ne (pipeline : Pipeline) {event : PipelineEvent} {owner : String}
    (other : PipelineEvent.actor event ≠ some owner) :
    (pipeline.step config event).workers owner = pipeline.workers owner := by
  cases event with
  | claim actor now =>
    have different : owner ≠ actor := fun same => other (congrArg some same.symm)
    simp only [step, claim]
    split
    · rfl
    · split
      · exact setWorker_of_ne _ _ different
      · rfl
  | answer actor now outside =>
    have different : owner ≠ actor := fun same => other (congrArg some same.symm)
    simp only [step, answer]
    split
    · split <;> exact setWorker_of_ne _ _ different
    · rfl
  | raise actor =>
    have different : owner ≠ actor := fun same => other (congrArg some same.symm)
    simp only [step, raise]
    split
    · exact setWorker_of_ne _ _ different
    · rfl
  | refresh actor =>
    have different : owner ≠ actor := fun same => other (congrArg some same.symm)
    simp only [step, refresh]
    split
    · exact setWorker_of_ne _ _ different
    · exact setWorker_of_ne _ _ different
    · rfl
  | settle actor dueNow now =>
    have different : owner ≠ actor := fun same => other (congrArg some same.symm)
    simp only [step, settle]
    split
    · split <;> exact setWorker_of_ne _ _ different
    · exact setWorker_of_ne _ _ different
    · exact setWorker_of_ne _ _ different
    · rfl
  | heartbeat actor now =>
    simp only [step, heartbeat]
    split <;> rfl
  | die actor =>
    exact setWorker_of_ne _ _ fun same => other (congrArg some same.symm)
  | _ => rfl

/-- Not to move is a move, as long as nothing is settled or answered. -/
theorem workerMove_same (pipeline : Pipeline) (owner : String) {event : PipelineEvent}
    (unsettled : ∀ dueNow now, event ≠ .settle owner dueNow now)
    (unanswered : ∀ now outside, event ≠ .answer owner now outside) :
    WorkerMove config pipeline owner event (pipeline.workers owner) := by
  cases working : pipeline.workers owner with
  | none => exact .gone event
  | some run =>
    exact .unchanged working ⟨.inl unsettled, fun now outside answers =>
      absurd answers (unanswered now outside)⟩

theorem claim_worker {pipeline : Pipeline} (keyed : pipeline.db.jobs.Keyed) (owner : String)
    (now : Time) :
    WorkerMove config pipeline owner (.claim owner now)
      ((pipeline.step config (.claim owner now)).workers owner) := by
  have same := @workerMove_same config pipeline owner (.claim owner now)
    (fun _ _ => PipelineEvent.noConfusion) fun _ _ => PipelineEvent.noConfusion
  have effect := exec_effect config.submit keyed (.claimNextJob owner config.leaseSeconds now)
  have jobs := @step_jobs config pipeline (.claim owner now) rfl
  change WorkerMove config pipeline owner _ ((pipeline.claim config owner now).workers owner)
  unfold claim
  cases working : pipeline.workers owner with
  | some run =>
    rw [working] at same
    simpa only [working] using same
  | none =>
    simp only
    split
    next job claimed =>
      rw [setWorker_self]
      cases begins : beginStage config job with
      | none => exact .gone _
      | some run =>
        refine .begun ?_ begins
        rw [jobs]
        simp only [eventOp, claimOp, working, tablesAfter, jobStep]
        rw [claimed] at effect
        generalize (exec config.submit (.claimNextJob owner config.leaseSeconds now)
          pipeline.db.jobs).2 = after at effect
        cases effect with
        | claimedNext mem => exact JobsDb.findJob_modified (keyed.findJob_of_mem mem) fun _ => rfl
    next =>
      rw [working] at same
      simpa only [perform, working] using same

theorem answer_worker (pipeline : Pipeline) (owner : String) (now : Time)
    (outside : ∀ call, Answer call) :
    WorkerMove config pipeline owner (.answer owner now outside)
      ((pipeline.step config (.answer owner now outside)).workers owner) := by
  simp only [step, answer]
  split
  next job call next snapshot working =>
    split
    next value given =>
      rw [setWorker_self]
      exact .answered working given
    next =>
      rw [setWorker_self]
      exact .broke working
  next other =>
    cases working : pipeline.workers owner with
    | none => exact .gone _
    | some run =>
      refine .unchanged working ⟨.inl fun _ _ => PipelineEvent.noConfusion, ?_⟩
      rcases run with ⟨stage, snapshot⟩
      rintro _ _ _ job call next rfl
      exact other job call next snapshot working

theorem refresh_worker (pipeline : Pipeline) (owner : String) :
    WorkerMove config pipeline owner (.refresh owner)
      ((pipeline.step config (.refresh owner)).workers owner) := by
  simp only [step, refresh]
  split
  next job outcome snapshot working =>
    rw [setWorker_self]
    cases found : (snapshot.getD pipeline.db).jobs.findJob job.jobId with
    | none => exact .gone _
    | some row => exact .refreshed working found
  next job snapshot working =>
    rw [setWorker_self]
    exact .broke working
  next =>
    exact workerMove_same pipeline owner (fun _ _ => PipelineEvent.noConfusion)
      fun _ _ => PipelineEvent.noConfusion

theorem settle_worker {pipeline : Pipeline} (keyed : pipeline.db.jobs.Keyed) (owner : String)
    (dueNow now : Time) :
    WorkerMove config pipeline owner (.settle owner dueNow now)
      ((pipeline.step config (.settle owner dueNow now)).workers owner) := by
  have settled := @settle_settled config _ keyed owner dueNow now
  generalize left : pipeline.settle config owner dueNow now = after at settled
  change WorkerMove config pipeline owner _ ((pipeline.settle config owner dueNow now).workers owner)
  have stepped : pipeline.step config (.settle owner dueNow now) = after := left
  rw [left]
  cases settled with
  | idle unreturned sound =>
    cases working : pipeline.workers owner with
    | none => exact .gone _
    | some run =>
      refine .unchanged working ⟨.inr ?_, fun _ _ => PipelineEvent.noConfusion⟩
      rcases run with ⟨stage, snapshot⟩
      cases stage with
      | handling job rest => exact ⟨job, rest, rfl⟩
      | returned job outcome => exact absurd working (unreturned job outcome snapshot)
      | failing job loaded detail => exact absurd working (sound job loaded detail snapshot)
  | raised =>
    rw [setWorker_self]
    exact .gone _
  | @applied job row outcome snapshot working found displayed view moved shown viewed held legal
      computed =>
    subst shown viewed computed
    have written := outcomeWritten_findJob found config.leaseSeconds dueNow now outcome
    rw [setWorker_self]
    unfold afterOutcome
    split
    · exact .gone _
    · split
      · exact .gone _
      · cases begins : beginStage config _ with
        | none => exact .gone _
        | some run =>
          refine .begun ?_ begins
          rw [stepped, outcomeValues_jobId, displayedRow_jobId, JobsDb.jobId_of_findJob found]
          exact written
  | broken =>
    rw [setWorker_self]
    exact .gone _

/-- Nothing else happens to the run of a worker. -/
theorem step_worker {pipeline : Pipeline} (keyed : pipeline.db.jobs.Keyed) (owner : String)
    (event : PipelineEvent) :
    WorkerMove config pipeline owner event ((pipeline.step config event).workers owner) := by
  by_cases own : PipelineEvent.actor event = some owner
  · cases event with
    | claim actor now =>
      cases own
      exact claim_worker keyed owner now
    | answer actor now outside =>
      cases own
      exact answer_worker pipeline owner now outside
    | raise actor =>
      cases own
      simp only [step, raise]
      split
      next job call next snapshot working =>
        rw [setWorker_self]
        exact .broke working
      next =>
        exact workerMove_same pipeline owner (fun _ _ => PipelineEvent.noConfusion)
          fun _ _ => PipelineEvent.noConfusion
    | refresh actor =>
      cases own
      exact refresh_worker pipeline owner
    | settle actor dueNow now =>
      cases own
      exact settle_worker keyed owner dueNow now
    | heartbeat actor now =>
      cases own
      have same : (pipeline.heartbeat config owner now).workers owner = pipeline.workers owner := by
        unfold heartbeat
        split <;> rfl
      simp only [step, same]
      exact workerMove_same pipeline owner (fun _ _ => PipelineEvent.noConfusion)
        fun _ _ => PipelineEvent.noConfusion
    | die actor =>
      cases own
      simp only [step, setWorker_self]
      exact .gone _
    | _ => cases own
  · rw [step_workers_of_ne pipeline own]
    refine workerMove_same pipeline owner (fun dueNow now settles => own ?_)
      fun now outside answers => own ?_
    · rw [settles]
      rfl
    · rw [answers]
      rfl

end Pipeline

end EvoBlue.Source
