import EvoBlue.Source.PipelineArtifacts
import EvoBlue.Source.PipelineRows
import EvoBlue.Source.StageInputs

/-!
# Every stage finds its inputs

A job has registered what the stage it is in, or will be claimed for, reads, and
so has every table a working session may still be reading from. The branches of
the handlers for a missing artifact are never taken.
-/

namespace EvoBlue.Guarantees

open EvoBlue.Kernel EvoBlue.Source EvoBlue.Source.Pipeline

/-- The status the job is in, or the stage it is to be retried in. -/
def pendingStage (row : Job) : JobStatus :=
  if row.status = .retryWait then row.stage.getD .fetchingMetadata else row.status

/-- An artifact of the type is registered for the job, and can be read. -/
def Registered (env : HandlerEnv) (jobs : JobsDb) (job : Job) (artifactType : String) : Prop :=
  ∃ artifact, jobs.findArtifact job.jobId artifactType (stageFingerprint env job.url) =
    some artifact ∧ Readable artifact.toArtifactRecord

/-- The event answers a lookup, and the handler ends for want of an artifact. -/
def missesInput (config : PipelineConfig) (pipeline : Pipeline) : PipelineEvent → Bool
  | .answer owner now outside =>
    match pipeline.workers owner with
    | some ⟨.handling job (.ask call next), snapshot⟩ =>
      isLookup call &&
        (answerCall config pipeline owner job snapshot now outside call).answer.any fun value =>
          lacksInput (next value)
    | _ => false
  | _ => false

/-- A stage that begins without its input would take the branch. -/
example : ∀ status ∈ [JobStatus.cleaningTranscript, .chunking, .summarizingChunks, .indexing],
    let job := { submittedJob (sampleSubmission "job-1" 0) "" sampleUrl 1 with status := status }
    missesInput sampleConfig
      (Pipeline.setWorker {} "worker-a" (beginStage sampleConfig job))
      (.answer "worker-a" 0 sampleAnswers) = true := by
  decide +kernel

/-! ## Artifacts -/

def AllReadable (jobs : JobsDb) : Prop :=
  ∀ artifact ∈ jobs.artifacts, Readable artifact.toArtifactRecord

section

variable {jobs : JobsDb}

theorem allReadable_inserted (readable : AllReadable jobs) (jobId : String) (now : Time)
    {record : ArtifactRecord} (new : Readable record) :
    AllReadable (jobs.insertArtifact jobId now record) := by
  intro artifact mem
  unfold JobsDb.insertArtifact at mem
  rcases List.mem_append.1 mem with old | last
  · exact readable artifact old
  · rw [List.mem_singleton.1 last]
    exact new

theorem allReadable_registered (readable : AllReadable jobs) (jobId : String) (now : Time)
    {record : ArtifactRecord} (new : Readable record) :
    AllReadable (jobs.registerArtifact jobId now record) := by
  unfold JobsDb.registerArtifact
  split
  · exact allReadable_inserted readable jobId now new
  · exact readable

/-- A checkpoint has its text in its row, and is neither audio nor a report. -/
theorem allReadable_checkpointed (readable : AllReadable jobs) (jobId : String) (now : Time)
    (stage : String) {artifactType : String}
    (checkpoint : artifactType = asrSegmentArtifactType ∨ artifactType = chunkSummaryArtifactType)
    (inputFingerprint : String) (schemaVersion : Nat) (payloadJson : String) :
    AllReadable (jobs.upsertCheckpoint jobId now stage artifactType inputFingerprint schemaVersion
      payloadJson) := by
  unfold JobsDb.upsertCheckpoint
  split
  · intro artifact mem
    obtain ⟨old, memOld, rfl⟩ := List.mem_map.1 mem
    have before := readable old memOld
    split
    · exact ⟨fun _ => rfl, before.file, before.kind⟩
    · exact before
  · have other : artifactType ≠ audioArtifactType ∧ artifactType ≠ reportArtifactType := by
      rcases checkpoint with rfl | rfl <;> decide
    refine allReadable_inserted readable jobId now ⟨fun _ => rfl, fun file => ?_, fun must => ?_⟩
    · cases file
    · exact (must.elim other.1 other.2).elim

/-- The tables hold what the stage reads of the job. -/
def HoldsInputs (env : HandlerEnv) (jobs : JobsDb) (job : Job) (stage : JobStatus) : Prop :=
  ∀ artifactType ∈ stageInputs stage,
    jobs.Holds (job.jobId, artifactType, stageFingerprint env job.url)

theorem registered_of_holds {env : HandlerEnv} {job : Job} {artifactType : String}
    (readable : AllReadable jobs)
    (holds : jobs.Holds (job.jobId, artifactType, stageFingerprint env job.url)) :
    Registered env jobs job artifactType := by
  obtain ⟨artifact, found⟩ := holds.found
  exact ⟨artifact, found, readable artifact (findArtifact_key found).1⟩

end

/-! ## The invariant -/

variable {config : PipelineConfig} {pipeline : Pipeline}

/-- The stored job has this URL. -/
def HasUrl (jobs : JobsDb) (jobId url : String) : Prop :=
  ∃ row, jobs.findJob jobId = some row ∧ row.url = url

/-- What a worker finds registered, in the tables and in what its session reads. -/
def WorkerProvided (env : HandlerEnv) (jobs : JobsDb) (owner : String) (run : WorkerRun) : Prop :=
  match run.stage with
  | .handling job rest =>
    HasUrl jobs job.jobId job.url ∧ Supplied env job rest ∧ HoldsInputs env jobs job job.status ∧
      ∀ db ∈ run.snapshot, AllReadable db.jobs ∧ HoldsInputs env db.jobs job job.status
  | .returned job outcome => ∃ handled : Job, HasUrl jobs job.jobId handled.url ∧
      Tenant jobs owner job.jobId handled.status ∧ Returnable env handled outcome
  | .failing _ _ _ => True

structure Provisioned (config : PipelineConfig) (pipeline : Pipeline) : Prop where
  formed : PipelineFormed config pipeline
  readable : AllReadable pipeline.db.jobs
  rows : ∀ row ∈ pipeline.db.jobs.jobs,
    HoldsInputs config.handlers pipeline.db.jobs row (pendingStage row)
  workers : ∀ owner run, pipeline.workers owner = some run →
    WorkerProvided config.handlers pipeline.db.jobs owner run

theorem outcomeArtifact_returnable {env : HandlerEnv} {job : Job} {outcome : StageOutcome}
    {artifact : ArtifactRecord} (returnable : Returnable env job outcome)
    (registers : outcomeArtifact outcome = some artifact) :
    artifact.inputFingerprint = stageFingerprint env job.url ∧ Readable artifact := by
  unfold outcomeArtifact at registers
  rcases returnable with failed | ⟨noError, _, target, targeted, _, readable⟩
  · rw [if_pos failed] at registers
    cases registers
  · simp only [noError, targeted, Option.isSome_none, Option.isNone_some, Bool.false_eq_true,
      if_false] at registers
    exact readable artifact registers

theorem hasUrl_step (keyed : pipeline.db.jobs.Keyed) (event : PipelineEvent) {jobId url : String}
    (known : HasUrl pipeline.db.jobs jobId url) :
    HasUrl (pipeline.step config event).db.jobs jobId url := by
  obtain ⟨row, found, rfl⟩ := known
  obtain ⟨after, foundAfter, moved⟩ := @step_moved config _ keyed event _ _ found
  exact ⟨after, foundAfter, moved.url⟩

theorem holdsInputs_step (keyed : pipeline.db.jobs.Keyed) (event : PipelineEvent)
    {env : HandlerEnv} {job : Job} {stage : JobStatus}
    (holds : HoldsInputs env pipeline.db.jobs job stage) :
    HoldsInputs env (pipeline.step config event).db.jobs job stage :=
  fun artifactType needed => holds_step keyed event (holds artifactType needed)

theorem readable_step (provisioned : Provisioned config pipeline) (event : PipelineEvent) :
    AllReadable (pipeline.step config event).db.jobs := by
  have moved := @step_artifacts config _ provisioned.formed.keyed event
  unfold AllReadable
  generalize (pipeline.step config event).db.jobs.artifacts = artifacts at moved ⊢
  cases moved with
  | unchanged => exact provisioned.readable
  | checkpointed now outside working =>
    obtain ⟨_, supplied, _⟩ := provisioned.workers _ _ working
    exact allReadable_checkpointed provisioned.readable _ _ _ supplied.1 _ _ _
  | registered dueNow now working registers =>
    obtain ⟨handled, _, _, returnable⟩ := provisioned.workers _ _ working
    have new := (outcomeArtifact_returnable returnable registers).2
    exact allReadable_registered provisioned.readable _ _ new

/-! ## Rows -/

/-- An advance leads to its target, unless a cancellation lands there. -/
theorem advanceValues_pending (view : Job) (pendingCancel : Option Time) {target : JobStatus}
    (other : target ≠ .retryWait) (now leaseSeconds : Time) (stage : Option JobStatus)
    (progress : Option Int) (row : Job) :
    let after := advanceValues view pendingCancel target now leaseSeconds stage progress row
    pendingStage after = .cancelled ∨ pendingStage after = target := by
  unfold advanceValues advancedRow pendingStage
  simp only
  by_cases landed : (decide (target = .waitingForModel) && pendingCancel.isSome) = true
  · rw [if_pos landed]
    exact .inl rfl
  · rw [if_neg landed, if_neg other]
    exact .inr rfl

/-- What a stage needs after its outcome was applied, the last stage needed, or the
outcome brought it and moved the job. -/
theorem outcomeValues_inputs {env : HandlerEnv} {handled view row stored : Job}
    {outcome : StageOutcome} (returnable : Returnable env handled outcome)
    (stage : row.status = handled.status) (formed : RowFormed row)
    (sameStage : stored.stage = row.stage) (seen : row.status = view.status)
    (legal : OutcomeLegal view outcome) (leaseSeconds dueNow now : Time) {artifactType : String}
    (needed : artifactType ∈ stageInputs
      (pendingStage (outcomeValues view row leaseSeconds dueNow now outcome stored))) :
    artifactType ∈ stageInputs row.status ∨
      ∃ artifact, outcomeArtifact outcome = some artifact ∧ artifact.artifactType = artifactType ∧
        (outcomeValues view row leaseSeconds dueNow now outcome stored).status ≠ row.status := by
  have moves : ∀ product ∈ stageProducts, product.2.1 ≠ product.1 := by decide
  unfold outcomeValues at needed ⊢
  by_cases reported : outcome.errorCode = some "CANCELLED_BY_USER"
  · rw [if_pos reported] at needed
    cases needed
  · rw [if_neg reported] at needed ⊢
    have valid := legal.resolve_left reported
    rw [← seen] at valid
    unfold outcomeTarget at valid
    rcases returnable with failed | ⟨noError, _, target, targeted, listed, _⟩
    · obtain ⟨errorCode, failure⟩ := Option.isSome_iff_exists.1 failed
      rw [failure] at needed valid
      cases retryable : outcome.retryable with
      | false =>
        simp only [retryable] at needed
        cases needed
      | true =>
        -- The job is to be retried in the stage that failed.
        rw [retryable] at valid
        have staged := formed.running (isRunning_of_retry valid)
        simp only [retryable, failedRow, failureStatus, pendingStage, if_true, sameStage, staged,
          Option.getD_some] at needed
        exact .inl needed
    · rw [noError, targeted] at needed ⊢
      rw [← stage] at listed
      have onwards := moves _ listed
      cases registers : outcome.artifact with
      | some artifact =>
        rw [registers] at listed
        have running := stageProducts_artifact listed
        have other : target ≠ .retryWait := by
          rintro rfl
          cases running
        simp only [registers, commitValues, committedRow, pendingStage, if_neg other] at needed ⊢
        refine (stageInputs_of_product listed needed).imp_right fun produced => ?_
        have registered : outcomeArtifact outcome = some artifact := by
          simp [outcomeArtifact, noError, targeted, registers]
        exact ⟨artifact, registered, by simpa using produced, onwards⟩
      | none =>
        rw [registers] at listed
        simp only [registers] at needed
        have other : target ≠ .retryWait := by
          rintro rfl
          rcases stageProducts_plain listed with h | ⟨_, h⟩ | h <;> cases h
        rcases advanceValues_pending view row.cancelRequestedAt other now leaseSeconds none
          outcome.progress stored with cancelled | moved
        · rw [cancelled] at needed
          cases needed
        · rw [moved] at needed
          exact .inl ((stageInputs_of_product listed needed).resolve_right (by simp))

theorem rowMove_inputs (provisioned : Provisioned config pipeline) {event : PipelineEvent}
    {row after : Job} (mem : row ∈ pipeline.db.jobs.jobs)
    (foundAfter : (pipeline.step config event).db.jobs.findJob row.jobId = some after)
    (moved : RowMove config pipeline event row after) :
    HoldsInputs config.handlers (pipeline.step config event).db.jobs row (pendingStage after) := by
  have keyed := provisioned.formed.keyed
  have formed := provisioned.formed.rows row mem
  have before : HoldsInputs config.handlers (pipeline.step config event).db.jobs row
      (pendingStage row) := holdsInputs_step keyed event (provisioned.rows row mem)
  have nothing : ∀ {stage}, stageInputs stage = [] →
      HoldsInputs config.handlers (pipeline.step config event).db.jobs row stage := by
    intro stage empty artifactType needed
    rw [empty] at needed
    cases needed
  cases moved with
  | unchanged => exact before
  | @claimed owner now _ free claimable =>
    have running := (formed.claimStatus claimable).1
    have other : (claimStatus row).1 ≠ .retryWait := by
      intro retries
      rw [retries] at running
      cases running
    have entered : pendingStage (claimChange row owner config.leaseSeconds now row) =
        (claimStatus row).1 := if_neg other
    rw [entered]
    unfold claimStatus
    split
    · exact nothing rfl
    next waiting =>
      unfold pendingStage at before
      split
      next retries =>
        rw [if_pos retries] at before
        exact before
      next working =>
        rw [if_neg working] at before
        exact before
  | recovered => exact before
  | cancelRequested now active =>
    unfold cancelRequestedRow
    split
    · exact nothing rfl
    · exact before
  | resumed now waits =>
    simp only [isResumable, Bool.and_eq_true, decide_eq_true_eq] at waits
    unfold pendingStage at before
    rw [waits.1.1] at before
    exact before
  | landed => exact nothing rfl
  | exhausted => exact nothing rfl
  | pinned => exact before
  | renewed => exact before
  | @settled owner dueNow now job _ displayed view outcome snapshot working own shown viewed held
      legal =>
    obtain ⟨handled, ⟨stored, found, sameUrl⟩, tenant, returnable⟩ :=
      provisioned.workers owner _ working
    obtain ⟨_, current, owned, _⟩ := leaseGuard_iff.1 held
    rw [← own, keyed.findJob_of_mem mem] at found
    cases found
    have stage := tenant row (own ▸ keyed.findJob_of_mem mem) owned
    obtain ⟨title, platform, subtitleProbe, frame⟩ :=
      displayedRow_frame (outcomeDisplay outcome) row
    have active : pendingStage row = row.status := by
      refine if_neg fun retries => ?_
      exact (formed.not_idle owned).1 retries
    intro artifactType needed
    rcases outcomeValues_inputs returnable stage formed (by rw [shown, frame]) current legal _ _ _
      needed with input | ⟨artifact, registers, rfl, entered⟩
    · rw [active] at before
      exact before artifactType input
    · have changed : (pipeline.step config (.settle owner dueNow now)).db.jobs.findJob job.jobId ≠
          pipeline.db.jobs.findJob job.jobId := by
        rw [← own, foundAfter, keyed.findJob_of_mem mem]
        intro same
        exact entered (congrArg (fun row : Job => row.status) (Option.some.inj same))
      have holds := settle_registers keyed working changed registers
      rw [(outcomeArtifact_returnable returnable registers).1, ← sameUrl, ← own] at holds
      exact holds
  | broken => exact nothing rfl

theorem inputs_step (provisioned : Provisioned config pipeline) (event : PipelineEvent) :
    ∀ row ∈ (pipeline.step config event).db.jobs.jobs,
      HoldsInputs config.handlers (pipeline.step config event).db.jobs row (pendingStage row) := by
  intro after mem
  have keyed := provisioned.formed.keyed
  have found := (@step_keyed config _ keyed event).findJob_of_mem mem
  cases before : pipeline.db.jobs.findJob after.jobId with
  | none =>
    obtain ⟨submission, fingerprint, url, id, _, rfl⟩ := step_unknown keyed before found
    intro artifactType needed
    cases needed
  | some row =>
    obtain ⟨moved, foundMoved, move⟩ := @step_moved config _ keyed event _ _ before
    rw [found] at foundMoved
    cases foundMoved
    have named := JobsDb.jobId_of_findJob before
    have holds := rowMove_inputs provisioned (JobsDb.mem_of_findJob before)
      (by rw [named]; exact found) move
    unfold HoldsInputs at holds ⊢
    rw [named, ← move.url] at holds
    exact holds

/-! ## Workers -/

/-- A session that reads tables with the inputs answers as the handler needs. -/
theorem stocked_answer {owner : String} {job : Job} {snapshot : Option PipelineDb} {now : Time}
    {outside : ∀ call, Answer call} {call : Call} {value : Answer call}
    (view : AllReadable (snapshot.getD pipeline.db).jobs ∧
      HoldsInputs config.handlers (snapshot.getD pipeline.db).jobs job job.status)
    (given : (answerCall config pipeline owner job snapshot now outside call).answer = some value) :
    Stocked config.handlers job call value := by
  cases call with
  | getArtifact artifactType inputFingerprint =>
    cases given
    refine ⟨?_, fun artifact found => ?_⟩
    · rintro rfl needed
      obtain ⟨artifact, found⟩ := (view.2 artifactType needed).found
      rw [found]
      rfl
    · obtain ⟨mem, named⟩ := findArtifact_key found
      simp only [artifactKey, Prod.mk.injEq] at named
      exact ⟨named.2.1, view.1 artifact mem⟩
  | _ => trivial

theorem handling_view (provisioned : Provisioned config pipeline) {owner : String} {job : Job}
    {rest : Stage} {snapshot : Option PipelineDb}
    (working : pipeline.workers owner = some ⟨.handling job rest, snapshot⟩) :
    AllReadable (snapshot.getD pipeline.db).jobs ∧
      HoldsInputs config.handlers (snapshot.getD pipeline.db).jobs job job.status := by
  obtain ⟨_, _, holds, seen⟩ := provisioned.workers owner _ working
  cases snapshot with
  | none => exact ⟨provisioned.readable, holds⟩
  | some db => exact seen db rfl

theorem provided_step (provisioned : Provisioned config pipeline) (event : PipelineEvent)
    {owner : String} {run : WorkerRun}
    (works : (pipeline.step config event).workers owner = some run) :
    WorkerProvided config.handlers (pipeline.step config event).db.jobs owner run := by
  have keyed := provisioned.formed.keyed
  have moves := @step_worker config _ keyed owner event
  rw [works] at moves
  cases moves with
  | unchanged working quiet =>
    have before := provisioned.workers owner run working
    unfold WorkerProvided at before ⊢
    rcases run with ⟨stage, snapshot⟩
    cases stage with
    | handling job rest =>
      obtain ⟨known, supplied, holds, seen⟩ := before
      exact ⟨hasUrl_step keyed event known, supplied, holdsInputs_step keyed event holds, seen⟩
    | returned job outcome =>
      obtain ⟨handled, known, tenant, returnable⟩ := before
      exact ⟨handled, hasUrl_step keyed event known, tenant_step keyed working quiet.unsettled tenant,
        returnable⟩
    | failing job loaded detail => trivial
  | @begun _ job _ found begins =>
    have holds := inputs_step provisioned event job (JobsDb.mem_of_findJob found)
    unfold beginStage at begins
    split at begins
    · cases begins
    · split at begins
      next handler handles =>
        cases begins
        have active : pendingStage job = job.status := by
          refine if_neg fun retries => ?_
          unfold productionHandler at handles
          rw [retries] at handles
          cases handles
        rw [active] at holds
        exact ⟨⟨job, found, rfl⟩, productionHandler_supplied handles, holds, fun _ absent => nomatch absent⟩
      next =>
        cases begins
        trivial
  | @answered now outside job call next snapshot value working given =>
    obtain ⟨known, supplied, holds, seen⟩ := provisioned.workers owner _ working
    have stocked := stocked_answer (handling_view provisioned working) given
    refine ⟨hasUrl_step keyed _ known, (supplied.2 value stocked).2, holdsInputs_step keyed _ holds,
      fun db reads => ?_⟩
    rcases answerCall_snapshot pipeline owner job snapshot now outside call db reads with old | rfl
    · exact seen db old
    · exact ⟨provisioned.readable, holds⟩
  | broke => trivial
  | @refreshed job row outcome snapshot working found =>
    obtain ⟨known, _⟩ := provisioned.workers owner _ working
    obtain ⟨_, _, tenant, yields⟩ := provisioned.formed.workers owner _ working
    refine ⟨job, ?_, ?_, yields outcome rfl⟩
    · rw [JobsDb.jobId_of_findJob found]
      exact hasUrl_step keyed _ known
    · rw [JobsDb.jobId_of_findJob found]
      exact tenant_step keyed working (.inr ⟨_, _, rfl⟩) tenant

theorem provisioned_step (provisioned : Provisioned config pipeline) (event : PipelineEvent) :
    Provisioned config (pipeline.step config event) where
  formed := formed_step provisioned.formed event
  readable := readable_step provisioned event
  rows := inputs_step provisioned event
  workers _ _ works := provided_step provisioned event works

theorem provisioned_after (config : PipelineConfig) (events : List PipelineEvent) :
    Provisioned config (after config events) := by
  refine @run_invariant _ _ (step config) (Provisioned config)
    (fun _ event provisioned => provisioned_step provisioned event) _ ?_ events
  exact
    { formed := formed_empty config
      readable := fun _ mem => nomatch mem
      rows := fun _ mem => nomatch mem
      workers := fun _ _ works => nomatch works }

/-- No lookup ends a handler whose worker finds its inputs. -/
theorem missesInput_of_provisioned (provisioned : Provisioned config pipeline)
    (event : PipelineEvent) : missesInput config pipeline event = false := by
  cases event with
  | answer owner now outside =>
    simp only [missesInput]
    split
    next job call next snapshot working =>
      obtain ⟨_, supplied, _⟩ := provisioned.workers owner _ working
      cases lookup : isLookup call with
      | false => rfl
      | true =>
        rw [Bool.true_and, Option.any_eq_false]
        intro value given
        have stocked := stocked_answer (handling_view provisioned working) given
        simpa using (supplied.2 value stocked).1 lookup
    next => rfl
  | _ => rfl

/-- In every state of every run, every job has registered what its stage and the
later ones read, no lookup takes a handler into a branch for a missing artifact,
and no key is registered twice. -/
theorem every_stage_finds_its_inputs (config : PipelineConfig) (events : List PipelineEvent) :
    let jobs := (after config events).db.jobs
    (∀ row ∈ jobs.jobs, ∀ artifactType ∈ stageInputs (pendingStage row),
      Registered config.handlers jobs row artifactType) ∧
    (∀ event, missesInput config (after config events) event = false) ∧
    (jobs.artifacts.map artifactKey).Nodup := by
  have provisioned := provisioned_after config events
  refine ⟨fun row mem artifactType needed => ?_, missesInput_of_provisioned provisioned, ?_⟩
  · exact registered_of_holds provisioned.readable (provisioned.rows row mem artifactType needed)
  · exact provisioned.formed.keyed.artifactKeys

end EvoBlue.Guarantees
