import EvoBlue.Guarantees.ParkedJobs
import EvoBlue.Source.ModelInstalls

/-!
# No wake-up is lost

The handler decides to park a job from what it read several awaits before, and an
install wakes parked jobs once. A job parked for a model that has become ready in
between waits for a wake-up that is over. Nothing else goes wrong: while no job is
parked, and no provider registered, behind the back of every install, a job that
waits for a ready model is one that a running install will still resume.
-/

namespace EvoBlue.Guarantees

open EvoBlue.Kernel EvoBlue.Source EvoBlue.Source.Pipeline EvoBlue.Source.Engine

/-- The model has an install record, and its provider is registered. -/
def isReady (pipeline : Pipeline) (modelId : String) : Bool :=
  pipeline.db.installations.contains modelId &&
    (providerOfModel modelId).any pipeline.providers.contains

/-- The job waits for a model that is ready, and nobody cancelled it. -/
def Overlooked (pipeline : Pipeline) (row : Job) : Prop :=
  row.status = .waitingForModel ∧ row.cancelRequestedAt = none ∧
    ∃ modelId ∈ row.asrRecommendationModelId, isReady pipeline modelId = true

instance (pipeline : Pipeline) (row : Job) : Decidable (Overlooked pipeline row) :=
  inferInstanceAs (Decidable (_ ∧ _ ∧ ∃ _ ∈ _, _))

/-- Every worker run and every install has finished. -/
def Finished (engine : Engine) : Prop :=
  (∀ owner, engine.pipeline.workers owner = none) ∧ engine.installs = []

/-- The reconciliation will still come to the model, if it is ready. -/
def covers (modelId : String) : ReconcileStage → Bool
  | .committed => true
  | .opened view => view.jobs.waitingModelIds.contains modelId && view.installations.contains modelId
  | .registered view =>
    view.jobs.waitingModelIds.contains modelId && view.installations.contains modelId
  | .sweeping modelIds view =>
    modelIds.contains modelId && view.all fun db => db.installations.contains modelId
  | .resuming current rest => current = modelId || rest.contains modelId

def isCovered (engine : Engine) (modelId : String) : Bool :=
  engine.installs.any fun run => covers modelId run.stage

/-- The event parks a job for a model that is ready, and no install will come to it. -/
def ParksReady (engine : Engine) : EngineEvent → Prop
  | .work event => ∃ settled ∈ settling engine.pipeline event,
      settled.1.errorCode = none ∧ settled.1.target = some .waitingForModel ∧
        settled.2.cancelRequestedAt = none ∧
        ∃ modelId ∈ settled.2.asrRecommendationModelId,
          isReady engine.pipeline modelId = true ∧ isCovered engine modelId = false
  | _ => False

/-- The providers the event registers. -/
def registering (engine : Engine) : EngineEvent → List String
  | .registerProviders available => available
  | .reconcile modelId available _ =>
    match engine.findInstall modelId with
    | some ⟨_, .opened _⟩ => available
    | _ => []
  | _ => []

/-- The event registers the provider of an installed model that a job waits for, and
no install will come to that model. -/
def RegistersAwaited (engine : Engine) (event : EngineEvent) : Prop :=
  ∃ row ∈ engine.pipeline.db.jobs.jobs, row.status = .waitingForModel ∧
    row.cancelRequestedAt = none ∧ ∃ modelId ∈ row.asrRecommendationModelId,
      modelId ∈ engine.pipeline.db.installations ∧
        (∃ providerId ∈ providerOfModel modelId, providerId ∈ registering engine event) ∧
        isCovered engine modelId = false

instance (engine : Engine) (event : EngineEvent) : Decidable (ParksReady engine event) := by
  cases event <;> unfold ParksReady <;> infer_instance

instance (engine : Engine) (event : EngineEvent) : Decidable (RegistersAwaited engine event) :=
  inferInstanceAs (Decidable (∃ _ ∈ _, _))

variable {config : PipelineConfig}

/-! ## Jobs that begin to wait -/

theorem step_installations {pipeline : Pipeline} {event : PipelineEvent}
    (task : event.isDeployment = false) :
    (pipeline.step config event).db.installations = pipeline.db.installations ∧
      (pipeline.step config event).providers = pipeline.providers := by
  cases event with
  | register | install | uninstall => cases task
  | claim owner now =>
    simp only [Pipeline.step, Pipeline.claim]
    split
    · exact ⟨rfl, rfl⟩
    · split <;> exact ⟨rfl, rfl⟩
  | answer owner now outside =>
    simp only [Pipeline.step, Pipeline.answer]
    split
    next job call next snapshot working =>
      have kept : (answerCall config pipeline owner job snapshot now outside call).db.installations =
          pipeline.db.installations := by
        cases call <;> rfl
      split <;> exact ⟨kept, rfl⟩
    next => exact ⟨rfl, rfl⟩
  | raise owner =>
    simp only [Pipeline.step, Pipeline.raise]
    split <;> exact ⟨rfl, rfl⟩
  | refresh owner =>
    simp only [Pipeline.step, Pipeline.refresh]
    split <;> exact ⟨rfl, rfl⟩
  | settle owner dueNow now =>
    simp only [Pipeline.step, Pipeline.settle]
    split
    · split <;> exact ⟨rfl, rfl⟩
    · exact ⟨rfl, rfl⟩
    · exact ⟨rfl, rfl⟩
    · exact ⟨rfl, rfl⟩
  | heartbeat owner now =>
    simp only [Pipeline.step, Pipeline.heartbeat]
    split <;> exact ⟨rfl, rfl⟩
  | _ => exact ⟨rfl, rfl⟩

/-- A job that waits after an event waited before, for the same model, or was parked
by the event. -/
theorem rowMove_awaited {pipeline : Pipeline} (formed : PipelineFormed config pipeline)
    {event : PipelineEvent} {row after : Job} (mem : row ∈ pipeline.db.jobs.jobs)
    (moved : RowMove config pipeline event row after) (waits : after.status = .waitingForModel)
    (uncancelled : after.cancelRequestedAt = none) :
    row.status = .waitingForModel ∧ row.cancelRequestedAt = none ∧
        row.asrRecommendationModelId = after.asrRecommendationModelId ∨
      ∃ settled ∈ settling pipeline event, settled.1.errorCode = none ∧
        settled.1.target = some .waitingForModel ∧ settled.2.cancelRequestedAt = none ∧
        settled.2.asrRecommendationModelId = after.asrRecommendationModelId := by
  cases moved with
  | unchanged => exact .inl ⟨waits, uncancelled, rfl⟩
  | claimed free claimable =>
    have running := ((formed.rows row mem).claimStatus claimable).1
    change (claimStatus row).1 = .waitingForModel at waits
    rw [waits] at running
    cases running
  | recovered => exact .inl ⟨waits, uncancelled, rfl⟩
  | cancelRequested now active =>
    unfold cancelRequestedRow at uncancelled
    split at uncancelled <;> cases uncancelled
  | pinned _ _ held =>
    simp only [pinGuard, Bool.and_eq_true, decide_eq_true_eq] at held
    have transcribing := held.1.1.2
    change row.status = .waitingForModel at waits
    rw [transcribing] at waits
    cases waits
  | renewed => exact .inl ⟨waits, uncancelled, rfl⟩
  | @settled owner dueNow now job _ displayed view outcome snapshot returned own shown viewed held =>
    obtain ⟨_, _, handled, _, returnable⟩ := formed.workers owner _ returned
    obtain ⟨noError, target, unrequested⟩ :=
      (outcomeValues_end returnable _ _ _ _ _ _).waiting waits
    obtain ⟨_, _, _, _, _, _, _, _, _, _, same⟩ :=
      outcomeValues_frame view row config.leaseSeconds dueNow now outcome displayed
    obtain ⟨title, platform, subtitleProbe, frame⟩ :=
      displayedRow_frame (outcomeDisplay outcome) row
    have settles := settling_of_held formed.keyed dueNow mem returned own held
    refine .inr ⟨_, settles, noError, target, unrequested, ?_⟩
    rw [same, shown, frame]
  | _ => cases waits

/-! ## One await of an install -/

theorem mem_waitingModelIds {jobs : JobsDb} {row : Job} (mem : row ∈ jobs.jobs)
    (waits : row.status = .waitingForModel) {modelId : String}
    (named : row.asrRecommendationModelId = some modelId) : modelId ∈ jobs.waitingModelIds := by
  unfold JobsDb.waitingModelIds
  rw [List.mem_dedup, List.mem_filterMap]
  exact ⟨row, List.mem_filter.2 ⟨mem, by simp [waits]⟩, named⟩

theorem reconcileStep_installations (pipeline : Pipeline) (available : List String) (now : Time)
    (stage : ReconcileStage) :
    (reconcileStep config pipeline available now stage).1.db.installations =
      pipeline.db.installations := by
  cases stage with
  | sweeping modelIds view =>
    cases modelIds with
    | nil => rfl
    | cons modelId rest =>
      simp only [reconcileStep]
      split
      · rfl
      · split <;> rfl
  | _ => rfl

/-- What a reconciliation would come to, it comes to, or it is at its jobs now. -/
theorem covers_reconcileStep {pipeline : Pipeline} {modelId : String} {available : List String}
    {now : Time} {stage : ReconcileStage}
    (ready : isReady (reconcileStep config pipeline available now stage).1 modelId = true)
    (awaited : modelId ∈ pipeline.db.jobs.waitingModelIds) (covering : covers modelId stage = true) :
    (∃ next ∈ (reconcileStep config pipeline available now stage).2, covers modelId next = true) ∨
      ∃ rest, stage = .resuming modelId rest := by
  simp only [isReady, reconcileStep_installations, Bool.and_eq_true, List.contains_iff_mem] at ready
  cases stage with
  | committed => exact .inl ⟨_, rfl, by simpa [covers] using ⟨awaited, ready.1⟩⟩
  | opened view => exact .inl ⟨_, rfl, covering⟩
  | registered view => exact .inl ⟨_, rfl, by simpa [covers] using covering⟩
  | resuming current rest =>
    by_cases same : current = modelId
    · exact .inr ⟨rest, by rw [same]⟩
    · simp only [covers, same, decide_false, Bool.false_or] at covering
      exact .inl ⟨_, rfl, by simpa [covers] using covering⟩
  | sweeping modelIds view =>
    simp only [covers, Bool.and_eq_true, List.contains_iff_mem] at covering
    obtain ⟨listed, seen⟩ := covering
    have installed : modelId ∈ (view.getD pipeline.db).installations := by
      cases view with
      | none => exact ready.1
      | some db => simpa using seen
    cases modelIds with
    | nil => cases listed
    | cons current rest =>
      left
      rcases List.mem_cons.1 listed with rfl | later
      · obtain ⟨providerId, named, registered⟩ := (Option.any_eq_true _ _).1 ready.2
        have there : pipeline.providers.contains providerId = true := by
          simp only [reconcileStep, named] at registered
          split at registered <;> exact registered
        simp only [reconcileStep, named, List.contains_iff_mem.2 installed, there, Bool.and_self,
          if_true]
        exact ⟨_, rfl, by simp [covers]⟩
      · simp only [reconcileStep]
        split
        · exact ⟨_, rfl, by simpa [covers] using ⟨later, by simpa using seen⟩⟩
        · split
          · exact ⟨_, rfl, by simp [covers, later]⟩
          · exact ⟨_, rfl, by simpa [covers] using ⟨later, installed⟩⟩

/-- A job that waits after an await of a reconciliation waited before, and not for the
model whose jobs it resumed. -/
theorem reconcileStep_awaited {pipeline : Pipeline} {available : List String} {now : Time}
    {stage : ReconcileStage} {row : Job}
    (mem : row ∈ (reconcileStep config pipeline available now stage).1.db.jobs.jobs)
    (waits : row.status = .waitingForModel) (uncancelled : row.cancelRequestedAt = none) :
    row ∈ pipeline.db.jobs.jobs ∧
      ∀ modelId rest, stage = .resuming modelId rest →
        row.asrRecommendationModelId ≠ some modelId := by
  cases stage with
  | resuming modelId rest =>
    have swept : row ∈ (pipeline.db.jobs.sweep (isResumable modelId) (resumedRow now)).jobs := mem
    obtain ⟨old, memOld, same⟩ := List.mem_map.1 swept
    split at same
    next hit =>
      subst same
      cases waits
    next kept =>
      subst same
      refine ⟨memOld, ?_⟩
      rintro _ _ ⟨⟩ named
      refine kept ?_
      simp [isResumable, waits, named, uncancelled]
  | sweeping modelIds view =>
    constructor
    · cases modelIds with
      | nil => exact mem
      | cons modelId rest =>
        simp only [reconcileStep] at mem
        split at mem
        · exact mem
        · split at mem <;> exact mem
    · intro _ _ other
      cases other
  | _ =>
    refine ⟨mem, ?_⟩
    intro _ _ other
    cases other

theorem reconcileStep_formed {pipeline : Pipeline} (formed : PipelineFormed config pipeline)
    (available : List String) (now : Time) (stage : ReconcileStage) :
    PipelineFormed config (reconcileStep config pipeline available now stage).1 := by
  cases stage with
  | opened view => exact formed_step formed (.register _)
  | resuming modelId rest => exact formed_step formed (.resumeWaitingJobs modelId now)
  | sweeping modelIds view =>
    cases modelIds with
    | nil => exact formed
    | cons modelId rest =>
      simp only [reconcileStep]
      split
      · exact formed
      · split <;> exact formed
  | _ => exact formed

/-- What becomes ready at a registration has its provider among the available ones. -/
theorem isReady_registered {pipeline : Pipeline} {available : List String} {modelId : String}
    (ready : isReady (registerAvailable config pipeline available) modelId = true) :
    isReady pipeline modelId = true ∨ modelId ∈ pipeline.db.installations ∧
      ∃ providerId ∈ providerOfModel modelId, providerId ∈ available := by
  simp only [isReady, Bool.and_eq_true, List.contains_iff_mem] at ready ⊢
  obtain ⟨installed, registered⟩ := ready
  obtain ⟨providerId, named, listed⟩ := (Option.any_eq_true _ _).1 registered
  rcases List.mem_append.1 (List.contains_iff_mem.1 listed) with before | new
  · refine .inl ⟨installed, ?_⟩
    exact (Option.any_eq_true _ _).2 ⟨providerId, named, List.contains_iff_mem.2 before⟩
  · exact .inr ⟨installed, providerId, named, new⟩

/-! ## The invariant -/

/-- Every job that waits for a ready model is one an install will still come to. -/
structure WakeUpsPending (config : PipelineConfig) (engine : Engine) : Prop where
  formed : PipelineFormed config engine.pipeline
  single : (engine.installs.map (·.modelId)).Nodup
  covered : ∀ row ∈ engine.pipeline.db.jobs.jobs, row.status = .waitingForModel →
    row.cancelRequestedAt = none → ∀ modelId ∈ row.asrRecommendationModelId,
      isReady engine.pipeline modelId = true → isCovered engine modelId = true

variable {engine : Engine}

theorem pending_work (pending : WakeUpsPending config engine) {event : PipelineEvent}
    (parks : ¬ ParksReady engine (.work event)) (task : event.isDeployment = false) :
    WakeUpsPending config { engine with pipeline := engine.pipeline.step config event } where
  formed := formed_step pending.formed event
  single := pending.single
  covered := by
    intro after mem waits uncancelled modelId named ready
    have formed := pending.formed
    have found := (formed_step formed event).keyed.findJob_of_mem mem
    simp only [isReady, (step_installations task).1, (step_installations task).2] at ready
    cases before : engine.pipeline.db.jobs.findJob after.jobId with
    | none =>
      obtain ⟨submission, fingerprint, url, id, _, rfl⟩ := step_unknown formed.keyed before found
      cases waits
    | some row =>
      obtain ⟨moved, foundMoved, move⟩ := @step_moved config _ formed.keyed event _ _ before
      rw [found] at foundMoved
      cases foundMoved
      have memRow := JobsDb.mem_of_findJob before
      rcases rowMove_awaited formed memRow move waits uncancelled with
        ⟨waited, kept, same⟩ | ⟨settled, settles, noError, target, unrequested, same⟩
      · exact pending.covered row memRow waited kept modelId (same ▸ named) ready
      · refine Bool.of_not_eq_false fun uncovered => parks ?_
        exact ⟨settled, settles, noError, target, unrequested, modelId, same ▸ named, ready,
          uncovered⟩

/-- What an install registers leaves no job behind that none will come to. -/
theorem covered_registered (pending : WakeUpsPending config engine) {event : EngineEvent}
    (unawaited : ¬ RegistersAwaited engine event) {row : Job}
    (mem : row ∈ engine.pipeline.db.jobs.jobs) (waits : row.status = .waitingForModel)
    (uncancelled : row.cancelRequestedAt = none) {modelId : String}
    (named : modelId ∈ row.asrRecommendationModelId)
    (ready : isReady (registerAvailable config engine.pipeline (registering engine event)) modelId =
      true) : isCovered engine modelId = true := by
  rcases isReady_registered ready with before | ⟨installed, provider⟩
  · exact pending.covered row mem waits uncancelled modelId named before
  · refine Bool.of_not_eq_false fun uncovered => unawaited ?_
    exact ⟨row, mem, waits, uncancelled, modelId, named, installed, provider, uncovered⟩

theorem pending_completeInstallation (pending : WakeUpsPending config engine) (modelId : String) :
    WakeUpsPending config (engine.completeInstallation config modelId) := by
  unfold Engine.completeInstallation
  split
  · exact pending
  next absent =>
    refine ⟨formed_step pending.formed (.install modelId), ?_, fun _ _ _ _ other _ _ => ?_⟩
    · rw [List.map_append]
      refine List.nodup_append.2 ⟨pending.single, List.nodup_singleton _, ?_⟩
      rintro _ old _ new rfl
      obtain ⟨run, mem, same⟩ := List.mem_map.1 old
      have different := List.find?_eq_none.1 absent run mem
      rw [List.mem_singleton.1 new] at same
      simp [same] at different
    · simp [isCovered, covers]

theorem otherInstalls_single (pending : WakeUpsPending config engine) (modelId : String)
    (next : Option ReconcileStage) :
    ((engine.otherInstalls modelId ++
      (next.map fun stage => ({ modelId, stage } : InstallRun)).toList).map (·.modelId)).Nodup := by
  rw [List.map_append]
  have others : ((engine.otherInstalls modelId).map (·.modelId)).Nodup :=
    pending.single.sublist (List.filter_sublist.map _)
  cases next with
  | none => simpa using others
  | some stage =>
    refine List.nodup_append.2 ⟨others, List.nodup_singleton _, ?_⟩
    rintro _ old _ new rfl
    obtain ⟨run, mem, same⟩ := List.mem_map.1 old
    have different := (List.mem_filter.1 mem).2
    rw [List.mem_singleton.1 new] at same
    simp [same] at different

theorem pending_reconcile (pending : WakeUpsPending config engine) {modelId : String}
    {available : List String} {now : Time}
    (unawaited : ¬ RegistersAwaited engine (.reconcile modelId available now)) :
    WakeUpsPending config (engine.reconcile config modelId available now) := by
  unfold reconcile
  split
  · exact pending
  next run found =>
    have named := List.find?_some found
    simp only [decide_eq_true_eq] at named
    have memRun := List.mem_of_find?_eq_some found
    refine ⟨reconcileStep_formed pending.formed available now run.stage,
      otherInstalls_single pending modelId _, ?_⟩
    intro row mem waits uncancelled other recommended ready
    obtain ⟨memRow, unresumed⟩ := reconcileStep_awaited mem waits uncancelled
    have before : isCovered engine other = true := by
      cases stage : run.stage with
      | opened view =>
        refine covered_registered pending unawaited memRow waits uncancelled recommended ?_
        rw [stage] at ready
        have registers : registering engine (.reconcile modelId available now) = available := by
          rcases run with ⟨_, _⟩
          simp only at stage
          simp only [registering, found, stage]
        rw [registers]
        exact ready
      | sweeping modelIds view =>
        refine pending.covered row memRow waits uncancelled other recommended ?_
        rw [stage] at ready
        cases modelIds with
        | nil => exact ready
        | cons current rest =>
          simp only [reconcileStep] at ready
          split at ready
          · exact ready
          · split at ready <;> exact ready
      | _ =>
        rw [stage] at ready
        exact pending.covered row memRow waits uncancelled other recommended ready
    obtain ⟨covering, memCovering, covers⟩ := List.any_eq_true.1 before
    by_cases same : covering.modelId = modelId
    · -- The installs of one model are one task.
      have one : covering = run := by
        refine List.inj_on_of_nodup_map pending.single memCovering memRun ?_
        rw [same, named]
      subst one
      rcases covers_reconcileStep ready (mem_waitingModelIds memRow waits recommended) covers with
        ⟨next, goesOn, covered⟩ | ⟨rest, resuming⟩
      · refine List.any_eq_true.2 ⟨⟨modelId, next⟩, List.mem_append_right _ ?_, covered⟩
        rw [Option.mem_def.1 goesOn]
        exact List.mem_singleton_self _
      · exact absurd recommended (unresumed other rest resuming)
    · refine List.any_eq_true.2 ⟨covering, List.mem_append_left _ ?_, covers⟩
      exact List.mem_filter.2 ⟨memCovering, by simpa using same⟩

theorem pending_step (pending : WakeUpsPending config engine) {event : EngineEvent}
    (parks : ¬ ParksReady engine event) (unawaited : ¬ RegistersAwaited engine event) :
    WakeUpsPending config (engine.step config event) := by
  cases event with
  | work event =>
    simp only [Engine.step]
    split
    · exact pending
    next task => exact pending_work pending parks (by simpa using task)
  | registerProviders available =>
    refine ⟨formed_step pending.formed (.register _), pending.single, ?_⟩
    intro row mem waits uncancelled modelId named ready
    exact covered_registered pending unawaited mem waits uncancelled named ready
  | completeInstallation modelId => exact pending_completeInstallation pending modelId
  | reconcile modelId available now => exact pending_reconcile pending unawaited

/-- In every run in which no event parks a job for a ready model, or registers the
provider of an installed model a job waits for, behind the back of every install, no
job is overlooked in any state without a running install. -/
theorem no_wake_up_lost (config : PipelineConfig) (events : List EngineEvent)
    (awaited : Meets (Engine.step config)
      (fun engine event => ¬ ParksReady engine event ∧ ¬ RegistersAwaited engine event) {} events)
    (idle : (Engine.after config events).installs = []) :
    ∀ row ∈ (Engine.after config events).pipeline.db.jobs.jobs,
      ¬ Overlooked (Engine.after config events).pipeline row := by
  have pending : WakeUpsPending config (Engine.after config events) := by
    refine @run_of_meets _ _ (Engine.step config) _ (WakeUpsPending config) ?_ _ _ ?_ awaited
    · exact fun _ _ admitted pending => pending_step pending admitted.1 admitted.2
    · exact ⟨formed_empty config, List.nodup_nil, fun _ mem => nomatch mem⟩
  rintro row mem ⟨waits, uncancelled, modelId, named, ready⟩
  have covered := pending.covered row mem waits uncancelled modelId named ready
  simp [isCovered, idle] at covered

/-- A worker's stage as events of the engine. -/
def working (events : List PipelineEvent) : List EngineEvent := events.map .work

/-- An install of the standard model, from its commit to its end. -/
def sampleInstall : List EngineEvent :=
  .completeInstallation "sensevoice-small-int8" ::
    List.replicate 6 (.reconcile "sensevoice-small-int8" ["sherpa-onnx-standard"] 5)

/-- The job is parked, the model is installed, and the job goes on. -/
theorem no_wake_up_lost_sample :
    let events := working ([.submitVideo (sampleSubmission "job-1" 0), .claim "worker-a" 1] ++
      sampleWork "worker-a" 2) ++ sampleInstall
    (Meets (Engine.step sampleConfig)
      (fun engine event => ¬ ParksReady engine event ∧ ¬ RegistersAwaited engine event) {} events ∧
      (Engine.after sampleConfig events).installs = []) ∧
    ∀ row ∈ (Engine.after sampleConfig events).pipeline.db.jobs.jobs,
      ¬ Overlooked (Engine.after sampleConfig events).pipeline row := by
  intro events
  have admitted : Meets (Engine.step sampleConfig)
      (fun engine event => ¬ ParksReady engine event ∧ ¬ RegistersAwaited engine event) {}
      events ∧ (Engine.after sampleConfig events).installs = [] := by
    decide +kernel
  exact ⟨admitted, no_wake_up_lost sampleConfig events admitted.1 admitted.2⟩

/-- The handler reads that the model is missing and pins the route; the install
commits, finds nobody waiting and ends; then the job is parked. -/
def lateParking : List EngineEvent :=
  working ([.submitVideo (sampleSubmission "job-1" 0), .claim "worker-a" 1] ++
    sampleStage "worker-a" 1 2 ++ sampleStage "worker-a" 1 2 ++ sampleStage "worker-a" 2 2 ++
    List.replicate 4 (.answer "worker-a" 3 sampleAnswers)) ++
    sampleInstall ++ working [.refresh "worker-a", .settle "worker-a" 6 6]

/-- The worker whose own event this is. -/
def engineActor : EngineEvent → Option String
  | .work event => PipelineEvent.actor event
  | _ => none

theorem workers_reconcileStep (pipeline : Pipeline) (available : List String) (now : Time)
    (stage : ReconcileStage) :
    (reconcileStep config pipeline available now stage).1.workers = pipeline.workers := by
  cases stage with
  | sweeping modelIds view =>
    cases modelIds with
    | nil => rfl
    | cons modelId rest =>
      simp only [reconcileStep]
      split
      · rfl
      · split <;> rfl
  | _ => rfl

/-- Who takes no part in a run has no work after it. -/
theorem after_unworked (config : PipelineConfig) {owner : String} {events : List EngineEvent}
    (others : ∀ event ∈ events, engineActor event ≠ some owner) :
    (Engine.after config events).pipeline.workers owner = none := by
  refine @run_history _ _ (Engine.step config) {} (fun past engine =>
    (∀ event ∈ past, engineActor event ≠ some owner) → engine.pipeline.workers owner = none)
    (fun _ => rfl) ?_ events others
  intro past event ih others
  have before := ih fun event mem => others event (List.mem_append_left _ mem)
  have other := others event (by simp)
  generalize run (Engine.step config) {} past = engine at before
  cases event with
  | work event =>
    simp only [Engine.step]
    split
    · exact before
    · exact (step_workers_of_ne engine.pipeline other).trans before
  | registerProviders available => exact before
  | completeInstallation modelId =>
    simp only [Engine.step, Engine.completeInstallation]
    split <;> exact before
  | reconcile modelId available now =>
    simp only [Engine.step, reconcile]
    split
    · exact before
    · exact (congrFun (workers_reconcileStep _ available now _) owner).trans before

theorem late_parking_overlooked :
    ¬ ∀ config events, Finished (Engine.after config events) →
      ∀ row ∈ (Engine.after config events).pipeline.db.jobs.jobs,
        ¬ Overlooked (Engine.after config events).pipeline row := by
  intro stated
  have finished : Finished (Engine.after sampleConfig lateParking) := by
    refine ⟨fun owner => ?_, by decide +kernel⟩
    by_cases same : owner = "worker-a"
    · have gone : ((Engine.after sampleConfig lateParking).pipeline.workers "worker-a").isNone =
          true := by
        decide +kernel
      rw [same]
      exact Option.isNone_iff_eq_none.1 gone
    · have actors : ∀ event ∈ lateParking, ∀ actor ∈ engineActor event, actor = "worker-a" := by
        decide +kernel
      refine after_unworked sampleConfig fun event mem acts => same ?_
      exact actors event mem owner acts
  have overlooked : ∃ row ∈ (Engine.after sampleConfig lateParking).pipeline.db.jobs.jobs,
      Overlooked (Engine.after sampleConfig lateParking).pipeline row := by
    decide +kernel
  obtain ⟨row, mem, waits⟩ := overlooked
  exact stated sampleConfig lateParking finished row mem waits

end EvoBlue.Guarantees
