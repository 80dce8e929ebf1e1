import EvoBlue.Source.Pipeline

/-!
# Model installs beside the pipeline

The end of an install task of `ModelManagerService` in `asr/service.py`: it commits
the install record, and `reconcile_waiting_asr_jobs` then registers the providers,
lists the models that jobs wait for and resumes the jobs of those that are ready.
One event is one await of one task. Nothing is uninstalled, so the registry grows.

The task's session reads the operation back after its commit, and goes on reading
the snapshot this opened until the first resume closes it.
-/

namespace EvoBlue.Source

open EvoBlue.Kernel

/-- How far the reconciliation of an install has got. -/
inductive ReconcileStage where
  /-- The record is committed, and the operation is to be read back. -/
  | committed
  /-- The settings are to be read, and the providers registered. -/
  | opened (view : PipelineDb)
  /-- The waiting models are to be listed. -/
  | registered (view : PipelineDb)
  /-- The listed models still to be looked at. -/
  | sweeping (modelIds : List String) (view : Option PipelineDb)
  /-- The model is ready, and its jobs are to be resumed. -/
  | resuming (modelId : String) (rest : List String)

structure InstallRun where
  modelId : String
  stage : ReconcileStage

structure Engine where
  pipeline : Pipeline := {}
  /-- The install tasks, one for a model. -/
  installs : List InstallRun := []

inductive EngineEvent where
  | work (event : PipelineEvent)
  /-- The handler factory registers what is on disk, before a worker iteration. -/
  | registerProviders (available : List String)
  | completeInstallation (modelId : String)
  /-- The next await of the install task of the model; `available` are the providers
  whose inputs it finds on disk. -/
  | reconcile (modelId : String) (available : List String) (now : Time)

/-- Installing and registering is the business of the tasks modelled here. -/
def PipelineEvent.isDeployment : PipelineEvent → Bool
  | .register _ => true
  | .install _ => true
  | .uninstall _ => true
  | _ => false

namespace Engine

variable (config : PipelineConfig)

/-- `register_available_asr_providers`. -/
def registerAvailable (pipeline : Pipeline) (available : List String) : Pipeline :=
  pipeline.step config (.register (pipeline.providers ++ available))

/-- One await of `reconcile_waiting_asr_jobs`, from the end of `complete_installation`. -/
def reconcileStep (pipeline : Pipeline) (available : List String) (now : Time) :
    ReconcileStage → Pipeline × Option ReconcileStage
  | .committed => (pipeline, some (.opened pipeline.db))
  | .opened view => (registerAvailable config pipeline available, some (.registered view))
  | .registered view => (pipeline, some (.sweeping view.jobs.waitingModelIds (some view)))
  | .sweeping [] _ => (pipeline, none)
  | .sweeping (modelId :: rest) view =>
    match providerOfModel modelId with
    | none => (pipeline, some (.sweeping rest view))
    | some providerId =>
      let view := view.getD pipeline.db
      if view.installations.contains modelId && pipeline.providers.contains providerId then
        (pipeline, some (.resuming modelId rest))
      else (pipeline, some (.sweeping rest (some view)))
  | .resuming modelId rest =>
    (pipeline.step config (.resumeWaitingJobs modelId now), some (.sweeping rest none))

def findInstall (engine : Engine) (modelId : String) : Option InstallRun :=
  engine.installs.find? fun run => run.modelId = modelId

/-- The tasks after the one of the model went on, or ended. -/
def otherInstalls (engine : Engine) (modelId : String) : List InstallRun :=
  engine.installs.filter fun run => run.modelId ≠ modelId

def reconcile (engine : Engine) (modelId : String) (available : List String) (now : Time) :
    Engine :=
  match engine.findInstall modelId with
  | none => engine
  | some run =>
    let after := reconcileStep config engine.pipeline available now run.stage
    { pipeline := after.1
      installs := engine.otherInstalls modelId ++
        (after.2.map fun stage => ({ modelId, stage } : InstallRun)).toList }

def completeInstallation (engine : Engine) (modelId : String) : Engine :=
  match engine.findInstall modelId with
  | some _ => engine
  | none =>
    { pipeline := engine.pipeline.step config (.install modelId)
      installs := engine.installs ++ [⟨modelId, .committed⟩] }

def step (engine : Engine) : EngineEvent → Engine
  | .work event =>
    if event.isDeployment then engine
    else { engine with pipeline := engine.pipeline.step config event }
  | .registerProviders available =>
    { engine with pipeline := registerAvailable config engine.pipeline available }
  | .completeInstallation modelId => engine.completeInstallation config modelId
  | .reconcile modelId available now => engine.reconcile config modelId available now

/-- The engine after a list of events, from an empty database. -/
def after (events : List EngineEvent) : Engine := run (step config) {} events

end Engine

end EvoBlue.Source
