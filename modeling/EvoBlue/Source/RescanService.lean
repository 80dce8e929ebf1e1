import EvoBlue.Source.Rebuild

/-!
# The service that owns the rescan

`IndexRebuildService` of `storage/rebuild.py`: requests for a rescan, runs that wait
for the in-process lock, and the startup reconciliation, as tasks of one event loop.
Between two awaits of a task any other task may go on, may be cancelled, and other
writers may change the index; the process may die and start again on the same
database. The steps of a run are those of `phaseStep`.
-/

namespace EvoBlue.Source

open EvoBlue.Kernel

/-- Who started a run. -/
inductive RunOrigin
  /-- `_scheduled_run`. -/
  | scheduled
  /-- `run_rebuild`. -/
  | awaited
  /-- `reconcile_on_startup`. -/
  | startup
  deriving DecidableEq

/-- Where the startup reconciliation waits. -/
inductive StartupStage
  | inspect
  /-- A state left by a dead process is recorded as orphaned. -/
  | orphan (empty : Bool)
  | reread (empty : Bool)
  | resolve
  | refuse (code : String)
  /-- The handler of a failure records it. -/
  | recover (code : String)

/-- Where a task of the service waits, or how it ended. -/
inductive RescanTask
  /-- `start_rebuild` in its pre-flight. -/
  | resolving (purge : Bool)
  /-- `start_rebuild` recording why it refuses. -/
  | refusing (code : String)
  /-- A scheduled run before its first step. -/
  | spawned (purge : Bool)
  /-- A run at the lock. -/
  | waiting (origin : RunOrigin) (purge : Bool)
  | running (origin : RunOrigin) (purge : Bool) (phase : RunPhase)
  | startup (stage : StartupStage)
  | answered (accepted : Bool)
  | raised
  | ended

structure RescanService where
  scheduled : Bool := false
  locked : Bool := false
  /-- The tasks that wait for the lock, first come first served. -/
  queue : List Nat := []
  tasks : List RescanTask := []
  db : IndexDb

/-- What `resolve_report_root` and `root_is_usable` answer. -/
inductive RootAnswer
  | usable
  | unusable
  | pointerUnavailable
  | failed

/-- What a task meets when it goes on. -/
structure Encounter where
  now : Time
  disk : Disk
  root : RootAnswer
  /-- Its next statement raises. -/
  fails : Bool

inductive RescanEvent
  | request (purge : Bool)
  | await (purge : Bool)
  | boot
  | go (task : Nat) (meets : Encounter)
  | cancel (task : Nat)
  /-- Another writer commits; `index_status` is the service's own. -/
  | others (db : IndexDb)
  | crash

namespace RescanService

def put (service : RescanService) (task : Nat) (next : RescanTask) : RescanService :=
  { service with tasks := service.tasks.set task next }

def spawn (service : RescanService) (task : RescanTask) : RescanService :=
  { service with tasks := service.tasks ++ [task] }

/-- `async with self._lock`: the lock when it is free and nobody waits, else the end
of the queue. -/
def acquire (service : RescanService) (task : Nat) (origin : RunOrigin) (purge : Bool) :
    RescanService :=
  if service.locked = false ∧ service.queue = [] then
    { service with locked := true }.put task (.running origin purge .begin)
  else { service with queue := service.queue ++ [task] }.put task (.waiting origin purge)

/-- The `_locked_run` of the startup. -/
def lockedRun (service : RescanService) (task : Nat) : RescanService :=
  if service.locked = true ∨ service.scheduled = true then service.put task .ended
  else service.acquire task .startup false

/-- `_park_needs_rebuild`. -/
def parked (service : RescanService) (now : Time) (code : String) : RescanService :=
  { service with
    db := ((setIndexState .needsRebuild now (some code)).transaction service.db).2 }

/-- The `finally` of the task that owns the scheduled flag. -/
def unscheduled (service : RescanService) : RescanService := { service with scheduled := false }

/-- The phase a run is in after its next await. -/
def nextPhase (env : ReportEnv) (purge : Bool) (meets : Encounter) (db : IndexDb)
    (phase : RunPhase) : RunPhase × IndexDb :=
  if meets.fails then
    match phase with
    -- outside the `try`, and inside the handler: nothing records the failure
    | .finish _ _ | .parking _ => (.failed .operationalError, db)
    | .done counters consistent => (.done counters consistent, db)
    | .failed error => (.failed error, db)
    | _ => (.parking .operationalError, db)
  else phaseStep env purge meets.now meets.disk db phase

/-- The end of a run: the lock is released, and the task goes back to who started it. -/
def finished (service : RescanService) (task : Nat) (origin : RunOrigin) (failure : Option String) :
    RescanService :=
  let released := { service with locked := false }
  match origin, failure with
  | .scheduled, _ => released.unscheduled.put task .ended
  | .awaited, _ => released.put task .ended
  | .startup, none => released.put task .ended
  | .startup, some code => released.put task (.startup (.recover code))

/-- A run goes on. -/
def goRun (env : ReportEnv) (service : RescanService) (task : Nat) (origin : RunOrigin)
    (purge : Bool) (phase : RunPhase) (meets : Encounter) : RescanService :=
  let (next, db) := nextPhase env purge meets service.db phase
  match next with
  | .done _ _ => { service with db }.finished task origin none
  | .failed error => { service with db }.finished task origin (some (parkCode error))
  | _ => { service with db }.put task (.running origin purge next)

/-- After the status was read: `_startup_needs_rebuild` decides. -/
def decideStartup (service : RescanService) (task : Nat) (empty : Bool) : RescanService :=
  if service.db.status.state = .needsRebuild then service.lockedRun task
  else if empty then service.put task (.startup .resolve)
  else service.put task .ended

/-- The startup reconciliation goes on. -/
def goStartup (env : ReportEnv) (service : RescanService) (task : Nat) (stage : StartupStage)
    (meets : Encounter) : RescanService :=
  let recovers := fun code => service.put task (.startup (.recover code))
  match stage with
  | .inspect =>
    if meets.fails then recovers "REBUILD_FAILED"
    else if service.db.status.state = .running then
      service.put task (.startup (.orphan service.db.documents.isEmpty))
    else service.decideStartup task service.db.documents.isEmpty
  | .orphan empty =>
    if meets.fails then recovers "REBUILD_FAILED"
    else (service.parked meets.now "ORPHANED_BY_RESTART").put task (.startup (.reread empty))
  | .reread empty =>
    if meets.fails then recovers "REBUILD_FAILED" else service.decideStartup task empty
  | .resolve =>
    match meets.root with
    | .usable =>
      if (collect env.unicode meets.disk.dir).isEmpty then service.put task .ended
      else service.lockedRun task
    | .unusable => service.put task (.startup (.refuse "ROOT_UNAVAILABLE"))
    | .pointerUnavailable => service.put task (.startup (.refuse "REPORT_POINTER_UNAVAILABLE"))
    | .failed => recovers "REBUILD_FAILED"
  | .refuse code =>
    if meets.fails then recovers "REBUILD_FAILED"
    else (service.parked meets.now code).put task .ended
  | .recover code =>
    if meets.fails then service.put task .raised
    else (service.parked meets.now code).put task .ended

/-- A task goes on from its await. -/
def go (env : ReportEnv) (service : RescanService) (task : Nat) (meets : Encounter) :
    RescanService :=
  match service.tasks[task]? with
  | some (.resolving purge) =>
    match meets.root with
    | .usable => (service.put task (.answered true)).spawn (.spawned purge)
    | .unusable => service.put task (.refusing "ROOT_UNAVAILABLE")
    | .pointerUnavailable => service.put task (.refusing "REPORT_POINTER_UNAVAILABLE")
    | .failed => service.unscheduled.put task .raised
  | some (.refusing code) =>
    if meets.fails then service.unscheduled.put task .raised
    else (service.parked meets.now code).unscheduled.put task .raised
  | some (.spawned purge) => service.acquire task .scheduled purge
  | some (.waiting origin purge) =>
    if service.locked = false ∧ service.queue.head? = some task then
      { service with locked := true, queue := service.queue.tail }.put task
        (.running origin purge .begin)
    else service
  | some (.running origin purge phase) => service.goRun env task origin purge phase meets
  | some (.startup stage) => service.goStartup env task stage meets
  | _ => service

/-- `CancelledError` at the await of a task. -/
def cancel (service : RescanService) (task : Nat) : RescanService :=
  match service.tasks[task]? with
  | some (.resolving _) => service.unscheduled.put task .raised
  | some (.refusing _) => service.unscheduled.put task .raised
  -- a task that was never entered runs no `finally`
  | some (.spawned _) => service.put task .ended
  | some (.waiting origin _) =>
    let left := { service with queue := service.queue.filter (· ≠ task) }
    match origin with
    | .scheduled => left.unscheduled.put task .ended
    | .awaited | .startup => left.put task .raised
  | some (.running origin _ _) =>
    let released := { service with locked := false }
    match origin with
    | .scheduled => released.unscheduled.put task .ended
    | .awaited | .startup => released.put task .raised
  | some (.startup _) => service.put task .raised
  | _ => service

/-- `start_rebuild` up to its first await. -/
def request (service : RescanService) (purge : Bool) : RescanService :=
  if service.scheduled = true ∨ service.locked = true then service.spawn (.answered false)
  else { service with scheduled := true }.spawn (.resolving purge)

def step (env : ReportEnv) (service : RescanService) : RescanEvent → RescanService
  | .request purge => service.request purge
  | .await purge => (service.spawn .ended).acquire service.tasks.length .awaited purge
  | .boot => service.spawn (.startup .inspect)
  | .go task meets => service.go env task meets
  | .cancel task => service.cancel task
  | .others db => { service with db := { db with status := service.db.status } }
  | .crash => { db := service.db }

end RescanService

end EvoBlue.Source
