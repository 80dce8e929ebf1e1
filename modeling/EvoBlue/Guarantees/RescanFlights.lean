import EvoBlue.Source.RescanService
import EvoBlue.Source.RebuildRuns
import EvoBlue.Guarantees.BadFiles
import EvoBlue.Kernel.Runs
import EvoBlue.Kernel.TaskCounts

/-!
# One rescan at a time

Whatever the tasks of the service do, and in whatever order: at most one run is past the
lock, the tasks at the lock are its queue, and the scheduled flag stands for the one
request that was accepted and is not over. While the status says `running`, a task is
there that will end it.
-/

namespace EvoBlue.Guarantees

open EvoBlue.Kernel EvoBlue.Source

/-- The task holds the lock. -/
def holdsLock : RescanTask → Bool
  | .running _ _ _ => true
  | _ => false

/-- The task owns the scheduled flag. -/
def ownsFlag : RescanTask → Bool
  | .resolving _ | .refusing _ | .spawned _ => true
  | .waiting origin _ | .running origin _ _ => origin = .scheduled
  | .startup _ | .answered _ | .raised | .ended => false

/-- The task is in the queue of the lock. -/
def atLock : RescanTask → Bool
  | .waiting _ _ => true
  | _ => false

/-- What the service keeps. Only a flag that nobody drops is `exact`. -/
structure Orderly (exact : Prop) (service : RescanService) : Prop where
  locks : service.tasks.countP holdsLock = service.locked.toNat
  flagged : service.tasks.countP ownsFlag ≤ service.scheduled.toNat
  owned : exact → service.scheduled.toNat ≤ service.tasks.countP ownsFlag
  queued : ∀ i, i ∈ service.queue ↔ ∃ task, service.tasks[i]? = some task ∧ atLock task = true
  once : service.queue.Nodup

variable {env : ReportEnv} {exact : Prop} {service : RescanService} {task : Nat}
  {old new : RescanTask}

/-! ## The table of tasks -/

theorem queued_same (queued : ∀ i, i ∈ service.queue ↔
      ∃ task, service.tasks[i]? = some task ∧ atLock task = true)
    (found : service.tasks[task]? = some old) (same : atLock new = atLock old) (i : Nat) :
    i ∈ service.queue ↔
      ∃ other, (service.tasks.set task new)[i]? = some other ∧ atLock other = true := by
  obtain ⟨inside, here⟩ := List.getElem?_eq_some_iff.1 found
  rw [queued, List.getElem?_set]
  by_cases at' : task = i
  · subst at'
    simp [inside, same, here]
  · simp [at']

/-- One task changes; the lock and the flag change as it says. -/
theorem Orderly.counted (orderly : Orderly exact service) (new : RescanTask) {next : RescanService}
    (found : service.tasks[task]? = some old) (tasks : next.tasks = service.tasks.set task new)
    (locks : next.locked.toNat + (holdsLock old).toNat =
      service.locked.toNat + (holdsLock new).toNat)
    (flags : next.scheduled.toNat + (ownsFlag old).toNat =
      service.scheduled.toNat + (ownsFlag new).toNat)
    (queued : ∀ i, i ∈ next.queue ↔ ∃ task, next.tasks[i]? = some task ∧ atLock task = true)
    (once : next.queue.Nodup) : Orderly exact next := by
  have held := countP_replaced holdsLock new found
  have pending := countP_replaced ownsFlag new found
  have before := orderly.locks
  have before' := orderly.flagged
  refine ⟨?_, ?_, ?_, queued, once⟩
  · rw [tasks]
    omega
  · rw [tasks]
    omega
  · intro always
    have least := orderly.owned always
    rw [tasks]
    omega

/-- A task that goes on without the lock, the flag and the queue. -/
theorem Orderly.replaced (orderly : Orderly exact service)
    (found : service.tasks[task]? = some old) (lock : holdsLock new = holdsLock old)
    (flag : ownsFlag new = ownsFlag old) (queue : atLock new = atLock old) :
    Orderly exact (service.put task new) :=
  orderly.counted _ found rfl (by rw [lock]; rfl) (by rw [flag]; rfl)
    (queued_same orderly.queued found queue) orderly.once

/-- The index is not part of the order of the service. -/
theorem Orderly.of_db (orderly : Orderly exact service) (db : IndexDb) :
    Orderly exact { service with db } := by
  obtain ⟨locks, flagged, owned, queued, once⟩ := orderly
  exact ⟨locks, flagged, owned, queued, once⟩

/-- A new task outside the queue; the flag is taken with it when it owns it. -/
theorem Orderly.spawned (orderly : Orderly exact service) (lock : holdsLock new = false)
    (queue : atLock new = false) {scheduled : Bool}
    (flag : scheduled.toNat = service.scheduled.toNat + (ownsFlag new).toNat) :
    Orderly exact ({ service with scheduled }.spawn new) := by
  obtain ⟨locks, flagged, owned, queued, once⟩ := orderly
  have held := countP_spawned holdsLock service.tasks new
  have pending := countP_spawned ownsFlag service.tasks new
  rw [lock, Bool.toNat_false] at held
  refine ⟨?_, ?_, ?_, ?_, once⟩
  · simp only [RescanService.spawn]
    omega
  · simp only [RescanService.spawn]
    omega
  · intro always
    have before := owned always
    simp only [RescanService.spawn]
    omega
  · intro i
    simp only [RescanService.spawn]
    rw [queued]
    constructor
    · intro there
      obtain ⟨other, found, waits⟩ := there
      refine ⟨other, ?_, waits⟩
      rw [List.getElem?_append_left (List.getElem?_eq_some_iff.1 found).1]
      exact found
    · intro there
      obtain ⟨other, found, waits⟩ := there
      rw [List.getElem?_append] at found
      split at found
      · exact ⟨other, found, waits⟩
      · rw [List.getElem?_singleton] at found
        split at found
        · simp only [Option.some.injEq] at found
          rw [← found, queue] at waits
          cases waits
        · cases found

/-- The flag belongs to a task that owns it. -/
theorem Orderly.flag_of_owner (orderly : Orderly exact service)
    (found : service.tasks[task]? = some old) (owns : ownsFlag old = true) :
    service.scheduled = true := by
  have there := countP_held found owns
  have most := orderly.flagged
  cases flag : service.scheduled with
  | true => rfl
  | false =>
    rw [flag, Bool.toNat_false] at most
    omega

/-- The lock belongs to a task that holds it. -/
theorem Orderly.lock_of_holder (orderly : Orderly exact service)
    (found : service.tasks[task]? = some old) (holds : holdsLock old = true) :
    service.locked = true := by
  have there := countP_held found holds
  have same := orderly.locks
  cases lock : service.locked with
  | true => rfl
  | false =>
    rw [lock, Bool.toNat_false] at same
    omega

/-! ## The lock -/

/-- A task outside the lock and its queue asks for the lock, for a run it may own. -/
theorem Orderly.acquired (orderly : Orderly exact service)
    (found : service.tasks[task]? = some old) (lock : holdsLock old = false)
    (queue : atLock old = false) {origin : RunOrigin} (purge : Bool)
    (flag : ownsFlag old = decide (origin = .scheduled)) :
    Orderly exact (service.acquire task origin purge) := by
  have inside : task < service.tasks.length := (List.getElem?_eq_some_iff.1 found).1
  unfold RescanService.acquire
  split
  next free =>
    refine orderly.counted (.running origin purge .begin) found rfl ?_ ?_
      (queued_same orderly.queued found (by rw [queue]; rfl)) orderly.once
    · simp only [RescanService.put]
      rw [free.1, lock]
      rfl
    · rw [flag]
      rfl
  next taken =>
    have absent : task ∉ service.queue := by
      intro waits
      obtain ⟨other, found', waits⟩ := (orderly.queued task).1 waits
      rw [found, Option.some.injEq] at found'
      rw [← found', queue] at waits
      cases waits
    refine orderly.counted (.waiting origin purge) found rfl ?_ ?_ ?_ ?_
    · rw [lock]
      rfl
    · rw [flag]
      rfl
    · intro i
      simp only [RescanService.put, List.mem_append, List.mem_singleton]
      rw [List.getElem?_set]
      by_cases here : task = i
      · subst here
        simp [inside, atLock]
      · simp only [here, if_false, orderly.queued i, Ne.symm here, or_false]
    · simp only [RescanService.put]
      rw [List.nodup_append]
      refine ⟨orderly.once, List.nodup_singleton _, ?_⟩
      intro i mem j mem' same
      rw [List.mem_singleton] at mem'
      exact absent (by rw [← mem', ← same]; exact mem)

/-- A task leaves the queue: with the lock, or for good. -/
theorem Orderly.unqueued (orderly : Orderly exact service) {queue : List Nat}
    (found : service.tasks[task]? = some old) (off : atLock new = false)
    (left : ∀ i, i ∈ queue ↔ i ∈ service.queue ∧ i ≠ task) (i : Nat) :
    i ∈ queue ↔ ∃ other, (service.tasks.set task new)[i]? = some other ∧ atLock other = true := by
  have inside : task < service.tasks.length := (List.getElem?_eq_some_iff.1 found).1
  rw [left, orderly.queued, List.getElem?_set]
  by_cases here : task = i
  · subst here
    simp [inside, off]
  · simp [here, Ne.symm here]

/-- The first of the queue gets the free lock. -/
theorem Orderly.entered (orderly : Orderly exact service) {origin : RunOrigin} {purge : Bool}
    (found : service.tasks[task]? = some (.waiting origin purge)) (unlocked : service.locked = false)
    (first : service.queue.head? = some task) :
    Orderly exact ({ service with locked := true, queue := service.queue.tail }.put task
      (.running origin purge .begin)) := by
  have once := orderly.once
  cases queue : service.queue with
  | nil =>
    rw [queue] at first
    cases first
  | cons head rest =>
    rw [queue, List.head?_cons, Option.some.injEq] at first
    subst first
    rw [queue, List.nodup_cons] at once
    refine orderly.counted (.running origin purge .begin) found rfl ?_ rfl
      (orderly.unqueued found rfl ?_) once.2
    · simp only [RescanService.put, unlocked]
      rfl
    · intro i
      simp only [RescanService.put, List.tail_cons]
      rw [queue, List.mem_cons]
      by_cases here : i = head
      · subst here
        simp [once.1]
      · simp [here]

/-- The lock is released, and the flag with it when the run owns it. -/
theorem Orderly.released (orderly : Orderly exact service) {origin : RunOrigin} {purge : Bool}
    {phase : RunPhase} (found : service.tasks[task]? = some (.running origin purge phase))
    (lock : holdsLock new = false) (flag : ownsFlag new = false) (queue : atLock new = false)
    {scheduled : Bool}
    (dropped : scheduled = (service.scheduled && decide (origin ≠ .scheduled))) :
    Orderly exact ({ service with locked := false, scheduled }.put task new) := by
  refine orderly.counted _ found rfl ?_ ?_ (queued_same orderly.queued found (by rw [queue]; rfl))
    orderly.once
  · rw [orderly.lock_of_holder found rfl, lock]
    rfl
  · have owner : ownsFlag (.running origin purge phase) = decide (origin = .scheduled) := rfl
    simp only [RescanService.put]
    rw [dropped, flag, owner]
    by_cases own : origin = .scheduled
    · rw [orderly.flag_of_owner found (by rw [own]; rfl), own]
      rfl
    · simp [own]

/-- A task that owns the flag ends with it. -/
theorem Orderly.unscheduled (orderly : Orderly exact service)
    (found : service.tasks[task]? = some old) (owns : ownsFlag old = true)
    (lock : holdsLock new = holdsLock old) (flag : ownsFlag new = false)
    (queue : atLock new = atLock old) : Orderly exact (service.unscheduled.put task new) := by
  refine orderly.counted _ found rfl ?_ ?_ (queued_same orderly.queued found queue) orderly.once
  · rw [lock]
    rfl
  · rw [orderly.flag_of_owner found owns, owns, flag]
    rfl

/-! ## The tasks -/

theorem Orderly.parked (orderly : Orderly exact service) (now : Time) (code : String) :
    Orderly exact (service.parked now code) := orderly.of_db _

/-- A run ends, however it ends. -/
theorem Orderly.finished (orderly : Orderly exact service) {origin : RunOrigin} {purge : Bool}
    {phase : RunPhase} (found : service.tasks[task]? = some (.running origin purge phase))
    (failure : Option String) : Orderly exact (service.finished task origin failure) := by
  unfold RescanService.finished
  cases origin with
  | scheduled => exact orderly.released found rfl rfl rfl (by simp)
  | awaited => exact orderly.released found rfl rfl rfl (by simp)
  | startup =>
    cases failure with
    | none => exact orderly.released found rfl rfl rfl (by simp)
    | some code => exact orderly.released found rfl rfl rfl (by simp)

theorem Orderly.goRun (orderly : Orderly exact service) {origin : RunOrigin} {purge : Bool}
    {phase : RunPhase} (found : service.tasks[task]? = some (.running origin purge phase))
    (meets : Encounter) : Orderly exact (service.goRun env task origin purge phase meets) := by
  have ends : ∀ db failure, Orderly exact ({ service with db }.finished task origin failure) :=
    fun db failure => (orderly.of_db db).finished found failure
  have goes : ∀ db phase, Orderly exact
      ({ service with db }.put task (.running origin purge phase)) :=
    fun db phase => (orderly.of_db db).replaced found rfl rfl rfl
  unfold RescanService.goRun
  obtain ⟨next, db⟩ := RescanService.nextPhase env purge meets service.db phase
  cases next with
  | done counters consistent => exact ends db none
  | failed error => exact ends db (some (parkCode error))
  | _ => exact goes db _

/-- The startup reconciliation, after which it runs, waits, or is over. -/
theorem Orderly.goStartup (orderly : Orderly exact service) {stage : StartupStage}
    (found : service.tasks[task]? = some (.startup stage)) (meets : Encounter) :
    Orderly exact (service.goStartup env task stage meets) := by
  have goes : ∀ next, holdsLock next = false → ownsFlag next = false → atLock next = false →
      Orderly exact (service.put task next) :=
    fun next lock flag queue => orderly.replaced found lock flag queue
  have parks : ∀ now code next, holdsLock next = false → ownsFlag next = false →
      atLock next = false → Orderly exact ((service.parked now code).put task next) :=
    fun now code next lock flag queue => (orderly.parked now code).replaced found lock flag queue
  have locked : Orderly exact (service.lockedRun task) := by
    unfold RescanService.lockedRun
    split
    · exact goes _ rfl rfl rfl
    · exact orderly.acquired found rfl rfl false rfl
  have decides : ∀ empty, Orderly exact (service.decideStartup task empty) := by
    intro empty
    unfold RescanService.decideStartup
    split
    · exact locked
    · split <;> exact goes _ rfl rfl rfl
  unfold RescanService.goStartup
  cases stage with
  | inspect =>
    dsimp only
    split
    · exact goes _ rfl rfl rfl
    · split
      · exact goes _ rfl rfl rfl
      · exact decides _
  | orphan empty =>
    dsimp only
    split
    · exact goes _ rfl rfl rfl
    · exact parks _ _ _ rfl rfl rfl
  | reread empty =>
    dsimp only
    split
    · exact goes _ rfl rfl rfl
    · exact decides _
  | resolve =>
    dsimp only
    cases meets.root with
    | usable =>
      dsimp only
      split
      · exact goes _ rfl rfl rfl
      · exact locked
    | unusable => exact goes _ rfl rfl rfl
    | pointerUnavailable => exact goes _ rfl rfl rfl
    | failed => exact goes _ rfl rfl rfl
  | refuse code =>
    dsimp only
    split
    · exact goes _ rfl rfl rfl
    · exact parks _ _ _ rfl rfl rfl
  | recover code =>
    dsimp only
    split
    · exact goes _ rfl rfl rfl
    · exact parks _ _ _ rfl rfl rfl

/-- A task goes on from its await. -/
theorem Orderly.go (orderly : Orderly exact service) (task : Nat) (meets : Encounter) :
    Orderly exact (service.go env task meets) := by
  unfold RescanService.go
  cases found : service.tasks[task]? with
  | none => exact orderly
  | some waits =>
    cases waits with
    | resolving purge =>
      dsimp only
      cases meets.root with
      | usable =>
        -- the flag goes over to the task that is spawned
        have answered : Orderly exact (service.unscheduled.put task (.answered true)) :=
          orderly.unscheduled found rfl rfl rfl rfl
        have flag : service.scheduled = true := orderly.flag_of_owner found rfl
        have spawned : Orderly exact
            ({ service.unscheduled.put task (.answered true) with scheduled := true }.spawn
              (.spawned purge)) := answered.spawned rfl rfl rfl
        have same : ({ service.unscheduled.put task (.answered true) with scheduled := true } :
            RescanService) = service.put task (.answered true) := by
          simp only [RescanService.unscheduled, RescanService.put]
          rw [flag]
        rw [same] at spawned
        exact spawned
      | unusable => exact orderly.replaced found rfl rfl rfl
      | pointerUnavailable => exact orderly.replaced found rfl rfl rfl
      | failed => exact orderly.unscheduled found rfl rfl rfl rfl
    | refusing code =>
      dsimp only
      split
      · exact orderly.unscheduled found rfl rfl rfl rfl
      · exact (orderly.parked meets.now code).unscheduled found rfl rfl rfl rfl
    | spawned purge => exact orderly.acquired found rfl rfl purge rfl
    | waiting origin purge =>
      dsimp only
      split
      next first => exact orderly.entered found first.1 first.2
      next later => exact orderly
    | running origin purge phase => exact orderly.goRun found meets
    | startup stage => exact orderly.goStartup found meets
    | answered accepted => exact orderly
    | raised => exact orderly
    | ended => exact orderly

/-- A task that waits for the lock gives up. -/
theorem Orderly.gaveUp (orderly : Orderly exact service) {origin : RunOrigin} {purge : Bool}
    (found : service.tasks[task]? = some (.waiting origin purge)) (lock : holdsLock new = false)
    (flag : ownsFlag new = false) (queue : atLock new = false) {scheduled : Bool}
    (dropped : scheduled = (service.scheduled && decide (origin ≠ .scheduled))) :
    Orderly exact ({ service with
      scheduled, queue := service.queue.filter fun i => i ≠ task }.put task new) := by
  have owner : ownsFlag (.waiting origin purge) = decide (origin = .scheduled) := rfl
  refine orderly.counted _ found rfl ?_ ?_ (orderly.unqueued found queue ?_)
    (orderly.once.filter _)
  · rw [lock]
    rfl
  · simp only [RescanService.put]
    rw [dropped, flag, owner]
    by_cases own : origin = .scheduled
    · rw [orderly.flag_of_owner found (by rw [own]; rfl), own]
      rfl
    · simp [own]
  · intro i
    simp [RescanService.put]

/-- A task whose cancellation drops the flag. -/
def cancelsUnentered (service : RescanService) : RescanEvent → Bool
  | .cancel task =>
    match service.tasks[task]? with
    | some (.spawned _) => true
    | _ => false
  | _ => false

theorem Orderly.cancelled (orderly : Orderly exact service) (task : Nat)
    (entered : exact → cancelsUnentered service (.cancel task) = false) :
    Orderly exact (service.cancel task) := by
  unfold RescanService.cancel
  cases found : service.tasks[task]? with
  | none => exact orderly
  | some waits =>
    cases waits with
    | resolving purge => exact orderly.unscheduled found rfl rfl rfl rfl
    | refusing code => exact orderly.unscheduled found rfl rfl rfl rfl
    | spawned purge =>
      -- the flag stays, and nobody owns it
      have dropped : Orderly exact (service.unscheduled.put task .ended) :=
        orderly.unscheduled found rfl rfl rfl rfl
      refine ⟨dropped.locks, dropped.flagged.trans (Nat.zero_le _), ?_, dropped.queued, dropped.once⟩
      intro always
      have never := entered always
      simp only [cancelsUnentered, found] at never
      cases never
    | waiting origin purge =>
      dsimp only
      cases origin with
      | scheduled => exact orderly.gaveUp found rfl rfl rfl (by simp)
      | awaited => exact orderly.gaveUp found rfl rfl rfl (by simp)
      | startup => exact orderly.gaveUp found rfl rfl rfl (by simp)
    | running origin purge phase =>
      dsimp only
      cases origin with
      | scheduled => exact orderly.released found rfl rfl rfl (by simp)
      | awaited => exact orderly.released found rfl rfl rfl (by simp)
      | startup => exact orderly.released found rfl rfl rfl (by simp)
    | startup stage => exact orderly.replaced found rfl rfl rfl
    | answered accepted => exact orderly
    | raised => exact orderly
    | ended => exact orderly

/-- A service that has just started. -/
theorem orderly_start (db : IndexDb) : Orderly exact { db } :=
  ⟨rfl, Nat.le_refl _, fun _ => Nat.le_refl _, fun i => by simp, List.nodup_nil⟩

theorem orderly_step (service : RescanService) (event : RescanEvent)
    (entered : exact → cancelsUnentered service event = false) (orderly : Orderly exact service) :
    Orderly exact (service.step env event) := by
  cases event with
  | request purge =>
    simp only [RescanService.step, RescanService.request]
    split
    next refused => exact orderly.spawned rfl rfl rfl
    next free =>
      refine orderly.spawned rfl rfl ?_
      rw [not_or] at free
      rw [Bool.eq_false_of_not_eq_true free.1]
      rfl
  | await purge =>
    have spawned : Orderly exact (service.spawn .ended) := orderly.spawned rfl rfl rfl
    have ended : (service.spawn .ended).tasks[service.tasks.length]? = some .ended := by
      simp [RescanService.spawn]
    exact spawned.acquired ended rfl rfl purge rfl
  | boot => exact orderly.spawned rfl rfl rfl
  | go task meets => exact orderly.go task meets
  | cancel task => exact orderly.cancelled task entered
  | others db => exact orderly.of_db _
  | crash => exact orderly_start service.db

/-- One run at a time, one accepted request at a time, and nobody stuck at a free lock. -/
structure OneAtATime (service : RescanService) : Prop where
  locked : service.locked = true ↔ ∃ task ∈ service.tasks, holdsLock task = true
  holder : ∀ (i j : Nat) (first second : RescanTask), service.tasks[i]? = some first → service.tasks[j]? = some second →
    holdsLock first = true → holdsLock second = true → i = j
  scheduled : (∃ task ∈ service.tasks, ownsFlag task = true) → service.scheduled = true
  owner : ∀ (i j : Nat) (first second : RescanTask), service.tasks[i]? = some first → service.tasks[j]? = some second →
    ownsFlag first = true → ownsFlag second = true → i = j
  waits : ∀ i : Nat, i ∈ service.queue ↔ ∃ task, service.tasks[i]? = some task ∧ atLock task = true
  once : service.queue.Nodup
  served : service.locked = false → ∀ task : Nat, service.queue.head? = some task →
    ∃ origin purge, ∀ env meets,
      (service.go env task meets).tasks[task]? = some (.running origin purge .begin)

theorem served_of_orderly (orderly : Orderly exact service) (free : service.locked = false)
    (first : service.queue.head? = some task) : ∃ origin purge, ∀ env meets,
      (service.go env task meets).tasks[task]? = some (.running origin purge .begin) := by
  obtain ⟨waits, found, queued⟩ := (orderly.queued task).1 (List.mem_of_head? first)
  have inside : task < service.tasks.length := (List.getElem?_eq_some_iff.1 found).1
  cases waits with
  | waiting origin purge =>
    refine ⟨origin, purge, ?_⟩
    intro env meets
    simp only [RescanService.go, found, free, first, and_self, if_true, RescanService.put]
    rw [List.getElem?_set_self inside]
  | _ => cases queued

theorem oneAtATime_of_orderly (orderly : Orderly exact service) : OneAtATime service where
  locked := by
    have same := orderly.locks
    rw [← List.countP_pos_iff, same]
    cases service.locked <;> simp
  holder := by
    intro i j first second found found' holds holds'
    have few : service.tasks.countP holdsLock ≤ 1 := by
      rw [orderly.locks]
      exact Bool.toNat_le _
    exact countP_only few found found' holds holds'
  scheduled := by
    intro there
    obtain ⟨task, mem, owns⟩ := there
    obtain ⟨i, found⟩ := List.getElem?_of_mem mem
    exact orderly.flag_of_owner found owns
  owner := by
    intro i j first second found found' owns owns'
    exact countP_only (orderly.flagged.trans (Bool.toNat_le _)) found found' owns owns'
  waits := orderly.queued
  once := orderly.once
  served := fun free _ first => served_of_orderly orderly free first

/-- A request is turned down exactly while a run is past the lock or a request is pending. -/
theorem turned_down_iff (orderly : Orderly True service) (purge : Bool) :
    service.request purge = service.spawn (.answered false) ↔
      ∃ task ∈ service.tasks, holdsLock task = true ∨ ownsFlag task = true := by
  have locked := (oneAtATime_of_orderly orderly).locked
  have flag : service.scheduled = true ↔ ∃ task ∈ service.tasks, ownsFlag task = true := by
    rw [← List.countP_pos_iff]
    have most := orderly.flagged
    have least := orderly.owned trivial
    cases scheduled : service.scheduled with
    | true =>
      rw [scheduled, Bool.toNat_true] at least
      simpa using least
    | false =>
      rw [scheduled, Bool.toNat_false] at most
      simp only [Bool.false_eq_true, false_iff]
      omega
  have refused : service.request purge = service.spawn (.answered false) ↔
      service.scheduled = true ∨ service.locked = true := by
    unfold RescanService.request
    split
    next taken => exact ⟨fun _ => taken, fun _ => rfl⟩
    next free =>
      refine ⟨?_, fun taken => absurd taken free⟩
      intro same
      have tasks := congrArg RescanService.tasks same
      simp only [RescanService.spawn, List.append_cancel_left_eq] at tasks
      cases tasks
  rw [refused, flag, locked, ← exists_or]
  constructor
  · rintro ⟨task, ⟨mem, owns⟩ | ⟨mem, holds⟩⟩
    · exact ⟨task, mem, .inr owns⟩
    · exact ⟨task, mem, .inl holds⟩
  · rintro ⟨task, mem, holds | owns⟩
    · exact ⟨task, .inr ⟨mem, holds⟩⟩
    · exact ⟨task, .inl ⟨mem, owns⟩⟩

/-- In every run of the service there is one rescan at a time; and unless a background task
is cancelled before it was entered, a request is turned down exactly while one is there. -/
theorem rescans_one_at_a_time (env : ReportEnv) (db : IndexDb) (events : List RescanEvent) :
    OneAtATime (run (RescanService.step env) { db } events) ∧
    (Meets (RescanService.step env) (fun service event => cancelsUnentered service event = false)
        { db } events →
      ∀ purge, (run (RescanService.step env) { db } events).request purge =
          (run (RescanService.step env) { db } events).spawn (.answered false) ↔
        ∃ task ∈ (run (RescanService.step env) { db } events).tasks,
          holdsLock task = true ∨ ownsFlag task = true) := by
  constructor
  · have orderly : Orderly False (run (RescanService.step env) { db } events) :=
      run_invariant (fun service event => orderly_step service event False.elim)
        (orderly_start db) events
    exact oneAtATime_of_orderly orderly
  · intro meets purge
    apply turned_down_iff
    exact run_of_meets (fun service event entered => orderly_step service event fun _ => entered)
      (orderly_start db) meets

/-- A request in its pre-flight, and the answer to the next one. -/
theorem rescans_one_at_a_time_second :
    OneAtATime (run (RescanService.step reportEnv) { db := {} } [.boot, .request false]) ∧
      ∃ task ∈ (run (RescanService.step reportEnv) { db := {} } [.boot, .request false]).tasks,
        holdsLock task = true ∨ ownsFlag task = true := by
  have both := rescans_one_at_a_time reportEnv {} [.boot, .request false]
  exact ⟨both.1, (both.2 ⟨rfl, rfl, trivial⟩ true).1 rfl⟩

/-! ## The status -/

/-- The task is one of those that take the state `running` back, as `tending_go` says. -/
def tends : RescanTask → Bool
  | .running _ _ .begin | .running _ _ (.done _ _) | .running _ _ (.failed _) => false
  | .running _ _ _ => true
  | .startup .inspect | .startup (.orphan _) | .startup (.recover _) => true
  | _ => false

/-- The task has nobody left to record its failure. -/
def failsAlone : RescanTask → Bool
  | .running _ _ (.finish _ _) | .running _ _ (.parking _) | .startup (.recover _) => true
  | _ => false

/-- A process that has started reconciles first; no task is cancelled while it tends the
status, and no write that ends a run fails. -/
def LeavesTended (service : RescanService) : RescanEvent → Prop
  | .boot | .crash => True
  | .go task meets =>
    service.tasks ≠ [] ∧
      (meets.fails = true → ∀ waits, service.tasks[task]? = some waits → failsAlone waits = false)
  | .cancel task =>
    service.tasks ≠ [] ∧ ∀ waits, service.tasks[task]? = some waits → tends waits = false
  | _ => service.tasks ≠ []

/-- The status says `running` only while a task tends it. -/
def StatusTended (service : RescanService) : Prop :=
  service.tasks ≠ [] → service.db.status.state = .running → 0 < service.tasks.countP tends

theorem StatusTended.replaced (tended : StatusTended service) (new : RescanTask)
    {next : RescanService}
    (found : service.tasks[task]? = some old) (tasks : next.tasks = service.tasks.set task new)
    (kept : next.db.status.state = .running →
      tends new = true ∨ (service.db.status.state = .running ∧ tends old = false)) :
    StatusTended next := by
  intro _ running
  have counts := countP_replaced tends new found
  have some : service.tasks ≠ [] := by
    intro none
    rw [none] at found
    cases found
  rw [tasks]
  cases kept running with
  | inl tending =>
    have inside : task < service.tasks.length := (List.getElem?_eq_some_iff.1 found).1
    exact countP_held (List.getElem?_set_self inside) tending
  | inr before =>
    have there := tended some before.1
    rw [before.2, Bool.toNat_false] at counts
    omega

/-- A task that does not tend the status goes on, and leaves the status. -/
theorem StatusTended.aside (tended : StatusTended service) {next : RescanService}
    (found : service.tasks[task]? = some old) (tasks : next.tasks = service.tasks.set task new)
    (same : next.db = service.db) (idle : tends old = false) : StatusTended next :=
  tended.replaced _ found tasks fun running => .inr ⟨by rw [← same]; exact running, idle⟩

/-! ### A run -/

/-- The phase of a run that goes on, which is not its first one. -/
def goesOn : RunPhase → Bool
  | .begin | .done _ _ | .failed _ => false
  | _ => true

theorem phaseStep_goesOn (env : ReportEnv) (purge : Bool) (now : Time) (disk : Disk) (db : IndexDb)
    {phase : RunPhase} (unfinished : ∀ counters consistent, phase ≠ .done counters consistent)
    (unfailed : ∀ error, phase ≠ .failed error) :
    goesOn (phaseStep env purge now disk db phase).1 = true ∨
      (phaseStep env purge now disk db phase).2.status.state ≠ .running := by
  cases phase with
  | begin =>
    left
    simp only [phaseStep]
    split <;> rfl
  | collect => exact .inl rfl
  | scan progress left =>
    left
    cases left with
    | nil => rfl
    | cons rels left =>
      simp only [phaseStep]
      cases scanFiles env disk rels with
      | error raised => rfl
      | ok outcomes => rfl
  | reconcile progress outcomes left =>
    left
    simp only [phaseStep]
    obtain ⟨outcome, after⟩ := (reconcileFiles env now progress outcomes).transaction db
    cases outcome with
    | error raised => rfl
    | ok progress => rfl
  | recheck progress =>
    left
    simp only [phaseStep]
    split <;> rfl
  | absence progress =>
    left
    simp only [phaseStep]
    obtain ⟨outcome, after⟩ := (markAbsent env progress purge now).transaction db
    cases outcome with
    | error raised => rfl
    | ok counters => rfl
  | verify counters => exact .inl rfl
  | finish counters consistent =>
    right
    cases consistent with
    | true => simp [phaseStep, Script.transaction, recordRebuildCounters, setIndexState]
    | false => simp [phaseStep, Script.transaction, recordRebuildCounters, setIndexState]
  | parking error =>
    right
    simp [phaseStep, Script.transaction, setIndexState]
  | done counters consistent => exact absurd rfl (unfinished counters consistent)
  | failed error => exact absurd rfl (unfailed error)

/-- What a run that goes on leaves: itself, or a status that is not `running`. -/
theorem nextPhase_goesOn (env : ReportEnv) {origin : RunOrigin} {purge : Bool} {phase : RunPhase} {meets : Encounter}
    (alone : meets.fails = true → failsAlone (.running origin purge phase) = false) (db : IndexDb)
    (unfinished : ∀ counters consistent, phase ≠ .done counters consistent)
    (unfailed : ∀ error, phase ≠ .failed error) :
    goesOn (RescanService.nextPhase env purge meets db phase).1 = true ∨
      (RescanService.nextPhase env purge meets db phase).2.status.state ≠ .running := by
  unfold RescanService.nextPhase
  split
  next fails =>
    have recorded := alone fails
    cases phase with
    | finish counters consistent => cases recorded
    | parking error => cases recorded
    | done counters consistent => exact absurd rfl (unfinished counters consistent)
    | failed error => exact absurd rfl (unfailed error)
    | _ => exact .inl rfl
  next goes => exact phaseStep_goesOn env purge meets.now meets.disk db unfinished unfailed

theorem finished_tasks (service : RescanService) (task : Nat) (origin : RunOrigin)
    (failure : Option String) : ∃ next, (service.finished task origin failure).tasks =
      service.tasks.set task next ∧ (service.finished task origin failure).db = service.db := by
  cases origin with
  | scheduled => exact ⟨.ended, rfl, rfl⟩
  | awaited => exact ⟨.ended, rfl, rfl⟩
  | startup =>
    cases failure with
    | none => exact ⟨.ended, rfl, rfl⟩
    | some code => exact ⟨.startup (.recover code), rfl, rfl⟩

theorem decideStartup_db (service : RescanService) (task : Nat) (empty : Bool) :
    (service.decideStartup task empty).db = service.db := by
  unfold RescanService.decideStartup RescanService.lockedRun RescanService.acquire
  split
  · split
    · rfl
    · split <;> rfl
  · split <;> rfl

/-- A run whose phase is over changes nothing in the index. -/
theorem nextPhase_over (purge : Bool) (meets : Encounter) (db : IndexDb) {phase : RunPhase}
    (over' : (∃ counters consistent, phase = .done counters consistent) ∨ ∃ error, phase = .failed error) :
    RescanService.nextPhase env purge meets db phase = (phase, db) := by
  unfold RescanService.nextPhase
  obtain ⟨counters, consistent, rfl⟩ | ⟨error, rfl⟩ := over'
  · split <;> rfl
  · split <;> rfl

theorem StatusTended.goRun (tended : StatusTended service) {origin : RunOrigin} {purge : Bool}
    {phase : RunPhase} (found : service.tasks[task]? = some (.running origin purge phase))
    {meets : Encounter}
    (alone : meets.fails = true → failsAlone (.running origin purge phase) = false) :
    StatusTended (service.goRun env task origin purge phase meets) := by
  by_cases over' : (∃ counters consistent, phase = .done counters consistent) ∨
      ∃ error, phase = .failed error
  · have idle : tends (.running origin purge phase) = false := by
      obtain ⟨counters, consistent, rfl⟩ | ⟨error, rfl⟩ := over'
      · rfl
      · rfl
    unfold RescanService.goRun
    rw [nextPhase_over purge meets service.db over']
    have ends : ∀ failure, StatusTended (service.finished task origin failure) := by
      intro failure
      obtain ⟨next, tasks, same⟩ := finished_tasks service task origin failure
      exact tended.aside found tasks same idle
    obtain ⟨counters, consistent, rfl⟩ | ⟨error, rfl⟩ := over'
    · exact ends none
    · exact ends _
  · rw [not_or] at over'
    push Not at over'
    have goes := nextPhase_goesOn env alone service.db over'.1 over'.2
    unfold RescanService.goRun
    generalize RescanService.nextPhase env purge meets service.db phase = after at goes ⊢
    obtain ⟨next, db⟩ := after
    have ends : goesOn next = false → ∀ failure,
        StatusTended ({ service with db }.finished task origin failure) := by
      intro stops failure
      obtain ⟨last, tasks, same⟩ := finished_tasks { service with db } task origin failure
      refine tended.replaced _ found tasks ?_
      intro running
      rw [same] at running
      rw [stops] at goes
      exact absurd running (goes.resolve_left Bool.false_ne_true)
    have stays : StatusTended ({ service with db }.put task (.running origin purge next)) := by
      refine tended.replaced (.running origin purge next) found rfl ?_
      intro running
      left
      have on := goes.resolve_right (not_not_intro running)
      cases next with
      | begin => cases on
      | done counters consistent => cases on
      | failed error => cases on
      | _ => rfl
    cases next with
    | done counters consistent => exact ends rfl none
    | failed error => exact ends rfl _
    | _ => exact stays

/-! ### A task that tends the status -/

/-- The steps it has left at most, on the directory it meets. -/
def tendingSteps (env : ReportEnv) (disk : Disk) : RescanTask → Nat
  | .running _ _ phase => rank env disk phase
  | .startup .inspect => 3
  | .startup (.orphan _) => 2
  | .startup (.recover _) => 1
  | _ => 0

theorem nextPhase_rank (env : ReportEnv) {origin : RunOrigin} {purge : Bool} {phase : RunPhase}
    {meets : Encounter} (alone : meets.fails = true → failsAlone (.running origin purge phase) = false)
    (db : IndexDb) (goes : goesOn phase = true) :
    rank env meets.disk (RescanService.nextPhase env purge meets db phase).1 <
      rank env meets.disk phase := by
  unfold RescanService.nextPhase
  split
  next fails =>
    have recorded := alone fails
    cases phase with
    | finish counters consistent => cases recorded
    | parking error => cases recorded
    | begin => cases goes
    | done counters consistent => cases goes
    | failed error => cases goes
    | _ => simp [rank]
  next =>
    have step := rank_step env purge meets.disk meets.now (phase, db)
    have left : 0 < rank env meets.disk phase := by
      cases phase with
      | done counters consistent => cases goes
      | failed error => cases goes
      | _ => simp [rank]
    exact step.trans_lt (Nat.sub_one_lt_of_lt left)

/-- A task that tends the status takes the state back with its next step, or goes on tending it
with fewer steps left. -/
theorem tending_go (env : ReportEnv) (found : service.tasks[task]? = some old)
    (tending : tends old = true) {meets : Encounter}
    (alone : meets.fails = true → failsAlone old = false) :
    (service.go env task meets).db.status.state ≠ .running ∨
      ∃ new, (service.go env task meets).tasks[task]? = some new ∧ tends new = true ∧
        tendingSteps env meets.disk new < tendingSteps env meets.disk old := by
  have inside : task < service.tasks.length := (List.getElem?_eq_some_iff.1 found).1
  unfold RescanService.go
  rw [found]
  cases old with
  | running origin purge phase =>
    have goes : goesOn phase = true := by
      cases phase with
      | begin => cases tending
      | done counters consistent => cases tending
      | failed error => cases tending
      | _ => rfl
    have on := nextPhase_goesOn env alone service.db (fun _ _ same => by rw [same] at goes; cases goes)
      (fun _ same => by rw [same] at goes; cases goes)
    have fewer := nextPhase_rank env alone service.db goes
    dsimp only
    unfold RescanService.goRun
    generalize RescanService.nextPhase env purge meets service.db phase = after at on fewer ⊢
    obtain ⟨next, db⟩ := after
    have ends : goesOn next = false → ∀ failure,
        ({ service with db }.finished task origin failure).db.status.state ≠ .running := by
      intro stops failure
      obtain ⟨last, _, same⟩ := finished_tasks { service with db } task origin failure
      rw [same]
      rw [stops] at on
      exact on.resolve_left Bool.false_ne_true
    have stays : tends (.running origin purge next) = true → ∃ new,
        ({ service with db }.put task (.running origin purge next)).tasks[task]? = some new ∧
          tends new = true ∧
          tendingSteps env meets.disk new < tendingSteps env meets.disk (.running origin purge phase) :=
      fun tending => ⟨_, List.getElem?_set_self inside, tending, fewer⟩
    cases next with
    | done counters consistent => exact .inl (ends rfl none)
    | failed error => exact .inl (ends rfl _)
    | begin => exact .inl (on.resolve_left Bool.false_ne_true)
    | _ => exact .inr (stays rfl)
  | startup stage =>
    have recovers : ∀ code, ∃ new,
        (service.put task (.startup (.recover code))).tasks[task]? = some new ∧ tends new = true ∧
          tendingSteps env meets.disk new = 1 :=
      fun code => ⟨_, List.getElem?_set_self inside, rfl, rfl⟩
    have parks : ∀ now code next,
        ((service.parked now code).put task next).db.status.state ≠ .running :=
      fun now code next => by simp [RescanService.put, RescanService.parked, setIndexState,
        Script.transaction]
    dsimp only
    unfold RescanService.goStartup
    cases stage with
    | inspect =>
      dsimp only
      split
      · obtain ⟨new, there, tending, steps⟩ := recovers "REBUILD_FAILED"
        exact .inr ⟨new, there, tending, steps.trans_lt (show 1 < 3 by decide)⟩
      · split
        · exact .inr ⟨_, List.getElem?_set_self inside, rfl, by simp [tendingSteps]⟩
        next stopped =>
          left
          rw [decideStartup_db]
          exact stopped
    | orphan empty =>
      dsimp only
      split
      · obtain ⟨new, there, tending, steps⟩ := recovers "REBUILD_FAILED"
        exact .inr ⟨new, there, tending, steps.trans_lt (show 1 < 2 by decide)⟩
      · exact .inl (parks _ _ _)
    | recover code =>
      dsimp only
      split
      next fails => cases alone fails
      next => exact .inl (parks _ _ _)
    | reread empty => cases tending
    | resolve => cases tending
    | refuse code => cases tending
  | _ => cases tending

/-! ### The startup -/

theorem StatusTended.acquired (tended : StatusTended service) (found : service.tasks[task]? = some old)
    (idle : service.db.status.state = .running → tends old = false) (origin : RunOrigin)
    (purge : Bool) : StatusTended (service.acquire task origin purge) := by
  have aside : ∀ running : service.db.status.state = .running, tends old = false ∧
      service.db.status.state = .running := fun running => ⟨idle running, running⟩
  unfold RescanService.acquire
  split
  · exact tended.replaced _ found rfl fun running => .inr (aside running).symm
  · exact tended.replaced _ found rfl fun running => .inr (aside running).symm

theorem StatusTended.goStartup (tended : StatusTended service) {stage : StartupStage}
    (found : service.tasks[task]? = some (.startup stage)) {meets : Encounter}
    (alone : meets.fails = true → failsAlone (.startup stage) = false) :
    StatusTended (service.goStartup env task stage meets) := by
  -- the state was read, or this task does not tend it
  have locked : (service.db.status.state = .running → tends (.startup stage) = false) →
      StatusTended (service.lockedRun task) := by
    intro idle
    unfold RescanService.lockedRun
    split
    · exact tended.replaced _ found rfl fun running => .inr ⟨running, idle running⟩
    · exact tended.acquired found idle .startup false
  have decides : (service.db.status.state = .running → tends (.startup stage) = false) →
      ∀ empty, StatusTended (service.decideStartup task empty) := by
    intro idle empty
    unfold RescanService.decideStartup
    split
    · exact locked idle
    · split
      · exact tended.replaced _ found rfl fun running => .inr ⟨running, idle running⟩
      · exact tended.replaced _ found rfl fun running => .inr ⟨running, idle running⟩
  have recovers : ∀ code, StatusTended (service.put task (.startup (.recover code))) :=
    fun code => tended.replaced (.startup (.recover code)) found rfl fun _ => .inl rfl
  have parks : ∀ now code next, StatusTended ((service.parked now code).put task next) := by
    intro now code next
    refine tended.replaced _ found rfl ?_
    intro running
    cases running
  unfold RescanService.goStartup
  cases stage with
  | inspect =>
    dsimp only
    split
    · exact recovers _
    · split
      · exact tended.replaced (.startup (.orphan _)) found rfl fun _ => .inl rfl
      next stopped => exact decides (fun running => absurd running stopped) _
  | orphan empty =>
    dsimp only
    split
    · exact recovers _
    · exact parks _ _ _
  | reread empty =>
    dsimp only
    split
    · exact recovers _
    · exact decides (fun _ => rfl) _
  | resolve =>
    dsimp only
    cases meets.root with
    | usable =>
      dsimp only
      split
      · exact tended.aside found rfl rfl rfl
      · exact locked fun _ => rfl
    | unusable => exact tended.aside found rfl rfl rfl
    | pointerUnavailable => exact tended.aside found rfl rfl rfl
    | failed => exact recovers _
  | refuse code =>
    dsimp only
    split
    · exact recovers _
    · exact parks _ _ _
  | recover code =>
    dsimp only
    split
    next fails => cases alone fails
    next => exact parks _ _ _

/-! ### A step -/

theorem StatusTended.go (tended : StatusTended service) (task : Nat) {meets : Encounter}
    (alone : meets.fails = true →
      ∀ waits, service.tasks[task]? = some waits → failsAlone waits = false) :
    StatusTended (service.go env task meets) := by
  unfold RescanService.go
  cases found : service.tasks[task]? with
  | none => exact tended
  | some waits =>
    cases waits with
    | resolving purge =>
      dsimp only
      cases meets.root with
      | usable =>
        intro _ running
        have answered : StatusTended (service.put task (.answered true)) :=
          tended.aside found rfl rfl rfl
        have some : (service.put task (.answered true)).tasks ≠ [] := by
          intro none
          have inside := (List.getElem?_eq_some_iff.1 found).1
          simp only [RescanService.put, List.set_eq_nil_iff] at none
          rw [none] at inside
          cases inside
        have there := answered some running
        have spawned := countP_spawned tends (service.put task (.answered true)).tasks (.spawned purge)
        simp only [RescanService.spawn]
        omega
      | unusable => exact tended.aside found rfl rfl rfl
      | pointerUnavailable => exact tended.aside found rfl rfl rfl
      | failed => exact tended.aside found rfl rfl rfl
    | refusing code =>
      dsimp only
      split
      · exact tended.aside found rfl rfl rfl
      · refine tended.replaced _ found rfl ?_
        intro running
        cases running
    | spawned purge => exact tended.acquired found (fun _ => rfl) .scheduled purge
    | waiting origin purge =>
      dsimp only
      split
      · exact tended.aside found rfl rfl rfl
      · exact tended
    | running origin purge phase => exact tended.goRun found fun fails => alone fails _ found
    | startup stage => exact tended.goStartup found fun fails => alone fails _ found
    | answered accepted => exact tended
    | raised => exact tended
    | ended => exact tended

/-- Cancelling a task that does not tend the status. -/
theorem StatusTended.cancelled (tended : StatusTended service)
    (idle : ∀ waits, service.tasks[task]? = some waits → tends waits = false) :
    StatusTended (service.cancel task) := by
  unfold RescanService.cancel
  cases found : service.tasks[task]? with
  | none => exact tended
  | some waits =>
    have quiet := idle waits found
    cases waits with
    | resolving purge => exact tended.aside found rfl rfl quiet
    | refusing code => exact tended.aside found rfl rfl quiet
    | spawned purge => exact tended.aside found rfl rfl quiet
    | waiting origin purge =>
      cases origin with
      | scheduled => exact tended.aside found rfl rfl quiet
      | awaited => exact tended.aside found rfl rfl quiet
      | startup => exact tended.aside found rfl rfl quiet
    | running origin purge phase =>
      cases origin with
      | scheduled => exact tended.aside found rfl rfl quiet
      | awaited => exact tended.aside found rfl rfl quiet
      | startup => exact tended.aside found rfl rfl quiet
    | startup stage => exact tended.aside found rfl rfl quiet
    | answered accepted => exact tended
    | raised => exact tended
    | ended => exact tended

/-- A new task takes nothing from those that tend the status. -/
theorem StatusTended.spawned (tended : StatusTended service) (booted : service.tasks ≠ []) {scheduled : Bool}
    (new : RescanTask) : StatusTended ({ service with scheduled }.spawn new) := by
  intro _ running
  have there := tended booted running
  have counts := countP_spawned tends service.tasks new
  simp only [RescanService.spawn]
  omega

theorem tended_step (service : RescanService) (event : RescanEvent)
    (undisturbed : LeavesTended service event) (tended : StatusTended service) :
    StatusTended (service.step env event) := by
  cases event with
  | request purge =>
    simp only [RescanService.step, RescanService.request]
    split
    · exact tended.spawned undisturbed _
    · exact tended.spawned undisturbed _
  | await purge =>
    have spawned : StatusTended (service.spawn .ended) := tended.spawned undisturbed .ended
    have ended : (service.spawn .ended).tasks[service.tasks.length]? = some .ended := by
      simp [RescanService.spawn]
    exact spawned.acquired ended (fun _ => rfl) .awaited purge
  | boot =>
    intro _ _
    have counts := countP_spawned tends service.tasks (.startup .inspect)
    have tending : (tends (.startup .inspect)).toNat = 1 := rfl
    simp only [RescanService.step, RescanService.spawn]
    omega
  | go task meets => exact tended.go task undisturbed.2
  | cancel task => exact tended.cancelled undisturbed.2
  | others db => exact tended
  | crash =>
    intro some
    exact absurd rfl some

/-- Over any number of lives of the process, whatever index the first one finds: while the
status says `running`, a task is there that will take that back. -/
theorem running_is_tended (env : ReportEnv) (db : IndexDb) (events : List RescanEvent)
    (undisturbed : Meets (RescanService.step env) LeavesTended { db } events)
    (booted : (run (RescanService.step env) { db } events).tasks ≠ [])
    (running : (run (RescanService.step env) { db } events).db.status.state = .running) :
    ∃ task ∈ (run (RescanService.step env) { db } events).tasks, tends task = true := by
  have tended : StatusTended (run (RescanService.step env) { db } events) := by
    have begins : StatusTended { db } := fun some => absurd rfl some
    exact run_of_meets tended_step begins undisturbed
  exact List.countP_pos_iff.1 (tended booted running)

/-- A process that finds the state of a dead one. -/
def leftRunning : IndexDb := { status := { state := .running } }

theorem running_is_tended_after_crash :
    ∃ task ∈ (run (RescanService.step reportEnv) { db := leftRunning } [.crash, .boot]).tasks,
      tends task = true :=
  running_is_tended reportEnv leftRunning [.crash, .boot] ⟨trivial, trivial, trivial⟩
    (List.cons_ne_nil _ _) rfl

end EvoBlue.Guarantees
