import EvoBlue.Source.ModelStore
import Mathlib.Data.List.Dedup

/-!
# All an operation on the model store can do

`ModelEffect store op reply after`: operation `op` may reply `reply` and leave the
tables `after`. An update of a download is a `DownloadMoved`, whichever of the five
functions makes it.
-/

namespace EvoBlue.Source

open EvoBlue.Kernel

/-- The statuses of a download whose bytes are all there. -/
def ModelDownloadStatus.isFilled (status : ModelDownloadStatus) : Bool :=
  ([.verifying, .installing, .completed] : List ModelDownloadStatus).contains status

/-- The bytes counted are between none and all. -/
def ModelDownload.Counted (row : ModelDownload) : Prop :=
  0 ≤ row.downloadedBytes ∧ row.downloadedBytes ≤ row.expectedSizeBytes

def ModelDownload.Filled (row : ModelDownload) : Prop :=
  row.status.isFilled = true → row.downloadedBytes = row.expectedSizeBytes

/-- How an update may change the row of an operation. -/
structure DownloadMoved (row after : ModelDownload) : Prop where
  operation : after.operationId = row.operationId
  model : after.modelId = row.modelId
  revision : after.revision = row.revision + 1
  open_ : row.status.isActive = true
  counted : row.Counted → after.Counted
  filled : row.Filled → after.Filled

namespace ModelStore

/-- The row of an operation, replaced. -/
def replaceDownload (store : ModelStore) (after : ModelDownload) : ModelStore :=
  { store with
    downloads := store.downloads.map fun row =>
      if row.operationId = after.operationId then after else row }

/-- The keys of the schema, as far as the functions rely on them. -/
def Keyed (store : ModelStore) : Prop := (store.downloads.map (·.operationId)).Nodup

variable {store : ModelStore}

theorem findDownload_mem {operationId : String} {row : ModelDownload}
    (found : store.findDownload operationId = some row) :
    row ∈ store.downloads ∧ row.operationId = operationId := by
  have named := List.find?_some found
  exact ⟨List.mem_of_find?_eq_some found, of_decide_eq_true named⟩

theorem Keyed.eq_of_operation (keyed : store.Keyed) {a b : ModelDownload}
    (memA : a ∈ store.downloads) (memB : b ∈ store.downloads)
    (same : a.operationId = b.operationId) : a = b :=
  List.inj_on_of_nodup_map keyed memA memB same

/-- Writing the current revision of an operation replaces its row. -/
theorem writeDownload_current (keyed : store.Keyed) {operationId : String} {row : ModelDownload}
    (found : store.findDownload operationId = some row) {values : ModelDownload → ModelDownload}
    (keeps : (values row).operationId = row.operationId) :
    store.writeDownload operationId row.revision values = store.replaceDownload (values row) := by
  obtain ⟨mem, named⟩ := findDownload_mem found
  unfold writeDownload replaceDownload
  congr 1
  refine List.map_congr_left fun other memOther => ?_
  rw [keeps, named]
  by_cases same : other.operationId = operationId
  · obtain rfl := keyed.eq_of_operation memOther mem (same.trans named.symm)
    simp [same]
  · simp [same]

theorem findDownload_replaced {operationId : String} {row after : ModelDownload}
    (found : store.findDownload operationId = some row) (named : after.operationId = operationId) :
    (store.replaceDownload after).findDownload operationId = some after := by
  unfold findDownload replaceDownload at *
  rw [List.find?_map]
  have keeps : ((fun other : ModelDownload => decide (other.operationId = operationId)) ∘
      fun row => if row.operationId = after.operationId then after else row) =
      fun other => decide (other.operationId = operationId) := by
    funext other
    rw [named]
    by_cases same : other.operationId = operationId <;> simp [Function.comp, same, named]
  rw [keeps, found, Option.map_some, (findDownload_mem found).2, if_pos named.symm]

end ModelStore

/-! ## The scripts -/

section

variable {durable working : ModelStore} {wrote : Bool}

theorem requireOperation_run {α : Type} (operationId : String) (next : ModelDownload → ModelTx α) :
    (requireOperation operationId >>= next).run ⟨durable, working, .immediate, wrote⟩ =
      match working.findDownload operationId with
      | none => (.error (.keyError operationId), ⟨durable, working, .immediate, wrote⟩)
      | some operation => (next operation).run ⟨durable, working, .immediate, wrote⟩ := by
  unfold requireOperation getDownloadOperation
  simp only [Tx.bind_assoc_run, Tx.read_bind_run, Tx.begun_immediate, Tx.pure_bind_run]
  cases working.findDownload operationId <;> rfl

/-- The compare-and-swap: the current revision is written, any other is stale. -/
theorem commitRevision_run (keyed : working.Keyed) {operationId : String} {row : ModelDownload}
    (found : working.findDownload operationId = some row) (revision : Int)
    {values : ModelDownload → ModelDownload}
    (keeps : (values row).operationId = row.operationId) :
    (commitRevision operationId revision values).run ⟨durable, working, .immediate, wrote⟩ =
      if row.revision = revision then
        (.ok (values row),
          ⟨working.replaceDownload (values row), working.replaceDownload (values row), .deferred,
            false⟩)
      else (.error (.staleRevision operationId), ⟨durable, durable, .closed, false⟩) := by
  obtain ⟨mem, named⟩ := ModelStore.findDownload_mem found
  unfold commitRevision updateDownload
  simp only [Tx.bind_assoc_run, Tx.read_bind_run, Tx.begun_immediate, Tx.write_bind_run,
    Tx.pure_bind_run]
  by_cases current : row.revision = revision
  · subst current
    have hit : row ∈ working.downloads.filter fun other =>
        other.operationId = operationId ∧ other.revision = row.revision :=
      List.mem_filter.2 ⟨mem, by simp [named]⟩
    cases hits : (working.downloads.filter fun other =>
        other.operationId = operationId ∧ other.revision = row.revision) with
    | nil =>
      rw [hits] at hit
      cases hit
    | cons first rest =>
      have written := ModelStore.findDownload_replaced found (keeps.trans named)
      rw [ModelStore.writeDownload_current keyed found keeps]
      simp only [List.map_cons, List.head?_cons, Tx.commit_bind_run, Tx.committed_wrote, if_true]
      unfold readBack getDownloadOperation
      simp only [Tx.bind_assoc_run, Tx.read_bind_run, Tx.begun_closed, Tx.pure_bind_run, written]
      rfl
  · have missed : (working.downloads.filter fun other =>
        other.operationId = operationId ∧ other.revision = revision) = [] := by
      refine List.filter_eq_nil_iff.2 fun other memOther hit => current ?_
      simp only [decide_eq_true_eq] at hit
      rw [← keyed.eq_of_operation memOther mem (hit.1.trans named.symm)]
      exact hit.2
    rw [missed, if_neg current]
    rfl

end

/-- The operation that is updated. -/
def ModelOp.updates : ModelOp → Option String
  | .restart operationId _ => some operationId
  | .advance operationId _ _ _ _ => some operationId
  | .progress operationId _ _ _ _ _ _ => some operationId
  | .switchSource operationId _ _ _ => some operationId
  | .complete operationId _ _ _ _ => some operationId
  | _ => none

inductive ModelEffect (store : ModelStore) :
    ModelOp → Except ModelError (Option ModelDownload) → ModelStore → Prop
  | raised (op : ModelOp) (error : ModelError) : ModelEffect store op (.error error) store
  | created (new : NewDownload) (admitted : store.admits new = true) :
      ModelEffect store (.create new) (.ok (some new.row))
        { store with downloads := store.downloads ++ [new.row] }
  | updated {op : ModelOp} {row after : ModelDownload} (mem : row ∈ store.downloads)
      (names : op.updates = some row.operationId) (moved : DownloadMoved row after) :
      ModelEffect store op (.ok (some after)) (store.replaceDownload after)
  | completed {row after : ModelDownload} (mem : row ∈ store.downloads)
      (installedPath : String) (now : ℚ) (moved : DownloadMoved row after) {recorded : ModelStore}
      (records : recorded =
        (store.recordInstall row.modelId row.version installedPath now).pointActive row.modelId
          row.version now) :
      ModelEffect store (.complete row.operationId row.modelId row.version installedPath now)
        (.ok (some after)) (recorded.replaceDownload after)
  | activated (modelId version : String) (now : ℚ)
      (installed : (store.findInstall modelId version).isSome = true) :
      ModelEffect store (.activate modelId version now) (.ok none)
        (store.pointActive modelId version now)
  | saved (modelId version installedPath : String) (now : ℚ) :
      ModelEffect store (.saveInstall modelId version installedPath now) (.ok none)
        (store.recordInstall modelId version installedPath now)
  | uninstalled (modelId : String) :
      ModelEffect store (.uninstall modelId) (.ok none) (store.without modelId)

section

variable {store : ModelStore}

theorem isActive_of_restartable {status : ModelDownloadStatus} (may : isRestartable status = true) :
    status.isActive = true ∧ status.isFilled = false := by
  cases status <;> first | exact ⟨rfl, rfl⟩ | cases may

theorem isActive_of_transition {src dst : ModelDownloadStatus}
    (valid : isValidDownloadTransition src dst = true) : src.isActive = true := by
  cases src <;> first | rfl | (cases dst <;> cases valid)

/-- Into a filled status a download comes from a filled one, or through the check. -/
theorem isFilled_of_transition {src dst : ModelDownloadStatus}
    (valid : isValidDownloadTransition src dst = true) (filled : dst.isFilled = true) :
    dst = .verifying ∨ src.isFilled = true := by
  cases dst with
  | verifying => exact .inl rfl
  | installing | completed => cases src <;> first | exact .inr rfl | cases valid
  | _ => cases filled

theorem findActive_pointActive (store : ModelStore) (modelId version : String) (now : ℚ) :
    ∃ active, (store.pointActive modelId version now).findActive modelId = some active := by
  refine Option.isSome_iff_exists.1 (List.find?_isSome.2 ?_)
  unfold ModelStore.pointActive
  split
  · exact ⟨_, List.mem_append_right _ (List.mem_singleton_self _), by simp⟩
  next old before =>
    unfold ModelStore.findActive at before
    have named := List.find?_some before
    rw [decide_eq_true_eq] at named
    refine ⟨_, List.mem_map_of_mem (List.mem_of_find?_eq_some before), ?_⟩
    simp [named]

theorem findInstall_recordInstall (store : ModelStore) (modelId version installedPath : String)
    (now : ℚ) :
    ∃ install, (store.recordInstall modelId version installedPath now).findInstall modelId version =
      some install := by
  refine Option.isSome_iff_exists.1 (List.find?_isSome.2 ?_)
  unfold ModelStore.recordInstall
  split
  · exact ⟨_, List.mem_append_right _ (List.mem_singleton_self _), by simp⟩
  next old before =>
    unfold ModelStore.findInstall at before
    have named := List.find?_some before
    rw [decide_eq_true_eq] at named
    refine ⟨_, List.mem_map_of_mem (List.mem_of_find?_eq_some before), ?_⟩
    simp [named]

/-- Another version is another record. -/
theorem findInstall_recordInstall_other (store : ModelStore) {modelId version other : String}
    (installedPath : String) (now : ℚ) (different : other ≠ version) :
    (store.recordInstall modelId version installedPath now).findInstall modelId other =
      store.findInstall modelId other := by
  unfold ModelStore.recordInstall ModelStore.findInstall
  split
  · simp [List.find?_append, different.symm]
  · rw [List.find?_map]
    have same : ((fun row : ModelInstall => decide (row.modelId = modelId ∧ row.version = other)) ∘
        fun row => if row.modelId = modelId ∧ row.version = version then
          { row with installedPath, installedAt := now } else row) =
        fun row => decide (row.modelId = modelId ∧ row.version = other) := by
      funext row
      simp only [Function.comp]
      split <;> rfl
    rw [same]
    cases found : store.installs.find? fun row => decide (row.modelId = modelId ∧
        row.version = other) with
    | none => rfl
    | some row =>
      have named := List.find?_some found
      rw [decide_eq_true_eq] at named
      simp [named, different]

/-- A script that insists on its operation does what its rest does to it. -/
theorem effect_of_required {op : ModelOp} {operationId : String}
    {body : ModelDownload → ModelTx ModelDownload}
    (runs : op.exec store = ModelOp.exec.wrote (Tx.atomically (do
      beginModelWrite
      let operation ← requireOperation operationId
      body operation) store))
    (does : ∀ row, store.findDownload operationId = some row →
      ModelEffect store op (((body row).run ⟨store, store, .immediate, false⟩).1.map some)
        ((body row).run ⟨store, store, .immediate, false⟩).2.durable) :
    ModelEffect store op (op.exec store).1 (op.exec store).2 := by
  rw [runs, Tx.atomically_guarded, requireOperation_run]
  cases found : store.findDownload operationId with
  | none => exact .raised op _
  | some row => exact does row found

theorem effect_of_commit (keyed : store.Keyed) {op : ModelOp} {operationId : String}
    (names : op.updates = some operationId) {row : ModelDownload}
    (found : store.findDownload operationId = some row) {revision : Int}
    {values : ModelDownload → ModelDownload}
    (keeps : (values row).operationId = row.operationId)
    (moved : row.revision = revision → DownloadMoved row (values row)) :
    let outcome := (commitRevision operationId revision values).run ⟨store, store, .immediate, false⟩
    ModelEffect store op (outcome.1.map some) outcome.2.durable := by
  obtain ⟨mem, named⟩ := ModelStore.findDownload_mem found
  intro outcome
  have ran : outcome = _ := commitRevision_run keyed found revision keeps
  rw [ran]
  split
  next current => exact .updated mem (by rw [names, named]) (moved current)
  next => exact .raised op _

theorem restart_moved {row : ModelDownload} (may : isRestartable row.status = true)
    (after : ModelDownload) (operation : after.operationId = row.operationId)
    (model : after.modelId = row.modelId) (revision : after.revision = row.revision + 1)
    (status : after.status = row.status) (bytes : after.downloadedBytes = 0)
    (expected : after.expectedSizeBytes = row.expectedSizeBytes) : DownloadMoved row after where
  operation := operation
  model := model
  revision := revision
  open_ := (isActive_of_restartable may).1
  counted counted := by
    have bounds := counted
    unfold ModelDownload.Counted at bounds ⊢
    rw [bytes, expected]
    omega
  filled _ full := by
    rw [status, (isActive_of_restartable may).2] at full
    cases full

theorem restart_effect (keyed : store.Keyed) (operationId : String) (now : ℚ) :
    ModelEffect store (.restart operationId now) ((ModelOp.restart operationId now).exec store).1
      ((ModelOp.restart operationId now).exec store).2 := by
  refine effect_of_required (by rfl) fun row found => ?_
  split
  next may =>
    refine effect_of_commit keyed rfl found rfl fun _ => ?_
    exact restart_moved may _ rfl rfl rfl rfl rfl rfl
  next => exact .raised _ _

theorem switchSource_effect (keyed : store.Keyed) (operationId sourceUrl sourceKind : String)
    (now : ℚ) :
    ModelEffect store (.switchSource operationId sourceUrl sourceKind now)
      ((ModelOp.switchSource operationId sourceUrl sourceKind now).exec store).1
      ((ModelOp.switchSource operationId sourceUrl sourceKind now).exec store).2 := by
  refine effect_of_required (by rfl) fun row found => ?_
  split
  next may =>
    refine effect_of_commit keyed rfl found rfl fun _ => ?_
    exact restart_moved may _ rfl rfl rfl rfl rfl rfl
  next => exact .raised _ _

theorem advance_effect (keyed : store.Keyed) (operationId : String)
    (toStatus : ModelDownloadStatus) (now : ℚ) (columns : DownloadColumns)
    (expectedRevision : Option Int) :
    ModelEffect store (.advance operationId toStatus now columns expectedRevision)
      ((ModelOp.advance operationId toStatus now columns expectedRevision).exec store).1
      ((ModelOp.advance operationId toStatus now columns expectedRevision).exec store).2 := by
  refine effect_of_required (by rfl) fun row found => ?_
  split
  next valid =>
    split
    · exact .raised _ _
    next checked =>
      refine effect_of_commit keyed rfl found rfl fun current => ?_
      refine ⟨rfl, rfl, congrArg (· + 1) current.symm, isActive_of_transition valid, fun counted => counted,
        fun filled full => ?_⟩
      change row.downloadedBytes = row.expectedSizeBytes
      rcases isFilled_of_transition valid full with rfl | before
      · exact Decidable.byContradiction fun short => checked ⟨rfl, short⟩
      · exact filled before
  next => exact .raised _ _

theorem progress_effect (keyed : store.Keyed) (operationId : String) (downloadedBytes : Int)
    (now : ℚ) (tempPath etag lastModified : Option String) (expectedRevision : Option Int) :
    let op : ModelOp :=
      .progress operationId downloadedBytes now tempPath etag lastModified expectedRevision
    ModelEffect store op (op.exec store).1 (op.exec store).2 := by
  intro op
  refine effect_of_required (by rfl) fun row found => ?_
  split
  · exact .raised _ _
  next downloading =>
    have status : row.status = .downloading := Decidable.not_not.1 downloading
    split
    · exact .raised _ _
    · split
      next bounds =>
        refine effect_of_commit keyed rfl found rfl fun current => ?_
        refine ⟨rfl, rfl, congrArg (· + 1) current.symm, by rw [status]; rfl, fun _ => bounds, fun _ full => ?_⟩
        change row.status.isFilled = true at full
        rw [status] at full
        cases full
      next => exact .raised _ _

/-- The tables of installations leave the downloads alone. -/
theorem recorded_downloads (store : ModelStore) (modelId version installedPath : String) (now : ℚ) :
    ((store.recordInstall modelId version installedPath now).pointActive modelId version
      now).downloads = store.downloads := by
  unfold ModelStore.pointActive ModelStore.recordInstall
  split <;> split <;> rfl

theorem complete_effect (keyed : store.Keyed) (operationId modelId version installedPath : String)
    (now : ℚ) :
    let op : ModelOp := .complete operationId modelId version installedPath now
    ModelEffect store op (op.exec store).1 (op.exec store).2 := by
  intro op
  refine effect_of_required (by rfl) fun row found => ?_
  obtain ⟨mem, named⟩ := ModelStore.findDownload_mem found
  split
  · exact .raised _ _
  next same =>
    have model : row.modelId = modelId ∧ row.version = version := by
      constructor <;> (refine Decidable.byContradiction fun other => same ?_)
      · exact .inl other
      · exact .inr other
    split
    next valid =>
      rw [Tx.write_bind_run, Tx.begun_immediate]
      generalize records : (store.recordInstall modelId version installedPath now).pointActive
        modelId version now = recorded
      have kept : recorded.downloads = store.downloads := by
        rw [← records]
        exact recorded_downloads store modelId version installedPath now
      have foundRecorded : recorded.findDownload operationId = some row := by
        unfold ModelStore.findDownload at found ⊢
        rw [kept]
        exact found
      have keyedRecorded : recorded.Keyed := by
        unfold ModelStore.Keyed at keyed ⊢
        rw [kept]
        exact keyed
      have ran : (commitRevision operationId row.revision (completedDownload row.revision now)).run
          ⟨store, recorded, .immediate, true⟩ = _ :=
        commitRevision_run keyedRecorded foundRecorded row.revision rfl
      rw [ran, if_pos rfl]
      subst named
      obtain ⟨rfl, rfl⟩ := model
      have moved : DownloadMoved row (completedDownload row.revision now row) := by
        refine ⟨rfl, rfl, rfl, isActive_of_transition valid, fun counted => counted,
          fun filled _ => ?_⟩
        change row.downloadedBytes = row.expectedSizeBytes
        rcases isFilled_of_transition valid rfl with h | before
        · cases h
        · exact filled before
      exact .completed mem installedPath now moved records.symm
    next => exact .raised _ _

theorem exec_create (new : NewDownload) :
    (ModelOp.create new).exec store =
      if store.admits new then
        (.ok (some new.row), { store with downloads := store.downloads ++ [new.row] })
      else (.error .integrityError, store) := by
  change ModelOp.exec.wrote (Tx.atomically (createDownloadOperation new) store) = _
  unfold createDownloadOperation
  rw [Tx.atomically_guarded, Tx.read_bind_run, Tx.begun_immediate]
  split
  next admitted =>
    have free : store.findDownload new.operationId = none := by
      unfold ModelStore.admits at admitted
      rw [Bool.and_eq_true, Option.isNone_iff_eq_none] at admitted
      exact admitted.1
    have found : ({ store with downloads := store.downloads ++ [new.row] } :
        ModelStore).findDownload new.operationId = some new.row := by
      unfold ModelStore.findDownload at free ⊢
      rw [List.find?_append, free]
      simp [NewDownload.row]
    simp only [Tx.write_bind_run, Tx.begun_immediate, Tx.commit_bind_run, Tx.committed_wrote]
    unfold readBack getDownloadOperation
    simp only [Tx.bind_assoc_run, Tx.read_bind_run, Tx.begun_closed, Tx.pure_bind_run, found]
    rfl
  next => rfl

theorem create_effect (new : NewDownload) :
    ModelEffect store (.create new) ((ModelOp.create new).exec store).1
      ((ModelOp.create new).exec store).2 := by
  rw [exec_create]
  split
  next admitted => exact .created new admitted
  next => exact .raised _ _

theorem activate_effect (modelId version : String) (now : ℚ) :
    ModelEffect store (.activate modelId version now)
      ((ModelOp.activate modelId version now).exec store).1
      ((ModelOp.activate modelId version now).exec store).2 := by
  change ModelEffect store (.activate modelId version now)
    (ModelOp.exec.silent (Tx.atomically (activateInstallation modelId version now) store)).1
    (ModelOp.exec.silent (Tx.atomically (activateInstallation modelId version now) store)).2
  unfold activateInstallation getInstallation
  rw [Tx.atomically_guarded, Tx.bind_assoc_run, Tx.read_bind_run, Tx.begun_immediate,
    Tx.pure_bind_run]
  cases found : store.findInstall modelId version with
  | none => exact .raised _ _
  | some install =>
    obtain ⟨active, pointed⟩ := findActive_pointActive store modelId version now
    simp only [Tx.write_bind_run, Tx.begun_immediate, Tx.commit_bind_run, Tx.committed_wrote,
      Tx.read_bind_run, Tx.begun_closed, pointed]
    exact .activated modelId version now (by rw [found]; rfl)

theorem saveInstall_effect (modelId version installedPath : String) (now : ℚ) :
    let op : ModelOp := .saveInstall modelId version installedPath now
    ModelEffect store op (op.exec store).1 (op.exec store).2 := by
  intro op
  change ModelEffect store op
    (ModelOp.exec.silent (Tx.atomically (saveInstallation modelId version installedPath now) store)).1
    (ModelOp.exec.silent (Tx.atomically (saveInstallation modelId version installedPath now) store)).2
  obtain ⟨install, recorded⟩ := findInstall_recordInstall store modelId version installedPath now
  unfold saveInstallation getInstallation
  rw [Tx.atomically_guarded]
  simp only [Tx.write_bind_run, Tx.begun_immediate, Tx.commit_bind_run, Tx.committed_wrote,
    Tx.bind_assoc_run, Tx.read_bind_run, Tx.begun_closed, Tx.pure_bind_run, recorded]
  exact .saved modelId version installedPath now

/-- The scripts do nothing else. -/
theorem ModelOp.exec_effect (keyed : store.Keyed) (op : ModelOp) :
    ModelEffect store op (op.exec store).1 (op.exec store).2 := by
  cases op with
  | create new => exact create_effect new
  | restart operationId now => exact restart_effect keyed operationId now
  | advance operationId toStatus now columns expectedRevision =>
    exact advance_effect keyed operationId toStatus now columns expectedRevision
  | progress operationId downloadedBytes now tempPath etag lastModified expectedRevision =>
    exact progress_effect keyed operationId downloadedBytes now tempPath etag lastModified
      expectedRevision
  | switchSource operationId sourceUrl sourceKind now =>
    exact switchSource_effect keyed operationId sourceUrl sourceKind now
  | complete operationId modelId version installedPath now =>
    exact complete_effect keyed operationId modelId version installedPath now
  | activate modelId version now => exact activate_effect modelId version now
  | saveInstall modelId version installedPath now =>
    exact saveInstall_effect modelId version installedPath now
  | uninstall modelId => exact .uninstalled modelId

end

end EvoBlue.Source
