import EvoBlue.Source.ModelEffects

/-!
# The laws of the model store

Whatever operations are performed, in any order and with any arguments: a model has
at most one download under way, a download's bytes are within its size and all there
once it is to be verified, its revision counts its updates and ends with it, and the
pointer to a model's active version points to an installed one.
-/

namespace EvoBlue.Guarantees

open EvoBlue.Kernel EvoBlue.Source

/-- A created download is for a file that has bytes. -/
def HasSize : ModelOp → Prop
  | .create new => 0 < new.expectedSizeBytes
  | _ => True

/-- The pointer points to an installed version. -/
def PointsTo (store : ModelStore) (active : ActiveModel) : Prop :=
  ∃ install ∈ store.installs, install.modelId = active.modelId ∧
    install.version = active.activeVersion

structure StoreLaws (store : ModelStore) : Prop where
  keyed : store.Keyed
  single : ((store.downloads.filter fun row => row.status.isActive).map (·.modelId)).Nodup
  counted : ∀ row ∈ store.downloads, row.Counted
  filled : ∀ row ∈ store.downloads, row.Filled
  actives : ∀ active ∈ store.actives, PointsTo store active

/-! ## Installations -/

section

variable {store : ModelStore}

theorem mem_recordInstall {modelId version installedPath : String} {now : ℚ}
    {install : ModelInstall} (mem : install ∈ store.installs) :
    ∃ kept ∈ (store.recordInstall modelId version installedPath now).installs,
      kept.modelId = install.modelId ∧ kept.version = install.version := by
  unfold ModelStore.recordInstall
  split
  · exact ⟨install, List.mem_append_left _ mem, rfl, rfl⟩
  · refine ⟨_, List.mem_map_of_mem mem, ?_⟩
    split <;> exact ⟨rfl, rfl⟩

theorem recordInstall_actives (modelId version installedPath : String) (now : ℚ) :
    (store.recordInstall modelId version installedPath now).actives = store.actives := by
  unfold ModelStore.recordInstall
  split <;> rfl

theorem pointsTo_recorded {modelId version installedPath : String} {now : ℚ} {active : ActiveModel}
    (points : PointsTo store active) :
    PointsTo (store.recordInstall modelId version installedPath now) active := by
  obtain ⟨install, mem, model, named⟩ := points
  obtain ⟨kept, memKept, sameModel, sameVersion⟩ := mem_recordInstall mem
  exact ⟨kept, memKept, sameModel.trans model, sameVersion.trans named⟩

theorem pointActive_installs (modelId version : String) (now : ℚ) :
    (store.pointActive modelId version now).installs = store.installs := by
  unfold ModelStore.pointActive
  split <;> rfl

/-- A pointer is moved to an installed version. -/
theorem pointsTo_pointed {modelId version : String} {now : ℚ}
    (installed : (store.findInstall modelId version).isSome = true)
    (points : ∀ active ∈ store.actives, PointsTo store active) :
    ∀ active ∈ (store.pointActive modelId version now).actives,
      PointsTo (store.pointActive modelId version now) active := by
  obtain ⟨install, found⟩ := Option.isSome_iff_exists.1 installed
  have named := List.find?_some found
  rw [decide_eq_true_eq] at named
  have mem := List.mem_of_find?_eq_some found
  intro active memActive
  unfold PointsTo
  rw [pointActive_installs]
  unfold ModelStore.pointActive at memActive
  split at memActive
  · rcases List.mem_append.1 memActive with old | new
    · exact points active old
    · rw [List.mem_singleton.1 new]
      exact ⟨install, mem, named⟩
  · obtain ⟨old, memOld, rfl⟩ := List.mem_map.1 memActive
    split
    next same => exact ⟨install, mem, named.1.trans same.symm, named.2⟩
    next => exact points old memOld

end

/-! ## Downloads -/

section

variable {store : ModelStore}

theorem replaceDownload_keyed (keyed : store.Keyed) (after : ModelDownload) :
    (store.replaceDownload after).Keyed := by
  unfold ModelStore.Keyed ModelStore.replaceDownload at *
  rw [List.map_map, List.map_congr_left fun row _ => ?_]
  · exact keyed
  · simp only [Function.comp]
    split
    next same => exact same.symm
    next => rfl

/-- No model gains a download under way by an update. -/
theorem replaceDownload_single (keyed : store.Keyed) {row after : ModelDownload}
    (mem : row ∈ store.downloads) (moved : DownloadMoved row after)
    (single : ((store.downloads.filter fun row => row.status.isActive).map (·.modelId)).Nodup) :
    (((store.replaceDownload after).downloads.filter fun row =>
      row.status.isActive).map (·.modelId)).Nodup := by
  refine single.sublist ?_
  have replaced : ∀ rows : List ModelDownload, rows ⊆ store.downloads →
      (((rows.map fun other => if other.operationId = after.operationId then after else
        other).filter fun row => row.status.isActive).map (·.modelId)).Sublist
      ((rows.filter fun row => row.status.isActive).map (·.modelId)) := by
    intro rows within
    induction rows with
    | nil => exact List.Sublist.refl _
    | cons first rest ih =>
      have later := ih fun other memOther => within (List.mem_cons_of_mem _ memOther)
      by_cases same : first.operationId = after.operationId
      · have one : first = row := keyed.eq_of_operation (within List.mem_cons_self) mem
          (same.trans moved.operation)
        subst one
        simp only [List.map_cons, if_pos same, List.filter_cons, moved.open_, if_true]
        split
        · simp only [List.map_cons, moved.model]
          exact later.cons_cons _
        · exact later.cons _
      · simp only [List.map_cons, if_neg same, List.filter_cons]
        split
        · exact later.cons_cons _
        · exact later
  exact replaced store.downloads fun _ mem => mem

/-- A law of rows that an update keeps, all rows keep. -/
theorem replaceDownload_rows {law : ModelDownload → Prop} {after : ModelDownload}
    (all : ∀ row ∈ store.downloads, law row) (kept : law after) :
    ∀ row ∈ (store.replaceDownload after).downloads, law row := by
  intro row mem
  obtain ⟨old, memOld, rfl⟩ := List.mem_map.1 mem
  split
  · exact kept
  · exact all old memOld

theorem laws_replaced (laws : StoreLaws store) {row after : ModelDownload}
    (mem : row ∈ store.downloads) (moved : DownloadMoved row after) :
    StoreLaws (store.replaceDownload after) where
  keyed := replaceDownload_keyed laws.keyed after
  single := replaceDownload_single laws.keyed mem moved laws.single
  counted := replaceDownload_rows laws.counted (moved.counted (laws.counted row mem))
  filled := replaceDownload_rows laws.filled (moved.filled (laws.filled row mem))
  actives := laws.actives

theorem laws_created (laws : StoreLaws store) {new : NewDownload}
    (admitted : store.admits new = true) (sized : 0 < new.expectedSizeBytes) :
    StoreLaws { store with downloads := store.downloads ++ [new.row] } := by
  unfold ModelStore.admits at admitted
  rw [Bool.and_eq_true, Option.isNone_iff_eq_none, Option.isNone_iff_eq_none] at admitted
  obtain ⟨freeKey, idle⟩ := admitted
  refine ⟨?_, ?_, ?_, ?_, laws.actives⟩
  · unfold ModelStore.Keyed
    rw [List.map_append]
    refine List.nodup_append.2 ⟨laws.keyed, List.nodup_singleton _, ?_⟩
    rintro _ old _ last rfl
    obtain ⟨row, mem, same⟩ := List.mem_map.1 old
    have different := List.find?_eq_none.1 freeKey row mem
    rw [List.mem_singleton.1 last] at same
    simp [same, NewDownload.row] at different
  · rw [List.filter_append, List.map_append]
    refine List.nodup_append.2 ⟨laws.single, List.nodup_singleton _, ?_⟩
    rintro _ old _ last rfl
    obtain ⟨row, mem, same⟩ := List.mem_map.1 old
    have different := List.find?_eq_none.1 idle row (List.mem_filter.1 mem).1
    have busy := (List.mem_filter.1 mem).2
    rw [List.mem_singleton.1 last] at same
    simp [same, busy, NewDownload.row] at different
  · intro row mem
    rcases List.mem_append.1 mem with old | last
    · exact laws.counted row old
    · rw [List.mem_singleton.1 last]
      unfold ModelDownload.Counted NewDownload.row
      constructor <;> (simp only; omega)
  · intro row mem
    rcases List.mem_append.1 mem with old | last
    · exact laws.filled row old
    · rw [List.mem_singleton.1 last]
      intro full
      cases full

theorem laws_without (laws : StoreLaws store) (modelId : String) :
    StoreLaws (store.without modelId) := by
  refine ⟨?_, ?_, ?_, ?_, ?_⟩
  · exact laws.keyed.sublist (List.filter_sublist.map _)
  · refine laws.single.sublist (List.Sublist.map _ ?_)
    exact List.filter_sublist.filter _
  · exact fun row mem => laws.counted row (List.mem_filter.1 mem).1
  · exact fun row mem => laws.filled row (List.mem_filter.1 mem).1
  · intro active mem
    obtain ⟨memActive, other⟩ := List.mem_filter.1 mem
    obtain ⟨install, memInstall, model, named⟩ := laws.actives active memActive
    refine ⟨install, List.mem_filter.2 ⟨memInstall, ?_⟩, model, named⟩
    rw [model]
    exact other

/-- Recording an installation, with or without its pointer, is no matter of downloads. -/
theorem laws_recorded (laws : StoreLaws store) (modelId version installedPath : String) (now : ℚ) :
    StoreLaws (store.recordInstall modelId version installedPath now) := by
  have downloads : (store.recordInstall modelId version installedPath now).downloads =
      store.downloads := by
    unfold ModelStore.recordInstall
    split <;> rfl
  refine ⟨?_, ?_, ?_, ?_, ?_⟩
  · unfold ModelStore.Keyed
    rw [downloads]
    exact laws.keyed
  · rw [downloads]
    exact laws.single
  · rw [downloads]
    exact laws.counted
  · rw [downloads]
    exact laws.filled
  · rw [recordInstall_actives]
    exact fun active mem => pointsTo_recorded (laws.actives active mem)

theorem laws_pointed (laws : StoreLaws store) {modelId version : String}
    (installed : (store.findInstall modelId version).isSome = true) (now : ℚ) :
    StoreLaws (store.pointActive modelId version now) := by
  have downloads : (store.pointActive modelId version now).downloads = store.downloads := by
    unfold ModelStore.pointActive
    split <;> rfl
  refine ⟨?_, ?_, ?_, ?_, pointsTo_pointed installed laws.actives⟩
  · unfold ModelStore.Keyed
    rw [downloads]
    exact laws.keyed
  · rw [downloads]
    exact laws.single
  · rw [downloads]
    exact laws.counted
  · rw [downloads]
    exact laws.filled

end

/-! ## Runs -/

theorem laws_step {store : ModelStore} (laws : StoreLaws store) {op : ModelOp} (sized : HasSize op) :
    StoreLaws (op.exec store).2 := by
  have effect := op.exec_effect laws.keyed
  generalize (op.exec store).1 = reply at effect
  generalize (op.exec store).2 = after at effect ⊢
  cases effect with
  | raised => exact laws
  | created new admitted => exact laws_created laws admitted sized
  | updated mem names moved => exact laws_replaced laws mem moved
  | @completed row after mem installedPath now moved recorded records =>
    have installed : ((store.recordInstall row.modelId row.version installedPath now).findInstall
        row.modelId row.version).isSome = true := by
      obtain ⟨install, found⟩ :=
        findInstall_recordInstall store row.modelId row.version installedPath now
      rw [found]
      rfl
    have lawsRecorded := laws_pointed (laws_recorded laws row.modelId row.version installedPath now)
      installed now
    rw [← records] at lawsRecorded
    refine laws_replaced lawsRecorded ?_ moved
    rw [records, recorded_downloads]
    exact mem
  | activated modelId version now installed => exact laws_pointed laws installed now
  | saved modelId version installedPath now =>
    exact laws_recorded laws modelId version installedPath now
  | uninstalled modelId => exact laws_without laws modelId

theorem laws_after {ops : List ModelOp} (sized : ∀ op ∈ ops, HasSize op) :
    StoreLaws (storeAfter ops) := by
  refine @run_history _ _ (fun store (op : ModelOp) => (op.exec store).2) {}
    (fun past store => (∀ op ∈ past, HasSize op) → StoreLaws store) (fun _ => ?_) ?_ ops sized
  · exact ⟨List.nodup_nil, List.nodup_nil, fun _ mem => (nomatch mem), fun _ mem => (nomatch mem),
      fun _ mem => nomatch mem⟩
  · intro past op ih sized
    have before := ih fun other mem => sized other (List.mem_append_left _ mem)
    exact laws_step before (sized op (by simp))

/-- What one more operation does to the row of a download. -/
theorem update_counted {store : ModelStore} (keyed : store.Keyed) (op : ModelOp)
    {row after : ModelDownload} (mem : row ∈ store.downloads)
    (memAfter : after ∈ (op.exec store).2.downloads) (same : after.operationId = row.operationId) :
    after = row ∨ op.updates = some row.operationId ∧ after.revision = row.revision + 1 ∧
      row.status.isTerminal = false := by
  have effect := op.exec_effect keyed
  have active : ∀ {status : ModelDownloadStatus}, status.isActive = true →
      status.isTerminal = false := by
    intro status busy
    cases status <;> first | rfl | cases busy
  have replaced : ∀ {old new : ModelDownload} {rows : List ModelDownload}, rows = store.downloads →
      old ∈ store.downloads → DownloadMoved old new → op.updates = some old.operationId →
      after ∈ rows.map (fun other => if other.operationId = new.operationId then new else other) →
      after = row ∨ op.updates = some row.operationId ∧ after.revision = row.revision + 1 ∧
        row.status.isTerminal = false := by
    rintro old new _ rfl memOld moved names written
    obtain ⟨other, memOther, result⟩ := List.mem_map.1 written
    split at result
    · subst result
      obtain rfl := keyed.eq_of_operation memOld mem (moved.operation.symm.trans same)
      exact .inr ⟨names, moved.revision, active moved.open_⟩
    · subst result
      exact .inl (keyed.eq_of_operation memOther mem same)
  have kept : after ∈ store.downloads → after = row := fun memOld =>
    keyed.eq_of_operation memOld mem same
  generalize (op.exec store).1 = reply at effect
  generalize (op.exec store).2 = result at effect memAfter
  cases effect with
  | raised => exact .inl (kept memAfter)
  | created new admitted =>
    rcases List.mem_append.1 memAfter with old | last
    · exact .inl (kept old)
    · unfold ModelStore.admits at admitted
      rw [Bool.and_eq_true, Option.isNone_iff_eq_none] at admitted
      have different := List.find?_eq_none.1 admitted.1 row mem
      rw [List.mem_singleton.1 last] at same
      simp [← same, NewDownload.row] at different
  | updated memOld names moved => exact replaced rfl memOld moved names memAfter
  | completed memOld installedPath now moved records =>
    subst records
    exact replaced (recorded_downloads store _ _ _ _) memOld moved rfl memAfter
  | activated modelId version now installed =>
    refine .inl (kept ?_)
    unfold ModelStore.pointActive at memAfter
    split at memAfter <;> exact memAfter
  | saved modelId version installedPath now =>
    refine .inl (kept ?_)
    unfold ModelStore.recordInstall at memAfter
    split at memAfter <;> exact memAfter
  | uninstalled modelId => exact .inl (kept (List.mem_filter.1 memAfter).1)

/-- An update that succeeds found its operation, and raised its revision by one. -/
theorem updated_revision {store : ModelStore} (keyed : store.Keyed) {op : ModelOp}
    {operationId : String} (names : op.updates = some operationId) {reply : Option ModelDownload}
    (succeeded : (op.exec store).1 = .ok reply) :
    ∃ row after, store.findDownload operationId = some row ∧
      (op.exec store).2.findDownload operationId = some after ∧
      after.revision = row.revision + 1 := by
  have effect := op.exec_effect keyed
  have found : ∀ {row : ModelDownload}, row ∈ store.downloads →
      store.findDownload row.operationId = some row := by
    intro row mem
    cases found : store.findDownload row.operationId with
    | none => simpa using List.find?_eq_none.1 found row mem
    | some other =>
      obtain ⟨memOther, same⟩ := ModelStore.findDownload_mem found
      rw [keyed.eq_of_operation memOther mem same]
  rw [succeeded] at effect
  generalize (op.exec store).2 = result at effect ⊢
  cases effect with
  | updated mem updates moved =>
    rw [names] at updates
    cases updates
    exact ⟨_, _, found mem, ModelStore.findDownload_replaced (found mem) moved.operation,
      moved.revision⟩
  | @completed row after mem installedPath now moved recorded records =>
    cases names
    have stored : recorded.findDownload row.operationId = some row := by
      have before := found mem
      unfold ModelStore.findDownload at before ⊢
      rw [records, recorded_downloads]
      exact before
    exact ⟨row, after, found mem, ModelStore.findDownload_replaced stored moved.operation,
      moved.revision⟩
  | _ => cases names

/-- After every list of operations on an empty store, whatever their arguments: the
laws hold, and of one more operation, whichever it is, so does the law of revisions. -/
theorem model_store_laws (ops : List ModelOp) (sized : ∀ op ∈ ops, HasSize op) :
    let store := storeAfter ops
    (∀ modelId, (store.downloads.filter fun row =>
      row.modelId = modelId ∧ row.status.isActive).length ≤ 1) ∧
    (∀ row ∈ store.downloads, 0 ≤ row.downloadedBytes ∧
      row.downloadedBytes ≤ row.expectedSizeBytes) ∧
    (∀ row ∈ store.downloads, row.status ∈ [.verifying, .installing, .completed] →
      row.downloadedBytes = row.expectedSizeBytes) ∧
    (∀ op : ModelOp, ∀ operationId, op.updates = some operationId → ∀ reply,
      (op.exec store).1 = .ok reply →
      ∃ row after, store.findDownload operationId = some row ∧
        (op.exec store).2.findDownload operationId = some after ∧
        after.revision = row.revision + 1) ∧
    (∀ op : ModelOp, ∀ row ∈ store.downloads, ∀ after ∈ (op.exec store).2.downloads,
      after.operationId = row.operationId → row.status.isTerminal = true → after = row) ∧
    (∀ active ∈ store.actives, PointsTo store active) := by
  have laws := laws_after sized
  refine ⟨fun modelId => ?_, laws.counted, fun row mem full => ?_, fun op operationId names reply => ?_,
    fun op row mem after memAfter same final => ?_, laws.actives⟩
  · have named : ∀ row ∈ (storeAfter ops).downloads.filter fun row =>
        row.modelId = modelId ∧ row.status.isActive, row.modelId = modelId := by
      intro row mem
      exact (of_decide_eq_true (List.mem_filter.1 mem).2).1
    have nodup : (((storeAfter ops).downloads.filter fun row =>
        row.modelId = modelId ∧ row.status.isActive).map (·.modelId)).Nodup := by
      refine laws.single.sublist (List.Sublist.map _ ?_)
      refine List.monotone_filter_right _ fun row busy => ?_
      exact (of_decide_eq_true busy).2
    have same : ∀ id ∈ ((storeAfter ops).downloads.filter fun row =>
        row.modelId = modelId ∧ row.status.isActive).map (·.modelId), id = modelId := by
      intro id mem
      obtain ⟨row, memRow, rfl⟩ := List.mem_map.1 mem
      exact named row memRow
    rw [List.eq_replicate_of_mem same, List.length_map] at nodup
    exact List.nodup_replicate.1 nodup
  · exact laws.filled row mem (by simpa [ModelDownloadStatus.isFilled] using full)
  · exact updated_revision laws.keyed names
  · rcases update_counted laws.keyed op mem memAfter same with unchanged | ⟨_, _, unfinished⟩
    · exact unchanged
    · rw [final] at unfinished
      cases unfinished

/-- A download from its creation to its installation. -/
def installedOps : List ModelOp := [
  .create ⟨"op", "m", "1", "https://models/m.bin", "https", "digest", 10, 0, none, none⟩,
  .advance "op" .downloading 1 {} none, .progress "op" 10 2 none none none none,
  .advance "op" .verifying 3 {} none, .advance "op" .installing 4 {} none,
  .complete "op" "m" "1" "models/m/1" 5]

theorem model_store_laws_sample : PointsTo (storeAfter installedOps) ⟨"m", "1", 5⟩ :=
  (model_store_laws installedOps (by simp [installedOps, HasSize])).2.2.2.2.2 _ (by decide +kernel)

end EvoBlue.Guarantees
