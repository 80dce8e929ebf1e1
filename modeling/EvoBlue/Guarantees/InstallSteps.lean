import EvoBlue.Guarantees.ModelStoreLaws
import EvoBlue.Source.ModelHost

/-!
# The operation an install is at work on

`UnderWay` says of the row of an operation that it is the one active operation of its
model. Every update the installer makes leaves it so, whatever the update answers, until
an operation is ended; the rules below say this of the calls of an install that runs alone.
-/

namespace EvoBlue.Guarantees

open EvoBlue.Kernel EvoBlue.Source

/-- What a host may answer, and how it is left. -/
def hosted (sha256 : Bytes → String) : Protocol ModelCall ModelAnswer ModelHost where
  allowed _ _ := True
  moves before call value after :=
    ∃ outside, ModelHost.serve sha256 outside call before = (value, after)

/-- The operation is in the database as the installer has it, and under way. -/
structure UnderWay (modelId : String) (host : ModelHost) (row : ModelDownload) : Prop where
  laws : StoreLaws host.store
  found : host.store.findDownload row.operationId = some row
  model : row.modelId = modelId
  active : row.status.isActive = true

/-! ## Calls -/

section

variable {α : Type} {sha256 : Bytes → String} {host : ModelHost}
  {post : ModelHost → α → Prop} {raises : ModelHost → InstallError → Prop}

theorem follows_tempFiles {next : FileTree → ModelTask α}
    (goes : (next host.temp).Follows (hosted sha256) post raises host) :
    (ModelTask.tempFiles >>= next).Follows (hosted sha256) post raises host := by
  apply Attempt.follows_call trivial
  rintro _ _ ⟨_, ⟨⟩⟩
  exact goes

theorem follows_getDownload {operationId : String} {next : Option ModelDownload → ModelTask α}
    (goes : (next (host.store.findDownload operationId)).Follows (hosted sha256) post raises host) :
    (ModelTask.getDownload operationId >>= next).Follows (hosted sha256) post raises host := by
  apply Attempt.follows_call trivial
  rintro _ _ ⟨_, ⟨⟩⟩
  exact goes

theorem follows_truncateTemp {next : Unit → ModelTask α}
    (goes : (next ()).Follows (hosted sha256) post raises { host with temp := [] }) :
    (ModelTask.truncateTemp >>= next).Follows (hosted sha256) post raises host := by
  apply Attempt.follows_call trivial
  rintro _ _ ⟨_, ⟨⟩⟩
  exact goes

theorem follows_promote {version : String} {staged : FileTree}
    {next : Except InstallError Unit → ModelTask α}
    (promoted : ∀ files, promote sha256 (host.version version) staged = .ok files →
      (next (.ok ())).Follows (hosted sha256) post raises (host.putVersion version files))
    (refused : ∀ error, (next (.error error)).Follows (hosted sha256) post raises host) :
    (ModelTask.promote version staged >>= next).Follows (hosted sha256) post raises host := by
  apply Attempt.follows_call trivial
  rintro answer after ⟨outside, answered⟩
  cases ended : promote sha256 (host.version version) staged with
  | ok files =>
    rw [ModelHost.serve_promoted ended] at answered
    cases answered
    exact promoted files ended
  | error error =>
    rw [ModelHost.serve_refused ended] at answered
    cases answered
    exact refused error

theorem follows_orRaise {β : Type} {result : Except InstallError β} {next : β → ModelTask α}
    (goes : ∀ value, result = .ok value → (next value).Follows (hosted sha256) post raises host)
    (raised : ∀ error, result = .error error → raises host error) :
    (ModelTask.orRaise result >>= next).Follows (hosted sha256) post raises host := by
  cases result with
  | ok value => exact goes value rfl
  | error error => exact raised error rfl

/-- One function of the repository. -/
theorem follows_perform {op : ℚ → ModelOp} {post : ModelHost → ModelDownload → Prop}
    (wrote : ∀ now row tables, (op now).exec host.store = (.ok (some row), tables) →
      post { host with store := tables } row)
    (silent : ∀ now tables, (op now).exec host.store = (.ok none, tables) →
      raises { host with store := tables } .unexpected)
    (raised : ∀ now error tables, (op now).exec host.store = (.error error, tables) →
      raises { host with store := tables } (.store error)) :
    (ModelTask.perform op).Follows (hosted sha256) post raises host := by
  unfold ModelTask.perform
  apply Attempt.follows_call trivial
  rintro now _ ⟨outside, ⟨⟩⟩
  apply Attempt.follows_call trivial
  rintro reply after ⟨_, answered⟩
  unfold ModelHost.serve at answered
  obtain ⟨rfl, rfl⟩ := Prod.mk.inj answered
  cases replied : ((op (outside .now)).exec host.store).1 with
  | error error => exact raised _ error _ (Prod.ext replied rfl)
  | ok written =>
    cases written with
    | none => exact silent _ _ (Prod.ext replied rfl)
    | some row => exact wrote _ row _ (Prod.ext replied rfl)

end

/-! ## Updates -/

section

variable {sha256 : Bytes → String} {modelId : String} {host : ModelHost} {row : ModelDownload}

/-- The active operation of a model that is found is under way. -/
theorem underWay_of_active (laws : StoreLaws host.store)
    (found : host.store.findActiveDownload modelId = some row) : UnderWay modelId host row := by
  have busy := List.find?_some found
  rw [decide_eq_true_eq] at busy
  have mem : row ∈ host.store.downloads := List.mem_of_find?_eq_some found
  refine ⟨laws, ?_, busy.1, busy.2⟩
  cases same : host.store.findDownload row.operationId with
  | none => simpa using List.find?_eq_none.1 same row mem
  | some other =>
    obtain ⟨memOther, named⟩ := ModelStore.findDownload_mem same
    rw [laws.keyed.eq_of_operation memOther mem named]

theorem UnderWay.mem (way : UnderWay modelId host row) : row ∈ host.store.downloads :=
  (ModelStore.findDownload_mem way.found).1

/-- A row that is found under another host's directories. -/
theorem UnderWay.withTemp (way : UnderWay modelId host row) (temp : FileTree) :
    UnderWay modelId { host with temp } row := ⟨way.laws, way.found, way.model, way.active⟩

/-- No other row of the model is under way. -/
theorem UnderWay.only (way : UnderWay modelId host row) {other : ModelDownload}
    (mem : other ∈ host.store.downloads) (model : other.modelId = modelId)
    (active : other.status.isActive = true) : other = row := by
  have memOther : other ∈ host.store.downloads.filter fun row => row.status.isActive :=
    List.mem_filter.2 ⟨mem, active⟩
  have memRow : row ∈ host.store.downloads.filter fun row => row.status.isActive :=
    List.mem_filter.2 ⟨way.mem, way.active⟩
  exact List.inj_on_of_nodup_map way.laws.single memOther memRow (model.trans way.model.symm)

theorem hasSize_of_updates {op : ModelOp} {operationId : String}
    (names : op.updates = some operationId) : HasSize op := by
  cases op with
  | create => cases names
  | _ => trivial

/-- The row that an update wrote is the one that is found. -/
theorem findDownload_written {tables : ModelStore} (kept : tables.downloads = host.store.downloads)
    (way : UnderWay modelId host row) {after : ModelDownload}
    (named : after.operationId = row.operationId) :
    (tables.replaceDownload after).findDownload after.operationId = some after := by
  have found : tables.findDownload row.operationId = some row := by
    have before := way.found
    unfold ModelStore.findDownload at before ⊢
    rw [kept]
    exact before
  rw [named]
  exact ModelStore.findDownload_replaced found named

/-- An update writes the row when it fits, and raises when it does not. -/
theorem follows_answered (way : UnderWay modelId host row) {op : ℚ → ModelOp}
    (names : ∀ now, (op now).updates = some row.operationId) :
    (ModelTask.perform op).Follows (hosted sha256)
      (fun after written => ∃ (now : ℚ) (tables : ModelStore), (op now).Fits row ∧
        Rewritten (op now) row written ∧ tables.downloads = host.store.downloads ∧
        StoreLaws (tables.replaceDownload written) ∧
        after = { host with store := tables.replaceDownload written })
      (fun after error => after = host ∧ (∃ kind, error = .store kind) ∧
        ∃ now, ¬ (op now).Fits row) host := by
  have answered : ∀ now, UpdateAnswer host.store (op now) row ((op now).exec host.store) :=
    fun now => exec_update way.laws.keyed (names now) way.found
  apply follows_perform
  · intro now written after ran
    have laws := laws_step way.laws (hasSize_of_updates (names now))
    have answer := answered now
    rw [ran] at answer laws
    cases answer with
    | wrote fit _ rewritten =>
      exact ⟨now, _, fit, rewritten, records_downloads (op now) host.store, laws, rfl⟩
  · intro now tables ran
    have answer := answered now
    rw [ran] at answer
    cases answer
  · intro now error tables ran
    have answer := answered now
    rw [ran] at answer
    cases answer with
    | raised unfit => exact ⟨rfl, ⟨error, rfl⟩, now, unfit⟩

/-- What an update leaves of the operation, when its status stays an active one. -/
structure MovedOn (op : ModelOp) (modelId : String) (host after : ModelHost)
    (row written : ModelDownload) : Prop where
  way : UnderWay modelId after written
  rewritten : Rewritten op row written
  temp : after.temp = host.temp

theorem follows_update (way : UnderWay modelId host row) {op : ℚ → ModelOp}
    (names : ∀ now, (op now).updates = some row.operationId)
    (stays : ∀ now, ((op now).statusAfter row).isActive = true) :
    (ModelTask.perform op).Follows (hosted sha256)
      (fun after written => ∃ now, MovedOn (op now) modelId host after row written)
      (fun after error => after = host ∧ ∃ kind, error = .store kind) host := by
  refine Attempt.follows_mono (follows_answered way names) ?_ ?_
  · rintro _ written ⟨now, tables, _, rewritten, kept, laws, rfl⟩
    refine ⟨now, ⟨laws, ?_, rewritten.model.trans way.model, ?_⟩, rewritten, rfl⟩
    · exact findDownload_written kept way rewritten.operation
    · rw [rewritten.status]
      exact stays now
  · rintro after error ⟨same, kind, _⟩
    exact ⟨same, kind⟩

/-- The operation is at its end, and no other one of its model is under way. -/
def Ended (modelId : String) (host : ModelHost) (operation : ModelDownload) : Prop :=
  operation.status.isTerminal = true ∧ host.store.findActiveDownload modelId = none

theorem isActive_of_terminal {status : ModelDownloadStatus} (final : status.isTerminal = true) :
    status.isActive = false := by
  cases status <;> first | rfl | cases final

/-- The one operation under way is at its end, so there is none. -/
theorem findActive_ended (way : UnderWay modelId host row) {tables : ModelStore}
    (kept : tables.downloads = host.store.downloads) {written : ModelDownload}
    (named : written.operationId = row.operationId) (final : written.status.isTerminal = true) :
    (tables.replaceDownload written).findActiveDownload modelId = none := by
  refine List.find?_eq_none.2 ?_
  intro other mem busy
  rw [decide_eq_true_eq] at busy
  unfold ModelStore.replaceDownload at mem
  rw [kept] at mem
  obtain ⟨old, memOld, result⟩ := List.mem_map.1 mem
  split at result
  · subst result
    rw [isActive_of_terminal final] at busy
    exact absurd busy.2 Bool.noConfusion
  next different =>
    subst result
    apply different
    rw [way.only memOld busy.1 busy.2, named]

theorem follows_ending (way : UnderWay modelId host row) {op : ℚ → ModelOp}
    (names : ∀ now, (op now).updates = some row.operationId)
    (ends : ∀ now, ((op now).statusAfter row).isTerminal = true) :
    (ModelTask.perform op).Follows (hosted sha256) (Ended modelId)
      (fun after error => after = host ∧ (∃ kind, error = .store kind) ∧
        ∃ now, ¬ (op now).Fits row) host := by
  refine Attempt.follows_mono (follows_answered way names) ?_ fun _ _ raised => raised
  rintro _ written ⟨now, tables, _, rewritten, kept, _, rfl⟩
  have final : written.status.isTerminal = true := by
    rw [rewritten.status]
    exact ends now
  exact ⟨final, findActive_ended way kept rewritten.operation final⟩

end

/-! ## Runs -/

abbrev InstallSite := ModelHost × Asked

section

variable (config : InstallConfig) (outside : World)

/-- A task with nobody else at work. -/
def runAlone {α : Type} (task : ModelTask α) (site : InstallSite) :
    Except InstallError α × InstallSite :=
  task.run.exec (ModelHost.serveAlone config.sha256 outside) site

variable {config outside} {host : ModelHost} {asked : Asked}

theorem ends_of_follows {α : Type} {task : ModelTask α} {post : ModelHost → α → Prop}
    {raises : ModelHost → InstallError → Prop}
    (follows : task.Follows (hosted config.sha256) post raises host) :
    Attempt.Ends post raises (runAlone config outside task (host, asked)).2.1
      (runAlone config outside task (host, asked)).1 :=
  @Process.exec_of_follows _ _ _ _ (hosted config.sha256) _
    (ModelHost.serveAlone config.sha256 outside) Prod.fst (Attempt.Ends post raises)
    (fun _ site => ⟨outside.answer site.2, rfl⟩) task.run (host, asked) follows

theorem runAlone_bind {α β : Type} (first : ModelTask β) (next : β → ModelTask α)
    (site : InstallSite) :
    runAlone config outside (first >>= next) site =
      match runAlone config outside first site with
      | (.ok value, after) => runAlone config outside (next value) after
      | (.error error, after) => (.error error, after) := by
  unfold runAlone
  rw [Attempt.exec_bind]
  rcases first.run.exec (ModelHost.serveAlone config.sha256 outside) site with ⟨_ | _, _⟩ <;> rfl

theorem runAlone_bind_assoc {α β γ : Type} (first : ModelTask γ) (next : γ → ModelTask β)
    (last : β → ModelTask α) (site : InstallSite) :
    runAlone config outside (first >>= next >>= last) site =
      runAlone config outside (first >>= fun value => next value >>= last) site := by
  rw [runAlone_bind, runAlone_bind, runAlone_bind]
  rcases runAlone config outside first site with ⟨_ | value, after⟩
  · rfl
  · exact (runAlone_bind (next value) last after).symm

theorem runAlone_tryCatch {α : Type} (body : ModelTask α) (handle : InstallError → ModelTask α)
    (site : InstallSite) :
    runAlone config outside (tryCatch body handle) site =
      match runAlone config outside body site with
      | (.ok value, after) => (.ok value, after)
      | (.error error, after) => runAlone config outside (handle error) after := by
  unfold runAlone
  rw [Attempt.exec_tryCatch]
  rcases body.run.exec (ModelHost.serveAlone config.sha256 outside) site with ⟨_ | _, _⟩ <;> rfl

/-- A function of the repository, at the time the clock gives. -/
theorem runAlone_perform (op : ℚ → ModelOp) (host : ModelHost) (asked : Asked) :
    runAlone config outside (ModelTask.perform op) (host, asked) =
      match (op (outside.clock asked.readings)).exec host.store with
      | (.ok (some row), store) => (.ok row, { host with store }, asked.next .now)
      | (.ok none, store) => (.error .unexpected, { host with store }, asked.next .now)
      | (.error error, store) => (.error (.store error), { host with store }, asked.next .now) := by
  have read : runAlone config outside ModelTask.now (host, asked) =
      (.ok (outside.clock asked.readings), host, asked.next .now) := rfl
  have served : runAlone config outside
      (Attempt.call (ModelCall.perform (op (outside.clock asked.readings))))
        (host, asked.next .now) =
      (.ok ((op (outside.clock asked.readings)).exec host.store).1,
        { host with store := ((op (outside.clock asked.readings)).exec host.store).2 },
        asked.next .now) := rfl
  unfold ModelTask.perform
  rw [runAlone_bind, read]
  dsimp only
  rw [runAlone_bind, served]
  rcases (op (outside.clock asked.readings)).exec host.store with ⟨_ | _ | _, _⟩ <;> rfl

/-- An update of the operation under way, with an active status after it. -/
theorem runAlone_update (config : InstallConfig) (outside : World) (asked : Asked)
    {modelId : String} {row : ModelDownload} (way : UnderWay modelId host row) (op : ℚ → ModelOp)
    (names : ∀ now, (op now).updates = some row.operationId)
    (stays : ∀ now, ((op now).statusAfter row).isActive = true) :
    ((op (outside.clock asked.readings)).Fits row → ∃ after written,
      runAlone config outside (ModelTask.perform op) (host, asked) =
        (.ok written, after, asked.next .now) ∧
      MovedOn (op (outside.clock asked.readings)) modelId host after row written) ∧
    (¬ (op (outside.clock asked.readings)).Fits row → ∃ kind,
      runAlone config outside (ModelTask.perform op) (host, asked) =
        (.error (.store kind), host, asked.next .now)) := by
  generalize time : outside.clock asked.readings = now
  have answer := exec_update way.laws.keyed (names now) way.found
  have laws := laws_step way.laws (hasSize_of_updates (names now))
  rw [runAlone_perform, time]
  generalize (op now).exec host.store = answered at answer laws
  cases answer with
  | wrote fit written rewritten =>
    refine ⟨fun _ => ⟨_, written, rfl, ⟨laws, ?_, ?_, ?_⟩, rewritten, rfl⟩, fun unfit => absurd fit unfit⟩
    · exact findDownload_written (records_downloads (op now) host.store) way rewritten.operation
    · exact rewritten.model.trans way.model
    · rw [rewritten.status]
      exact stays now
  | raised unfit error => exact ⟨fun fit => absurd fit unfit, fun _ => ⟨error, rfl⟩⟩

end

end EvoBlue.Guarantees
