import EvoBlue.Guarantees.InstallConduct
import EvoBlue.Guarantees.InstallEnds
import EvoBlue.Guarantees.InstalledFiles

/-!
# An install and an uninstall of one model

The uninstall checks for a download under way in one session and deletes the rows in a
later one that does not check again. An install that promotes its files between the two
leaves a version directory without a record. In every interleaving in which the rows are
deleted while nothing is `installing` and no version directory is there, records and
directories agree when both have finished.
-/

namespace EvoBlue.Guarantees

open EvoBlue.Kernel EvoBlue.Source

/-! ## The uninstall -/

inductive UninstallPhase where
  | before
  /-- No download was under way. -/
  | checked
  /-- The directory is in the trash, and the rows are still there. -/
  | moved
  | deleted
  | refused
  deriving DecidableEq

inductive UninstallMoves : UninstallPhase → (call : UninstallCall) → UninstallAnswer call →
    UninstallPhase → Prop
  | refused (row : ModelDownload) :
      UninstallMoves .before .findActiveDownload (some row) .refused
  | checked : UninstallMoves .before .findActiveDownload none .checked
  | moved (there : Bool) : UninstallMoves .checked .moveToTrash there .moved
  | deleted : UninstallMoves .moved .deleteRows (.ok ()) .deleted
  | reclaimed : UninstallMoves .deleted .reclaimTrash () .deleted
  | removed : UninstallMoves .deleted .removeDownloads () .deleted

inductive UninstallAllowed : UninstallPhase → UninstallCall → Prop
  | check : UninstallAllowed .before .findActiveDownload
  | move : UninstallAllowed .checked .moveToTrash
  | delete : UninstallAllowed .moved .deleteRows
  | reclaim : UninstallAllowed .deleted .reclaimTrash
  | remove : UninstallAllowed .deleted .removeDownloads

def uninstallPhases : Protocol UninstallCall UninstallAnswer UninstallPhase where
  allowed := UninstallAllowed
  moves := UninstallMoves

/-- It refuses, or deletes what it has moved away. -/
theorem uninstallTask_follows :
    uninstallTask.Follows uninstallPhases (fun after _ => after = .deleted)
      (fun after _ => after = .refused) .before := by
  unfold uninstallTask
  apply Attempt.follows_call UninstallAllowed.check
  intro active after moved
  cases moved with
  | refused row => exact Attempt.follows_throw rfl
  | checked =>
    apply Attempt.follows_call UninstallAllowed.move
    intro there after moved
    cases moved
    apply Attempt.follows_call UninstallAllowed.delete
    intro deleted after moved
    cases moved
    cases there with
    | false =>
      apply Attempt.follows_call UninstallAllowed.remove
      intro _ after moved
      cases moved
      exact Attempt.follows_pure rfl
    | true =>
      apply Attempt.follows_call UninstallAllowed.reclaim
      intro _ after moved
      cases moved
      apply Attempt.follows_call UninstallAllowed.remove
      intro _ after moved
      cases moved
      exact Attempt.follows_pure rfl

/-! ## Records and directories -/

section

variable (config : InstallConfig)

def Recorded (host : ModelHost) (version : String) : Prop :=
  (host.store.findInstall config.manifest.modelId version).isSome = true

def Placed (host : ModelHost) (version : String) : Prop := (host.version version).isSome = true

/-- The directory of the manifest's version, when it is there, holds the installed files. -/
def InstalledThere (host : ModelHost) : Prop :=
  ∀ files, host.version config.manifest.version = some files →
    Installed config.sha256 config.manifest files

/-- A version is recorded exactly when it has its directory, which holds the installed files, and
the active version is a recorded one. -/
structure RecordsAgree (host : ModelHost) : Prop where
  records : ∀ version, Recorded config host version ↔ Placed host version
  installed : InstalledThere config host
  actives : ∀ active ∈ host.store.actives, active.modelId = config.manifest.modelId →
    Recorded config host active.activeVersion

/-- The operation is `installing` the manifest's version. -/
def IsInstalling (host : ModelHost) (operationId : String) : Prop :=
  ∃ row, host.store.findDownload operationId = some row ∧ row.modelId = config.manifest.modelId ∧
    row.version = config.manifest.version ∧ row.status = .installing

/-- What lies under the temporary path stages to what the version directory holds. -/
def StagesAgain (host : ModelHost) (files : FileTree) : Prop :=
  host.temp = files ∧ ∃ staged, stageTemp config files = .ok staged ∧
    ∃ existing, host.version config.manifest.version = some existing ∧
      existing.alike config.sha256 staged = true

/-- The record of the version is all that an earlier run left to write. -/
structure AwaitsRecord (host : ModelHost) (files : FileTree) : Prop where
  active : ∃ row, host.store.findActiveDownload config.manifest.modelId = some row ∧
    row.status = .installing ∧ row.version = config.manifest.version
  again : StagesAgain config host files
  unrecorded : ¬ Recorded config host config.manifest.version

/-- What an install and an uninstall start from: records and directories agree, or an earlier
install was interrupted between its promotion and its record. -/
structure PriorHost (host : ModelHost) : Prop where
  written : ∃ ops, (∀ op ∈ ops, HasSize op) ∧ host.store = storeAfter ops
  installed : InstalledThere config host
  others : ∀ version, version ≠ config.manifest.version →
    (Recorded config host version ↔ Placed host version)
  version : (Recorded config host config.manifest.version ↔ Placed host config.manifest.version) ∨
    AwaitsRecord config host host.temp

/-- The rows are deleted when nothing is `installing` and no version directory is there. -/
def DeletesCleanly (host : ModelHost) : UninstallCall → Prop
  | .deleteRows => host.versions = [] ∧
    ∀ row ∈ host.store.downloads, row.modelId = config.manifest.modelId → row.status ≠ .installing
  | _ => True

instance DeletesCleanly.decidable (host : ModelHost) :
    ∀ call, Decidable (DeletesCleanly config host call)
  | .deleteRows => inferInstanceAs (Decidable (host.versions = [] ∧
      ∀ row ∈ host.store.downloads, row.modelId = config.manifest.modelId →
        row.status ≠ .installing))
  | .findActiveDownload | .moveToTrash | .restoreDirectory | .reclaimTrash | .removeDownloads =>
    .isTrue trivial

/-! ## Both at once -/

/-- What the phase of the install says of the host. -/
def HandFits (host : ModelHost) : InstallPhase → Prop
  | .idle => True
  | .vacant => host.store.findActiveDownload config.manifest.modelId = none
  | .pending files => AwaitsRecord config host files
  | .holding operationId => ∀ row, host.store.findDownload operationId = some row →
    row.modelId = config.manifest.modelId ∧ row.version = config.manifest.version
  | .staging operationId => IsInstalling config host operationId
  | .resuming operationId files =>
    IsInstalling config host operationId ∧ StagesAgain config host files
  | .promoted operationId => IsInstalling config host operationId

/-- The files of an earlier run wait for their record. -/
def Resumes : InstallPhase → Bool
  | .pending _ => true
  | .resuming _ _ => true
  | _ => false

structure Together (phase : InstallPhase) (stage : UninstallPhase) (host : ModelHost) : Prop where
  laws : StoreLaws host.store
  installed : InstalledThere config host
  hand : HandFits config host phase
  early : Resumes phase = true → stage = .before ∨ stage = .refused
  recorded : stage ≠ .moved → ∀ version, Recorded config host version → Placed host version
  placed : stage ≠ .moved → ∀ version, Placed host version → Recorded config host version ∨
    version = config.manifest.version ∧ phase.isPlain = false
  promoted : stage ≠ .moved → phase.isPlain = false → Placed host config.manifest.version

end

section

variable {config : InstallConfig} {phase : InstallPhase} {stage : UninstallPhase} {host : ModelHost}

theorem serve_quiet {call : ModelCall} (quiet : call.isQuiet = true)
    (outside : ∀ call, ModelAnswer call) :
    (ModelHost.serve config.sha256 outside call host).2.store = host.store ∧
      (ModelHost.serve config.sha256 outside call host).2.versions = host.versions := by
  cases call with
  | perform | promote | findActiveDownload => cases quiet
  | _ => exact ⟨rfl, rfl⟩

/-- A plain phase is no matter of the temporary files. -/
theorem Together.withFiles (together : Together config phase stage host)
    (early : Resumes phase = false) {after : ModelHost} (store : after.store = host.store)
    (versions : after.versions = host.versions) : Together config phase stage after := by
  obtain ⟨laws, installed, hand, _, recorded, placed, promoted⟩ := together
  unfold InstalledThere Recorded Placed ModelHost.version at *
  rw [← store] at laws recorded placed
  rw [← versions] at installed recorded placed promoted
  refine ⟨laws, installed, ?_, ?_, recorded, placed, promoted⟩
  · cases phase with
    | idle => trivial
    | vacant | holding | staging | promoted =>
      unfold HandFits IsInstalling at *
      rw [store]
      exact hand
    | pending | resuming => cases early
  · intro resumes
    rw [early] at resumes
    cases resumes

theorem resumes_of_plain (plain : phase.isPlain = true) : Resumes phase = false := by
  cases phase <;> first | rfl | cases plain

theorem isInstalling_active {operationId : String}
    (installing : IsInstalling config host operationId) :
    host.store.findActiveDownload config.manifest.modelId ≠ none := by
  obtain ⟨row, found, model, _, status⟩ := installing
  obtain ⟨mem, _⟩ := ModelStore.findDownload_mem found
  intro idle
  have other := List.find?_eq_none.1 idle row mem
  rw [status] at other
  simp [model, ModelDownloadStatus.isActive] at other

/-! ## Steps of the uninstall -/

theorem together_check (together : Together config phase .before host) :
    ∃ after, UninstallMoves .before .findActiveDownload
      (host.store.findActiveDownload config.manifest.modelId) after ∧
      Together config phase after host := by
  obtain ⟨laws, installed, hand, early, recorded, placed, promoted⟩ := together
  cases found : host.store.findActiveDownload config.manifest.modelId with
  | some row =>
    refine ⟨.refused, .refused row, laws, installed, hand, fun _ => .inr rfl, ?_, ?_, ?_⟩
    · exact fun _ => recorded UninstallPhase.noConfusion
    · exact fun _ => placed UninstallPhase.noConfusion
    · exact fun _ => promoted UninstallPhase.noConfusion
  | none =>
    refine ⟨.checked, .checked, laws, installed, hand, fun resumes => ?_, ?_, ?_, ?_⟩
    · cases phase with
      | pending files =>
        obtain ⟨row, active, _⟩ := hand.active
        rw [found] at active
        cases active
      | resuming operationId files => exact absurd found (isInstalling_active hand.1)
      | _ => cases resumes
    · exact fun _ => recorded UninstallPhase.noConfusion
    · exact fun _ => placed UninstallPhase.noConfusion
    · exact fun _ => promoted UninstallPhase.noConfusion

theorem not_early (together : Together config phase stage host)
    (late : stage ≠ .before ∧ stage ≠ .refused) : Resumes phase = false := by
  apply Bool.eq_false_iff.2
  intro resumes
  rcases together.early resumes with same | same
  · exact late.1 same
  · exact late.2 same

theorem together_move (together : Together config phase .checked host) (there : Bool) :
    ∃ after, UninstallMoves .checked .moveToTrash there after ∧
      Together config phase after { host with versions := [], trash := host.versions } := by
  have late := not_early together ⟨UninstallPhase.noConfusion, UninstallPhase.noConfusion⟩
  obtain ⟨laws, installed, hand, _, _, _, _⟩ := together
  refine ⟨.moved, .moved there, laws, ?_, ?_, ?_, ?_, ?_, ?_⟩
  · intro files absent
    cases absent
  · cases phase with
    | idle => trivial
    | vacant | holding | staging | promoted => exact hand
    | pending | resuming => cases late
  · intro resumes
    rw [late] at resumes
    cases resumes
  · exact fun moved => absurd rfl moved
  · exact fun moved => absurd rfl moved
  · exact fun moved => absurd rfl moved

theorem findDownload_without {store : ModelStore} (keyed : store.Keyed) {modelId operationId : String}
    (only : ∀ row, store.findDownload operationId = some row → row.modelId = modelId) :
    (store.without modelId).findDownload operationId = none := by
  apply List.find?_eq_none.2
  intro row mem named
  obtain ⟨memStore, other⟩ := List.mem_filter.1 mem
  have found : store.findDownload operationId = some row := by
    cases same : store.findDownload operationId with
    | none => exact absurd named (List.find?_eq_none.1 same row memStore)
    | some earlier =>
      obtain ⟨memEarlier, namedEarlier⟩ := ModelStore.findDownload_mem same
      rw [decide_eq_true_eq] at named
      rw [keyed.eq_of_operation memEarlier memStore (namedEarlier.trans named.symm)]
  exact of_decide_eq_true other (only row found)

theorem together_delete (together : Together config phase .moved host)
    (clear : DeletesCleanly config host .deleteRows) :
    ∃ after, UninstallMoves .moved .deleteRows (.ok ()) after ∧ Together config phase after
      { host with store := host.store.without config.manifest.modelId } := by
  have late := not_early together ⟨UninstallPhase.noConfusion, UninstallPhase.noConfusion⟩
  obtain ⟨laws, installed, hand, _, _, _, _⟩ := together
  obtain ⟨none, idle⟩ := clear
  have unrecorded : ∀ version, ¬ Recorded config
      { host with store := host.store.without config.manifest.modelId } version := by
    intro version there
    obtain ⟨row, found⟩ := Option.isSome_iff_exists.1 there
    have named := List.find?_some found
    rw [decide_eq_true_eq] at named
    have other := (List.mem_filter.1 (List.mem_of_find?_eq_some found)).2
    exact of_decide_eq_true other named.1
  have unplaced : ∀ version, ¬ Placed
      { host with store := host.store.without config.manifest.modelId } version := by
    intro version there
    unfold Placed ModelHost.version at there
    rw [none] at there
    cases there
  have notInstalling : ∀ operationId, ¬ IsInstalling config host operationId := by
    rintro operationId ⟨row, found, model, _, status⟩
    exact idle row (ModelStore.findDownload_mem found).1 model status
  have plain : phase.isPlain = true := by
    cases phase with
    | idle | vacant | holding | staging => rfl
    | promoted operationId => exact absurd hand (notInstalling operationId)
    | pending | resuming => cases late
  refine ⟨.deleted, .deleted, laws_without laws _, installed, ?_, ?_, ?_, ?_, ?_⟩
  · cases phase with
    | idle => trivial
    | vacant =>
      apply List.find?_eq_none.2
      intro row mem busy
      rw [decide_eq_true_eq] at busy
      exact of_decide_eq_true (List.mem_filter.1 mem).2 busy.1
    | holding operationId =>
      intro row found
      change (host.store.without config.manifest.modelId).findDownload operationId = some row at found
      rw [findDownload_without laws.keyed fun row there => (hand row there).1] at found
      cases found
    | staging operationId => exact absurd hand (notInstalling operationId)
    | promoted | pending | resuming => cases plain
  · intro resumes
    rw [late] at resumes
    cases resumes
  · exact fun _ version there => absurd there (unrecorded version)
  · exact fun _ version there => absurd there (unplaced version)
  · intro _ waits
    rw [plain] at waits
    cases waits

/-- One call of the uninstall. -/
theorem together_uninstall (phase : InstallPhase) (stage : UninstallPhase) (host : ModelHost)
    (call : UninstallCall) (together : Together config phase stage host)
    (allowed : uninstallPhases.allowed stage call) (clear : DeletesCleanly config host call) :
    ∃ after, uninstallPhases.moves stage call
      (ModelHost.serveUninstall config.manifest.modelId call host).1 after ∧
      Together config phase after
        (ModelHost.serveUninstall config.manifest.modelId call host).2 := by
  cases allowed with
  | check => exact together_check together
  | move => exact together_move together _
  | delete => exact together_delete together clear
  | reclaim =>
    have late := not_early together ⟨UninstallPhase.noConfusion, UninstallPhase.noConfusion⟩
    exact ⟨.deleted, .reclaimed, together.withFiles late rfl rfl⟩
  | remove =>
    have late := not_early together ⟨UninstallPhase.noConfusion, UninstallPhase.noConfusion⟩
    exact ⟨.deleted, .removed, together.withFiles late rfl rfl⟩

/-! ## Steps of the install -/

/-- What a step of the install needs to show. -/
abbrev StepsTogether (config : InstallConfig) (phase : InstallPhase) (stage : UninstallPhase)
    (call : ModelCall) (served : ModelAnswer call × ModelHost) : Prop :=
  ∃ after, InstallMoves config phase call served.1 after ∧ Together config after stage served.2

/-- Another plain phase on the same host. -/
theorem Together.turns (together : Together config phase stage host) (plain : phase.isPlain = true)
    {after : InstallPhase} (plainAfter : after.isPlain = true) (hand : HandFits config host after) :
    Together config after stage host := by
  obtain ⟨laws, installed, _, _, recorded, placed, _⟩ := together
  refine ⟨laws, installed, hand, fun resumes => ?_, recorded, fun moved version there => ?_, ?_⟩
  · rw [resumes_of_plain plainAfter] at resumes
    cases resumes
  · rcases placed moved version there with known | ⟨_, waits⟩
    · exact .inl known
    · rw [plain] at waits
      cases waits
  · intro _ waits
    rw [plainAfter] at waits
    cases waits

/-- An update writes a row and no more. -/
theorem Together.rewrote (together : Together config phase stage host)
    (plain : phase.isPlain = true) (written : ModelDownload)
    (laws : StoreLaws (host.store.replaceDownload written)) {after : InstallPhase}
    (plainAfter : after.isPlain = true)
    (hand : HandFits config { host with store := host.store.replaceDownload written } after) :
    Together config after stage { host with store := host.store.replaceDownload written } := by
  obtain ⟨_, installed, _, _, recorded, placed, _⟩ := together
  refine ⟨laws, installed, hand, fun resumes => ?_, recorded, fun moved version there => ?_, ?_⟩
  · rw [resumes_of_plain plainAfter] at resumes
    cases resumes
  · rcases placed moved version there with known | ⟨_, waits⟩
    · exact .inl known
    · rw [plain] at waits
      cases waits
  · intro _ waits
    rw [plainAfter] at waits
    cases waits

theorem version_put (host : ModelHost) (version : String) (files : FileTree) :
    (host.putVersion version files).version version = some files := by
  have gone : (host.versions.filter fun dir => dir.1 ≠ version).find?
      (fun dir => dir.1 = version) = none := by
    apply List.find?_eq_none.2
    intro dir mem
    have kept := (List.mem_filter.1 mem).2
    simpa using kept
  unfold ModelHost.version ModelHost.putVersion
  rw [List.find?_append, gone]
  simp

/-- The other directories stay. -/
theorem version_put_other (host : ModelHost) {version other : String} (files : FileTree)
    (different : other ≠ version) :
    (host.putVersion version files).version other = host.version other := by
  have kept : (host.versions.filter fun dir => dir.1 ≠ version).find?
      (fun dir => dir.1 = other) = host.versions.find? fun dir => dir.1 = other := by
    rw [List.find?_filter]
    congr 1
    funext dir
    by_cases named : dir.1 = other
    · simp [named, different]
    · simp [named]
  unfold ModelHost.version ModelHost.putVersion
  rw [List.find?_append, kept]
  simp [different.symm]

/-- A version directory is put in its place, and its record is still to be written. -/
theorem Together.putsVersion {operationId : String} {files : FileTree}
    (together : Together config phase stage host)
    (installed : Installed config.sha256 config.manifest files)
    (installing : IsInstalling config host operationId) :
    Together config (.promoted operationId) stage
      (host.putVersion config.manifest.version files) := by
  obtain ⟨laws, _, _, _, recorded, placed, _⟩ := together
  have there : Placed (host.putVersion config.manifest.version files) config.manifest.version := by
    unfold Placed
    rw [version_put]
    rfl
  have others : ∀ version, version ≠ config.manifest.version →
      (Placed (host.putVersion config.manifest.version files) version ↔ Placed host version) := by
    intro version different
    unfold Placed
    rw [version_put_other host files different]
  refine ⟨laws, ?_, installing, fun resumes => (nomatch resumes), ?_, ?_, fun _ _ => there⟩
  · intro held found
    rw [version_put] at found
    cases found
    exact installed
  · intro moved version known
    by_cases same : version = config.manifest.version
    · subst same
      exact there
    · exact (others version same).2 (recorded moved version known)
  · intro moved version placedAfter
    by_cases same : version = config.manifest.version
    · exact .inr ⟨same, rfl⟩
    · rcases placed moved version ((others version same).1 placedAfter) with known | ⟨only, _⟩
      · exact .inl known
      · exact absurd only same

theorem together_find (together : Together config .idle stage host) :
    StepsTogether config .idle stage (.findActiveDownload config.manifest.modelId)
      (host.store.findActiveDownload config.manifest.modelId, host) := by
  cases found : host.store.findActiveDownload config.manifest.modelId with
  | none => exact ⟨.vacant, .none, together.turns rfl rfl found⟩
  | some row =>
    have way := underWay_of_active together.laws found
    by_cases same : row.version = config.manifest.version
    · by_cases installing : row.status = .installing
      · refine ⟨.staging row.operationId, .found same (.staging installing) rfl, ?_⟩
        exact together.turns rfl rfl ⟨row, way.found, way.model, same, installing⟩
      · refine ⟨.holding row.operationId, .found same (.holding installing) rfl, ?_⟩
        apply together.turns rfl rfl
        intro other there
        rw [way.found] at there
        cases there
        exact ⟨way.model, same⟩
    · exact ⟨.idle, .other same, together⟩

theorem together_create (together : Together config .vacant stage host) {new : NewDownload}
    (isFor : new.IsFor config) :
    StepsTogether config .vacant stage (.perform (.create new))
      (((ModelOp.create new).exec host.store).1,
        { host with store := ((ModelOp.create new).exec host.store).2 }) := by
  have effect : StoreLaws ((ModelOp.create new).exec host.store).2 :=
    laws_step together.laws isFor.2.2
  rw [exec_create] at effect ⊢
  split
  next admitted =>
    rw [if_pos admitted] at effect
    obtain ⟨laws, installed, hand, _, recorded, placed, _⟩ := together
    refine ⟨.holding new.row.operationId, .created rfl, effect, installed, ?_, ?_, recorded, ?_, ?_⟩
    · intro row found
      have free : host.store.findDownload new.operationId = none := by
        unfold ModelStore.admits at admitted
        rw [Bool.and_eq_true, Option.isNone_iff_eq_none] at admitted
        exact admitted.1
      unfold ModelStore.findDownload at free
      change (host.store.downloads ++ [new.row]).find? _ = some row at found
      have named : new.row.operationId = new.operationId := rfl
      rw [List.find?_append, named, free, Option.none_or] at found
      obtain rfl := List.mem_singleton.1 (List.mem_of_find?_eq_some found)
      exact ⟨isFor.1, isFor.2.1⟩
    · intro resumes
      cases resumes
    · intro moved version there
      rcases placed moved version there with known | ⟨_, waits⟩
      · exact .inl known
      · cases waits
    · intro _ waits
      cases waits
  · exact ⟨.vacant, .refused _, together⟩

/-- The tables of installations are another matter. -/
theorem records_of_open {op : ModelOp} (open_ : op.isComplete = false) (store : ModelStore) :
    op.records store = store := by
  cases op with
  | complete => cases open_
  | _ => rfl

theorem statusAfter_target {op : ModelOp} {operationId : String} {row : ModelDownload}
    (names : op.updates = some operationId) (open_ : op.isComplete = false)
    {toStatus : ModelDownloadStatus} (target : op.target = some toStatus) :
    op.statusAfter row = toStatus := by
  cases op with
  | advance => exact Option.some.inj target
  | _ => cases target

theorem together_update {operationId : String} {op : ModelOp} (handled : Handled operationId phase)
    (names : op.updates = some operationId) (open_ : op.isComplete = false)
    (together : Together config phase stage host) :
    StepsTogether config phase stage (.perform op)
      ((op.exec host.store).1, { host with store := (op.exec host.store).2 }) := by
  have laws := laws_step together.laws (hasSize_of_updates names)
  cases found : host.store.findDownload operationId with
  | none =>
    rw [exec_missing names found]
    exact ⟨phase, .unchanged handled _, together⟩
  | some row =>
    have answer := exec_update together.laws.keyed names found
    have owned : row.modelId = config.manifest.modelId ∧ row.version = config.manifest.version := by
      obtain rfl | rfl := handled
      · exact together.hand row found
      · obtain ⟨other, there, model, version, _⟩ := together.hand
        rw [found] at there
        cases there
        exact ⟨model, version⟩
    generalize op.exec host.store = outcome at answer laws
    cases answer with
    | raised unfit error => exact ⟨phase, .unchanged handled _, together⟩
    | wrote fit written rewritten =>
      rw [records_of_open open_] at laws ⊢
      obtain ⟨mem, named⟩ := ModelStore.findDownload_mem found
      have foundAfter := ModelStore.findDownload_replaced found (rewritten.operation.trans named)
      have sameModel := rewritten.model.trans owned.1
      have sameVersion := rewritten.version.trans owned.2
      have goes : ∀ {after : InstallPhase}, after.isPlain = true →
          HandFits config { host with store := host.store.replaceDownload written } after →
          Together config after stage { host with store := host.store.replaceDownload written } :=
        fun plain hand => together.rewrote handled.plain written laws plain hand
      have held : HandFits config { host with store := host.store.replaceDownload written }
          (.holding operationId) := by
        intro other there
        change (host.store.replaceDownload written).findDownload operationId = some other at there
        rw [foundAfter] at there
        cases there
        exact ⟨sameModel, sameVersion⟩
      obtain rfl | rfl := handled
      · have status : ∀ toStatus, op.target = some toStatus → written.status = toStatus := by
          intro toStatus target
          rw [rewritten.status, statusAfter_target names open_ target]
        by_cases installs : op.target = some .installing
        · refine ⟨.staging operationId, .installing (rewritten.operation.trans named) installs
            (status _ installs), goes rfl ?_⟩
          exact ⟨written, foundAfter, sameModel, sameVersion, status _ installs⟩
        · exact ⟨.holding operationId, .updated (rewritten.operation.trans named) status installs,
            goes rfl held⟩
      · exact ⟨.holding operationId, .ended, goes rfl held⟩

/-- Files that become the version directory. -/
theorem together_promote {operationId : String} {files staged : FileTree}
    (ready : stageTemp config files = .ok staged)
    (together : Together config (.staging operationId) stage host)
    (outside : ∀ call, ModelAnswer call) :
    StepsTogether config (.staging operationId) stage (.promote config.manifest.version staged)
      (ModelHost.serve config.sha256 outside (.promote config.manifest.version staged) host) := by
  cases promoted : promote config.sha256 (host.version config.manifest.version) staged with
  | error error =>
    have served : ModelHost.serve config.sha256 outside (.promote config.manifest.version staged)
        host = (.error error, host) := ModelHost.serve_refused promoted
    rw [served]
    exact ⟨.staging operationId, .notPromoted error, together⟩
  | ok placed =>
    have served : ModelHost.serve config.sha256 outside (.promote config.manifest.version staged)
        host = (.ok (), host.putVersion config.manifest.version placed) :=
      ModelHost.serve_promoted promoted
    rw [served]
    have installed := promote_installed (stageTemp_installed ready) promoted
    exact ⟨.promoted operationId, .promoted, together.putsVersion installed together.hand⟩

/-- Before its turn to promote, the task that resumes finds everything as it was left. -/
theorem together_pending {files : FileTree} {call : ModelCall}
    (allowed : InstallAllowed config (.pending files) call)
    (together : Together config (.pending files) stage host) (outside : ∀ call, ModelAnswer call) :
    StepsTogether config (.pending files) stage call
      (ModelHost.serve config.sha256 outside call host) := by
  obtain ⟨⟨row, active, installing, same⟩, again, unrecorded⟩ := together.hand
  cases allowed with
  | quiet plain => cases plain
  | update handled => obtain same | same := handled <;> cases same
  | active => exact ⟨.pending files, .active _, together⟩
  | installed =>
    have none : host.store.findInstall config.manifest.modelId config.manifest.version = none :=
      Option.not_isSome_iff_eq_none.1 unrecorded
    refine ⟨.pending files, ?_, together⟩
    change InstallMoves config _ (.getInstallation _ _) (host.store.findInstall _ _) _
    rw [none]
    exact .notInstalled
  | findPending =>
    have way := underWay_of_active together.laws active
    refine ⟨.resuming row.operationId files, ?_, ?_⟩
    · change InstallMoves config _ (.findActiveDownload _) (host.store.findActiveDownload _) _
      rw [active]
      exact .resumed same installing
    · have hand : HandFits config host (.resuming row.operationId files) :=
        ⟨⟨row, way.found, way.model, same, installing⟩, again⟩
      exact ⟨together.laws, together.installed, hand, fun _ => together.early rfl,
        together.recorded, together.placed, fun moved _ => together.promoted moved rfl⟩

/-- Files that are promoted again are the ones that are there. -/
theorem together_resuming {operationId : String} {files : FileTree} {call : ModelCall}
    (allowed : InstallAllowed config (.resuming operationId files) call)
    (together : Together config (.resuming operationId files) stage host)
    (outside : ∀ call, ModelAnswer call) :
    StepsTogether config (.resuming operationId files) stage call
      (ModelHost.serve config.sha256 outside call host) := by
  obtain ⟨installing, rfl, staged, ready, existing, there, alike⟩ := together.hand
  cases allowed with
  | quiet plain => cases plain
  | update handled => obtain same | same := handled <;> cases same
  | readAgain => exact ⟨.resuming operationId host.temp, .readAgain ready, together⟩
  | promoteAgain readyAgain =>
    rw [ready] at readyAgain
    cases readyAgain
    have promoted : promote config.sha256 (host.version config.manifest.version) staged =
        .ok existing := by
      unfold promote
      rw [there]
      exact if_pos alike
    have served : ModelHost.serve config.sha256 outside (.promote config.manifest.version staged)
        host = (.ok (), host.putVersion config.manifest.version existing) :=
      ModelHost.serve_promoted promoted
    rw [served]
    have installed := together.installed existing there
    exact ⟨.promoted operationId, .promotedAgain, together.putsVersion installed installing⟩

/-- Another version is recorded after the completion exactly when it was before. -/
theorem recorded_completed {version installedPath : String} {now : ℚ} {row : ModelDownload}
    {after : ModelHost} (records : after.store =
      ((host.store.recordInstall config.manifest.modelId config.manifest.version installedPath
        now).pointActive config.manifest.modelId config.manifest.version now).replaceDownload row) :
    Recorded config after version ↔
      version = config.manifest.version ∨ Recorded config host version := by
  have installs : after.store.installs = (host.store.recordInstall config.manifest.modelId
      config.manifest.version installedPath now).installs := by
    rw [records]
    exact pointActive_installs _ _ _
  unfold Recorded ModelStore.findInstall
  rw [installs]
  by_cases same : version = config.manifest.version
  · subst same
    obtain ⟨install, found⟩ := findInstall_recordInstall host.store config.manifest.modelId
      config.manifest.version installedPath now
    unfold ModelStore.findInstall at found
    rw [found]
    simp
  · have other := @findInstall_recordInstall_other host.store config.manifest.modelId _ _
      installedPath now same
    unfold ModelStore.findInstall at other
    rw [other]
    simp [same]

/-- The record of what was promoted. -/
theorem together_complete {operationId installedPath : String} {now : ℚ}
    (together : Together config (.promoted operationId) stage host) :
    let op : ModelOp := .complete operationId config.manifest.modelId config.manifest.version
      installedPath now
    StepsTogether config (.promoted operationId) stage (.perform op)
      ((op.exec host.store).1, { host with store := (op.exec host.store).2 }) := by
  intro op
  obtain ⟨row, found, model, version, installing⟩ := together.hand
  have laws : StoreLaws (op.exec host.store).2 := laws_step together.laws trivial
  have answer := @exec_update _ op _ _ together.laws.keyed rfl found
  have fits : op.Fits row := ⟨model, version, by rw [installing]; rfl⟩
  generalize op.exec host.store = outcome at answer laws
  cases answer with
  | raised unfit error => exact absurd fits unfit
  | wrote _ written rewritten =>
    obtain ⟨mem, named⟩ := ModelStore.findDownload_mem found
    have foundRecorded : (op.records host.store).findDownload operationId = some row := by
      unfold ModelStore.findDownload at found ⊢
      rw [records_downloads]
      exact found
    have foundAfter :=
      ModelStore.findDownload_replaced foundRecorded (rewritten.operation.trans named)
    obtain ⟨_, installed, _, _, recorded, placed, promoted⟩ := together
    have known : ∀ version, Recorded config
        { host with store := (op.records host.store).replaceDownload written } version ↔
        version = config.manifest.version ∨ Recorded config host version :=
      fun version => recorded_completed rfl
    refine ⟨.holding operationId, .completed, laws, installed, ?_, fun resumes => (nomatch resumes),
      ?_, ?_, fun _ waits => nomatch waits⟩
    · intro other there
      change ((op.records host.store).replaceDownload written).findDownload operationId = some other
        at there
      rw [foundAfter] at there
      cases there
      exact ⟨rewritten.model.trans model, rewritten.version.trans version⟩
    · intro moved version recordedAfter
      rcases (known version).1 recordedAfter with rfl | before
      · exact promoted moved rfl
      · exact recorded moved version before
    · intro moved version placedAfter
      refine .inl ((known version).2 ?_)
      rcases placed moved version placedAfter with before | ⟨same, _⟩
      · exact .inr before
      · exact .inl same

/-- One call of the install. -/
theorem together_install (phase : InstallPhase) (stage : UninstallPhase) (host : ModelHost)
    (call : ModelCall) (outside : ∀ call, ModelAnswer call)
    (together : Together config phase stage host)
    (allowed : (installPhases config).allowed phase call) :
    ∃ after, (installPhases config).moves phase call
      (ModelHost.serve config.sha256 outside call host).1 after ∧
      Together config after stage (ModelHost.serve config.sha256 outside call host).2 := by
  cases allowed with
  | quiet plain quiet =>
    obtain ⟨store, versions⟩ := serve_quiet quiet outside
    refine ⟨phase, .quiet plain quiet _, ?_⟩
    exact together.withFiles (resumes_of_plain plain) store versions
  | find => exact together_find together
  | findAgain =>
    have none : host.store.findActiveDownload config.manifest.modelId = none := together.hand
    refine ⟨.vacant, ?_, together⟩
    change InstallMoves config _ (.findActiveDownload _) (host.store.findActiveDownload _) _
    rw [none]
    exact .still
  | create isFor => exact together_create together isFor
  | update handled names open_ => exact together_update handled names open_ together
  | promote ready => exact together_promote ready together outside
  | active => exact together_pending .active together outside
  | installed => exact together_pending .installed together outside
  | findPending => exact together_pending .findPending together outside
  | readAgain => exact together_resuming .readAgain together outside
  | promoteAgain ready => exact together_resuming (.promoteAgain ready) together outside
  | time => exact ⟨_, .time _, together⟩
  | complete => exact together_complete together

/-! ## Runs -/

/-- The install starts `idle`, or with the files of an earlier run. -/
theorem together_start (prior : PriorHost config host) :
    ∃ phase, (phase = .idle ∨ ∃ files, phase = .pending files) ∧
      Together config phase .before host := by
  obtain ⟨⟨ops, sized, written⟩, installed, others, version⟩ := prior
  have laws : StoreLaws host.store := by
    rw [written]
    exact laws_after sized
  rcases version with agrees | awaits
  · have all : ∀ version, Recorded config host version ↔ Placed host version := by
      intro version
      by_cases same : version = config.manifest.version
      · subst same
        exact agrees
      · exact others version same
    refine ⟨.idle, .inl rfl, laws, installed, trivial, fun resumes => (nomatch resumes), ?_, ?_, ?_⟩
    · exact fun _ version known => (all version).1 known
    · exact fun _ version there => .inl ((all version).2 there)
    · exact fun _ waits => nomatch waits
  · have there : Placed host config.manifest.version := by
      obtain ⟨_, staged, _, existing, found, _⟩ := awaits.again
      unfold Placed
      rw [found]
      rfl
    refine ⟨.pending host.temp, .inr ⟨_, rfl⟩, laws, installed, awaits, fun _ => .inl rfl, ?_, ?_,
      fun _ _ => there⟩
    · intro _ version known
      by_cases same : version = config.manifest.version
      · subst same
        exact there
      · exact (others version same).1 known
    · intro _ version placed
      by_cases same : version = config.manifest.version
      · exact .inr ⟨same, rfl⟩
      · exact .inl ((others version same).2 placed)

theorem agree_of_together (together : Together config phase stage host)
    (plain : phase.isPlain = true) (ended : stage ≠ .moved) : RecordsAgree config host := by
  refine ⟨fun version => ⟨together.recorded ended version, fun there => ?_⟩, together.installed, ?_⟩
  · rcases together.placed ended version there with known | ⟨_, waits⟩
    · exact known
    · rw [plain] at waits
      cases waits
  · intro active mem model
    obtain ⟨install, memInstall, sameModel, sameVersion⟩ := together.laws.actives active mem
    apply List.find?_isSome.2
    exact ⟨install, memInstall, decide_eq_true ⟨sameModel.trans model, sameVersion⟩⟩

/-- When the rows are deleted with nothing under way and nothing in place, records and directories
agree in the end, in whatever order the two took their turns. -/
theorem install_and_uninstall_agree
    (releasable : isReleasable config.catalog config.manifest = true)
    (prior : PriorHost config host) {turns : List RaceTurn}
    (cleanly : Meets (InstallRace.step config) (Duet.Clear (DeletesCleanly config))
      (InstallRace.start config host) turns)
    {installed : Except InstallError ModelDownload} {uninstalled : Except UninstallError Unit}
    (installEnds : (run (InstallRace.step config) (InstallRace.start config host) turns).first =
      .done installed)
    (uninstallEnds : (run (InstallRace.step config) (InstallRace.start config host) turns).second =
      .done uninstalled) :
    RecordsAgree config (run (InstallRace.step config) (InstallRace.start config host) turns).world := by
  obtain ⟨phase, looks, together⟩ := together_start prior
  have begins : (InstallRace.start config host).InStep (installPhases config) uninstallPhases
      (Attempt.Ends (fun after _ => after.isPlain = true) fun after _ => after.isPlain = true)
      (Attempt.Ends (fun after _ => after = .deleted) fun after _ => after = .refused)
      (Together config) :=
    ⟨phase, .before, together, installModel_follows looks releasable, uninstallTask_follows⟩
  obtain ⟨after, stage, fits, plain, ended⟩ := Duet.run_ends
    (fun phase stage host call outside => together_install phase stage host call outside)
    (fun phase stage host call _ => together_uninstall phase stage host call)
    begins cleanly installEnds uninstallEnds
  have isPlain : after.isPlain = true := by
    cases installed <;> exact plain
  have left : stage ≠ .moved := by
    cases uninstalled with
    | ok _ =>
      have deleted : stage = .deleted := ended
      rw [deleted]
      exact UninstallPhase.noConfusion
    | error _ =>
      have refused : stage = .refused := ended
      rw [refused]
      exact UninstallPhase.noConfusion
  exact agree_of_together fits isPlain left

end

/-! ## A model of one file -/

def monoSource : DownloadSource where
  url := "https://huggingface.co/mono/resolve/1/mono.bin"
  kind := .upstream
  sha256 := pairSha256 [1, 2]
  sizeBytes := 2
  positive := Nat.two_pos

def monoManifest : ModelManifest where
  modelId := "mono"
  version := "1"
  compressedSizeBytes := 2
  installedSizeBytes := 2
  redistribution := .upstreamOnly
  archiveFormat := .raw
  sources := [monoSource]
  files := [⟨"mono.bin", none, 2, pairSha256 [1, 2], Nat.two_pos, by decide, by decide⟩]
  sourced := by decide
  filed := by decide
  sourceSizes := by decide
  sourceDigests := by decide
  installedSize := by decide
  fileNames := by decide
  fileSetPaths := by decide
  fileSetSize := by decide
  upstream := by decide

def monoConfig : InstallConfig :=
  { pairConfig with
    catalog := fun modelId version =>
      if modelId = "mono" ∧ version = "1" then some [monoSource.approval] else none
    manifest := monoManifest
    tempPath := "models/.downloads/mono/1.archive"
    versionDir := "models/mono/1" }

/-- The server sends the file whole, and nobody cancels. -/
def monoReplies : ∀ call, ModelAnswer call :=
  World.answer
    { clock := fun _ => 0
      cancels := fun _ => false
      answers := fun _ => .ok { status := 200, chunks := [[1, 2]] } } {}

/-- So many calls of the uninstall. -/
def uninstallTurns (count : Nat) : List RaceTurn := List.replicate count (.second monoReplies)

/-- So many of the install. -/
def installTurns (count : Nat) : List RaceTurn := List.replicate count (.first monoReplies)

def monoRace (turns : List RaceTurn) : InstallRace :=
  run (InstallRace.step monoConfig) (InstallRace.start monoConfig {}) turns

theorem priorHost_empty : PriorHost config {} where
  written := ⟨[], fun _ mem => (nomatch mem), rfl⟩
  installed := fun _ found => nomatch found
  others := fun _ _ => iff_of_false Bool.false_ne_true Bool.false_ne_true
  version := .inl (iff_of_false Bool.false_ne_true Bool.false_ne_true)

/-- The rows go while the install looks for files of its own, before it has a row. -/
def deletedBefore : List RaceTurn :=
  uninstallTurns 1 ++ installTurns 3 ++ uninstallTurns 1 ++ installTurns 1 ++ uninstallTurns 2 ++
    installTurns 40

/-- The rows go while the install downloads. -/
def deletedUnder : List RaceTurn :=
  uninstallTurns 1 ++ installTurns 10 ++ uninstallTurns 1 ++ installTurns 2 ++ uninstallTurns 2 ++
    installTurns 40

/-- The install goes through in the first of these runs, and loses its row in the second. -/
theorem install_and_uninstall_agree_mono :
    ((monoRace deletedBefore).first.result.any (fun ended => ended.toBool) = true ∧
      RecordsAgree monoConfig (monoRace deletedBefore).world) ∧
    (monoRace deletedUnder).first.result.any (fun ended => !ended.toBool) = true ∧
      RecordsAgree monoConfig (monoRace deletedUnder).world := by
  have installs : (monoRace deletedBefore).first.result.any (fun ended => ended.toBool) = true ∧
      (monoRace deletedBefore).second.result = some (.ok ()) := by
    decide +kernel
  have loses : (monoRace deletedUnder).first.result.any (fun ended => !ended.toBool) = true ∧
      (monoRace deletedUnder).second.result = some (.ok ()) := by
    decide +kernel
  refine ⟨⟨installs.1, ?_⟩, loses.1, ?_⟩
  · obtain ⟨installed, result, _⟩ := (Option.any_eq_true _ _).1 installs.1
    refine install_and_uninstall_agree (by decide) priorHost_empty ?_
      (Process.done_of_result result) (Process.done_of_result installs.2)
    decide +kernel
  · obtain ⟨installed, result, _⟩ := (Option.any_eq_true _ _).1 loses.1
    refine install_and_uninstall_agree (by decide) priorHost_empty ?_
      (Process.done_of_result result) (Process.done_of_result loses.2)
    decide +kernel

/-- The install promotes its files and records them after the check of the uninstall, and the rows
go after that: the version directory is there without a record. -/
theorem uninstall_leaves_directory :
    let race := monoRace (uninstallTurns 2 ++ installTurns 40 ++ uninstallTurns 2)
    isReleasable monoConfig.catalog monoConfig.manifest = true ∧ PriorHost monoConfig {} ∧
    race.first.result.any (fun ended => ended.toBool) = true ∧
    race.second.result = some (.ok ()) ∧ ¬ RecordsAgree monoConfig race.world := by
  intro race
  refine ⟨by decide, priorHost_empty, by decide +kernel, by decide +kernel, fun agree => ?_⟩
  have there : Placed race.world "1" := by
    unfold Placed
    decide +kernel
  have unrecorded : ¬ Recorded monoConfig race.world "1" := by
    unfold Recorded
    decide +kernel
  exact unrecorded ((agree.records "1").2 there)

end EvoBlue.Guarantees
