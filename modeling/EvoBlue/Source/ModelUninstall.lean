import EvoBlue.Kernel.Duet
import EvoBlue.Source.ModelHost

/-!
# Uninstalling a model

`ModelManagerService.uninstall` of `asr/service.py`: it checks that no download is under
way, moves the directory of the model to the trash, deletes the rows in a transaction of
its own, and reclaims the trash. An install of the same model may act between its calls.
-/

namespace EvoBlue.Source

open EvoBlue.Kernel

inductive UninstallError where
  /-- `RuntimeError` of the check. -/
  | inProgress
  | store (error : ModelError)
  deriving DecidableEq, Repr

inductive UninstallCall where
  | findActiveDownload
  /-- `os.replace(model_dir, trash_path)`, if the directory exists. -/
  | moveToTrash
  /-- `uninstall_model`. -/
  | deleteRows
  /-- `os.replace(trash_path, model_dir)`. -/
  | restoreDirectory
  /-- `shutil.rmtree(trash_path.parent)`. -/
  | reclaimTrash
  | removeDownloads

abbrev UninstallAnswer : UninstallCall → Type
  | .findActiveDownload => Option ModelDownload
  | .moveToTrash => Bool
  | .deleteRows => Except ModelError Unit
  | .restoreDirectory => Unit
  | .reclaimTrash => Unit
  | .removeDownloads => Unit

abbrev UninstallTask := Attempt UninstallCall UninstallAnswer UninstallError

namespace UninstallTask

abbrev findActiveDownload : UninstallTask (Option ModelDownload) :=
  Attempt.call UninstallCall.findActiveDownload

abbrev moveToTrash : UninstallTask Bool := Attempt.call UninstallCall.moveToTrash

abbrev deleteRows : UninstallTask (Except ModelError Unit) := Attempt.call UninstallCall.deleteRows

abbrev restoreDirectory : UninstallTask Unit := Attempt.call UninstallCall.restoreDirectory

abbrev reclaimTrash : UninstallTask Unit := Attempt.call UninstallCall.reclaimTrash

abbrev removeDownloads : UninstallTask Unit := Attempt.call UninstallCall.removeDownloads

end UninstallTask

/-- The directory goes back when the rows could not be deleted. -/
def restoreMoved (moved : Bool) : UninstallTask Unit :=
  if moved then UninstallTask.restoreDirectory else pure ()

def reclaimMoved (moved : Bool) : UninstallTask Unit :=
  if moved then UninstallTask.reclaimTrash else pure ()

/-- `uninstall`. -/
def uninstallTask : UninstallTask Unit := do
  let active ← UninstallTask.findActiveDownload
  match active with
  | some _ => throw .inProgress
  | none => do
    let moved ← UninstallTask.moveToTrash
    let deleted ← UninstallTask.deleteRows
    match deleted with
    | .error error => do
      restoreMoved moved
      throw (.store error)
    | .ok _ => do
      reclaimMoved moved
      UninstallTask.removeDownloads

namespace ModelHost

/-- One call of an uninstall of the model. -/
def serveUninstall (modelId : String) :
    (call : UninstallCall) → ModelHost → UninstallAnswer call × ModelHost
  | .findActiveDownload, host => (host.store.findActiveDownload modelId, host)
  | .moveToTrash, host =>
    (!host.versions.isEmpty, { host with versions := [], trash := host.versions })
  | .deleteRows, host =>
    let reply := (ModelOp.uninstall modelId).exec host.store
    (reply.1.map fun _ => (), { host with store := reply.2 })
  | .restoreDirectory, host =>
    if host.versions.isEmpty then ((), { host with versions := host.trash, trash := [] })
    else ((), host)
  | .reclaimTrash, host => ((), { host with trash := [] })
  | .removeDownloads, host => ((), { host with temp := [] })

end ModelHost

/-! ## An install and an uninstall -/

/-- An install task and an uninstall of one model. -/
abbrev InstallRace := Duet ModelCall ModelAnswer (Except InstallError ModelDownload) UninstallCall
  UninstallAnswer (Except UninstallError Unit) ModelHost

/-- The answers from outside go to the install. -/
abbrev RaceTurn := Turn (∀ call, ModelAnswer call)

namespace InstallRace

variable (config : InstallConfig)

def start (host : ModelHost) : InstallRace := ⟨(installModel config).run, uninstallTask.run, host⟩

def step : InstallRace → RaceTurn → InstallRace :=
  Duet.step (ModelHost.serve config.sha256)
    fun _ => ModelHost.serveUninstall config.manifest.modelId

end InstallRace

end EvoBlue.Source
