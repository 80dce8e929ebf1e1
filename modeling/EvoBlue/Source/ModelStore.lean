import EvoBlue.Kernel.Transaction
import EvoBlue.Kernel.Runs
import Mathlib.Algebra.Order.Field.Rat

/-!
# Installed models and their downloads

`storage/model_download.py` and the model half of `storage/repository.py`: the rows
of `model_install`, `active_model` and `model_download`, and the functions that write
them, each a transaction script with the statements of the source. The updates of a
download end alike, in a compare-and-swap on its revision; that end is `commitRevision`.
-/

namespace EvoBlue.Source

open EvoBlue.Kernel

inductive ModelDownloadStatus where
  | pending
  | downloading
  | verifying
  | installing
  | completed
  | failed
  | cancelled
  deriving DecidableEq, Repr

namespace ModelDownloadStatus

/-- `TERMINAL_DOWNLOAD_STATUSES`. -/
def isTerminal (status : ModelDownloadStatus) : Bool :=
  ([.completed, .failed, .cancelled] : List ModelDownloadStatus).contains status

/-- `ACTIVE_DOWNLOAD_STATUSES`, and the condition of `uq_model_download_active`. -/
def isActive (status : ModelDownloadStatus) : Bool :=
  ([.pending, .downloading, .verifying, .installing] : List ModelDownloadStatus).contains status

end ModelDownloadStatus

/-- `_LINEAR_CHAIN`. -/
def downloadChain : List (ModelDownloadStatus × ModelDownloadStatus) :=
  [(.pending, .downloading), (.downloading, .verifying), (.verifying, .installing),
    (.installing, .completed)]

/-- `ALLOWED_DOWNLOAD_TRANSITIONS`, as `_build_allowed` collects them. -/
def allowedDownloadTransitions (src : ModelDownloadStatus) : List ModelDownloadStatus :=
  (downloadChain.filter fun edge => edge.1 = src).map (·.2) ++
    if src.isActive then [.failed, .cancelled] else []

def isValidDownloadTransition (src dst : ModelDownloadStatus) : Bool :=
  (allowedDownloadTransitions src).contains dst

structure ModelInstall where
  modelId : String
  version : String
  installedPath : String
  installedAt : ℚ
  deriving DecidableEq, Repr

structure ActiveModel where
  modelId : String
  activeVersion : String
  updatedAt : ℚ
  deriving DecidableEq, Repr

structure ModelDownload where
  operationId : String
  modelId : String
  version : String
  sourceUrl : String
  sourceKind : String
  expectedSha256 : String
  expectedSizeBytes : Int
  downloadedBytes : Int := 0
  tempPath : Option String := none
  etag : Option String := none
  lastModified : Option String := none
  status : ModelDownloadStatus
  errorCode : Option String := none
  errorDetail : Option String := none
  revision : Int := 0
  createdAt : ℚ
  updatedAt : ℚ
  deriving DecidableEq, Repr

structure ModelStore where
  installs : List ModelInstall := []
  actives : List ActiveModel := []
  downloads : List ModelDownload := []
  deriving DecidableEq, Repr

inductive ModelError where
  /-- `KeyError`: no such operation, or no such installation. -/
  | keyError (key : String)
  | valueError (message : String)
  /-- `ValueError`: the operation is for another model or version. -/
  | wrongModel (operationId : String)
  /-- `TransitionError`. -/
  | transitionError (src dst : ModelDownloadStatus)
  /-- `StaleRevisionError`. -/
  | staleRevision (operationId : String)
  /-- A unique constraint of the schema. -/
  | integrityError
  /-- `RuntimeError` of `ensure_immediate_transaction`. -/
  | beginRefused
  /-- `RuntimeError` of a row that vanished after its own write. -/
  | vanished (key : String)
  deriving DecidableEq, Repr

abbrev ModelTx := Tx ModelStore ModelError

namespace ModelStore

def findInstall (store : ModelStore) (modelId version : String) : Option ModelInstall :=
  store.installs.find? fun row => row.modelId = modelId ∧ row.version = version

def findActive (store : ModelStore) (modelId : String) : Option ActiveModel :=
  store.actives.find? fun row => row.modelId = modelId

def findDownload (store : ModelStore) (operationId : String) : Option ModelDownload :=
  store.downloads.find? fun row => row.operationId = operationId

/-- The select of `find_active_download_operation`. -/
def findActiveDownload (store : ModelStore) (modelId : String) : Option ModelDownload :=
  store.downloads.find? fun row => row.modelId = modelId ∧ row.status.isActive

/-- Insert the installation, or overwrite its path and time. -/
def recordInstall (store : ModelStore) (modelId version installedPath : String) (now : ℚ) :
    ModelStore :=
  match store.findInstall modelId version with
  | none =>
    { store with
      installs := store.installs ++ [{ modelId, version, installedPath, installedAt := now }] }
  | some _ =>
    { store with
      installs := store.installs.map fun row =>
        if row.modelId = modelId ∧ row.version = version then
          { row with installedPath, installedAt := now }
        else row }

/-- Insert the pointer to the active version, or move it. -/
def pointActive (store : ModelStore) (modelId version : String) (now : ℚ) : ModelStore :=
  match store.findActive modelId with
  | none =>
    { store with actives := store.actives ++ [{ modelId, activeVersion := version, updatedAt := now }] }
  | some _ =>
    { store with
      actives := store.actives.map fun row =>
        if row.modelId = modelId then { row with activeVersion := version, updatedAt := now }
        else row }

/-- The rows an update of one revision of one operation leaves. -/
def writeDownload (store : ModelStore) (operationId : String) (revision : Int)
    (values : ModelDownload → ModelDownload) : ModelStore :=
  { store with
    downloads := store.downloads.map fun row =>
      if row.operationId = operationId ∧ row.revision = revision then values row else row }

end ModelStore

/-! ## Reads -/

/-- `get_installation`. -/
def getInstallation (modelId version : String) : ModelTx (Option ModelInstall) := do
  let store ← Tx.read
  return store.findInstall modelId version

/-- `get_download_operation`. -/
def getDownloadOperation (operationId : String) : ModelTx (Option ModelDownload) := do
  let store ← Tx.read
  return store.findDownload operationId

/-- The operation a function insists on. -/
def requireOperation (operationId : String) : ModelTx ModelDownload := do
  match ← getDownloadOperation operationId with
  | none => Tx.raise (.keyError operationId)
  | some operation => return operation

/-- An operation that must exist because we just wrote it. -/
def readBack (operationId : String) : ModelTx ModelDownload := do
  match ← getDownloadOperation operationId with
  | none => Tx.raise (.vanished operationId)
  | some operation => return operation

/-! ## Writes -/

/-- `_begin_immediate`. -/
abbrev beginModelWrite : ModelTx Unit := Tx.ensureImmediate .beginRefused

/-- `UPDATE model_download SET values WHERE operation_id AND revision RETURNING operation_id`. -/
def updateDownload (operationId : String) (revision : Int)
    (values : ModelDownload → ModelDownload) : ModelTx (List String) := do
  let store ← Tx.read
  Tx.write fun store => store.writeDownload operationId revision values
  return (store.downloads.filter fun row =>
    row.operationId = operationId ∧ row.revision = revision).map (·.operationId)

/-- Write one revision of an operation, and read it back. -/
def commitRevision (operationId : String) (revision : Int)
    (values : ModelDownload → ModelDownload) : ModelTx ModelDownload := do
  let ids ← updateDownload operationId revision values
  match ids.head? with
  | none => do
    Tx.rollback
    Tx.raise (.staleRevision operationId)
  | some _ => do
    Tx.commit
    readBack operationId

/-- The arguments of `create_download_operation`. -/
structure NewDownload where
  operationId : String
  modelId : String
  version : String
  sourceUrl : String
  sourceKind : String
  expectedSha256 : String
  expectedSizeBytes : Int
  now : ℚ
  etag : Option String := none
  lastModified : Option String := none
  deriving DecidableEq, Repr

def NewDownload.row (new : NewDownload) : ModelDownload where
  operationId := new.operationId
  modelId := new.modelId
  version := new.version
  sourceUrl := new.sourceUrl
  sourceKind := new.sourceKind
  expectedSha256 := new.expectedSha256
  expectedSizeBytes := new.expectedSizeBytes
  etag := new.etag
  lastModified := new.lastModified
  status := .pending
  createdAt := new.now
  updatedAt := new.now

/-- The primary key is free, and so is the model's place in `uq_model_download_active`. -/
def ModelStore.admits (store : ModelStore) (new : NewDownload) : Bool :=
  (store.findDownload new.operationId).isNone && (store.findActiveDownload new.modelId).isNone

def createDownloadOperation (new : NewDownload) : ModelTx ModelDownload := do
  beginModelWrite
  let store ← Tx.read
  if store.admits new then do
    Tx.write fun store => { store with downloads := store.downloads ++ [new.row] }
    Tx.commit
    readBack new.operationId
  else do
    Tx.rollback
    Tx.raise .integrityError

def isRestartable (status : ModelDownloadStatus) : Bool :=
  status = .pending || status = .downloading

def restartDownload (operationId : String) (now : ℚ) : ModelTx ModelDownload := do
  beginModelWrite
  let operation ← requireOperation operationId
  if isRestartable operation.status then
    commitRevision operationId operation.revision fun row =>
      { row with
        downloadedBytes := 0
        etag := none
        lastModified := none
        revision := operation.revision + 1
        updatedAt := now }
  else Tx.raise (.valueError "restart is only allowed while pending or downloading")

/-- The columns a caller may set besides; an absent one is left alone. -/
structure DownloadColumns where
  tempPath : Option String := none
  etag : Option String := none
  lastModified : Option String := none
  errorCode : Option String := none
  errorDetail : Option String := none
  deriving DecidableEq, Repr

def DownloadColumns.set (columns : DownloadColumns) (row : ModelDownload) : ModelDownload :=
  { row with
    tempPath := columns.tempPath.or row.tempPath
    etag := columns.etag.or row.etag
    lastModified := columns.lastModified.or row.lastModified
    errorCode := columns.errorCode.or row.errorCode
    errorDetail := columns.errorDetail.or row.errorDetail }

def advanceDownloadOperation (operationId : String) (toStatus : ModelDownloadStatus) (now : ℚ)
    (columns : DownloadColumns) (expectedRevision : Option Int) : ModelTx ModelDownload := do
  beginModelWrite
  let operation ← requireOperation operationId
  if isValidDownloadTransition operation.status toStatus then
    if toStatus = .verifying ∧ operation.downloadedBytes ≠ operation.expectedSizeBytes then
      Tx.raise (.valueError "cannot enter verifying before the download is complete")
    else
      let revision := expectedRevision.getD operation.revision
      commitRevision operationId revision fun row =>
        { columns.set row with status := toStatus, revision := revision + 1, updatedAt := now }
  else Tx.raise (.transitionError operation.status toStatus)

/-- The columns of a progress update are the first three of an advance. -/
def updateDownloadProgress (operationId : String) (downloadedBytes : Int) (now : ℚ)
    (tempPath etag lastModified : Option String) (expectedRevision : Option Int) :
    ModelTx ModelDownload := do
  beginModelWrite
  let operation ← requireOperation operationId
  if operation.status ≠ .downloading then
    Tx.raise (.valueError "progress may only be updated while downloading")
  else if downloadedBytes < operation.downloadedBytes then
    Tx.raise (.valueError "downloaded_bytes must not decrease")
  else if 0 ≤ downloadedBytes ∧ downloadedBytes ≤ operation.expectedSizeBytes then
    let revision := expectedRevision.getD operation.revision
    let columns : DownloadColumns := { tempPath, etag, lastModified }
    commitRevision operationId revision fun row =>
      { columns.set row with downloadedBytes, revision := revision + 1, updatedAt := now }
  else Tx.raise (.valueError "downloaded_bytes out of range")

def switchDownloadSource (operationId sourceUrl sourceKind : String) (now : ℚ) :
    ModelTx ModelDownload := do
  beginModelWrite
  let operation ← requireOperation operationId
  if isRestartable operation.status then
    commitRevision operationId operation.revision fun row =>
      { row with
        sourceUrl
        sourceKind
        downloadedBytes := 0
        etag := none
        lastModified := none
        revision := operation.revision + 1
        updatedAt := now }
  else Tx.raise (.valueError "source may only be switched while pending or downloading")

/-- The columns a completed operation gets. -/
def completedDownload (revision : Int) (now : ℚ) (row : ModelDownload) : ModelDownload :=
  { row with
    status := .completed
    revision := revision + 1
    errorCode := none
    errorDetail := none
    updatedAt := now }

def completeInstallation (operationId modelId version installedPath : String) (now : ℚ) :
    ModelTx ModelDownload := do
  beginModelWrite
  let operation ← requireOperation operationId
  if operation.modelId ≠ modelId ∨ operation.version ≠ version then
    Tx.raise (.wrongModel operationId)
  else if isValidDownloadTransition operation.status .completed then do
    Tx.write fun store =>
      (store.recordInstall modelId version installedPath now).pointActive modelId version now
    commitRevision operationId operation.revision (completedDownload operation.revision now)
  else Tx.raise (.transitionError operation.status .completed)

def activateInstallation (modelId version : String) (now : ℚ) : ModelTx ActiveModel := do
  beginModelWrite
  match ← getInstallation modelId version with
  | none => Tx.raise (.keyError modelId)
  | some _ => do
    Tx.write fun store => store.pointActive modelId version now
    Tx.commit
    let store ← Tx.read
    match store.findActive modelId with
    | none => Tx.raise (.vanished modelId)
    | some active => return active

def saveInstallation (modelId version installedPath : String) (now : ℚ) : ModelTx ModelInstall := do
  beginModelWrite
  Tx.write fun store => store.recordInstall modelId version installedPath now
  Tx.commit
  match ← getInstallation modelId version with
  | none => Tx.raise (.vanished modelId)
  | some install => return install

/-- The tables without the rows of a model. -/
def ModelStore.without (store : ModelStore) (modelId : String) : ModelStore where
  installs := store.installs.filter fun row => row.modelId ≠ modelId
  actives := store.actives.filter fun row => row.modelId ≠ modelId
  downloads := store.downloads.filter fun row => row.modelId ≠ modelId

def uninstallModel (modelId : String) : ModelTx (List String) := do
  beginModelWrite
  let store ← Tx.read
  Tx.write fun store => store.without modelId
  Tx.commit
  return (store.installs.filter fun row => row.modelId = modelId).map (·.installedPath)

/-! ## One operation on the store -/

inductive ModelOp where
  | create (new : NewDownload)
  | restart (operationId : String) (now : ℚ)
  | advance (operationId : String) (toStatus : ModelDownloadStatus) (now : ℚ)
      (columns : DownloadColumns) (expectedRevision : Option Int)
  | progress (operationId : String) (downloadedBytes : Int) (now : ℚ)
      (tempPath etag lastModified : Option String) (expectedRevision : Option Int)
  | switchSource (operationId sourceUrl sourceKind : String) (now : ℚ)
  | complete (operationId modelId version installedPath : String) (now : ℚ)
  | activate (modelId version : String) (now : ℚ)
  | saveInstall (modelId version installedPath : String) (now : ℚ)
  | uninstall (modelId : String)
  deriving DecidableEq, Repr

/-- The operation in a session of its own; it returns the download it wrote, if it
writes one. -/
def ModelOp.exec (store : ModelStore) :
    ModelOp → Except ModelError (Option ModelDownload) × ModelStore
  | .create new => wrote (Tx.atomically (createDownloadOperation new) store)
  | .restart operationId now => wrote (Tx.atomically (restartDownload operationId now) store)
  | .advance operationId toStatus now columns expectedRevision =>
    wrote (Tx.atomically
      (advanceDownloadOperation operationId toStatus now columns expectedRevision) store)
  | .progress operationId downloadedBytes now tempPath etag lastModified expectedRevision =>
    wrote (Tx.atomically (updateDownloadProgress operationId downloadedBytes now tempPath etag
      lastModified expectedRevision) store)
  | .switchSource operationId sourceUrl sourceKind now =>
    wrote (Tx.atomically (switchDownloadSource operationId sourceUrl sourceKind now) store)
  | .complete operationId modelId version installedPath now =>
    wrote (Tx.atomically (completeInstallation operationId modelId version installedPath now) store)
  | .activate modelId version now =>
    silent (Tx.atomically (activateInstallation modelId version now) store)
  | .saveInstall modelId version installedPath now =>
    silent (Tx.atomically (saveInstallation modelId version installedPath now) store)
  | .uninstall modelId => silent (Tx.atomically (uninstallModel modelId) store)
where
  wrote (result : Except ModelError ModelDownload × ModelStore) :=
    (result.1.map some, result.2)
  silent {α : Type} (result : Except ModelError α × ModelStore) :=
    (result.1.map fun _ => none, result.2)

/-- The store after a list of operations, from an empty one. -/
def storeAfter (ops : List ModelOp) : ModelStore := run (fun store op => (op.exec store).2) {} ops

end EvoBlue.Source
