import EvoBlue.Source.ResumableDownload

/-!
# Installing a model

`install_model` of `asr/installer.py`: find or create the download operation, bring it
from status to status, and end it as failed or cancelled when something is raised.
-/

namespace EvoBlue.Source

open EvoBlue.Kernel

/-- What an install of one manifest is given besides the world it runs in. -/
structure InstallConfig where
  catalog : ApprovedCatalog
  sha256 : Bytes → String
  unicode : UnicodeData
  readArchive : ArchiveFormat → Bytes → ArchiveReading
  manifest : ModelManifest
  /-- The id of an operation that is to be created. -/
  newOperationId : String
  tempPath : String
  /-- `str(version_dir)`. -/
  versionDir : String

/-- `_PROGRESS_INTERVAL`. -/
def progressInterval : Int := 4 * 1024 * 1024

section

variable (config : InstallConfig)

/-- `_file_set_downloaded_bytes`. -/
def fileSetDownloadedBytes (manifest : ModelManifest) (files : FileTree) : Nat :=
  (manifest.files.map fun file => min (existingBytes files file.name) file.sizeBytes).sum

/-- The bytes that are there, of the set or of the one file. -/
def downloadedBytes (files : FileTree) : Nat :=
  if config.manifest.isFileSet then fileSetDownloadedBytes config.manifest files
  else existingBytes files ""

def expectedSize : Nat := config.manifest.primary.sizeBytes

/-! ## The operation -/

/-- `_already_active`. -/
def alreadyActive : ModelTask (Option ModelDownload) := do
  let active ← ModelTask.getActiveModel config.manifest.modelId
  if active.any fun active => active.activeVersion = config.manifest.version then do
    let installed ← ModelTask.getInstallation config.manifest.modelId config.manifest.version
    match installed with
    | none => pure none
    | some _ => do
      let latest ← ModelTask.findLatestDownload config.manifest.modelId config.manifest.version
      pure (latest.filter fun latest => latest.status = .completed)
  else pure none

/-- The operation as it is created, with the validators of an earlier one. -/
def newDownload (prior : Option ModelDownload) (now : ℚ) : NewDownload where
  operationId := config.newOperationId
  modelId := config.manifest.modelId
  version := config.manifest.version
  sourceUrl := config.manifest.primary.url
  sourceKind := config.manifest.primary.kind.value
  expectedSha256 := config.manifest.primary.sha256
  expectedSizeBytes := config.manifest.primary.sizeBytes
  now := now
  etag := prior.bind (·.etag)
  lastModified := prior.bind (·.lastModified)

/-- After a unique constraint refused the new operation, the one that is under way. -/
def reuseOperation (error : InstallError) : ModelTask ModelDownload :=
  match error with
  | .store .integrityError => do
    let existing ← ModelTask.findActiveDownload config.manifest.modelId
    match existing with
    | some existing => pure existing
    | none => throw error
  | error => throw error

/-- `_get_or_create_operation`. -/
def getOrCreateOperation : ModelTask ModelDownload := do
  let active ← ModelTask.findActiveDownload config.manifest.modelId
  match active with
  | some active => if active.version ≠ config.manifest.version then throw .conflict else pure active
  | none => do
    let prior ← ModelTask.findLatestDownload config.manifest.modelId config.manifest.version
    tryCatch (ModelTask.perform fun now => .create (newDownload config prior now))
      (reuseOperation config)

/-- `_mark_terminal`. -/
def markTerminal (operationId : String) (toStatus : ModelDownloadStatus) (errorCode : String) :
    ModelTask ModelDownload := do
  let operation ← ModelTask.getDownload operationId
  match operation with
  | none => throw .unexpected
  | some operation =>
    if operation.status.isTerminal then pure operation
    else
      ModelTask.perform fun now =>
        .advance operationId toStatus now { errorCode := some errorCode } none

/-! ## The download -/

/-- `update_download_progress`, with the columns of the headers. -/
def saveProgress (operationId : String) (downloadedBytes : Int)
    (tempPath etag lastModified : Option String) : ModelTask ModelDownload :=
  ModelTask.perform fun now =>
    .progress operationId downloadedBytes now tempPath etag lastModified none

/-- `persist_progress`; `lastPersisted` is the state between its calls. -/
def persistProgress (operationId : String) (lastPersisted : Int) (bytes : Nat) : ModelTask Int := do
  let cancelled ← ModelTask.cancelCheck
  if cancelled then throw .cancelled
  else if progressInterval ≤ (bytes : Int) - lastPersisted ∨ bytes = expectedSize config then do
    let _ ← saveProgress operationId bytes none none none
    pure (bytes : Int)
  else pure lastPersisted

def restartDownloadOf (operationId : String) : ModelTask ModelDownload :=
  ModelTask.perform fun now => .restart operationId now

/-- The hooks of the download of an archive. -/
def archiveHooks (operationId : String) : DownloadHooks Int where
  progress := persistProgress config operationId
  onRestart _ := do
    let _ ← restartDownloadOf operationId
    pure 0
  onHeaders lastPersisted etag lastModified := do
    let _ ← saveProgress operationId lastPersisted (some config.tempPath) etag lastModified
    pure lastPersisted

/-- The hooks of a file of a set, which comes after `completed` bytes of others. -/
def fileHooks (operationId : String) (completed : Nat) : DownloadHooks Int where
  progress lastPersisted bytes := persistProgress config operationId lastPersisted (completed + bytes)
  onRestart lastPersisted := pure lastPersisted
  onHeaders lastPersisted _ _ := pure lastPersisted

/-- `source_url.rstrip("/")`. -/
def withoutSlashes (url : String) : String :=
  String.ofList (url.toList.rdropWhile fun c => c = '/')

/-- `_download_file_set`, from the files that are left on. -/
def downloadFiles (operationId sourceUrl : String) :
    (completed : Nat) → (lastPersisted : Int) → List ModelFile → ModelTask Int
  | _, lastPersisted, [] => pure lastPersisted
  | completed, lastPersisted, file :: rest => do
    let target : DownloadTarget :=
      { url := withoutSlashes sourceUrl ++ "/" ++ file.sourcePath.getD ""
        name := file.name
        expectedSha256 := file.sha256
        expectedSizeBytes := file.sizeBytes }
    let (_, lastPersisted) ← downloadResumable config.sha256 config.unicode target
      (fileHooks config operationId completed) none none lastPersisted
    downloadFiles operationId sourceUrl (completed + file.sizeBytes) lastPersisted rest

/-- One source: the set of files, or the archive. -/
def downloadFrom (operationId : String) (source : DownloadSource) (etag lastModified : Option String)
    (lastPersisted : Int) : ModelTask DownloadOutcome :=
  if config.manifest.isFileSet then do
    let _ ← downloadFiles config operationId source.url 0 lastPersisted config.manifest.files
    pure { downloadedBytes := expectedSize config, sha256 := config.manifest.primary.sha256 }
  else do
    let target : DownloadTarget :=
      { url := source.url
        name := ""
        expectedSha256 := source.sha256
        expectedSizeBytes := source.sizeBytes }
    let (outcome, _) ← downloadResumable config.sha256 config.unicode target
      (archiveHooks config operationId) etag lastModified lastPersisted
    pure outcome

/-- A source that fails makes way for the next one. -/
def isSourceFailure : InstallError → Bool
  | .download _ => true
  | .http => true
  | _ => false

/-- The loop over the sources. -/
def downloadSources (operationId : String) (source : DownloadSource)
    (etag lastModified : Option String) (lastPersisted : Int) :
    List DownloadSource → ModelTask DownloadOutcome
  | [] => downloadFrom config operationId source etag lastModified lastPersisted
  | next :: rest =>
    tryCatch (downloadFrom config operationId source etag lastModified lastPersisted) fun error =>
      if isSourceFailure error then do
        ModelTask.truncateTemp
        let operation ← ModelTask.perform fun now =>
          .switchSource operationId next.url next.kind.value now
        downloadSources operationId next operation.etag operation.lastModified 0 rest
      else throw error

/-- Bring the recorded bytes and the bytes that are there together. -/
def reconcilePartial (operation : ModelDownload) : ModelTask ModelDownload := do
  let files ← ModelTask.tempFiles
  let actual := downloadedBytes config files
  if expectedSize config < actual then do
    ModelTask.truncateTemp
    restartDownloadOf operation.operationId
  else if operation.downloadedBytes < actual then
    saveProgress operation.operationId actual (some config.tempPath) none none
  else if (actual : Int) < operation.downloadedBytes then do
    ModelTask.truncateTemp
    restartDownloadOf operation.operationId
  else pure operation

/-! ## The statuses -/

def advanceTo (operationId : String) (toStatus : ModelDownloadStatus)
    (columns : DownloadColumns) : ModelTask ModelDownload :=
  ModelTask.perform fun now => .advance operationId toStatus now columns none

/-- While `pending`. -/
def beginDownload (operation : ModelDownload) : ModelTask ModelDownload :=
  if operation.status = .pending then
    advanceTo operation.operationId .downloading { tempPath := some config.tempPath }
  else pure operation

/-- While `downloading`. -/
def runDownload (operation : ModelDownload) : ModelTask ModelDownload :=
  if operation.status = .downloading then do
    let operation ← reconcilePartial config operation
    let outcome ← downloadSources config operation.operationId config.manifest.primary operation.etag
      operation.lastModified operation.downloadedBytes config.manifest.sources.tail
    let _ ← saveProgress operation.operationId (expectedSize config) none none none
    advanceTo operation.operationId .verifying
      { etag := outcome.etag, lastModified := outcome.lastModified }
  else pure operation

/-- `_verify_downloaded` of a file. -/
def verifyDownloaded (files : FileTree) (name : String) (expectedSizeBytes : Nat)
    (expectedSha256 : String) : Except InstallError Unit :=
  match files.content name with
  | none => .error (.download "SIZE_MISMATCH")
  | some content =>
    if content.length ≠ expectedSizeBytes then .error (.download "SIZE_MISMATCH")
    else if config.sha256 content ≠ expectedSha256 then .error (.download "SHA256_MISMATCH")
    else .ok ()

/-- `_verify_file_set`, or `_verify_downloaded` of the archive. -/
def verifyTemp (files : FileTree) : Except InstallError Unit :=
  if config.manifest.isFileSet then
    if isDeclaredSet config.manifest files then
      config.manifest.files.forM fun file =>
        verifyDownloaded config files file.name file.sizeBytes file.sha256
    else .error .archive
  else verifyDownloaded config files "" (expectedSize config) config.manifest.primary.sha256

/-- While `verifying`. -/
def runVerify (operation : ModelDownload) : ModelTask ModelDownload :=
  if operation.status = .verifying then do
    let files ← ModelTask.tempFiles
    ModelTask.orRaise (verifyTemp config files)
    advanceTo operation.operationId .installing {}
  else pure operation

/-- What is staged of the downloaded files. -/
def stageTemp (files : FileTree) : Except InstallError FileTree :=
  if config.manifest.isFileSet then stageFileSet config.sha256 config.manifest files
  else
    match files.content "" with
    | none => .error .unexpected
    | some archive => extractAndVerify config.sha256 config.manifest config.readArchive archive

/-- While `installing`. -/
def runInstall (operation : ModelDownload) : ModelTask ModelDownload :=
  if operation.status = .installing then do
    let files ← ModelTask.tempFiles
    let staged ← ModelTask.orRaise (stageTemp config files)
    let promoted ← ModelTask.promote config.manifest.version staged
    ModelTask.orRaise promoted
    ModelTask.perform fun now =>
      .complete operation.operationId config.manifest.modelId config.manifest.version config.versionDir now
  else pure operation

/-- The body of the `try`. -/
def driveOperation (operation : ModelDownload) : ModelTask ModelDownload := do
  let operation ← beginDownload config operation
  let operation ← runDownload config operation
  let operation ← runVerify config operation
  runInstall config operation

/-! ## The end -/

/-- The handler of `_Cancelled`. -/
def endCancelled (operationId : String) : ModelTask ModelDownload := do
  let current ← ModelTask.getDownload operationId
  if current.any fun current => current.status = .downloading then do
    let files ← ModelTask.tempFiles
    let _ ← saveProgress operationId (downloadedBytes config files) none none none
    markTerminal operationId .cancelled "CANCELLED"
  else markTerminal operationId .cancelled "CANCELLED"

/-- The other handlers. -/
def endFailed (operationId : String) : InstallError → ModelTask ModelDownload
  | .download code => do
    ModelTask.truncateTemp
    markTerminal operationId .failed code
  | .archive => do
    ModelTask.truncateTemp
    markTerminal operationId .failed "ARCHIVE_INVALID"
  | .fileExists => markTerminal operationId .failed "INSTALL_CONFLICT"
  | .http => markTerminal operationId .failed "DOWNLOAD_FAILED"
  | _ => markTerminal operationId .failed "INTERNAL"

def endOperation (operationId : String) : InstallError → ModelTask ModelDownload
  | .cancelled => endCancelled config operationId
  | error => endFailed operationId error

/-- The operation that is under way, to its end. -/
def finishOperation (operation : ModelDownload) : ModelTask ModelDownload :=
  tryCatch (driveOperation config operation) (endOperation config operation.operationId)

/-- `install_model`. -/
def installModel : ModelTask ModelDownload :=
  if isReleasable config.catalog config.manifest then do
    let existing ← alreadyActive config
    match existing with
    | some existing => pure existing
    | none => do
      let operation ← getOrCreateOperation config
      finishOperation config operation
  else throw .notReleasable

end

end EvoBlue.Source
