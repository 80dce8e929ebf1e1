import EvoBlue.Kernel.Protocol
import EvoBlue.Kernel.Text
import EvoBlue.Source.ModelArchives

/-!
# Resumable downloads

`download_resumable` of `asr/model_manager.py`, as a process whose calls are the awaits
and file operations of the install code. Under the temporary path of a model version lie
the files of a set, or the one file of an archive, which has the name `""`. What a server
sends, and where its connection breaks, is the answer to the request.
-/

namespace EvoBlue.Source

open EvoBlue.Kernel

/-! ## Calls -/

/-- The `Range` header, and the validator sent with it. -/
structure RangeRequest where
  start : Nat
  ifRange : Option String
  deriving DecidableEq

/-- What the connection to a server raises. -/
inductive TransferFailure where
  /-- `httpx.HTTPError`. -/
  | http
  | unexpected
  deriving DecidableEq, Repr

def TransferFailure.error : TransferFailure → InstallError
  | .http => .http
  | .unexpected => .unexpected

structure HttpResponse where
  status : Nat
  contentRange : Option Text := none
  etag : Option String := none
  lastModified : Option String := none
  chunks : List Bytes := []
  /-- What reading the body raises after these chunks. -/
  broken : Option TransferFailure := none

inductive ModelCall where
  | now
  | getActiveModel (modelId : String)
  | getInstallation (modelId version : String)
  | findLatestDownload (modelId version : String)
  | findActiveDownload (modelId : String)
  | getDownload (operationId : String)
  | perform (op : ModelOp)
  | cancelCheck
  | get (url : String) (range : Option RangeRequest)
  /-- The files under the temporary path. -/
  | tempFiles
  /-- `open(.., "wb")`. -/
  | createTemp (name : String)
  /-- A write to an open file; one that is unlinked by then is not there again. -/
  | appendTemp (name : String) (chunk : Bytes)
  | truncateTemp
  /-- `_promote` of staged files to the directory of the version. -/
  | promote (version : String) (staged : FileTree)

abbrev ModelAnswer : ModelCall → Type
  | .now => ℚ
  | .getActiveModel _ => Option ActiveModel
  | .getInstallation _ _ => Option ModelInstall
  | .findLatestDownload _ _ => Option ModelDownload
  | .findActiveDownload _ => Option ModelDownload
  | .getDownload _ => Option ModelDownload
  | .perform _ => Except ModelError (Option ModelDownload)
  | .cancelCheck => Bool
  | .get _ _ => Except TransferFailure HttpResponse
  | .tempFiles => FileTree
  | .createTemp _ => Unit
  | .appendTemp _ _ => Unit
  | .truncateTemp => Unit
  | .promote _ _ => Except InstallError Unit

/-- Code of the model manager that awaits calls and may raise. -/
abbrev ModelTask := Attempt ModelCall ModelAnswer InstallError

namespace ModelTask

abbrev now : ModelTask ℚ := Attempt.call ModelCall.now

abbrev getActiveModel (modelId : String) : ModelTask (Option ActiveModel) :=
  Attempt.call (ModelCall.getActiveModel modelId)

abbrev getInstallation (modelId version : String) : ModelTask (Option ModelInstall) :=
  Attempt.call (ModelCall.getInstallation modelId version)

abbrev findLatestDownload (modelId version : String) : ModelTask (Option ModelDownload) :=
  Attempt.call (ModelCall.findLatestDownload modelId version)

abbrev findActiveDownload (modelId : String) : ModelTask (Option ModelDownload) :=
  Attempt.call (ModelCall.findActiveDownload modelId)

abbrev getDownload (operationId : String) : ModelTask (Option ModelDownload) :=
  Attempt.call (ModelCall.getDownload operationId)

abbrev cancelCheck : ModelTask Bool := Attempt.call ModelCall.cancelCheck

abbrev get (url : String) (range : Option RangeRequest) :
    ModelTask (Except TransferFailure HttpResponse) := Attempt.call (ModelCall.get url range)

abbrev tempFiles : ModelTask FileTree := Attempt.call ModelCall.tempFiles

abbrev createTemp (name : String) : ModelTask Unit := Attempt.call (ModelCall.createTemp name)

abbrev appendTemp (name : String) (chunk : Bytes) : ModelTask Unit :=
  Attempt.call (ModelCall.appendTemp name chunk)

abbrev truncateTemp : ModelTask Unit := Attempt.call ModelCall.truncateTemp

abbrev promote (version : String) (staged : FileTree) : ModelTask (Except InstallError Unit) :=
  Attempt.call (ModelCall.promote version staged)

/-- Go on with a result, or raise. -/
def orRaise {α : Type} : Except InstallError α → ModelTask α
  | .ok value => pure value
  | .error error => throw error

/-- A function of the repository, at the time it is called; it returns the row it wrote. -/
def perform (op : ℚ → ModelOp) : ModelTask ModelDownload := do
  let time ← now
  let reply : Except ModelError (Option ModelDownload) ← Attempt.call (ModelCall.perform (op time))
  match reply with
  | .ok (some row) => pure row
  | .ok none => throw .unexpected
  | .error error => throw (.store error)

end ModelTask

/-! ## The header -/

section

variable (unicode : UnicodeData)

/-- `\d`. -/
def isDecimal (c : CodePoint) : Bool :=
  if isAscii c then isDigit c else (unicode.decimal c).isSome

/-- `_CONTENT_RANGE_RE`: the start, the end and the total, or `*` for it. -/
def matchContentRange (value : Text) : Option (Text × Text × Text) :=
  if (text "bytes").isPrefixOf value then
    let blanks := value.drop 5
    let rest := blanks.dropWhile isSpace
    let start := rest.takeWhile (isDecimal unicode)
    let afterStart := rest.dropWhile (isDecimal unicode)
    let stop := (afterStart.drop 1).takeWhile (isDecimal unicode)
    let afterStop := (afterStart.drop 1).dropWhile (isDecimal unicode)
    let total := afterStop.drop 1
    if blanks.length = rest.length ∨ start = [] ∨ afterStart.head? ≠ some (cp '-') ∨ stop = [] ∨
        afterStop.head? ≠ some (cp '/') then none
    else if total = [cp '*'] ∨ total ≠ [] ∧ total.all (isDecimal unicode) then
      some (start, stop, total)
    else none
  else none

/-- `_validate_content_range`. -/
def validateContentRange (value : Option Text) (start total : Nat) : Except InstallError Unit :=
  let invalid : InstallError := .download "INVALID_CONTENT_RANGE"
  match value.bind fun value => matchContentRange unicode (strip value) with
  | none => .error invalid
  | some (rangeStart, _, rangeTotal) =>
    if rangeTotal = [cp '*'] then .error invalid
    else
      match readInt unicode rangeStart, readInt unicode rangeTotal with
      | none, _ => .error .unexpected
      | some first, size =>
        if first ≠ start then .error invalid
        else
          match size with
          | none => .error .unexpected
          | some size => if size ≠ total then .error invalid else .ok ()

end

/-! ## The download -/

structure DownloadOutcome where
  downloadedBytes : Nat
  sha256 : String
  restarted : Bool := false
  etag : Option String := none
  lastModified : Option String := none

/-- What the installer does while a file comes in; `σ` is what it remembers. -/
structure DownloadHooks (σ : Type) where
  progress : σ → Nat → ModelTask σ
  onRestart : σ → ModelTask σ
  onHeaders : σ → Option String → Option String → ModelTask σ

/-- The file that is downloaded. -/
structure DownloadTarget where
  url : String
  name : String
  expectedSha256 : String
  expectedSizeBytes : Nat

section

variable {σ : Type} (sha256 : Bytes → String) (unicode : UnicodeData) (target : DownloadTarget)
  (hooks : DownloadHooks σ)

/-- The file as far as it is there. -/
def existingBytes (files : FileTree) (name : String) : Nat :=
  ((files.content name).getD []).length

/-- Write the chunks to the file, which holds `content`. -/
def writeChunks : (content : Bytes) → σ → List Bytes → ModelTask (Bytes × σ)
  | content, memory, [] => pure (content, memory)
  | content, memory, chunk :: rest =>
    if target.expectedSizeBytes < content.length + chunk.length then
      throw (.download "RESPONSE_TOO_LARGE")
    else do
      ModelTask.appendTemp target.name chunk
      let memory ← hooks.progress memory (content ++ chunk).length
      writeChunks (content ++ chunk) memory rest

/-- Where the body is written from: nothing of the file, or what is there of it. -/
def openTarget (response : HttpResponse) (existing : Nat) (memory : σ) :
    ModelTask (Bool × Bool × σ) :=
  if response.status = 206 then do
    ModelTask.orRaise (validateContentRange unicode response.contentRange existing
      target.expectedSizeBytes)
    pure (true, false, memory)
  else if response.status = 200 then
    if 0 < existing then do
      let memory ← hooks.onRestart memory
      pure (false, true, memory)
    else pure (false, false, memory)
  else throw (.download "DOWNLOAD_FAILED")

/-- The bytes the body is appended to. -/
def filePrefix (appends : Bool) : ModelTask Bytes :=
  if appends then do
    let files ← ModelTask.tempFiles
    match files.content target.name with
    | some content => pure content
    | none => throw .unexpected
  else do
    ModelTask.createTemp target.name
    pure []

/-- The body of a response, down to the checks of size and digest. -/
def receiveBody (response : HttpResponse) (restarted : Bool) (content : Bytes) (memory : σ) :
    ModelTask (DownloadOutcome × σ) := do
  let (content, memory) ← writeChunks target hooks content memory response.chunks
  match response.broken with
  | some failure => throw failure.error
  | none =>
    if content.length ≠ target.expectedSizeBytes then throw (.download "SIZE_MISMATCH")
    else if sha256 content ≠ target.expectedSha256 then throw (.download "SHA256_MISMATCH")
    else
      pure ({ downloadedBytes := content.length
              sha256 := sha256 content
              restarted
              etag := response.etag
              lastModified := response.lastModified }, memory)

/-- A response, from its status on. -/
def receive (response : HttpResponse) (existing : Nat) (memory : σ) :
    ModelTask (DownloadOutcome × σ) := do
  let (appends, restarted, memory) ← openTarget unicode target hooks response existing memory
  let memory ← hooks.onHeaders memory response.etag response.lastModified
  let content ← filePrefix target appends
  receiveBody sha256 target hooks response restarted content memory

/-- The digest of a file that is already complete. -/
def completeInPlace (content : Bytes) : ModelTask DownloadOutcome :=
  if sha256 content ≠ target.expectedSha256 then throw (.download "SHA256_MISMATCH")
  else pure { downloadedBytes := content.length, sha256 := sha256 content }

/-- The directory of the file can be made, and the file is no directory. -/
def checkObstruction (files : FileTree) : ModelTask Unit :=
  match files.obstruction target.name with
  | some error => throw error
  | none => pure ()

/-- `download_resumable`. -/
def downloadResumable (etag lastModified : Option String) (memory : σ) :
    ModelTask (DownloadOutcome × σ) := do
  let files ← ModelTask.tempFiles
  checkObstruction target files
  let existing := existingBytes files target.name
  if target.expectedSizeBytes < existing then throw (.download "INVALID_CONTENT_RANGE")
  else if existing = target.expectedSizeBytes then do
    let outcome ← completeInPlace sha256 target ((files.content target.name).getD [])
    pure (outcome, memory)
  else do
    let range : Option RangeRequest :=
      if 0 < existing then
        some ⟨existing, (etag.filter (· ≠ "")).or (lastModified.filter (· ≠ ""))⟩
      else none
    let answered ← ModelTask.get target.url range
    let response ← ModelTask.orRaise (answered.mapError TransferFailure.error)
    receive sha256 unicode target hooks response existing memory

end

end EvoBlue.Source
