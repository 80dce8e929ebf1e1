import EvoBlue.Kernel.Script
import EvoBlue.Source.AppSettings
import EvoBlue.Source.ReportPointer
import EvoBlue.Source.WriteTransaction

/-!
# Saving the settings

`settings_put` of `web/app.py` switches three stores: the slots of the credential
store, the recovery pointer and the settings row. Requests are serialized by a
lock, so that a save runs alone; how each of its awaits and calls ends is in
`SaveFate`. Texts of the answers are those of the source.
-/

namespace EvoBlue.Source

open EvoBlue.Kernel

/-- A key handed to the credential store, and what the request said it is for. -/
structure SlotKey where
  slot : Text
  key : Text
  provider : Option Text
  baseUrl : Option Text
  deriving DecidableEq, Repr

structure SettingsWorld where
  /-- The committed row. -/
  row : Option AppSettings := none
  pointer : Option Bytes := none
  /-- Every key ever handed over, the latest first. -/
  keys : List SlotKey := []
  /-- The slots scheduled for deletion, the latest first. -/
  deletes : List Text := []
  deriving DecidableEq, Repr

structure SettingsServer where
  unicode : UnicodeData
  hasCredentialStore : Bool := true
  hasPointerFile : Bool := true
  hasModelService : Bool := true

/-- What a save raises. -/
inductive SaveRaised where
  | http (status : Nat) (detail : String)
  | raised (error : Raised)
  deriving DecidableEq, Repr

/-- How waiting for the credential writer ends. -/
inductive Confirmation where
  | confirmed
  | unconfirmed
  | cancelled
  deriving DecidableEq, Repr

/-- The session and the write transaction of a save. -/
structure TransactionFate where
  events : List HelperEvent
  exit : Ending
  left : (WriteHelper.after events).point = .left exit
  /-- SQLite has made durable what the commit then reports as failed. -/
  adoptedDespite : Bool := false
  /-- How closing the session ends. -/
  close : Ending := .ok ()

namespace TransactionFate

def helper (fate : TransactionFate) : WriteHelper := WriteHelper.after fate.events

/-- The row is in the database. -/
def durable (fate : TransactionFate) : Bool :=
  match fate.helper.commit with
  | .finished none => true
  | .finished (some _) => fate.adoptedDespite
  | _ => false

/-- `commit_state["committed"]`. -/
def committed (fate : TransactionFate) : Bool := fate.helper.onCommitCalls ≠ 0

/-- How the `async with` block ends. -/
def ending (fate : TransactionFate) : Ending :=
  match fate.close with
  | .error error => .error error
  | .ok _ => fate.exit

end TransactionFate

/-- How the awaits and calls of a save end. -/
structure SaveFate where
  /-- The lock, and the session that reads the row. -/
  readSettings : Ending := .ok ()
  getSecret : Except Raised (Option Text) := .ok none
  setSecret : Confirmation := .confirmed
  /-- Reading the pointer raises an `OSError`. -/
  pointerUnreadable : Bool := false
  writePointer : Option PointerFault := none
  transaction : TransactionFate
  restorePointer : Option PointerFault := none
  /-- `reconcile_waiting`. -/
  reconcile : Ending := .ok ()
  /-- Reading the key back for the answer. -/
  configured : Ending := .ok ()

abbrev Save := Script SettingsWorld SaveRaised

def raiseIf : Ending → Save Unit
  | .ok _ => pure ()
  | .error error => .raise (.raised error)

def submitDelete (slot : Text) : Save Unit :=
  .write fun world => { world with deletes := slot :: world.deletes }

/-- A column that counts as given. -/
def given (value : Option Text) : Bool := value.getD [] ≠ []

section

variable (server : SettingsServer) (fate : SaveFate) (request : AppSettingsUpdate) (token : Text)
  (current : Option AppSettings)

/-- The stored key is there; a failed lookup says no. -/
def keyStored : Save Bool :=
  if request.newKey.isNone && !request.deletesKey && server.hasCredentialStore &&
      given (bindCredential server.unicode request token current).1 then
    match fate.getSecret with
    | .ok secret => pure (given secret)
    | .error .cancelled => .raise (.raised .cancelled)
    | .error (.error _) => pure false
  else pure false

/-- The gate on a finished setup. -/
def requireRunnable : Save Unit :=
  if request.setupCompleted.getD ((current.map (·.setupCompleted)).getD false) then do
    let stored ← keyStored server fate request token current
    if given (provider request current) && given (mergedBaseUrl request current) &&
        given (merged request.llmModel current (·.llmModel)) &&
        given (bindCredential server.unicode request token current).1 &&
        (request.newKey.isSome || stored) then
      pure ()
    else
      .raise (.http 400 ("无法完成设置：LLM 配置不可运行" ++
        "（Provider / Base URL / 模型 / API Key 必须齐全，" ++
        "API Key 需已存入凭据库；切换 Provider 或修改 Base URL 地址后" ++
        "必须填写该端点的 API Key）"))
  else pure ()

/-- A new key goes to its own slot, before anything else is written. -/
def storeKey : Save Unit :=
  if request.llmApiKey.isNone then pure ()
  else if !server.hasCredentialStore then .raise (.http 503 "credential store unavailable")
  else
    match request.newKey with
    | none => pure ()
    | some key => do
      let slot := freshReference server.unicode request token current
      .write fun world =>
        { world with
          keys :=
            { slot, key, provider := provider request current
              baseUrl := mergedBaseUrl request current } :: world.keys }
      match fate.setSecret with
      | .confirmed => pure ()
      | .cancelled => .raise (.raised .cancelled)
      | .unconfirmed =>
        submitDelete slot
        .raise (.http 503 "凭据写入尚未确认（操作仍在队列中执行）；请稍后重试或读取配置确认")

/-- `replaced_slots`. -/
def replacedSlot : Option Text :=
  if request.llmApiKey.isSome then
    (current.bind (·.llmCredentialRef)).filter fun slot => slot ≠ []
  else none

def cleanupReplacedSlots : Save Unit :=
  match replacedSlot request current with
  | some slot => submitDelete slot
  | none => pure ()

def cleanupUnadoptedFreshSlot : Save Unit :=
  if request.newKey.isSome then submitDelete (freshReference server.unicode request token current)
  else pure ()

/-- The save writes the pointer. -/
def carriesPointer : Bool := server.hasPointerFile && request.reportDirectory.isSome

/-- The directory that is saved. -/
def reportDirectoryValue : Option Text := merged request.reportDirectory current (·.reportDirectory)

/-- Reading the old pointer and writing the new one. -/
def replacePointer (file : Option Bytes) : Except SaveRaised (Option Text × Bytes) :=
  if fate.pointerUnreadable then .error (.http 503 "report pointer could not be read")
  else
    match readReportPointer file with
    | none => .error (.http 503 "report pointer could not be read")
    | some previous =>
      match writeReportPointer fate.writePointer
          (pointerValue (reportDirectoryValue request current)) with
      | .ok bytes => .ok (previous, bytes)
      | .error .osError => .error (.http 503 "report pointer could not be updated")
      | .error .unicodeEncodeError => .error (.http 503 "settings could not be saved")

/-- The pointer goes first; the answer is the value to restore, if it was written. -/
def pointToDirectory : Save (Option (Option Text)) :=
  if carriesPointer server request then do
    let world ← .read
    match replacePointer fate request current world.pointer with
    | .ok (previous, bytes) =>
      .write fun world => { world with pointer := some bytes }
      pure (some previous)
    | .error raised =>
      cleanupUnadoptedFreshSlot server request token current
      .raise raised
  else pure none

/-- `_restore_pointer`; an `OSError` is logged. -/
def restorePointer : (previous : Option (Option Text)) → Save Unit
  | none => pure ()
  | some previous =>
    match writeReportPointer fate.restorePointer previous with
    | .ok bytes => .write fun world => { world with pointer := some bytes }
    | .error .osError => pure ()
    | .error .unicodeEncodeError => .raise (.raised (.error "UnicodeEncodeError"))

/-- The transaction, and what its end has to compensate. -/
def commitSettings (saved : AppSettings) (previous : Option (Option Text)) : Save Unit := do
  .write fun world => if fate.transaction.durable then { world with row := some saved } else world
  match fate.transaction.ending with
  | .ok _ => cleanupReplacedSlots request current
  | .error .cancelled =>
    if fate.transaction.committed then cleanupReplacedSlots request current
    else
      restorePointer fate previous
      cleanupUnadoptedFreshSlot server request token current
    .raise (.raised .cancelled)
  | .error (.error _) =>
    restorePointer fate previous
    cleanupUnadoptedFreshSlot server request token current
    .raise (.http 503 "settings could not be saved")

end

/-- What comes before the transaction; the answer is the row that was read, and the
pointer to restore. -/
def prepareSave (server : SettingsServer) (fate : SaveFate) (request : AppSettingsUpdate)
    (token : Text) : Save (Option AppSettings × Option (Option Text)) := do
  raiseIf fate.readSettings
  let world ← .read
  let current := world.row
  requireRunnable server fate request token current
  storeKey server fate request token current
  let previous ← pointToDirectory server fate request token current
  pure (current, previous)

/-- `settings_put`. -/
def settingsPut (server : SettingsServer) (fate : SaveFate) (request : AppSettingsUpdate)
    (token : Text) (now : Time) : Save AppSettings := do
  let (current, previous) ← prepareSave server fate request token
  let saved := savedSettings server.unicode request token current now
  commitSettings server fate request token current saved previous
  if request.whisperCppExecutable.isSome && server.hasModelService then
    raiseIf fate.reconcile
  raiseIf fate.configured
  pure saved

/-! ## Samples -/

/-- A server that meets ASCII texts alone. -/
def sampleServer : SettingsServer where
  unicode := { lowerAt := fun _ c _ => [c], decimal := fun _ => none, nfkc := id }

/-- A commit that nothing disturbs. -/
def undisturbedCommit : TransactionFate where
  events := [.entered, .bodyEnds (.ok ()), .commitEnds none, .resumes, .restoreEnds]
  exit := .ok ()
  left := by decide

end EvoBlue.Source
