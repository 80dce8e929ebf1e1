import EvoBlue.Kernel.EventLoop
import EvoBlue.Kernel.IsoDatetime
import EvoBlue.Kernel.Text

/-!
# The client configuration service

`ClientConfigService` of `application/client_config/service.py`, its registry of clients
and the frozen value types. Adapters, the handshake and the engine probe are awaited:
what they answer is for the world to say, and other requests run meanwhile. The verdict
cache and the per-client locks are only touched between awaits.
-/

namespace EvoBlue.Source

open EvoBlue.Kernel

/-! ## Values -/

inductive Tier where
  | fileAuto
  | cli
  | manual
  deriving DecidableEq, Repr

inductive Container where
  | toml
  | json
  | cli
  deriving DecidableEq, Repr

inductive HandshakeState where
  | verified
  | unverified
  | failed
  deriving DecidableEq, Repr

structure ClientSpec where
  clientId : Text
  displayName : Text
  tier : Tier
  entryKey : Text
  container : Container
  writeTarget : Option Text
  note : Text
  deriving DecidableEq

def clientSpecs : List ClientSpec :=
  [{ clientId := text "codex", displayName := text "Codex", tier := .fileAuto
     entryKey := text "evoblue-video", container := .toml
     writeTarget := some (text "~/.codex/config.toml"), note := [] },
    { clientId := text "claude_desktop", displayName := text "Claude Desktop", tier := .fileAuto
      entryKey := text "evoblue-video", container := .json
      writeTarget := some (text "%APPDATA%/Claude/claude_desktop_config.json")
      note := text "仅 Windows 实测路径，POSIX 不支持自动写" },
    { clientId := text "workbuddy", displayName := text "WorkBuddy", tier := .fileAuto
      entryKey := text "evoblue-video-mcp", container := .json
      writeTarget := some (text "~/.workbuddy/mcp.json")
      note := text "安装后需在 WorkBuddy 连接器管理页手动 Trust 才激活" },
    { clientId := text "claude_code", displayName := text "Claude Code", tier := .cli
      entryKey := text "evoblue-video", container := .cli
      writeTarget := some (text "claude mcp（local 作用域）")
      note := text "CLI 不在 PATH 时该次调用降级为可复制配置，绝不直接改写 CLI 管理的文件" },
    { clientId := text "deepseek", displayName := text "DeepSeek Harness", tier := .manual
      entryKey := text "evoblue-video", container := .json, writeTarget := none
      note := text "格式仍在变化，只生成可复制配置，永不自动写入" }]

structure OperationOutcome where
  performed : Bool
  reason : Option Text := none
  installed : Option Bool := none
  entryMatchesCurrent : Option Bool := none
  backupName : Option Text := none
  restoredFrom : Option Text := none
  safetyBackup : Option Text := none
  removedTarget : Option Bool := none

structure TargetState where
  supported : Bool
  present : Option Bool
  installed : Option Bool
  entryMatchesCurrent : Option Bool
  otherServerCount : Option Nat
  backupCount : Nat

structure CopyableConfig where
  clientId : Text
  format : Container
  configText : Text
  targetPath : Option Text
  steps : List Text

structure ClientStatus where
  clientId : Text
  displayName : Text
  tier : Tier
  targetPresent : Option Bool
  installed : Option Bool
  entryMatchesCurrent : Option Bool
  configSupported : Bool
  handshake : HandshakeState
  handshakeReason : Option Text
  handshakeCheckedAt : Option ℚ
  engineOnline : Option Bool
  otherServerCount : Option Nat
  backupCount : Nat
  notes : List Text

structure OperationResult where
  clientId : Text
  operation : Text
  performed : Bool
  installed : Option Bool
  entryMatchesCurrent : Option Bool
  handshake : HandshakeState
  handshakeReason : Option Text
  handshakeCheckedAt : Option ℚ
  backupName : Option Text := none
  restoredFrom : Option Text := none
  safetyBackup : Option Text := none
  removedTarget : Option Bool := none
  copyable : Option CopyableConfig := none
  message : Text := []

/-! ## What the service shares, and what it awaits -/

/-- A verdict with the reading of the clock it was cached at. -/
structure HandshakeVerdict where
  state : HandshakeState
  reason : Option Text
  checkedAt : ℚ

structure ServiceState where
  verdicts : Text → Option HandshakeVerdict := fun _ => none
  locked : Text → Bool := fun _ => false

inductive ServiceNow where
  /-- `self._verdicts.get`. -/
  | cached (client : Text)
  | remember (client : Text) (verdict : HandshakeVerdict)
  /-- `self._verdicts.pop`. -/
  | forget (client : Text)
  | isLocked (client : Text)
  | lock (client : Text)
  | release (client : Text)

abbrev ServiceReply : ServiceNow → Type
  | .cached _ => Option HandshakeVerdict
  | .remember _ _ => Unit
  | .forget _ => Unit
  | .isLocked _ => Bool
  | .lock _ => Unit
  | .release _ => Unit

def serveService : ∀ now, ServiceState → ServiceReply now × ServiceState
  | .cached client, state => (state.verdicts client, state)
  | .remember client verdict, state =>
    ((), { state with verdicts := Function.update state.verdicts client (some verdict) })
  | .forget client, state =>
    ((), { state with verdicts := Function.update state.verdicts client none })
  | .isLocked client, state => (state.locked client, state)
  | .lock client, state => ((), { state with locked := Function.update state.locked client true })
  | .release client, state =>
    ((), { state with locked := Function.update state.locked client false })

inductive AdapterError where
  | backupNotFound
  | entryConflict
  | configWrite
  | unsupportedConfig
  /-- Any other `Exception`. -/
  | other
  | cancelled
  deriving DecidableEq, Repr

/-- How the awaited handshake comes back. -/
inductive HandshakeEnd where
  | answered (ok : Bool) (error : Text)
  | timeout
  | raised
  | cancelled

inductive ProbeEnd where
  | answered (online : Option Bool)
  | raised
  | cancelled

inductive ServiceAwait where
  | install (client : Text) (force : Bool)
  | verify (client : Text)
  | remove (client : Text)
  | restore (client backupName : Text)
  | state (client : Text)
  | handshake
  | probe

/-- The clock is read when the handshake is back. -/
abbrev ServiceAnswer : ServiceAwait → Type
  | .install _ _ => Except AdapterError OperationOutcome
  | .verify _ => Except AdapterError OperationOutcome
  | .remove _ => Except AdapterError OperationOutcome
  | .restore _ _ => Except AdapterError OperationOutcome
  | .state _ => Except AdapterError TargetState
  | .handshake => HandshakeEnd × ℚ
  | .probe => ProbeEnd

inductive ServiceError where
  | clientUnknown
  | operationInProgress
  | autoInstallUnsupported
  | confirmationRequired
  | adapter (error : AdapterError)
  | cancelled
  deriving DecidableEq, Repr

abbrev ServiceTask (α : Type) :=
  Attempt (ServiceNow ⊕ ServiceAwait) (LoopAnswer ServiceReply ServiceAnswer) ServiceError α

namespace ServiceTask

/-- A synchronous access to what the service shares. -/
def now (request : ServiceNow) : ServiceTask (ServiceReply request) := Attempt.call (Sum.inl request)

def wait (request : ServiceAwait) : ServiceTask (ServiceAnswer request) := Attempt.call (Sum.inr request)

/-- An adapter call; what the adapter raises is raised. -/
def adapter {α : Type} (outcome : Except AdapterError α) : ServiceTask α :=
  match outcome with
  | .ok value => pure value
  | .error error => throw (.adapter error)

end ServiceTask

/-- What the adapters render from the payload, and whether there is an engine probe. -/
structure ServiceEnv where
  copyableText : ClientSpec → Text
  copyableSteps : ClientSpec → List Text
  hasProbe : Bool

/-! ## Helpers of the service -/

def findSpec (client : Text) : ServiceTask ClientSpec :=
  match clientSpecs.find? fun spec => spec.clientId = client with
  | some spec => pure spec
  | none => throw .clientUnknown

/-- `async with self._acquire_lock(client_id)`. -/
def holdingLock {α : Type} (client : Text) (body : ServiceTask α) : ServiceTask α := do
  if ← ServiceTask.now (.isLocked client) then
    throw .operationInProgress
  ServiceTask.now (.lock client)
  let value ← tryCatch body fun error => do
    ServiceTask.now (.release client)
    throw error
  ServiceTask.now (.release client)
  return value

abbrev VerdictPair := HandshakeState × Option Text

/-- The `except` clauses of `_run_handshake`; a cancellation passes them. -/
def judgeHandshake : HandshakeEnd → ServiceTask VerdictPair
  | .timeout => pure (.failed, some (text "timeout"))
  | .raised => pure (.unverified, some (text "verify_error"))
  | .answered true _ => pure (.verified, none)
  | .answered false error => pure (.failed, some error)
  | .cancelled => throw .cancelled

/-- `_run_handshake`. -/
def runHandshake (client : Text) : ServiceTask VerdictPair := do
  let (ended, checkedAt) ← ServiceTask.wait .handshake
  let verdict ← judgeHandshake ended
  ServiceTask.now (.remember client ⟨verdict.1, verdict.2, checkedAt⟩)
  return verdict

/-- `_cached_verdict`. -/
def cachedVerdict (client : Text) : ServiceTask (HandshakeState × Option Text × Option ℚ) := do
  match ← ServiceTask.now (.cached client) with
  | none => return (.unverified, none, none)
  | some verdict => return (verdict.state, verdict.reason, some verdict.checkedAt)

/-- `_copyable`. -/
def copyableConfig (env : ServiceEnv) (spec : ClientSpec) : CopyableConfig where
  clientId := spec.clientId
  format := spec.container
  configText := env.copyableText spec
  targetPath := spec.writeTarget
  steps := env.copyableSteps spec

def unverifiedPair (outcome : OperationOutcome) : VerdictPair := (.unverified, outcome.reason)

def engineOnline (env : ServiceEnv) : ServiceTask (Option Bool) := do
  if !env.hasProbe then
    return none
  match ← ServiceTask.wait .probe with
  | .answered online => return online
  | .raised => return some false
  | .cancelled => throw .cancelled

/-- `_operation_result`; the verdict shown is the cached one. -/
def operationResult (env : ServiceEnv) (spec : ClientSpec) (operation : Text)
    (outcome : OperationOutcome) (verdict : VerdictPair) (includeCopyable : Bool) (message : Text)
    (backupName restoredFrom safetyBackup : Option Text) (removedTarget : Option Bool) :
    ServiceTask OperationResult := do
  let (state, cachedReason, checkedAt) ← cachedVerdict spec.clientId
  let handshakeReason :=
    if verdict.1 = .unverified ∧ verdict.2.isSome ∧ state = .unverified then verdict.2
    else cachedReason
  return {
    clientId := spec.clientId, operation, performed := outcome.performed
    installed := outcome.installed, entryMatchesCurrent := outcome.entryMatchesCurrent
    handshake := state, handshakeReason, handshakeCheckedAt := checkedAt
    backupName, restoredFrom, safetyBackup, removedTarget
    copyable := if includeCopyable then some (copyableConfig env spec) else none, message }

/-! ## Queries -/

/-- `_reconciled_verdict`: a verified verdict is dropped when the configuration does not back it. -/
def reconciledVerdict (client : Text) (state : TargetState) :
    ServiceTask (HandshakeState × Option Text × Option ℚ) := do
  match ← ServiceTask.now (.cached client) with
  | some verdict =>
    if verdict.state = .verified ∧ state.entryMatchesCurrent ≠ some true then
      ServiceTask.now (.forget client)
      return (.unverified, some (text "config_changed"), none)
    cachedVerdict client
  | none => cachedVerdict client

def clientStatus (spec : ClientSpec) (state : TargetState)
    (verdict : HandshakeState × Option Text × Option ℚ) (online : Option Bool) : ClientStatus where
  clientId := spec.clientId
  displayName := spec.displayName
  tier := spec.tier
  targetPresent := state.present
  installed := state.installed
  entryMatchesCurrent := state.entryMatchesCurrent
  configSupported := state.supported
  handshake := verdict.1
  handshakeReason := verdict.2.1
  handshakeCheckedAt := verdict.2.2
  engineOnline := online
  otherServerCount := state.otherServerCount
  backupCount := state.backupCount
  notes := if spec.note = [] then [] else [spec.note]

def statusOf (env : ServiceEnv) (client : Text) : ServiceTask ClientStatus := do
  let spec ← findSpec client
  let state ← ServiceTask.adapter (← ServiceTask.wait (.state client))
  let verdict ← reconciledVerdict client state
  let online ← engineOnline env
  return clientStatus spec state verdict online

/-- The loop of `list_status`. -/
def listFrom (online : Option Bool) : List ClientSpec → ServiceTask (List ClientStatus)
  | [] => pure []
  | spec :: rest => do
    let state ← ServiceTask.adapter (← ServiceTask.wait (.state spec.clientId))
    let verdict ← reconciledVerdict spec.clientId state
    let others ← listFrom online rest
    return clientStatus spec state verdict online :: others

def listStatus (env : ServiceEnv) : ServiceTask (List ClientStatus) := do
  let online ← engineOnline env
  listFrom online clientSpecs

/-! ## Mutations -/

/-- `outcome.reason or ...`. -/
def OperationOutcome.reasonOr (outcome : OperationOutcome) (fallback : String) : Text :=
  match outcome.reason with
  | none => text fallback
  | some [] => text fallback
  | some reason => reason

def installMessage (outcome : OperationOutcome) (verdict : VerdictPair) : Text :=
  if verdict.1 = .verified then text "已安装并通过真实握手验证。"
  else if verdict.1 = .failed then
    text "配置已写入，但真实握手失败（" ++ verdict.2.getD (text "None") ++
      text "）。请检查 Engine 是否在运行。"
  else if outcome.performed then
    text "命令已执行，但未能确认配置（" ++ outcome.reasonOr "cli_output_unparsable" ++
      text "）。"
  else if outcome.reason = some (text "already_configured") then
    text "配置已是目标状态，未重复写入。"
  else if outcome.reason = some (text "client_directory_missing") then
    text "未找到客户端目录（客户端可能未安装），未写入。可复制下面的配置手动完成。"
  else text "未完成：" ++ outcome.reasonOr "未验证" ++ text "。"

def verifyMessage (outcome : OperationOutcome) (verdict : VerdictPair) : Text :=
  if verdict.1 = .verified then text "真实握手通过。"
  else if verdict.1 = .failed then
    text "真实握手失败（" ++ verdict.2.getD (text "None") ++ text "）。"
  else if outcome.reason = some (text "not_installed") then text "未检测到本项目的配置条目。"
  else if outcome.reason = some (text "entry_mismatch") then
    text "配置条目存在但与目标不一致（可能路径已变化）。"
  else text "未验证：" ++ outcome.reasonOr "未知原因" ++ text "。"

/-- A handshake where the configuration is evidence for one; otherwise no verdict stays. -/
def verdictFor (client : Text) (outcome : OperationOutcome) (evidence : Bool) :
    ServiceTask VerdictPair := do
  if evidence then
    runHandshake client
  else
    ServiceTask.now (.forget client)
    return unverifiedPair outcome

/-- A spec whose configuration can be written. -/
def writableSpec (client : Text) : ServiceTask ClientSpec := do
  let spec ← findSpec client
  if spec.tier = .manual then
    throw .autoInstallUnsupported
  return spec

def installClient (env : ServiceEnv) (client : Text) (force : Bool) : ServiceTask OperationResult := do
  let spec ← writableSpec client
  let (outcome, verdict) ← holdingLock client do
    let outcome ← ServiceTask.adapter (← ServiceTask.wait (.install client force))
    let verdict ← verdictFor client outcome (decide (outcome.entryMatchesCurrent = some true))
    return (outcome, verdict)
  operationResult env spec (text "install") outcome verdict (!outcome.performed)
    (installMessage outcome verdict) outcome.backupName none none none

/-- `verify` takes no lock. -/
def verifyClient (env : ServiceEnv) (client : Text) : ServiceTask OperationResult := do
  let spec ← findSpec client
  let outcome ← ServiceTask.adapter (← ServiceTask.wait (.verify client))
  let configOk := outcome.installed = some true ∧ outcome.entryMatchesCurrent = some true
  let verdict ← verdictFor client outcome (decide configOk)
  operationResult env spec (text "verify") outcome verdict (!decide configOk)
    (verifyMessage outcome verdict) none none none none

def removeClient (env : ServiceEnv) (client : Text) (confirm : Bool) :
    ServiceTask OperationResult := do
  let _ ← findSpec client
  if !confirm then
    throw .confirmationRequired
  let spec ← writableSpec client
  let (outcome, verdict) ← holdingLock client do
    let outcome ← ServiceTask.adapter (← ServiceTask.wait (.remove client))
    ServiceTask.now (.forget client)
    let verdict : VerdictPair := (.unverified, some (outcome.reasonOr "not_installed"))
    return (outcome, verdict)
  let message :=
    if outcome.performed then text "已移除配置（可从备份恢复）。"
    else text "未执行移除：配置本就不存在。"
  operationResult env spec (text "remove") outcome verdict true message outcome.backupName none none
    outcome.removedTarget

def restoreClient (env : ServiceEnv) (client backupName : Text) (confirm : Bool) :
    ServiceTask OperationResult := do
  let _ ← findSpec client
  if !confirm then
    throw .confirmationRequired
  let spec ← writableSpec client
  let (outcome, verdict) ← holdingLock client do
    let outcome ← ServiceTask.adapter (← ServiceTask.wait (.restore client backupName))
    ServiceTask.now (.forget client)
    let verdict : VerdictPair := (.unverified, some (text "restored_run_verify"))
    return (outcome, verdict)
  let message :=
    if outcome.performed then
      text "已恢复 " ++ outcome.restoredFrom.getD (text "None") ++ text "（本次操作的安全备份：" ++
        outcome.safetyBackup.getD (text "None") ++ text "）。请点「测试连接」完成真实握手验证。"
    else text "未执行恢复。"
  operationResult env spec (text "restore") outcome verdict false message none outcome.restoredFrom
    outcome.safetyBackup none

/-! ## Requests -/

inductive ServiceOp where
  | install (client : Text) (force : Bool)
  | verify (client : Text)
  | remove (client : Text) (confirm : Bool)
  | restore (client backupName : Text) (confirm : Bool)
  | status (client : Text)
  | listStatus

inductive ServiceReturn where
  | operation (result : OperationResult)
  | statuses (clients : List ClientStatus)

def serviceRoutine (env : ServiceEnv) : ServiceOp → ServiceTask ServiceReturn
  | .install client force => return .operation (← installClient env client force)
  | .verify client => return .operation (← verifyClient env client)
  | .remove client confirm => return .operation (← removeClient env client confirm)
  | .restore client backupName confirm =>
    return .operation (← restoreClient env client backupName confirm)
  | .status client => return .statuses [← statusOf env client]
  | .listStatus => return .statuses (← listStatus env)

end EvoBlue.Source
