import EvoBlue.Source.ModelUninstall

/-!
# The phases of an install task

What an install task may do is a matter of how far it has got: it promotes files only
while it is `staging` an operation that is `installing`, and completes an operation only
after the promotion. `installPhases` is this protocol, and `installModel` follows it.
-/

namespace EvoBlue.Source

open EvoBlue.Kernel

inductive InstallPhase where
  /-- It has no operation in hand. -/
  | idle
  /-- It has seen that there is none. -/
  | vacant
  /-- It has none in hand, but an earlier run has promoted the files of one that is
  `installing`; what this run staged lies under the temporary path. -/
  | pending (files : FileTree)
  /-- It drives an operation, or has ended it. -/
  | holding (operationId : String)
  /-- The operation is `installing`. -/
  | staging (operationId : String)
  /-- It is, and the files are promoted by an earlier run. -/
  | resuming (operationId : String) (files : FileTree)
  /-- The files are promoted. -/
  | promoted (operationId : String)

/-- No promotion waits for its record. -/
def InstallPhase.isPlain : InstallPhase → Bool
  | .pending _ => false
  | .resuming _ _ => false
  | .promoted _ => false
  | _ => true

/-- Calls that leave the database and the version directories alone. -/
def ModelCall.isQuiet : ModelCall → Bool
  | .perform _ => false
  | .promote _ _ => false
  | .findActiveDownload _ => false
  | _ => true

def ModelOp.isComplete : ModelOp → Bool
  | .complete _ _ _ _ _ => true
  | _ => false

/-- The status an update sets. -/
def ModelOp.target : ModelOp → Option ModelDownloadStatus
  | .advance _ toStatus _ _ _ => some toStatus
  | _ => none

section

variable (config : InstallConfig)

/-- The created operation is one for the manifest. -/
def NewDownload.IsFor (new : NewDownload) : Prop :=
  new.modelId = config.manifest.modelId ∧ new.version = config.manifest.version ∧
    0 < new.expectedSizeBytes

inductive InstallAllowed : InstallPhase → ModelCall → Prop
  | quiet {phase : InstallPhase} {call : ModelCall} (plain : phase.isPlain = true)
      (quiet : call.isQuiet = true) : InstallAllowed phase call
  | find : InstallAllowed .idle (.findActiveDownload config.manifest.modelId)
  | findAgain : InstallAllowed .vacant (.findActiveDownload config.manifest.modelId)
  | create {new : NewDownload} (isFor : new.IsFor config) :
      InstallAllowed .vacant (.perform (.create new))
  | update {phase : InstallPhase} {operationId : String} {op : ModelOp}
      (handled : phase = .holding operationId ∨ phase = .staging operationId)
      (names : op.updates = some operationId) (open_ : op.isComplete = false) :
      InstallAllowed phase (.perform op)
  | promote {operationId : String} {files staged : FileTree}
      (ready : stageTemp config files = .ok staged) :
      InstallAllowed (.staging operationId) (.promote config.manifest.version staged)
  | active {files : FileTree} :
      InstallAllowed (.pending files) (.getActiveModel config.manifest.modelId)
  | installed {files : FileTree} :
      InstallAllowed (.pending files)
        (.getInstallation config.manifest.modelId config.manifest.version)
  | findPending {files : FileTree} :
      InstallAllowed (.pending files) (.findActiveDownload config.manifest.modelId)
  | readAgain {operationId : String} {files : FileTree} :
      InstallAllowed (.resuming operationId files) .tempFiles
  | promoteAgain {operationId : String} {files staged : FileTree}
      (ready : stageTemp config files = .ok staged) :
      InstallAllowed (.resuming operationId files) (.promote config.manifest.version staged)
  | time {operationId : String} : InstallAllowed (.promoted operationId) .now
  | complete {operationId installedPath : String} {now : ℚ} :
      InstallAllowed (.promoted operationId) (.perform (.complete operationId config.manifest.modelId
        config.manifest.version installedPath now))

/-- The operation in hand. -/
inductive InHand : InstallPhase → ModelDownload → Prop
  | holding {row : ModelDownload} (earlier : row.status ≠ .installing) :
      InHand (.holding row.operationId) row
  | staging {row : ModelDownload} (installing : row.status = .installing) :
      InHand (.staging row.operationId) row
  | resuming {row : ModelDownload} (installing : row.status = .installing) (files : FileTree) :
      InHand (.resuming row.operationId files) row

inductive InstallMoves : InstallPhase → (call : ModelCall) → ModelAnswer call → InstallPhase → Prop
  | quiet {phase : InstallPhase} {call : ModelCall} (plain : phase.isPlain = true)
      (quiet : call.isQuiet = true) (answer : ModelAnswer call) : InstallMoves phase call answer phase
  | none : InstallMoves .idle (.findActiveDownload config.manifest.modelId) none .vacant
  | other {row : ModelDownload} (other : row.version ≠ config.manifest.version) :
      InstallMoves .idle (.findActiveDownload config.manifest.modelId) (some row) .idle
  | found {row : ModelDownload} {after : InstallPhase} (same : row.version = config.manifest.version)
      (hand : InHand after row) (plain : after.isPlain = true) :
      InstallMoves .idle (.findActiveDownload config.manifest.modelId) (some row) after
  | still : InstallMoves .vacant (.findActiveDownload config.manifest.modelId) none .vacant
  | refused {op : ModelOp} (error : ModelError) :
      InstallMoves .vacant (.perform op) (.error error) .vacant
  | created {op : ModelOp} {row : ModelDownload} (pending : row.status = .pending) :
      InstallMoves .vacant (.perform op) (.ok (some row)) (.holding row.operationId)
  | unchanged {phase : InstallPhase} {operationId : String} {op : ModelOp}
      (handled : phase = .holding operationId ∨ phase = .staging operationId) (error : ModelError) :
      InstallMoves phase (.perform op) (.error error) phase
  | updated {operationId : String} {op : ModelOp} {row : ModelDownload}
      (named : row.operationId = operationId) (status : ∀ toStatus, op.target = some toStatus →
        row.status = toStatus) (other : op.target ≠ some .installing) :
      InstallMoves (.holding operationId) (.perform op) (.ok (some row)) (.holding operationId)
  | installing {operationId : String} {op : ModelOp} {row : ModelDownload}
      (named : row.operationId = operationId) (target : op.target = some .installing)
      (status : row.status = .installing) :
      InstallMoves (.holding operationId) (.perform op) (.ok (some row)) (.staging operationId)
  | ended {operationId : String} {op : ModelOp} {row : ModelDownload} :
      InstallMoves (.staging operationId) (.perform op) (.ok (some row)) (.holding operationId)
  | promoted {operationId version : String} {staged : FileTree} :
      InstallMoves (.staging operationId) (.promote version staged) (.ok ()) (.promoted operationId)
  | notPromoted {operationId version : String} {staged : FileTree} (error : InstallError) :
      InstallMoves (.staging operationId) (.promote version staged) (.error error)
        (.staging operationId)
  | active {files : FileTree} {modelId : String} (answer : Option ActiveModel) :
      InstallMoves (.pending files) (.getActiveModel modelId) answer (.pending files)
  | notInstalled {files : FileTree} {modelId version : String} :
      InstallMoves (.pending files) (.getInstallation modelId version) .none (.pending files)
  | resumed {files : FileTree} {row : ModelDownload}
      (same : row.version = config.manifest.version) (installing : row.status = .installing) :
      InstallMoves (.pending files) (.findActiveDownload config.manifest.modelId) (some row)
        (.resuming row.operationId files)
  | readAgain {operationId : String} {files staged : FileTree}
      (ready : stageTemp config files = .ok staged) :
      InstallMoves (.resuming operationId files) .tempFiles files (.resuming operationId files)
  | promotedAgain {operationId version : String} {files staged : FileTree} :
      InstallMoves (.resuming operationId files) (.promote version staged) (.ok ())
        (.promoted operationId)
  | time {operationId : String} (now : ℚ) :
      InstallMoves (.promoted operationId) .now now (.promoted operationId)
  | completed {operationId : String} {op : ModelOp} {row : ModelDownload} :
      InstallMoves (.promoted operationId) (.perform op) (.ok (some row)) (.holding operationId)

def installPhases : Protocol ModelCall ModelAnswer InstallPhase where
  allowed := InstallAllowed config
  moves := InstallMoves config

end

/-! ## Calls -/

section

variable {α : Type} {config : InstallConfig} {phase : InstallPhase} {operationId : String}
  {row : ModelDownload}
  {post : InstallPhase → α → Prop} {raises : InstallPhase → InstallError → Prop}

theorem phases_quiet {call : ModelCall} (plain : phase.isPlain = true) (quiet : call.isQuiet = true)
    {next : ModelAnswer call → ModelTask α}
    (goes : ∀ answer, (next answer).Follows (installPhases config) post raises phase) :
    (Attempt.call call >>= next).Follows (installPhases config) post raises phase := by
  apply Attempt.follows_call (InstallAllowed.quiet plain quiet)
  intro answer after moved
  cases moved with
  | quiet => exact goes answer
  | none | other | found | still | refused | created | unchanged | updated | installing | ended
  | promoted | notPromoted | resumed | promotedAgain | completed => cases quiet
  | active | notInstalled | readAgain | time => cases plain

/-- An operation in hand is driven. -/
def Handled (operationId : String) (phase : InstallPhase) : Prop :=
  phase = .holding operationId ∨ phase = .staging operationId

theorem Handled.plain (handled : Handled operationId phase) : phase.isPlain = true := by
  obtain rfl | rfl := handled <;> rfl

/-- An update of the operation in hand, by what is in hand and what the update sets. -/
theorem phases_update {op : ℚ → ModelOp} (handled : Handled operationId phase)
    (names : ∀ now, (op now).updates = some operationId)
    (open_ : ∀ now, (op now).isComplete = false)
    {post : InstallPhase → ModelDownload → Prop}
    (updated : ∀ now row, phase = .holding operationId → row.operationId = operationId →
      (∀ toStatus, (op now).target = some toStatus → row.status = toStatus) →
      (op now).target ≠ some .installing → post (.holding operationId) row)
    (installing : ∀ now row, phase = .holding operationId → row.operationId = operationId →
      (op now).target = some .installing → row.status = .installing →
      post (.staging operationId) row)
    (ended : ∀ row, phase = .staging operationId → post (.holding operationId) row)
    (refused : ∀ error, raises phase error) :
    (ModelTask.perform op).Follows (installPhases config) post raises phase := by
  unfold ModelTask.perform
  apply phases_quiet handled.plain rfl
  intro now
  apply Attempt.follows_call (InstallAllowed.update handled (names now) (open_ now))
  intro answer after moved
  cases moved with
  | quiet _ quiet => cases quiet
  | refused | created => obtain same | same := handled <;> cases same
  | completed => obtain same | same := handled <;> cases same
  | unchanged _ error => exact refused _
  | updated named status other =>
    obtain same | same := handled <;> cases same
    exact updated now _ rfl named status other
  | installing named target status =>
    obtain same | same := handled <;> cases same
    exact installing now _ rfl named target status
  | ended =>
    obtain same | same := handled <;> cases same
    exact ended _ rfl

/-- An operation that is not yet `installing` is held. -/
theorem InHand.held (hand : InHand phase row) (earlier : row.status ≠ .installing) :
    phase = .holding row.operationId := by
  cases hand with
  | holding => rfl
  | staging installing => exact absurd installing earlier
  | resuming installing => exact absurd installing earlier

end

end EvoBlue.Source
