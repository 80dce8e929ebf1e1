import EvoBlue.Source.ModelInstaller
import EvoBlue.Source.ModelUpdates

/-!
# The host of an install

The database and the directories an install of one model works on: the files under the
temporary path of the version, and the version directories of the model. The clock, the
cancellation and the servers are `outside`. Files lie where the code puts them, and no
operation on them fails.
-/

namespace EvoBlue.Source

open EvoBlue.Kernel

structure ModelHost where
  store : ModelStore := {}
  temp : FileTree := []
  versions : List (String × FileTree) := []
  /-- The version directories that an uninstall has moved away. -/
  trash : List (String × FileTree) := []

namespace FileTree

/-- Write at the end of a file; one that is not there any more stays away. -/
def append (files : FileTree) (name : String) (chunk : Bytes) : FileTree :=
  files.map fun file => if file.1 = name then (file.1, file.2 ++ chunk) else file

@[simp] theorem content_put (files : FileTree) (name : String) (bytes : Bytes) :
    (files.put name bytes).content name = some bytes := by
  have gone : (files.filter fun file => file.1 ≠ name).find? (fun file => file.1 = name) = none := by
    rw [List.find?_eq_none]
    intro file mem
    have kept := (List.mem_filter.1 mem).2
    simpa using kept
  unfold content put
  rw [List.find?_append, gone]
  simp

theorem content_append (files : FileTree) (name : String) (chunk : Bytes) :
    (files.append name chunk).content name = (files.content name).map (· ++ chunk) := by
  unfold content append
  rw [List.find?_map]
  have keeps : ((fun file : String × Bytes => decide (file.1 = name)) ∘
      fun file => if file.1 = name then (file.1, file.2 ++ chunk) else file) =
      fun file => decide (file.1 = name) := by
    funext file
    simp only [Function.comp]
    split <;> rfl
  rw [keeps]
  cases found : files.find? fun file => decide (file.1 = name) with
  | none => rfl
  | some file =>
    have named := List.find?_some found
    rw [decide_eq_true_eq] at named
    simp [named]

end FileTree

/-! ## Outside -/

/-- How often the outside was asked. -/
structure Asked where
  readings : Nat := 0
  checks : Nat := 0
  requests : Nat := 0

def Asked.next (asked : Asked) : ModelCall → Asked
  | .now => { asked with readings := asked.readings + 1 }
  | .cancelCheck => { asked with checks := asked.checks + 1 }
  | .get _ _ => { asked with requests := asked.requests + 1 }
  | _ => asked

/-- What is outside the host: the clock, reading by reading; what `cancel_check` says, check
by check; and what the servers send, request by request. -/
structure World where
  clock : Nat → ℚ
  cancels : Nat → Bool
  answers : Nat → Except TransferFailure HttpResponse

/-- What the outside answers; the other calls are answered by the host. -/
def World.answer (outside : World) (asked : Asked) : ∀ call, ModelAnswer call
  | .now => outside.clock asked.readings
  | .cancelCheck => outside.cancels asked.checks
  | .get _ _ => outside.answers asked.requests
  | .getActiveModel _ | .getInstallation _ _ => none
  | .findLatestDownload _ _ | .findActiveDownload _ | .getDownload _ => none
  | .perform _ => .ok none
  | .tempFiles => []
  | .createTemp _ | .appendTemp _ _ | .truncateTemp => ()
  | .promote _ _ => .ok ()

/-- The later of two rows by `created_at DESC, revision DESC`; the first of equals. -/
def ModelDownload.later (row other : ModelDownload) : ModelDownload :=
  if row.createdAt < other.createdAt ∨
      row.createdAt = other.createdAt ∧ row.revision < other.revision then other else row

/-- `find_latest_download_operation`. -/
def ModelStore.findLatestDownload (store : ModelStore) (modelId version : String) :
    Option ModelDownload :=
  match store.downloads.filter fun row => row.modelId = modelId ∧ row.version = version with
  | [] => none
  | first :: rest => some (rest.foldl ModelDownload.later first)

namespace ModelHost

/-- The files of a version directory. -/
def version (host : ModelHost) (version : String) : Option FileTree :=
  (host.versions.find? fun dir => dir.1 = version).map (·.2)

def putVersion (host : ModelHost) (version : String) (files : FileTree) : ModelHost :=
  { host with versions := host.versions.filter (fun dir => dir.1 ≠ version) ++ [(version, files)] }

section

variable (sha256 : Bytes → String)

/-- One call, with what comes from outside given. -/
def serve (outside : ∀ call, ModelAnswer call) :
    (call : ModelCall) → ModelHost → ModelAnswer call × ModelHost
  | .now, host => (outside .now, host)
  | .getActiveModel modelId, host => (host.store.findActive modelId, host)
  | .getInstallation modelId version, host => (host.store.findInstall modelId version, host)
  | .findLatestDownload modelId version, host => (host.store.findLatestDownload modelId version, host)
  | .findActiveDownload modelId, host => (host.store.findActiveDownload modelId, host)
  | .getDownload operationId, host => (host.store.findDownload operationId, host)
  | .perform op, host => ((op.exec host.store).1, { host with store := (op.exec host.store).2 })
  | .cancelCheck, host => (outside .cancelCheck, host)
  | .get url range, host => (outside (.get url range), host)
  | .tempFiles, host => (host.temp, host)
  | .createTemp name, host => ((), { host with temp := host.temp.put name [] })
  | .appendTemp name chunk, host => ((), { host with temp := host.temp.append name chunk })
  | .truncateTemp, host => ((), { host with temp := [] })
  | .promote version staged, host =>
    match EvoBlue.Source.promote sha256 (host.version version) staged with
    | .ok files => (.ok (), host.putVersion version files)
    | .error error => (.error error, host)

variable {sha256} {outside : ∀ call, ModelAnswer call} {version : String} {staged files : FileTree}
  {host : ModelHost} {error : InstallError}

theorem serve_promoted
    (promoted : EvoBlue.Source.promote sha256 (host.version version) staged = .ok files) :
    serve sha256 outside (.promote version staged) host = (.ok (), host.putVersion version files) := by
  simp only [serve, promoted]

theorem serve_refused
    (refused : EvoBlue.Source.promote sha256 (host.version version) staged = .error error) :
    serve sha256 outside (.promote version staged) host = (.error error, host) := by
  simp only [serve, refused]

variable (sha256)

/-- The calls of one task, with nobody else at work. -/
def serveAlone (outside : World) (call : ModelCall) (site : ModelHost × Asked) :
    ModelAnswer call × (ModelHost × Asked) :=
  let answered := serve sha256 (outside.answer site.2) call site.1
  (answered.1, answered.2, site.2.next call)

end

end ModelHost

end EvoBlue.Source
