import EvoBlue.Source.FileAuto

/-!
# Removing the entry and going back

`_remove_sync` and `_restore_sync` of the adapter for configuration files. A removal has
the gates of an installation; a restore brings the bytes back first and then parses them.
The lock of the service lets one operation of a client run at a time, so a history of a
target is a list of operations, with what other programs write to it between them.
-/

namespace EvoBlue.Source

open EvoBlue.Kernel

namespace FileAutoAdapter

variable (env : FileEnv) (adapter : FileAutoAdapter)

/-! ## From the backup on -/

/-- The `try` block: `commit_atomic` of the new text, and the proof on what is read back. -/
def commitChecked (check : Text → Except ConfigError Unit) (target : Text) (bomPrefix : Bytes)
    (mergedText : Text) (files : ConfigDir) : Except ConfigError Unit × ConfigDir :=
  match encode mergedText bomPrefix with
  | .error error => (.error error, files)
  | .ok bytes =>
    let files := files.insert target bytes
    match decodeText bytes with
    | none => (.error .valueError, files)
    | some writtenText => (check writtenText, files)

/-- The `except` block. -/
def rollBackWith (message target backupName : Text) (safety : Stamp) (files : ConfigDir) :
    Except FileFault OperationOutcome × TargetDir :=
  match restore env.backup target backupName safety.1 safety.2 files with
  | .error error => (.error (.restore error), some files)
  | .ok (_, files) => (.error (.config (.write (message ++ backupName))), some files)

/-- Installing and removing differ in the proof, in the message and in what they return. -/
def overwrite (check : Text → Except ConfigError Unit) (message : Text)
    (outcome : Text → OperationOutcome) (target : Text) (bomPrefix : Bytes) (mergedText : Text)
    (stamp safety : Stamp) (files : ConfigDir) : Except FileFault OperationOutcome × TargetDir :=
  let (backup, files) := createBackup env.backup target stamp.1 stamp.2 files
  match commitChecked check target bomPrefix mergedText files with
  | (.ok (), files) => (.ok (outcome backup.name), some files)
  | (.error _, files) => rollBackWith env message target backup.name safety files

/-- What `_install_sync` says of a rollback. -/
def postWriteFailed : Text := text "post-write verification failed; rolled back to "

/-- What `_install_sync` returns once the proof has passed. -/
def installedEntry (backupName : Text) : OperationOutcome :=
  { performed := true, installed := some true, entryMatchesCurrent := some true
    backupName := some backupName }

/-! ## Removing -/

/-- `_remove`. -/
def removeEntry (original : Text) : Except ConfigError MergeOutcome :=
  if adapter.isToml then MergeToml.removeEntryToml env.toml original adapter.spec.entryKey
  else MergeJson.removeEntryJson env.json original adapter.spec.entryKey adapter.indent

def postRemovalProof (originalText writtenText : Text) : Except ConfigError Unit :=
  if adapter.isToml then
    MergeToml.proveRemoval env.toml originalText writtenText adapter.spec.entryKey
  else MergeJson.proveRemoval env.json originalText writtenText adapter.spec.entryKey

def postRemovalFailed : Text := text "post-removal verification failed; rolled back to "

def removedEntry (backupName : Text) : OperationOutcome :=
  { performed := true, installed := some false, backupName := some backupName
    removedTarget := some false }

def notInstalled : OperationOutcome :=
  { performed := false, reason := some (text "not_installed"), installed := some false }

/-- `_remove_sync`; a directory that is missing holds no target. -/
def removeSync (stamp safety : Stamp) (dir : TargetDir) :
    Except FileFault OperationOutcome × TargetDir :=
  match adapter.resolve, dir with
  | none, dir => (.ok { performed := false, reason := some (text "client_unsupported") }, dir)
  | some _, none => (.ok notInstalled, none)
  | some path, some files =>
    let target := nameOf path
    match files.lookup target with
    | none => (.ok notInstalled, some files)
    | some raw =>
      match splitBom raw with
      | .error error => (.error (.config error), some files)
      | .ok (bomPrefix, originalText) =>
        match adapter.readEntry env originalText with
        | .error error => (.error (.config error), some files)
        | .ok none => (.ok notInstalled, some files)
        | .ok (some _) =>
          match adapter.removeEntry env originalText with
          | .error error => (.error (.config error), some files)
          | .ok merged =>
            if merged.changed = false then (.ok notInstalled, some files)
            else
              overwrite env (adapter.postRemovalProof env originalText) postRemovalFailed removedEntry
                target bomPrefix merged.text stamp safety files

/-! ## Restoring -/

/-- `_parse_proof` of what `restore` has put there. -/
def parseProof (target : Text) (files : ConfigDir) : Except FileFault Unit :=
  match files.lookup target with
  | none => .ok ()
  | some written =>
    match decodeText written with
    | none => .error (.config .valueError)
    | some original =>
      match adapter.readEntry env original with
      | .error error => .error (.config error)
      | .ok _ => .ok ()

/-- `_restore_sync`; there is no backup in a directory that is missing. -/
def restoreSync (name : Text) (safety : Stamp) (dir : TargetDir) :
    Except FileFault OperationOutcome × TargetDir :=
  match adapter.resolve with
  | none => (.ok { performed := false, reason := some (text "client_unsupported") }, dir)
  | some path =>
    let target := nameOf path
    match restore env.backup target name safety.1 safety.2 (dir.getD ∅) with
    | .error error => (.error (.restore error), dir)
    | .ok (result, files) =>
      match if result.removedTarget then .ok () else adapter.parseProof env target files with
      | .error fault => (.error fault, some files)
      | .ok () =>
        (.ok
          { performed := true, restoredFrom := some result.restoredFrom
            safetyBackup := some result.safetyBackup
            removedTarget := some result.removedTarget }, some files)

/-! ## Histories of a target -/

/-- What happens to a target, one after the other. -/
inductive Event where
  | install (payload : EntryPayload) (force : Bool) (stamp safety : Stamp)
  | remove (stamp safety : Stamp)
  | restore (name : Text) (safety : Stamp)
  /-- Another program writes the target, or deletes it. -/
  | edit (content : Option Bytes)

/-- A file that another program leaves; it makes the directory when it has to. -/
def edited (target : Text) : Option Bytes → TargetDir → TargetDir
  | some content, dir => some ((dir.getD ∅).insert target content)
  | none, dir => dir.map fun files => files.erase target

def happen (dir : TargetDir) : Event → TargetDir
  | .install payload force stamp safety => (adapter.installSync env payload force stamp safety dir).2
  | .remove stamp safety => (adapter.removeSync env stamp safety dir).2
  | .restore name safety => (adapter.restoreSync env name safety dir).2
  | .edit content =>
    match adapter.resolve with
    | none => dir
    | some path => edited (nameOf path) content dir

end FileAutoAdapter

end EvoBlue.Source
