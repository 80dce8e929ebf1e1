import EvoBlue.Source.ClientBackups
import EvoBlue.Source.ClientService
import EvoBlue.Source.MergeJson
import EvoBlue.Source.MergeToml

/-!
# The adapter for configuration files

`application/client_config/adapters/file_auto.py`, with `resolve_target` and
`commit_atomic`. A configuration is read as UTF-8, merged, backed up, replaced and read
again; what goes wrong after the backup is rolled back.
-/

namespace EvoBlue.Source

open EvoBlue.Kernel

/-! ## Paths -/

def homePrefix : Text := text "~/"

def appdataPrefix : Text := text "%APPDATA%/"

def resolveTarget (template home : Text) (appdata : Option Text) : Option Text :=
  if homePrefix <+: template then some (home ++ text "/" ++ template.drop homePrefix.length)
  else if appdataPrefix <+: template then
    match appdata with
    | none | some [] => none
    | some dir => some (dir ++ text "/" ++ template.drop appdataPrefix.length)
  else none

/-- `Path.name`. -/
def nameOf (path : Text) : Text := path.rtakeWhile fun c => c ≠ cp '/'

/-! ## The adapter -/

structure FileAutoAdapter where
  spec : ClientSpec
  jsonIndent : Option Nat := none
  home : Text
  appdata : Option Text
  /-- `_resolve` asserts it. -/
  written : spec.writeTarget.isSome

/-- What the modules below take from the interpreter. -/
structure FileEnv where
  json : JsonEnv
  toml : TomlEnv
  backup : BackupEnv

/-- What an operation raises; a `UnicodeError` is a `ValueError`. -/
inductive FileFault where
  | config (error : ConfigError)
  | restore (error : RestoreError)
  deriving DecidableEq

/-- The directory of the target, if it is there. -/
abbrev TargetDir := Option ConfigDir

/-- What a backup takes from the clock and the system. -/
abbrev Stamp := Moment × TwoBytes

/-- An entry as one of the two parsers returns it. -/
inductive FileEntry where
  | toml (members : TomlTable)
  | json (members : Members)

/-- `==`. -/
def FileEntry.same (env : FileEnv) : FileEntry → FileEntry → Bool
  | .toml one, .toml other => TomlValue.same env.toml.scalarEqual (.table one) (.table other)
  | .json one, .json other => MergeJson.equal env.json one other
  | _, _ => false

/-- `codecs.BOM_UTF8`. -/
def bomUtf8 : Bytes := [0xef, 0xbb, 0xbf]

/-- `raw.decode("utf-8-sig")`. -/
def decodeText (raw : Bytes) : Option Text :=
  decodeUtf8 (if bomUtf8 <+: raw then raw.drop 3 else raw)

/-- `_split_bom`. -/
def splitBom (raw : Bytes) : Except ConfigError (Bytes × Text) :=
  match decodeText raw with
  | some original => .ok (if bomUtf8 <+: raw then raw.take 3 else [], original)
  | none => .error .valueError

/-- `_encode`. -/
def encode (original : Text) (bomPrefix : Bytes) : Except ConfigError Bytes :=
  match encodeUtf8 original with
  | some bytes => .ok (bomPrefix ++ bytes)
  | none => .error .valueError

namespace FileAutoAdapter

variable (env : FileEnv) (adapter : FileAutoAdapter)

def isToml : Bool := adapter.spec.container = .toml

def resolve : Option Text :=
  resolveTarget (adapter.spec.writeTarget.get adapter.written) adapter.home adapter.appdata

/-- `self._json_indent or 2`. -/
def indent : Nat :=
  match adapter.jsonIndent with
  | none | some 0 => 2
  | some indent => indent

/-- `_merge`. -/
def merge (original : Text) (payload : EntryPayload) (force : Bool) :
    Except ConfigError MergeOutcome :=
  if adapter.isToml then MergeToml.mergeToml env.toml original adapter.spec.entryKey payload force
  else
    MergeJson.mergeJson env.json original adapter.spec.entryKey payload adapter.indent force

/-- `_read_entry`. -/
def readEntry (original : Text) : Except ConfigError (Option FileEntry) := do
  if adapter.isToml then
    match ← MergeToml.readEntry env.toml original adapter.spec.entryKey with
    | none => return none
    | some entry =>
      if MergeToml.entryIsAddressable env.toml original adapter.spec.entryKey = false then
        .error (.unsupported (text "entry exists but has no [mcp_servers.<key>] header"))
      else return some (.toml entry)
  else
    let entry ← MergeJson.readEntry env.json original adapter.spec.entryKey
    return entry.map .json

/-- `_expected`. -/
def expected (payload : EntryPayload) : FileEntry :=
  if adapter.isToml then .toml (MergeToml.payloadTable payload)
  else .json (MergeJson.payloadEntry payload)

/-- `_post_merge_proof`. -/
def postMergeProof (originalText writtenText : Text) (payload : EntryPayload) :
    Except ConfigError Unit :=
  if adapter.isToml then
    MergeToml.proveMerge env.toml originalText writtenText adapter.spec.entryKey
      (MergeToml.payloadTable payload)
  else
    MergeJson.proveMerge env.json originalText writtenText adapter.spec.entryKey
      (MergeJson.payloadEntry payload)

/-! ## Installing -/

/-- The text a merge starts from, with its mark; a missing target is a fresh file. -/
def original : Option Bytes → Except ConfigError (Bytes × Text)
  | none => .ok ([], if adapter.isToml then [] else text "\x7b\x7d")
  | some raw => splitBom raw

/-- The `try` block: `commit_atomic` of the merged text, and the proof on what is read
back. The directory is what the block leaves, also when it raises. -/
def commitProved (target : Text) (bomPrefix : Bytes) (originalText mergedText : Text)
    (payload : EntryPayload) (files : ConfigDir) : Except ConfigError Unit × ConfigDir :=
  match encode mergedText bomPrefix with
  | .error error => (.error error, files)
  | .ok bytes =>
    let files := files.insert target bytes
    match decodeText bytes with
    | none => (.error .valueError, files)
    | some writtenText => (adapter.postMergeProof env originalText writtenText payload, files)

/-- The `except` block. -/
def rollBack (target backupName : Text) (safety : Stamp) (files : ConfigDir) :
    Except FileFault OperationOutcome × TargetDir :=
  match restore env.backup target backupName safety.1 safety.2 files with
  | .error error => (.error (.restore error), some files)
  | .ok (_, files) =>
    (.error (.config (.write
      (text "post-write verification failed; rolled back to " ++ backupName))), some files)

/-- `_install_sync`, with the stamps of the backup and of the safety backup. -/
def installSync (payload : EntryPayload) (force : Bool) (stamp safety : Stamp) (dir : TargetDir) :
    Except FileFault OperationOutcome × TargetDir :=
  match adapter.resolve, dir with
  | none, dir => (.ok { performed := false, reason := some (text "client_unsupported") }, dir)
  | some _, none =>
    (.ok { performed := false, reason := some (text "client_directory_missing") }, none)
  | some path, some files =>
    let target := nameOf path
    match adapter.original (files.lookup target) with
    | .error error => (.error (.config error), some files)
    | .ok (bomPrefix, originalText) =>
      match adapter.merge env originalText payload force with
      | .error error => (.error (.config error), some files)
      | .ok merged =>
        if merged.changed = false then
          (.ok
            { performed := false, reason := some (text "already_configured")
              installed := some true, entryMatchesCurrent := some true }, some files)
        else
          let (backup, files) := createBackup env.backup target stamp.1 stamp.2 files
          match adapter.commitProved env target bomPrefix originalText merged.text payload files with
          | (.ok (), files) =>
            (.ok
              { performed := true, installed := some true, entryMatchesCurrent := some true
                backupName := some backup.name }, some files)
          | (.error _, files) => rollBack env target backup.name safety files

/-! ## Verifying -/

/-- `_read_bytes`. -/
def readBytes (path : Text) (dir : TargetDir) : Option Bytes :=
  dir.bind fun files => files.lookup (nameOf path)

def verify (payload : EntryPayload) (dir : TargetDir) : Except ConfigError OperationOutcome :=
  match adapter.resolve with
  | none => .ok { performed := false, reason := some (text "client_unsupported") }
  | some path =>
    match readBytes path dir with
    | none => .ok { performed := false, reason := some (text "not_installed"), installed := some false }
    | some raw =>
      match decodeText raw with
      | none => .error .valueError
      | some original => do
        match ← adapter.readEntry env original with
        | none =>
          return {
            performed := false, reason := some (text "not_installed"), installed := some false
            entryMatchesCurrent := some false }
        | some entry =>
          let matching := entry.same env (adapter.expected payload)
          return {
            performed := false, installed := some true, entryMatchesCurrent := some matching
            reason := if matching then none else some (text "entry_mismatch") }

end FileAutoAdapter

end EvoBlue.Source
