import EvoBlue.Kernel.IsoDatetime
import EvoBlue.Kernel.Json
import EvoBlue.Kernel.Retention
import EvoBlue.Kernel.Utf8

/-!
# Backups of a client configuration

`application/client_config/backup.py`. Backups stand next to their target and carry
a UTC stamp and four random hexadecimal digits in their names; all but the first
`BACKUP_RETENTION` in descending order of names are removed whenever one is made.
A target that does not exist is backed up as a sentinel line.
-/

namespace EvoBlue.Source

open EvoBlue.Kernel

def backupSuffix : Text := text ".evoblue-backup-"

def backupRetention : Nat := 5

def absentSentinel : Text := text "EVOBLUE_ABSENT_SENTINEL"

/-- The files in the directory of the target. -/
abbrev ConfigDir := Siblings Text Bytes

/-- `datetime.now(UTC)`; the clock of a host does not read before the epoch. -/
structure Moment where
  time : DateTime
  utc : time.offset = some 0
  sinceEpoch : 1970 ≤ time.year

/-- `strftime("%Y%m%dT%H%M%SZ")`. -/
def Moment.stamp (moment : Moment) : Text :=
  DateTime.padded 4 moment.time.year ++ DateTime.padded 2 moment.time.month ++
    DateTime.padded 2 moment.time.day ++ text "T" ++ DateTime.padded 2 moment.time.hour ++
    DateTime.padded 2 moment.time.minute ++ DateTime.padded 2 moment.time.second ++ text "Z"

/-- `os.urandom(2)`. -/
abbrev TwoBytes := UInt8 × UInt8

/-- `bytes.hex()`. -/
def hexText (random : TwoBytes) : Text :=
  [Json.hexDigit (random.1.toNat / 16), Json.hexDigit (random.1.toNat % 16),
    Json.hexDigit (random.2.toNat / 16), Json.hexDigit (random.2.toNat % 16)]

def backupName (target : Text) (moment : Moment) (random : TwoBytes) : Text :=
  target ++ backupSuffix ++ moment.stamp ++ text "-" ++ hexText random

def sentinelPayload : Bytes := (encodeUtf8 (absentSentinel ++ text "\n")).getD []

def isSentinel (data : Bytes) : Bool := data = sentinelPayload

/-! ## Which files are backups -/

/-- `\d`. -/
def isUnicodeDigit (unicode : UnicodeData) (c : CodePoint) : Bool :=
  isDigit c || (unicode.decimal c).isSome

def isLowerHex (c : CodePoint) : Bool := isDigit c || (cp 'a' ≤ c && c ≤ cp 'f')

/-- What `_TIMESTAMP_RE` describes. -/
def matchesTimestamp (unicode : UnicodeData) (t : Text) : Bool :=
  t.length = 37 && t.take 16 = backupSuffix && ((t.drop 16).take 8).all (isUnicodeDigit unicode) &&
    (t.drop 24).take 1 = text "T" && ((t.drop 25).take 6).all (isUnicodeDigit unicode) &&
    (t.drop 31).take 2 = text "Z-" && (t.drop 33).all isLowerHex

/-- `_TIMESTAMP_RE.search`: `$` stands at the end, or before a line end there. -/
def hasTimestamp (unicode : UnicodeData) (name : Text) : Bool :=
  matchesTimestamp unicode (name.drop (name.length - 37)) ||
    (name.getLast? = some (cp '\n') &&
      matchesTimestamp unicode (name.dropLast.drop (name.dropLast.length - 37)))

def isBackupName (unicode : UnicodeData) (target name : Text) : Bool :=
  (target ++ backupSuffix).isPrefixOf name && hasTimestamp unicode name

def backupNames (unicode : UnicodeData) (target : Text) (dir : ConfigDir) : List Text :=
  dir.keys.filter (isBackupName unicode target)

/-- `_backup_paths`, newest name first. -/
def backupPaths (unicode : UnicodeData) (target : Text) (dir : ConfigDir) : List Text :=
  descending (backupNames unicode target dir)

/-! ## Making one -/

/-- What the module takes from the interpreter. -/
structure BackupEnv where
  unicode : UnicodeData
  sha256 : Bytes → Text

structure BackupInfo where
  name : Text
  createdAt : ℚ
  sizeBytes : Nat
  sha256 : Text
  wasAbsent : Bool

/-- `_prune`. -/
def prune (unicode : UnicodeData) (target : Text) (dir : ConfigDir) : ConfigDir :=
  dir.eraseAll ((backupPaths unicode target dir).drop backupRetention)

def createBackup (env : BackupEnv) (target : Text) (moment : Moment) (random : TwoBytes)
    (dir : ConfigDir) : BackupInfo × ConfigDir :=
  let wasAbsent := (dir.lookup target).isNone
  let current := (dir.lookup target).getD sentinelPayload
  let name := backupName target moment random
  let info :=
    { name, createdAt := moment.time.timestamp, sizeBytes := current.length
      sha256 := env.sha256 current, wasAbsent }
  (info, prune env.unicode target (dir.insert name current))

/-! ## Going back to one -/

structure RestoreResult where
  restoredFrom : Text
  safetyBackup : Text
  removedTarget : Bool

inductive RestoreError where
  /-- `with_name` refuses the name. -/
  | valueError
  | backupNotFound
  deriving DecidableEq, Repr

/-- `_resolve_backup`. -/
def resolveBackup (unicode : UnicodeData) (target name : Text) (dir : ConfigDir) :
    Except RestoreError Unit :=
  if name = [] ∨ cp '/' ∈ name ∨ name = text "." then .error .valueError
  else if name = target ∨ hasTimestamp unicode name = false ∨
      (target ++ backupSuffix).isPrefixOf name = false ∨ (dir.lookup name).isNone then
    .error .backupNotFound
  else .ok ()

/-- The bytes of the chosen backup are read before the safety backup prunes the shelf. -/
def restore (env : BackupEnv) (target name : Text) (moment : Moment) (random : TwoBytes)
    (dir : ConfigDir) : Except RestoreError (RestoreResult × ConfigDir) := do
  resolveBackup env.unicode target name dir
  let data := (dir.lookup name).getD []
  let (safety, dir) := createBackup env target moment random dir
  if isSentinel data then
    return (⟨name, safety.name, true⟩, dir.erase target)
  return (⟨name, safety.name, false⟩, dir.insert target data)

end EvoBlue.Source
