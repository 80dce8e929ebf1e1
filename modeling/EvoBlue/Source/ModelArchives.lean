import EvoBlue.Kernel.Utf8
import EvoBlue.Source.ModelManifest

/-!
# Unpacking a model

The install half of `asr/model_manager.py`: the members of an archive, or the files of a
set, are copied into a staging directory under the checks of the manifest, and the
staging directory becomes the version directory. `tarfile` and `zipfile` are a parameter,
the list of members they come to and the exception they end with.
-/

namespace EvoBlue.Source

open EvoBlue.Kernel

/-- What the install code raises. -/
inductive InstallError where
  /-- `_Cancelled`. -/
  | cancelled
  /-- `DownloadError` and its kinds, by their code. -/
  | download (code : String)
  /-- `ArchiveError`. -/
  | archive
  | fileExists
  /-- `httpx.HTTPError`. -/
  | http
  | store (error : ModelError)
  /-- `InstallConflictError`. -/
  | conflict
  /-- `NotReleasableError`. -/
  | notReleasable
  /-- Any other exception. -/
  | unexpected
  deriving DecidableEq, Repr

/-- The files of a directory, by their path in it. -/
abbrev FileTree := List (String × Bytes)

namespace FileTree

def names (files : FileTree) : List String := files.map (·.1)

def content (files : FileTree) (name : String) : Option Bytes :=
  (files.find? fun file => file.1 = name).map (·.2)

/-- Write a file, or write it again. -/
def put (files : FileTree) (name : String) (content : Bytes) : FileTree :=
  files.filter (fun file => file.1 ≠ name) ++ [(name, content)]

/-- A path that is to be a file of the directory is there as a directory, or the other way
round: `mkdir` finds a file, or `open` a directory. -/
def obstruction (files : FileTree) (name : String) : Option InstallError :=
  let above := (name.toList.splitOn '/').dropLast
  if files.names.any fun other => above ≠ [] ∧ other.toList = (above.intersperse ['/']).flatten then
    some .fileExists
  else if files.names.any (fun other => (other.toList ++ ['/']).isPrefixOf name.toList ||
      (name.toList ++ ['/']).isPrefixOf other.toList) then some .unexpected
  else none

/-- `_dir_signature`. -/
def signature (sha256 : Bytes → String) (files : FileTree) : List (String × Nat × String) :=
  files.map fun file => (file.1, file.2.length, sha256 file.2)

/-- Two signatures are the same set. -/
def alike (sha256 : Bytes → String) (files others : FileTree) : Bool :=
  (files.signature sha256).all (others.signature sha256).contains &&
    (others.signature sha256).all (files.signature sha256).contains

end FileTree

/-! ## Members -/

inductive MemberKind where
  | file
  | dir
  | link
  | special
  | unsupported
  deriving DecidableEq, Repr

structure Member where
  name : String
  kind : MemberKind
  size : Nat
  /-- What can be read of it, and whether reading on raises; nothing where `extractfile`
  returns nothing. -/
  content : Option (Bytes × Bool)

/-- The members of an archive, and whether looking for the next one raises. -/
structure ArchiveReading where
  members : List Member
  broken : Bool := false

def isDriveLetter (c : Char) : Bool := c.isAlpha

/-- Absolute, or with a drive letter. -/
def isAbsolutePath (name : List Char) : Bool :=
  match name with
  | '/' :: _ => true
  | '\\' :: _ => true
  | letter :: ':' :: _ => isDriveLetter letter
  | _ => false

def rejectUnsafe (name : List Char) : Except InstallError Unit :=
  if isAbsolutePath name || (pathParts name).contains ['.', '.'] then .error .archive else .ok ()

def joinPath (parts : List (List Char)) : String := String.ofList (parts.intersperse ['/']).flatten

/-- `_member_target`: the declared name, and the directory before it. -/
def memberTarget (name : List Char) : Except InstallError (String × Option String) :=
  let parts := pathParts name
  if isAbsolutePath name ||
      parts.any (fun part => part = ['.', '.'] || part = [] || part = ['.']) ||
      8 < parts.length then .error .archive
  else
    match parts with
    | [] => .error .archive
    | [bare] => .ok (String.ofList bare, none)
    | root :: rest => .ok (joinPath rest, some (String.ofList root))

/-! ## Staging -/

structure Staging where
  files : FileTree := []
  /-- The budget that is used up. -/
  spent : Nat := 0
  root : Option String := none
  hasBare : Bool := false

section

variable (sha256 : Bytes → String) (manifest : ModelManifest)

/-- `_stream_copy` of what can be read of a member. -/
def streamCopy (staging : Staging) (file : ModelFile) (read : Bytes × Bool) :
    Except InstallError Staging :=
  match staging.files.obstruction file.name with
  | some error => .error error
  | none =>
    if file.sizeBytes < read.1.length ∨
        manifest.installedSizeBytes < staging.spent + read.1.length then .error .archive
    else if read.2 then .error .unexpected
    else if read.1.length ≠ file.sizeBytes ∨ sha256 read.1 ≠ file.sha256 then .error .archive
    else
      .ok { staging with
            files := staging.files.put file.name read.1
            spent := staging.spent + read.1.length }

/-- `check_root`. -/
def checkRoot (staging : Staging) : Option String → Except InstallError Staging
  | none =>
    if staging.root.isSome then .error .archive else .ok { staging with hasBare := true }
  | some root =>
    if staging.hasBare then .error .archive
    else
      match staging.root with
      | none => .ok { staging with root := some root }
      | some first => if first = root then .ok staging else .error .archive

/-- `register`: the declared file of the name. -/
def registerMember (staging : Staging) (name : String) (root : Option String) :
    Except InstallError (ModelFile × Staging) :=
  match manifest.file name with
  | none => .error .archive
  | some file =>
    if staging.files.names.contains name then .error .archive
    else (checkRoot staging root).map fun staging => (file, staging)

/-- One member of an archive. -/
def extractMember (staging : Staging) (member : Member) : Except InstallError Staging :=
  match member.kind with
  | .link | .special | .unsupported => .error .archive
  | .dir => (rejectUnsafe member.name.toList).map fun _ => staging
  | .file => do
    let (name, root) ← memberTarget member.name.toList
    let (file, staging) ← registerMember manifest staging name root
    if file.sizeBytes < member.size then .error .archive
    else
      match member.content with
      | none => .ok staging
      | some read => streamCopy sha256 manifest staging file read

/-- `_MAX_ARCHIVE_MEMBERS`. -/
def maxArchiveMembers : Nat := 1000

/-- The loop over the members, with as many as it may still see. -/
def extractMembers (broken : Bool) :
    (left : Nat) → Staging → List Member → Except InstallError Staging
  | _, staging, [] => if broken then .error .unexpected else .ok staging
  | 0, _, _ :: _ => .error .archive
  | left + 1, staging, member :: rest => do
    let staging ← extractMember sha256 manifest staging member
    extractMembers broken left staging rest

/-- All declared files are there. -/
def checkMissing (staging : Staging) : Except InstallError FileTree :=
  if manifest.files.all fun file => staging.files.names.contains file.name then .ok staging.files
  else .error .archive

/-- `_extract_and_verify` of the bytes of the download; `read` reads an archive. -/
def extractAndVerify (read : ArchiveFormat → Bytes → ArchiveReading) (archive : Bytes) :
    Except InstallError FileTree :=
  match manifest.archiveFormat with
  | .raw =>
    match manifest.files with
    | [file] => do
      let staging ← streamCopy sha256 manifest {} file (archive, false)
      checkMissing manifest staging
    | _ => .error .archive
  | .tarBz2 | .tarGz | .zip => do
    let reading := read manifest.archiveFormat archive
    let staging ← extractMembers sha256 manifest reading.broken maxArchiveMembers {} reading.members
    checkMissing manifest staging
  | .fileSet => .error .archive

/-- The downloaded files are those of the manifest, no more and no less. -/
def isDeclaredSet (files : FileTree) : Bool :=
  (files.names.all fun name => (manifest.file name).isSome) &&
    manifest.files.all fun file => files.names.contains file.name

/-- Copy the files of a set one after the other. -/
def copyFiles (downloaded : FileTree) : Staging → List ModelFile → Except InstallError Staging
  | staging, [] => .ok staging
  | staging, file :: rest =>
    match downloaded.content file.name with
    | none => .error .unexpected
    | some content => do
      let staging ← streamCopy sha256 manifest staging file (content, false)
      copyFiles downloaded staging rest

/-- `install_file_set`, up to the promotion. -/
def stageFileSet (downloaded : FileTree) : Except InstallError FileTree :=
  if manifest.archiveFormat ≠ .fileSet || !isDeclaredSet manifest downloaded then .error .archive
  else
    (copyFiles sha256 manifest downloaded {}
      (manifest.files.mergeSort fun a b => decide (a.name ≤ b.name))).map (·.files)

/-- `_promote`: what the version directory holds then. -/
def promote (existing : Option FileTree) (staged : FileTree) : Except InstallError FileTree :=
  match existing with
  | none => .ok staged
  | some files => if files.alike sha256 staged then .ok files else .error .fileExists

end

end EvoBlue.Source
