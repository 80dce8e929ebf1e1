import EvoBlue.Source.ModelHost

/-!
# The operations of an unpacking

`install_archive` down to its operations on files: a member is read chunk by chunk, every chunk
is checked before it is written, and each operation may raise. Next to the staging directory and
the version directory there are all other files, where a name that leaves the staging directory
would be written.
-/

namespace EvoBlue.Source

open EvoBlue.Kernel

/-- `_CHUNK`. -/
def chunkSize : Nat := 1024 * 1024

/-- What `read(_CHUNK)` returns before the end. -/
structure Chunk where
  bytes : Bytes
  nonempty : bytes ≠ []
  short : bytes.length ≤ chunkSize

/-- The bytes of the chunks together. -/
def chunkBytes (chunks : List Chunk) : Bytes := (chunks.map (·.bytes)).flatten

/-! ## Members -/

/-- What `tarfile` and `zipfile` read of a member before its content. -/
inductive MemberHeader where
  | tar (name : String) (type : Char) (size : Nat)
  | zip (filename : String) (externalAttr fileSize : Nat)
  deriving DecidableEq

namespace MemberHeader

def name : MemberHeader → String
  | .tar name _ _ => name
  | .zip filename _ _ => filename

def size : MemberHeader → Nat
  | .tar _ _ size => size
  | .zip _ _ fileSize => fileSize

/-- `issym`, `islnk`, `ischr`, `isblk`, `isfifo`, `isdir` and `isfile` of a `TarInfo`. -/
def tarKind (type : Char) : MemberKind :=
  if type = '1' || type = '2' then .link
  else if type = '3' || type = '4' || type = '6' then .special
  else if type = '5' then .dir
  else if type = '0' || type = Char.ofNat 0 || type = '7' || type = 'S' then .file
  else .unsupported

/-- `stat.S_IFMT`. -/
def fileFormat (mode : Nat) : Nat := mode &&& 0o170000

/-- The tests of a `ZipInfo`, by the mode in `external_attr`. -/
def zipKind (filename : String) (externalAttr : Nat) : MemberKind :=
  let mode := externalAttr >>> 16
  if mode ≠ 0 ∧ fileFormat mode = 0o120000 then .link
  else if filename.toList.getLast? = some '/' then .dir
  else if mode ≠ 0 ∧ fileFormat mode ≠ 0o100000 then .special
  else .file

def kind : MemberHeader → MemberKind
  | .tar _ type _ => tarKind type
  | .zip filename externalAttr _ => zipKind filename externalAttr

end MemberHeader

structure ArchiveMember where
  header : MemberHeader
  /-- The content as it is read; nothing where `extractfile` returns nothing. -/
  chunks : Option (List Chunk)

/-- The downloaded file: its own bytes, and the members it has as an archive. -/
structure ArchiveFile where
  chunks : List Chunk
  members : List ArchiveMember

/-! ## Calls -/

inductive UnpackCall where
  | makeParent
  /-- `mkdtemp` next to the version directory. -/
  | makeStaging
  | openArchive
  /-- The next member, or the end of the archive. -/
  | nextMember
  | openMember (header : MemberHeader)
  /-- A chunk, or nothing at the end, of a member or of the archive itself. -/
  | read (source : Option MemberHeader) (bytes : Bytes)
  /-- `out_path.parent.mkdir`. -/
  | makeDirs (name : String)
  | openFile (name : String)
  | write (name : String) (bytes : Bytes)
  | closeFile
  | destExists
  /-- `_dir_signature` of the staging directory. -/
  | stagedSignature
  | destSignature
  /-- `os.replace(staging, dest)`. -/
  | replace
  /-- `rmtree(staging, ignore_errors=True)`. -/
  | removeStaging

abbrev UnpackReply : UnpackCall → Type
  | .destExists => Bool
  | .stagedSignature => List (String × Nat × String)
  | .destSignature => List (String × Nat × String)
  | _ => Unit

abbrev UnpackAnswer (call : UnpackCall) : Type := Except InstallError (UnpackReply call)

abbrev Unpack := Attempt UnpackCall UnpackAnswer InstallError

namespace Unpack

abbrev ask (call : UnpackCall) : Unpack (UnpackReply call) := Attempt.ask call

def orRaise {α : Type} : Except InstallError α → Unpack α
  | .ok value => pure value
  | .error error => throw error

section

variable (sha256 : Bytes → String) (manifest : ModelManifest)

/-- The loop of `_stream_copy`, with the size, what is hashed and the budget that is used up. -/
def copyChunks (source : Option MemberHeader) (file : ModelFile) :
    (size : Nat) → (hashed : Bytes) → (spent : Nat) → List Chunk → Unpack (Nat × Bytes × Nat)
  | size, hashed, spent, [] => do
    ask (.read source [])
    pure (size, hashed, spent)
  | size, hashed, spent, chunk :: rest => do
    ask (.read source chunk.bytes)
    if file.sizeBytes < size + chunk.bytes.length then throw .archive
    else if manifest.installedSizeBytes < spent + chunk.bytes.length then throw .archive
    else do
      ask (.write file.name chunk.bytes)
      copyChunks source file (size + chunk.bytes.length) (hashed ++ chunk.bytes)
        (spent + chunk.bytes.length) rest

/-- `_stream_copy`. What is staged afterwards has the file as it was hashed. -/
def streamCopy (source : Option MemberHeader) (staging : Staging) (file : ModelFile)
    (chunks : List Chunk) : Unpack Staging := do
  ask (.makeDirs file.name)
  ask (.openFile file.name)
  let (size, hashed, spent) ← copyChunks manifest source file 0 [] staging.spent chunks
  ask .closeFile
  if size ≠ file.sizeBytes then throw .archive
  else if sha256 hashed ≠ file.sha256 then throw .archive
  else pure { staging with files := staging.files.put file.name hashed, spent }

/-- One member. -/
def extractMember (staging : Staging) (member : ArchiveMember) : Unpack Staging :=
  match member.header.kind with
  | .link | .special | .unsupported => throw .archive
  | .dir => do
    orRaise (rejectUnsafe member.header.name.toList)
    pure staging
  | .file => do
    let (name, root) ← orRaise (memberTarget member.header.name.toList)
    let (file, staging) ← orRaise (registerMember manifest staging name root)
    if file.sizeBytes < member.header.size then throw .archive
    else do
      ask (.openMember member.header)
      match member.chunks with
      | none => pure staging
      | some chunks => streamCopy sha256 manifest (some member.header) staging file chunks

/-- The loop over the members. -/
def extractMembers : (left : Nat) → Staging → List ArchiveMember → Unpack Staging
  | _, staging, [] => do
    ask .nextMember
    pure staging
  | 0, _, _ :: _ => do
    ask .nextMember
    throw .archive
  | left + 1, staging, member :: rest => do
    ask .nextMember
    let staging ← extractMember sha256 manifest staging member
    extractMembers left staging rest

/-- `_extract_and_verify`. -/
def extractAndVerify (archive : ArchiveFile) : Unpack FileTree :=
  match manifest.archiveFormat with
  | .raw =>
    match manifest.files with
    | [file] => do
      ask .openArchive
      let staging ← streamCopy sha256 manifest none {} file archive.chunks
      orRaise (checkMissing manifest staging)
    | _ => throw .archive
  | .tarBz2 | .tarGz | .zip => do
    ask .openArchive
    let staging ← extractMembers sha256 manifest maxArchiveMembers {} archive.members
    orRaise (checkMissing manifest staging)
  | .fileSet => throw .archive

/-- `rmtree(staging, ignore_errors=True)`. -/
def removeStaging : Unpack Unit := do
  let _ : UnpackAnswer .removeStaging ← Attempt.call UnpackCall.removeStaging
  pure ()

/-- `_promote`. -/
def promote : Unpack Unit := do
  let exists_ ← ask .destExists
  if exists_ then do
    let staged ← ask .stagedSignature
    let there ← ask .destSignature
    if staged.all there.contains && there.all staged.contains then removeStaging
    else throw .fileExists
  else ask .replace

/-- `install_archive`. -/
def installArchive (archive : ArchiveFile) : Unpack Unit := do
  ask .makeParent
  ask .makeStaging
  tryCatch
    (do
      let _ ← extractAndVerify sha256 manifest archive
      promote)
    fun error => do
      removeStaging
      throw error

end

end Unpack

/-! ## The files -/

/-- Where `directory / name` lies below the directory; nothing when the name leaves it. -/
def below (name : List Char) : Option (List (List Char)) :=
  if isAbsolutePath name then none else descend [] (pathParts name)
where
  descend : List (List Char) → List (List Char) → Option (List (List Char))
    | place, [] => some place
    | place, part :: rest =>
      if part = [] ∨ part = ['.'] then descend place rest
      else if part = ['.', '.'] then if place = [] then none else descend place.dropLast rest
      else descend (place ++ [part]) rest

/-- The files an unpacking can reach, and the bytes it took from members. -/
structure UnpackSite where
  staging : FileTree := []
  dest : Option FileTree
  elsewhere : FileTree
  taken : Nat := 0

/-- What comes from outside to one call: an exception, with what a write got out before it. -/
structure UnpackCircumstance where
  raises : Option InstallError := none
  torn : Nat := 0

namespace UnpackSite

/-- Write at the end of the file of this name. -/
def append (site : UnpackSite) (name : String) (bytes : Bytes) : UnpackSite :=
  match below name.toList with
  | some place => { site with staging := site.staging.append (joinPath place) bytes }
  | none => { site with elsewhere := site.elsewhere.append name bytes }

/-- `open(staging / name, "wb")`. -/
def create (site : UnpackSite) (name : String) : Except InstallError Unit × UnpackSite :=
  match below name.toList with
  | some place =>
    match site.staging.obstruction (joinPath place) with
    | some error => (.error error, site)
    | none => (.ok (), { site with staging := site.staging.put (joinPath place) [] })
  | none => (.ok (), { site with elsewhere := site.elsewhere.put name [] })

/-- A call that nothing outside makes fail. -/
def perform (sha256 : Bytes → String) :
    (call : UnpackCall) → UnpackSite → UnpackAnswer call × UnpackSite
  | .makeParent, site => (.ok (), site)
  | .makeStaging, site => (.ok (), { site with staging := [] })
  | .openArchive, site => (.ok (), site)
  | .nextMember, site => (.ok (), site)
  | .openMember _, site => (.ok (), site)
  | .read _ bytes, site => (.ok (), { site with taken := site.taken + bytes.length })
  | .makeDirs name, site =>
    match (below name.toList).bind fun place => site.staging.obstruction (joinPath place) with
    | some error => (.error error, site)
    | none => (.ok (), site)
  | .openFile name, site => site.create name
  | .write name bytes, site => (.ok (), site.append name bytes)
  | .closeFile, site => (.ok (), site)
  | .destExists, site => (.ok site.dest.isSome, site)
  | .stagedSignature, site => (.ok (site.staging.signature sha256), site)
  | .destSignature, site => (.ok ((site.dest.getD []).signature sha256), site)
  | .replace, site => (.ok (), { site with staging := [], dest := some site.staging })
  | .removeStaging, site => (.ok (), { site with staging := [] })

/-- What a call that raises leaves. -/
def afterFailure (torn : Nat) : UnpackCall → UnpackSite → UnpackSite
  | .write name bytes, site => site.append name (bytes.take torn)
  | _, site => site

/-- One call. -/
def serve (sha256 : Bytes → String) (now : UnpackCircumstance) (call : UnpackCall) (site : UnpackSite) :
    UnpackAnswer call × UnpackSite :=
  match now.raises with
  | some error => (.error error, site.afterFailure now.torn call)
  | none => site.perform sha256 call

/-- The calls of one unpacking, with the circumstances of each. -/
def serveNext (sha256 : Bytes → String) (outside : Nat → UnpackCircumstance) (call : UnpackCall)
    (world : UnpackSite × Nat) : UnpackAnswer call × (UnpackSite × Nat) :=
  let served := world.1.serve sha256 (outside world.2) call
  (served.1, served.2, world.2 + 1)

end UnpackSite

end EvoBlue.Source
