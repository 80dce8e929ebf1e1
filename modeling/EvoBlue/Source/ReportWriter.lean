import EvoBlue.Kernel.Utf8
import Mathlib.Data.List.Dedup

/-!
# The report directory

`reports/writer.py`: file names derived from titles, and the atomic write that
refuses to clobber files it does not know. A directory maps relative POSIX paths
to files; links and case-insensitive names are not modelled. The temporary file of a
write is left out here: a write looks at the directory first and replaces the final
file in a later step.
-/

namespace EvoBlue.Source

open EvoBlue.Kernel

/-! ## File names -/

/-- `_INVALID_FILENAME_CHARS`. -/
def isInvalidFilenameChar (c : CodePoint) : Bool :=
  c.val < 0x20 || (text "<>:\"/\\|?*").contains c

/-- `_WINDOWS_RESERVED`. -/
def windowsReserved : List Text :=
  [text "con", text "prn", text "aux", text "nul"] ++
    ["1", "2", "3", "4", "5", "6", "7", "8", "9"].map (fun i => text "com" ++ text i) ++
    ["1", "2", "3", "4", "5", "6", "7", "8", "9"].map (fun i => text "lpt" ++ text i)

def maxComponent : Nat := 200

/-- `rstrip(". ")`. -/
def rstripDots (t : Text) : Text := t.rdropWhile fun c => c = cp '.' || c = cp ' '

/-- The base name of `safe_filename`, before its `.md`. -/
def safeBase (unicode : UnicodeData) (title analysisId : Text) : Text :=
  let cleaned := rstripDots (strip (title.filter fun c => !isInvalidFilenameChar c))
  let cleaned := if cleaned = [] then text "analysis-" ++ analysisId else cleaned
  let cleaned :=
    if windowsReserved.contains (lower unicode cleaned) then cleaned ++ text "-" ++ analysisId
    else cleaned
  if cleaned.length > maxComponent then rstripDots (cleaned.take maxComponent) else cleaned

def safeFilename (unicode : UnicodeData) (title analysisId : Text) : Text :=
  safeBase unicode title analysisId ++ text ".md"

/-- `report_filename`: content-addressed. -/
def reportFilename (unicode : UnicodeData) (title analysisId contentHash : Text) : Text :=
  let base := safeFilename unicode title analysisId
  base.take (base.length - 3) ++ text "-" ++ contentHash.take 8 ++ text ".md"

theorem reportFilename_eq (unicode : UnicodeData) (title analysisId contentHash : Text) :
    reportFilename unicode title analysisId contentHash =
      safeBase unicode title analysisId ++ text "-" ++ contentHash.take 8 ++ text ".md" := by
  have extension : (text ".md").length = 3 := by decide
  unfold reportFilename safeFilename
  simp [extension]

/-! ## Directories -/

/-- What reading a file gives. -/
inductive FileContent where
  | bytes (data : Bytes)
  /-- Reading raises `OSError`. -/
  | unreadable
  deriving DecidableEq

/-- A report directory: its files by relative path. -/
structure Directory where
  files : List (Text × FileContent)
  distinct : (files.map (·.1)).Nodup

namespace Directory

def empty : Directory := ⟨[], List.nodup_nil⟩

def find (dir : Directory) (path : Text) : Option FileContent :=
  (dir.files.find? fun file => file.1 = path).map (·.2)

/-- `os.replace` onto `path`. -/
def put (dir : Directory) (path : Text) (content : FileContent) : Directory where
  files := dir.files.filter (fun file => file.1 ≠ path) ++ [(path, content)]
  distinct := by
    rw [List.map_append, List.nodup_append]
    refine ⟨?_, by simp, ?_⟩
    · exact dir.distinct.sublist (List.Sublist.map _ List.filter_sublist)
    · intro a memA b memB
      obtain ⟨file, mem, rfl⟩ := List.mem_map.1 memA
      have other := (List.mem_filter.1 mem).2
      simp only [List.map_cons, List.map_nil, List.mem_singleton] at memB
      simpa [memB] using other

theorem find_of_mem {dir : Directory} {path : Text} {content : FileContent}
    (mem : (path, content) ∈ dir.files) : dir.find path = some content := by
  unfold find
  cases found : dir.files.find? fun file => file.1 = path with
  | none => simpa using List.find?_eq_none.1 found _ mem
  | some file =>
    have same : file.1 = path := by simpa using List.find?_some found
    have one := List.inj_on_of_nodup_map dir.distinct (List.mem_of_find?_eq_some found) mem same
    rw [one]
    rfl

theorem mem_of_find {dir : Directory} {path : Text} {content : FileContent}
    (found : dir.find path = some content) : (path, content) ∈ dir.files := by
  obtain ⟨file, hit, rfl⟩ := Option.map_eq_some_iff.1 found
  have same : file.1 = path := by simpa using List.find?_some hit
  rw [← same]
  exact List.mem_of_find?_eq_some hit

theorem mem_put {dir : Directory} {path : Text} {content : FileContent}
    {file : Text × FileContent} :
    file ∈ (dir.put path content).files ↔
      (file ∈ dir.files ∧ file.1 ≠ path) ∨ file = (path, content) := by
  simp [put]

theorem find_put (dir : Directory) (path : Text) (content : FileContent) (other : Text) :
    (dir.put path content).find other = if other = path then some content else dir.find other := by
  by_cases same : other = path
  · rw [if_pos same, same]
    exact find_of_mem (mem_put.2 (.inr rfl))
  · rw [if_neg same]
    cases found : dir.find other with
    | none =>
      cases changed : (dir.put path content).find other with
      | none => rfl
      | some found' =>
        rcases mem_put.1 (mem_of_find changed) with old | new
        · rw [find_of_mem old.1] at found
          cases found
        · cases new
          exact absurd rfl same
    | some found' =>
      exact find_of_mem (mem_put.2 (.inl ⟨mem_of_find found, same⟩))

end Directory

/-! ## Writing -/

inductive WriteError where
  /-- `ReportConflictError`. -/
  | conflict
  /-- `ValueError`: the path leaves the directory. -/
  | escapesRoot
  | unicodeEncodeError
  | osError
  deriving DecidableEq, Repr

structure ReportWriteResult where
  path : Text
  contentHash : Text
  conflict : Bool
  deriving DecidableEq

/-- The path below the root a relative name resolves to, `kept` holding the parts
so far, the last one first. -/
def resolveParts (kept : List Text) : List Text → Option (List Text)
  | [] => some kept.reverse
  | part :: parts =>
    if part = [] ∨ part = text "." then resolveParts kept parts
    else if part = text ".." then
      match kept with
      | [] => none
      | _ :: kept => resolveParts kept parts
    else resolveParts (part :: kept) parts

/-- `_resolve`, as a relative path. -/
def resolvePath (filename : Text) : Except WriteError Text :=
  if filename.head? = some (cp '/') then .error .escapesRoot
  else
    match resolveParts [] (filename.splitOn (cp '/')) with
    | none => .error .escapesRoot
    | some parts => .ok ([cp '/'].intercalate parts)

/-- A path with its last `.ext` set apart: directory and stem, then the suffix. A dot at the
start or the end of the name parts nothing. -/
def splitSuffix (path : Text) : Text × Text :=
  let extension := path.rtakeWhile fun c => c ≠ cp '.'
  let front := path.take (path.length - extension.length - 1)
  if extension.length = path.length ∨ extension = [] ∨ extension.contains (cp '/') ∨ front = [] ∨
      front.getLast? = some (cp '/') then (path, [])
  else (front, cp '.' :: extension)

/-- The name of a conflict copy, next to the file. -/
def conflictPath (final suffix : Text) : Text :=
  (splitSuffix final).1 ++ text ".conflict-" ++ suffix ++ (splitSuffix final).2

/-- What the first half of a write decides. -/
inductive WritePlan where
  /-- The file already holds the content. -/
  | keep (result : ReportWriteResult)
  /-- Replace the file at the path of the result. -/
  | replace (data : Bytes) (result : ReportWriteResult)
  deriving DecidableEq

/-- `_write_sync` up to its temporary file; `suffix` is a fresh `uuid4` prefix. -/
def planWrite (sha256 : Bytes → Text) (dir : Directory) (filename content : Text)
    (previousHash : Option Text) (suffix : Text) : Except WriteError WritePlan := do
  let final ← resolvePath filename
  match encodeUtf8 content with
  | none => .error .unicodeEncodeError
  | some data =>
    let contentHash := sha256 data
    match dir.find final with
    | none => return .replace data ⟨final, contentHash, false⟩
    | some .unreadable => .error .osError
    | some (.bytes existing) =>
      if sha256 existing = contentHash then return .keep ⟨final, contentHash, false⟩
      else
        match previousHash with
        | none => .error .conflict
        | some previousHash =>
          if sha256 existing = previousHash then return .replace data ⟨final, contentHash, false⟩
          else
            return .replace data ⟨conflictPath final suffix, contentHash, true⟩

/-- `os.replace` of the temporary file. -/
def WritePlan.apply (plan : WritePlan) (dir : Directory) : Directory :=
  match plan with
  | .keep _ => dir
  | .replace data result => dir.put result.path (.bytes data)

def WritePlan.result : WritePlan → ReportWriteResult
  | .keep result => result
  | .replace _ result => result

end EvoBlue.Source
