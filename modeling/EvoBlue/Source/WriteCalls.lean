import EvoBlue.Kernel.Protocol
import EvoBlue.Source.ReportWriter

/-!
# The operations of a report write

`_write_sync` once more, with its temporary file and down to what may fail in it: every
operation on the directory is a call, and may raise.
-/

namespace EvoBlue.Source

open EvoBlue.Kernel

/-! ## Where a name leads -/

/-- The parts of an absolute path without `.` and `..`, `kept` holding those so far, the last
one first. -/
def normalizeParts (kept : List Text) : List Text → List Text
  | [] => kept.reverse
  | part :: parts =>
    if part = [] ∨ part = text "." then normalizeParts kept parts
    else if part = text ".." then normalizeParts kept.tail parts
    else normalizeParts (part :: kept) parts

/-- `_resolve` below the directory with these parts, as a path relative to it; the directory
itself has the empty path. -/
def resolveFrom (root : List Text) (filename : Text) : Except WriteError Text :=
  let start := if filename.head? = some (cp '/') then [] else root.reverse
  let parts := normalizeParts start (filename.splitOn (cp '/'))
  if root <+: parts then .ok ([cp '/'].intercalate (parts.drop root.length)) else .error .escapesRoot

theorem normalizeParts_below (root kept : List Text) {parts left : List Text}
    (inside : resolveParts kept parts = some left) :
    normalizeParts (kept ++ root.reverse) parts = root ++ left := by
  induction parts generalizing kept with
  | nil =>
    cases inside
    rw [normalizeParts, List.reverse_append, List.reverse_reverse]
  | cons part parts ih =>
    unfold resolveParts at inside
    rw [normalizeParts]
    split at inside
    next skipped =>
      rw [if_pos skipped]
      exact ih kept inside
    next named =>
      rw [if_neg named]
      split at inside
      next up =>
        rw [if_pos up]
        cases kept with
        | nil => cases inside
        | cons last kept => exact ih kept inside
      next down =>
        rw [if_neg down]
        exact ih (part :: kept) inside

/-- A relative name that never leaves the directory on its way leads there. -/
theorem resolveFrom_of_resolvePath (root : List Text) {filename final : Text}
    (inside : resolvePath filename = .ok final) : resolveFrom root filename = .ok final := by
  unfold resolvePath at inside
  split at inside
  · cases inside
  next relative =>
    split at inside
    · cases inside
    next parts resolved =>
      cases inside
      have below := normalizeParts_below root [] resolved
      rw [List.nil_append] at below
      unfold resolveFrom
      simp only [if_neg relative, below, if_pos (List.prefix_append root parts), List.drop_left]

/-! ## The write -/

inductive WriteCall where
  | makeParent
  | exists (path : Text)
  | readBytes (path : Text)
  /-- `open(tmp, "wb")`. -/
  | openTemp (tmp : Text)
  | write (tmp : Text) (data : Bytes)
  /-- `flush` and `fsync`. -/
  | sync
  | replace (tmp final : Text)

abbrev WriteReply : WriteCall → Type
  | .exists _ => Bool
  | .readBytes _ => Bytes
  | _ => Unit

abbrev WriteAnswer (call : WriteCall) : Type := Except WriteError (WriteReply call)

abbrev ReportWrite := Attempt WriteCall WriteAnswer WriteError

namespace ReportWrite

abbrev ask (call : WriteCall) : ReportWrite (WriteReply call) := Attempt.ask call

/-- `final.with_name(f"…\x7buuid\x7d.tmp")`. -/
def tempPath (final uuid : Text) : Text := final ++ text "." ++ uuid ++ text ".tmp"

/-- The temporary file, and the replacement by it. -/
def publish (uuid : Text) (data : Bytes) (result : ReportWriteResult) :
    ReportWrite ReportWriteResult := do
  ask (.openTemp (tempPath result.path uuid))
  ask (.write (tempPath result.path uuid) data)
  ask .sync
  ask (.replace (tempPath result.path uuid) result.path)
  pure result

/-- What becomes of a file that is there. -/
def overwrite (sha256 : Bytes → Text) (previousHash : Option Text) (suffix uuid final : Text)
    (data : Bytes) : ReportWrite ReportWriteResult := do
  let existing ← ask (.readBytes final)
  if sha256 existing = sha256 data then pure ⟨final, sha256 data, false⟩
  else
    match previousHash with
    | none => throw .conflict
    | some previousHash =>
      if sha256 existing ≠ previousHash then
        publish uuid data ⟨conflictPath final suffix, sha256 data, true⟩
      else publish uuid data ⟨final, sha256 data, false⟩

/-- `_write_sync`; `suffix` and `uuid` are the two `uuid4` it may draw. -/
def writeReport (sha256 : Bytes → Text) (root : List Text) (filename content : Text)
    (previousHash : Option Text) (suffix uuid : Text) : ReportWrite ReportWriteResult :=
  match resolveFrom root filename with
  | .error error => throw error
  | .ok final => do
    ask .makeParent
    match encodeUtf8 content with
    | none => throw .unicodeEncodeError
    | some data =>
      let there ← ask (.exists final)
      if there then overwrite sha256 previousHash suffix uuid final data
      else publish uuid data ⟨final, sha256 data, false⟩

end ReportWrite

/-! ## The directory -/

namespace Directory

def erase (dir : Directory) (path : Text) : Directory where
  files := dir.files.filter fun file => file.1 ≠ path
  distinct := dir.distinct.sublist (List.Sublist.map _ List.filter_sublist)

theorem find_erase (dir : Directory) (path other : Text) :
    (dir.erase path).find other = if other = path then none else dir.find other := by
  have mem {file : Text × FileContent} : file ∈ (dir.erase path).files ↔
      file ∈ dir.files ∧ file.1 ≠ path := by
    simp [erase]
  by_cases same : other = path
  · rw [if_pos same, same]
    cases found : (dir.erase path).find path with
    | none => rfl
    | some content => exact absurd rfl (mem.1 (mem_of_find found)).2
  · rw [if_neg same]
    cases found : dir.find other with
    | none =>
      cases left : (dir.erase path).find other with
      | none => rfl
      | some content =>
        rw [find_of_mem (mem.1 (mem_of_find left)).1] at found
        cases found
    | some content => exact find_of_mem (mem.2 ⟨mem_of_find found, same⟩)

/-- What is in the file so far. -/
def written (dir : Directory) (path : Text) : Bytes :=
  match dir.find path with
  | some (.bytes data) => data
  | _ => []

/-- A call that succeeds, or finds nothing to read. -/
def perform : (call : WriteCall) → Directory → WriteAnswer call × Directory
  | .makeParent, dir => (.ok (), dir)
  | .exists path, dir => (.ok (dir.find path).isSome, dir)
  | .readBytes path, dir =>
    match dir.find path with
    | some (.bytes data) => (.ok data, dir)
    | _ => (.error .osError, dir)
  | .openTemp tmp, dir => (.ok (), dir.put tmp (.bytes []))
  | .write tmp data, dir => (.ok (), dir.put tmp (.bytes (dir.written tmp ++ data)))
  | .sync, dir => (.ok (), dir)
  | .replace tmp final, dir => (.ok (), (dir.erase tmp).put final (.bytes (dir.written tmp)))

end Directory

/-- What comes from outside to one call: an `OSError`, with what a write got out before it. -/
structure WriteCircumstance where
  raises : Bool := false
  torn : Nat := 0

namespace Directory

/-- What a call that raises leaves. -/
def afterFailure (torn : Nat) : WriteCall → Directory → Directory
  | .write tmp data, dir => dir.put tmp (.bytes (dir.written tmp ++ data.take torn))
  | _, dir => dir

/-- One call. -/
def serve (now : WriteCircumstance) (call : WriteCall) (dir : Directory) :
    WriteAnswer call × Directory :=
  if now.raises then (.error .osError, dir.afterFailure now.torn call) else dir.perform call

/-- The calls of one write, with the circumstances of each. -/
def serveNext (outside : Nat → WriteCircumstance) (call : WriteCall) (world : Directory × Nat) :
    WriteAnswer call × (Directory × Nat) :=
  let served := world.1.serve (outside world.2) call
  (served.1, served.2, world.2 + 1)

end Directory

/-! ## Nothing that fails -/

section

variable {α : Type} {outside : Nat → WriteCircumstance} {dir : Directory} {moment : Nat}

theorem exec_quiet (quiet : ∀ n, (outside n).raises = false) {call : WriteCall}
    {next : WriteReply call → ReportWrite α} {reply : WriteReply call} {after : Directory}
    (performed : dir.perform call = (.ok reply, after)) :
    (ReportWrite.ask call >>= next).run.exec (Directory.serveNext outside) (dir, moment) =
      (next reply).run.exec (Directory.serveNext outside) (after, moment + 1) := by
  rw [Attempt.exec_bind, Attempt.exec_ask]
  unfold Directory.serveNext Directory.serve
  simp only [quiet, Bool.false_eq_true, if_false, performed]

theorem exec_unreadable (quiet : ∀ n, (outside n).raises = false) {path : Text}
    {next : Bytes → ReportWrite α} (found : ∀ data, dir.find path ≠ some (.bytes data)) :
    (ReportWrite.ask (.readBytes path) >>= next).run.exec (Directory.serveNext outside) (dir, moment) =
      (.error .osError, (dir, moment + 1)) := by
  have performed : dir.perform (.readBytes path) = (.error .osError, dir) := by
    unfold Directory.perform
    dsimp only
    split
    next data there => exact absurd there (found data)
    next => rfl
  rw [Attempt.exec_bind, Attempt.exec_ask]
  unfold Directory.serveNext Directory.serve
  simp only [quiet, Bool.false_eq_true, if_false, performed]

theorem written_of_find {path : Text} {data : Bytes} (found : dir.find path = some (.bytes data)) :
    dir.written path = data := by
  unfold Directory.written
  rw [found]

/-- The same end, with the same files. -/
def PlanEnd (plan : Except WriteError WritePlan) (dir : Directory)
    (ended : Except WriteError ReportWriteResult × (Directory × Nat)) : Prop :=
  match plan with
  | .error error => ended.1 = .error error ∧ ended.2.1 = dir
  | .ok plan => ended.1 = .ok plan.result ∧
      ∀ path, ended.2.1.find path = (plan.apply dir).find path

theorem publish_agrees (quiet : ∀ n, (outside n).raises = false) (result : ReportWriteResult)
    {uuid : Text} {data : Bytes} (fresh : dir.find (ReportWrite.tempPath result.path uuid) = none) :
    PlanEnd (.ok (.replace data result)) dir
      ((ReportWrite.publish uuid data result).run.exec (Directory.serveNext outside) (dir, moment)) := by
  unfold ReportWrite.publish
  rw [exec_quiet quiet rfl, exec_quiet quiet rfl, exec_quiet quiet rfl, exec_quiet quiet rfl]
  refine ⟨rfl, fun path => ?_⟩
  have opened : ((dir.put (ReportWrite.tempPath result.path uuid) (.bytes [])).find
      (ReportWrite.tempPath result.path uuid)) = some (.bytes []) := by
    rw [Directory.find_put, if_pos rfl]
  have filled : ((dir.put (ReportWrite.tempPath result.path uuid) (.bytes [])).put
      (ReportWrite.tempPath result.path uuid) (.bytes data)).find
      (ReportWrite.tempPath result.path uuid) = some (.bytes data) := by
    rw [Directory.find_put, if_pos rfl]
  change (Directory.put (Directory.erase _ _) _ _).find path = (dir.put result.path (.bytes data)).find path
  rw [written_of_find opened, List.nil_append, written_of_find filled, Directory.find_put,
    Directory.find_put, Directory.find_erase, Directory.find_put, Directory.find_put]
  by_cases target : path = result.path
  · rw [if_pos target, if_pos target]
  · rw [if_neg target, if_neg target]
    by_cases temp : path = ReportWrite.tempPath result.path uuid
    · rw [if_pos temp, temp, fresh]
    · rw [if_neg temp, if_neg temp, if_neg temp]

/-- Where nothing fails and the temporary names are new, a write ends as planned. -/
theorem writeReport_agrees (quiet : ∀ n, (outside n).raises = false) (sha256 : Bytes → Text)
    (root : List Text) {filename content final : Text} (previousHash : Option Text)
    (suffix uuid : Text) (inside : resolvePath filename = .ok final)
    (fresh : dir.find (ReportWrite.tempPath final uuid) = none)
    (freshConflict : dir.find (ReportWrite.tempPath (conflictPath final suffix) uuid) = none) :
    PlanEnd (planWrite sha256 dir filename content previousHash suffix) dir
      ((ReportWrite.writeReport sha256 root filename content previousHash suffix uuid).run.exec
        (Directory.serveNext outside) (dir, moment)) := by
  unfold ReportWrite.writeReport
  rw [resolveFrom_of_resolvePath root inside]
  dsimp only
  rw [exec_quiet quiet rfl]
  cases encoded : encodeUtf8 content with
  | none =>
    have planned : planWrite sha256 dir filename content previousHash suffix =
        .error .unicodeEncodeError := by
      simp [planWrite, inside, encoded, bind, Except.bind]
    rw [planned]
    exact ⟨rfl, rfl⟩
  | some data =>
    dsimp only
    rw [exec_quiet quiet rfl]
    cases found : dir.find final with
    | none =>
      have planned : planWrite sha256 dir filename content previousHash suffix =
          .ok (.replace data ⟨final, sha256 data, false⟩) := by
        simp [planWrite, inside, encoded, found, bind, Except.bind, pure, Except.pure]
      rw [planned]
      exact publish_agrees quiet ⟨final, sha256 data, false⟩ fresh
    | some there =>
      simp only [Option.isSome_some, if_true]
      unfold ReportWrite.overwrite
      cases there with
      | unreadable =>
        have planned : planWrite sha256 dir filename content previousHash suffix = .error .osError := by
          simp [planWrite, inside, encoded, found, bind, Except.bind]
        rw [exec_unreadable quiet (by simp [found]), planned]
        exact ⟨rfl, rfl⟩
      | bytes existing =>
        have read : dir.perform (.readBytes final) = (.ok existing, dir) := by
          unfold Directory.perform
          simp only [found]
        rw [exec_quiet quiet read]
        by_cases identical : sha256 existing = sha256 data
        · have planned : planWrite sha256 dir filename content previousHash suffix =
              .ok (.keep ⟨final, sha256 data, false⟩) := by
            simp [planWrite, inside, encoded, found, identical, bind, Except.bind, pure, Except.pure]
          rw [if_pos identical, planned]
          exact ⟨rfl, fun path => rfl⟩
        · rw [if_neg identical]
          cases previousHash with
          | none =>
            have planned : planWrite sha256 dir filename content none suffix = .error .conflict := by
              simp [planWrite, inside, encoded, found, identical, bind, Except.bind]
            rw [planned]
            exact ⟨rfl, rfl⟩
          | some previousHash =>
            dsimp only
            by_cases known : sha256 existing = previousHash
            · have planned : planWrite sha256 dir filename content (some previousHash) suffix =
                  .ok (.replace data ⟨final, sha256 data, false⟩) := by
                rw [known] at identical
                simp [planWrite, inside, encoded, found, identical, known, bind, Except.bind, pure,
                  Except.pure]
              rw [if_neg (not_not.2 known), planned]
              exact publish_agrees quiet ⟨final, sha256 data, false⟩ fresh
            · have planned : planWrite sha256 dir filename content (some previousHash) suffix =
                  .ok (.replace data ⟨conflictPath final suffix, sha256 data, true⟩) := by
                simp [planWrite, inside, encoded, found, identical, known, bind, Except.bind, pure,
                  Except.pure]
              rw [if_pos known, planned]
              exact publish_agrees quiet ⟨conflictPath final suffix, sha256 data, true⟩ freshConflict

end

end EvoBlue.Source
