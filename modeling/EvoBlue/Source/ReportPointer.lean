import EvoBlue.Kernel.Utf8
import Mathlib.Algebra.Order.BigOperators.Group.List
import Mathlib.Algebra.Order.Group.Nat

/-!
# The recovery pointer

`report-root.txt` of `storage/rebuild.py`: the report directory, outside the
database. A file is its bytes, and `none` is a file that is not there. Paths are
POSIX paths, kept as their `str`.
-/

namespace EvoBlue.Source

open EvoBlue.Kernel

/-- `str(Path(t))`: no empty component, no `.`, and one or exactly two slashes in front. -/
def pathText (t : Text) : Text :=
  let slashes := (t.takeWhile fun c => c = cp '/').length
  let root := if slashes = 2 then text "//" else if slashes = 0 then [] else text "/"
  let parts := (t.splitOn (cp '/')).filter fun part => part ≠ [] ∧ part ≠ text "."
  let whole := root ++ [cp '/'].intercalate parts
  if whole = [] then text "." else whole

/-- The directory a settings column names; an empty one names none. -/
def pointerValue : Option Text → Option Text
  | none => none
  | some directory => if directory = [] then none else some (pathText directory)

/-- Universal newlines. -/
def universalNewlines : Text → Text
  | [] => []
  | [c] => if c = cp '\r' then [cp '\n'] else [c]
  | c :: d :: rest =>
    if c = cp '\r' then
      if d = cp '\n' then cp '\n' :: universalNewlines rest
      else cp '\n' :: universalNewlines (d :: rest)
    else c :: universalNewlines (d :: rest)

/-- The path in the text of a pointer file. -/
def readPointerText (raw : Text) : Option Text :=
  let directory := strip (universalNewlines raw)
  if directory = [] then none else some (pathText directory)

/-- `read_report_pointer`; the outer `none` is `ReportPointerUnavailable`. -/
def readReportPointer : (file : Option Bytes) → Option (Option Text)
  | none => some none
  | some bytes => (decodeUtf8 bytes).map readPointerText

/-- `f"{report_dir}\n"`, or the empty tombstone. -/
def pointerText : Option Text → Text
  | none => []
  | some directory => directory ++ [cp '\n']

/-- An `OSError` while writing: making the directory, or a step of the replacement. -/
inductive PointerFault where
  | directory
  | replacement
  deriving DecidableEq, Repr

/-- What writing the pointer raises. -/
inductive PointerError where
  | osError
  | unicodeEncodeError
  deriving DecidableEq, Repr

/-- `write_report_pointer`: the new file, or the error that leaves the old one. -/
def writeReportPointer (fault : Option PointerFault) (value : Option Text) :
    Except PointerError Bytes :=
  if fault = some .directory then .error .osError
  else
    match encodeUtf8 (pointerText value) with
    | none => .error .unicodeEncodeError
    | some bytes => if fault = some .replacement then .error .osError else .ok bytes

/-- What a pointer reads as after it was written. -/
def rereadPointer (value : Option Text) : Option Text := readPointerText (pointerText value)

theorem readReportPointer_written {fault : Option PointerFault} {value : Option Text}
    {bytes : Bytes} (written : writeReportPointer fault value = .ok bytes) :
    readReportPointer (some bytes) = some (rereadPointer value) := by
  unfold writeReportPointer at written
  split at written
  · cases written
  · split at written
    next => cases written
    next encoded =>
      split at written
      · cases written
      · cases written
        simp [readReportPointer, decode_of_encode encoded, rereadPointer]

/-- `resolve_report_root`: the directory of the settings row, the pointer file (if the engine has
a place for one), the fallback. The outer `none` is `ReportPointerUnavailable`. -/
def resolveReportRoot (settings : Option Text) (pointerFile : Option (Option Bytes))
    (fallback : Option Text) : Option (Option Text) :=
  match pointerValue settings with
  | some directory => some (some directory)
  | none =>
    match pointerFile with
    | none => some (fallback.map pathText)
    | some file => (readReportPointer file).map fun pointer => pointer.or (fallback.map pathText)

/-! ## Paths spelled again -/

/-- The slashes a path keeps in front. -/
def pathRoot (t : Text) : Text :=
  let slashes := (t.takeWhile fun c => c = cp '/').length
  if slashes = 2 then text "//" else if slashes = 0 then [] else text "/"

def pathPieces (t : Text) : List Text :=
  (t.splitOn (cp '/')).filter fun part => part ≠ [] ∧ part ≠ text "."

theorem pathText_eq (t : Text) : pathText t =
    if pathRoot t ++ [cp '/'].intercalate (pathPieces t) = [] then text "."
    else pathRoot t ++ [cp '/'].intercalate (pathPieces t) := rfl

theorem pathText_ne_nil (t : Text) : pathText t ≠ [] := by
  rw [pathText_eq]
  split
  · decide
  next some_ => exact some_

theorem mem_pathPieces {t part : Text} (mem : part ∈ pathPieces t) :
    cp '/' ∉ part ∧ part ≠ [] ∧ part ≠ text "." := by
  obtain ⟨piece, kept⟩ := List.mem_filter.1 mem
  rw [decide_eq_true_eq] at kept
  exact ⟨not_mem_of_mem_splitOn piece, kept⟩

theorem pathRoot_of_slashes {t slashes : Text}
    (front : (t.takeWhile fun c => c = cp '/') = slashes) : pathRoot t =
      if slashes.length = 2 then text "//" else if slashes.length = 0 then [] else text "/" := by
  subst front
  rfl

theorem pathRoot_cases (t : Text) : pathRoot t = [] ∨ pathRoot t = text "/" ∨ pathRoot t = text "//" := by
  unfold pathRoot
  simp only
  split
  · exact .inr (.inr rfl)
  · split
    · exact .inl rfl
    · exact .inr (.inl rfl)

/-- Code points other than the slash and the dot come from the text. -/
theorem countP_pathText {p : CodePoint → Bool} (slash : p (cp '/') = false)
    (dot : p (cp '.') = false) (t : Text) : (pathText t).countP p ≤ t.countP p := by
  have root : (pathRoot t).countP p = 0 := by
    rcases pathRoot_cases t with same | same | same <;> rw [same] <;> simp [text, slash]
  have between : [cp '/'].countP p = 0 := by simp [slash]
  have parts : ([cp '/'].intercalate (pathPieces t)).countP p ≤ t.countP p := by
    conv_rhs => rw [← @List.intercalate_splitOn _ t _ _ (cp '/')]
    rw [countP_intercalate between, countP_intercalate between]
    exact (List.filter_sublist.map _).sum_le_sum fun _ _ => Nat.zero_le _
  rw [pathText_eq]
  split
  · simp [text, dot]
  · rw [List.countP_append, root]
    omega

theorem takeWhile_slashes {parts : List Text} (clean : ∀ part ∈ parts, cp '/' ∉ part ∧ part ≠ [])
    (root : Text) (slashes : ∀ c ∈ root, c = cp '/') :
    ((root ++ [cp '/'].intercalate parts).takeWhile fun c => c = cp '/') = root := by
  rw [List.takeWhile_append_of_pos fun c mem => decide_eq_true (slashes c mem)]
  cases parts with
  | nil => simp
  | cons part rest =>
    obtain ⟨free, some_⟩ := clean part List.mem_cons_self
    cases part with
    | nil => exact absurd rfl some_
    | cons c part =>
      have other : c ≠ cp '/' := fun same => free (same ▸ List.mem_cons_self)
      cases rest with
      | nil => simp [other]
      | cons next rest => simp [List.intercalate_cons_cons, other]

/-- The parts of a spelled path are its parts. -/
theorem pathPieces_spelled {parts : List Text}
    (clean : ∀ part ∈ parts, cp '/' ∉ part ∧ part ≠ [] ∧ part ≠ text ".") (count : Nat) :
    pathPieces (List.replicate count (cp '/') ++ [cp '/'].intercalate parts) = parts := by
  have kept : parts.filter (fun part => part ≠ [] ∧ part ≠ text ".") = parts :=
    List.filter_eq_self.2 fun part mem => decide_eq_true (clean part mem).2
  induction count with
  | zero =>
    unfold pathPieces
    rw [List.replicate_zero, List.nil_append]
    cases parts with
    | nil => rfl
    | cons part rest =>
      rw [List.splitOn_intercalate _ (fun part mem => (clean part mem).1) (List.cons_ne_nil _ _)]
      exact kept
  | succ count ih =>
    unfold pathPieces at ih ⊢
    rw [List.replicate_succ, List.cons_append, List.splitOn_cons_eq_if_modifyHead, if_pos (by simp),
      List.filter_cons, if_neg (by simp)]
    exact ih

/-- A path is spelled one way. -/
theorem pathText_pathText (t : Text) : pathText (pathText t) = pathText t := by
  conv_lhs => arg 1; rw [pathText_eq]
  conv_rhs => rw [pathText_eq]
  split
  · decide
  next some_ =>
    have clean : ∀ part ∈ pathPieces t, cp '/' ∉ part ∧ part ≠ [] ∧ part ≠ text "." :=
      fun _ mem => mem_pathPieces mem
    have apart : ∀ part ∈ pathPieces t, cp '/' ∉ part ∧ part ≠ [] :=
      fun part mem => ⟨(clean part mem).1, (clean part mem).2.1⟩
    have slashes : ∃ count, pathRoot t = List.replicate count (cp '/') := by
      rcases pathRoot_cases t with same | same | same
      · exact ⟨0, same⟩
      · exact ⟨1, same⟩
      · exact ⟨2, same⟩
    obtain ⟨count, root⟩ := slashes
    have again : pathRoot (pathRoot t ++ [cp '/'].intercalate (pathPieces t)) = pathRoot t := by
      have taken := takeWhile_slashes apart (pathRoot t) (by
        rw [root]
        exact fun c mem => List.eq_of_mem_replicate mem)
      rw [pathRoot_of_slashes taken]
      rcases pathRoot_cases t with same | same | same <;> rw [same] <;> rfl
    have parts : pathPieces (pathRoot t ++ [cp '/'].intercalate (pathPieces t)) = pathPieces t := by
      conv_lhs => rw [root]
      exact pathPieces_spelled clean count
    rw [pathText_eq, again, parts, if_neg some_]

end EvoBlue.Source
