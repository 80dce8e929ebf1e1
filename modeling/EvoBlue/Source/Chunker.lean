import EvoBlue.Kernel.LineEnds

/-!
# Chunks of a transcript

`transcript/chunker.py`: a text is cut at the last space before a limit, or at the limit
itself when there is none, and both sides are stripped.
-/

namespace EvoBlue.Source

open EvoBlue.Kernel

/-- `t.rfind(" ", 0, stop)`. -/
def rfindSpace (t : Text) (stop : Nat) : Option Nat :=
  (List.range stop).reverse.find? fun i => t[i]? = some (cp ' ')

theorem rfindSpace_some {t : Text} {stop place : Nat} (found : rfindSpace t stop = some place) :
    place < stop ∧ t[place]? = some (cp ' ') := by
  have mem := List.mem_of_find?_eq_some found
  constructor
  · simpa using mem
  · simpa using List.find?_some found

theorem rfindSpace_last {t : Text} {stop place : Nat} (found : rfindSpace t stop = some place) {i : Nat}
    (inside : i < stop) (behind : place < i) : t[i]? ≠ some (cp ' ') := by
  obtain ⟨_, before, after, order, earlier⟩ := List.find?_eq_some_iff_append.1 found
  have mem : i ∈ before := by
    have sorted : (before ++ place :: after).Pairwise (· > ·) := by
      rw [← order]
      exact List.pairwise_reverse.2 List.pairwise_lt_range
    have there : i ∈ before ++ place :: after := by
      rw [← order]
      simpa using inside
    rcases List.mem_append.1 there with front | back
    · exact front
    · rcases List.mem_cons.1 back with same | later
      · omega
      · have below := (List.pairwise_cons.1 (List.pairwise_append.1 sorted).2.1).1 i later
        omega
  simpa using earlier i mem

theorem rfindSpace_none {t : Text} {stop : Nat} (none : rfindSpace t stop = none) {i : Nat}
    (inside : i < stop) : t[i]? ≠ some (cp ' ') := by
  have spaceless := List.find?_eq_none.1 none i (by simpa using inside)
  simpa using spaceless

/-- Where the text is cut: `split_at`. -/
def splitPoint (remaining : Text) (maxChars : Nat) : Nat :=
  match rfindSpace remaining maxChars with
  | none => maxChars
  | some place => if place = 0 then maxChars else place

theorem splitPoint_pos {maxChars : Nat} (positive : 0 < maxChars) (remaining : Text) :
    0 < splitPoint remaining maxChars := by
  unfold splitPoint
  split
  · exact positive
  · split <;> omega

theorem splitPoint_le (remaining : Text) (maxChars : Nat) :
    splitPoint remaining maxChars ≤ maxChars := by
  unfold splitPoint
  split
  next => exact Nat.le_refl _
  next place found =>
    have inside := (rfindSpace_some found).1
    split <;> omega

/-- The cut is before a space, or at the limit with no space but a first one in front of it. -/
theorem splitPoint_cases (remaining : Text) (maxChars : Nat) :
    remaining[splitPoint remaining maxChars]? = some (cp ' ') ∨
      splitPoint remaining maxChars = maxChars ∧
        ∀ i, 0 < i → i < maxChars → remaining[i]? ≠ some (cp ' ') := by
  unfold splitPoint
  split
  next none => exact .inr ⟨rfl, fun i _ inside => rfindSpace_none none inside⟩
  next place found =>
    split
    next first =>
      right
      refine ⟨rfl, fun i later inside => rfindSpace_last found inside ?_⟩
      omega
    next => exact .inl (rfindSpace_some found).2

theorem length_strip_le (t : Text) : (strip t).length ≤ t.length := by
  obtain ⟨before, after, whole, _, _⟩ := strip_split t
  have lengths := congrArg List.length whole
  simp only [List.length_append] at lengths
  omega

/-- The loop of `chunk_text`. -/
def chunkLoop (maxChars : Nat) (positive : 0 < maxChars) (remaining : Text) : List Text :=
  if maxChars < remaining.length then
    let splitAt := splitPoint remaining maxChars
    strip (remaining.take splitAt) :: chunkLoop maxChars positive (strip (remaining.drop splitAt))
  else if remaining = [] then []
  else [remaining]
termination_by remaining.length
decreasing_by
  have forward := splitPoint_pos positive remaining
  have shorter := length_strip_le (remaining.drop (splitPoint remaining maxChars))
  rw [List.length_drop] at shorter
  omega

inductive ChunkError where
  /-- `ValueError`: `max_chars` must be positive. -/
  | notPositive
  deriving DecidableEq, Repr

def chunkText (t : Text) (maxChars : Int) : Except ChunkError (List Text) :=
  if positive : 0 < maxChars then .ok (chunkLoop maxChars.toNat (by omega) (strip t))
  else .error .notPositive

/-- `chunk_transcript`, of the texts of the segments. -/
def chunkTranscript (segments : List Text) (maxChars : Int) : Except ChunkError (List Text) :=
  chunkText ((text " ").intercalate segments) maxChars

end EvoBlue.Source
