import EvoBlue.Source.Singleton

/-!
# Stealing the lock

A call unlinks by path what it has judged stale by content. Between the two another call
may have unlinked the stale file and created its own, which is then removed, so that two
calls own the lock. The source says that the steal is not atomic. What the file steps do
give: while every call unlinks the file it has read, and no call finds a file old whose
creator has yet to write it, one call at most owns the lock.
-/

namespace EvoBlue.Guarantees

open EvoBlue.Kernel EvoBlue.Source

variable {ι : Type} {contenders : ι → Contender}

/-- The file unlinked is the one that was read, and a file read before its creator has
written it is not found older than the grace window. -/
def StealsWhatItRead (state : LockState ι) (move : LockMove contenders) : Prop :=
  match state.position move.who with
  | .unlinking seen => move.unlinks = true → ∀ file ∈ state.lock, seen = some file.creator
  | .judging none (some (some _)) => ∀ file ∈ state.lock, lockAge move.now file < stealGrace
  | _ => True

instance [DecidableEq ι] (state : LockState ι) (move : LockMove contenders) : Decidable (StealsWhatItRead state move) := by
  unfold StealsWhatItRead
  split <;> infer_instance

/-- The call has created the file, and does not give it back. -/
def Owns (state : LockState ι) (who : ι) : Prop :=
  state.position who = .writing ∨ state.position who = .returned none

def acquired : LockPosition ι → Bool
  | .returned none => true
  | _ => false

theorem acquired_iff {position : LockPosition ι} :
    acquired position = true ↔ position = .returned none := by
  unfold acquired
  split <;> simp_all

/-- The call has returned an exit code. -/
def refused : LockPosition ι → Bool
  | .returned (some _) => true
  | _ => false

theorem returned_of_refused {position : LockPosition ι} (ended : refused position = true) :
    ∃ code, position = .returned (some code) := by
  unfold refused at ended
  split at ended
  next code => exact ⟨code, rfl⟩
  next => cases ended

structure LockInvariant (contenders : ι → Contender) (state : LockState ι) : Prop where
  owners : ∀ who, Owns state who → ∃ file ∈ state.lock, file.creator = some who
  contents : ∀ file ∈ state.lock, ∀ who, file.creator = some who →
    (file.contents = .error .caught ∨ file.contents = .ok (contenders who).payload)
  judged : ∀ who existing other, state.position who = .judging existing (some (some other)) →
    existing = none ∨ existing = some (contenders other).payload
  stale : ∀ who other, state.position who ≠ .unlinking (some (some other))
  codes : ∀ who code, state.position who = .returned (some code) → code = exitAlreadyRunning

/-- Before any call has done anything. -/
theorem lockInvariant_start {lock : Option (LockFile ι)}
    (initial : ∀ file ∈ lock, file.creator = none) : LockInvariant contenders { lock } where
  owners := by
    rintro who (writing | returned)
    · cases writing
    · cases returned
  contents := by
    intro file mem who created
    rw [initial file mem] at created
    cases created
  judged := by
    intro who existing other judging
    cases judging
  stale := by
    intro who other unlinking
    cases unlinking
  codes := by
    intro who code returned
    cases returned

theorem lockPayload_payload (contender : Contender) :
    lockPayload contender.payload = some contender.payload := by
  have all : lockPayloadKeys.all (hasKey contender.payload) = true := by
    simp [lockPayloadKeys, hasKey, Json.get, Contender.payload]
  rw [lockPayload, if_pos all]

/-- The payload of a contender names a live process. -/
theorem namesLive_payload (move : LockMove contenders) (who : ι) :
    namesLive move.alive (some (contenders who).payload) = true := by
  have named : pidValue (contenders who).payload = some (contenders who).pid := rfl
  unfold namesLive
  rw [Option.bind_some, named, Option.any_some]
  exact move.live who

section

variable {state : LockState ι} {who : ι}

/-- What a position has to be for the invariant to hold of it, with this file in place. -/
structure Fits (contenders : ι → Contender) (lock : Option (LockFile ι)) (who : ι)
    (position : LockPosition ι) : Prop where
  owner : position = .writing ∨ position = .returned none →
    ∃ file ∈ lock, file.creator = some who
  judged : ∀ existing other, position = .judging existing (some (some other)) →
    existing = none ∨ existing = some (contenders other).payload
  stale : ∀ other, position ≠ .unlinking (some (some other))
  code : ∀ code, position = .returned (some code) → code = exitAlreadyRunning

theorem LockInvariant.fits (holds : LockInvariant contenders state) (other : ι) :
    Fits contenders state.lock other (state.position other) where
  owner := holds.owners other
  judged := holds.judged other
  stale := holds.stale other
  code := holds.codes other

theorem lockInvariant_of_fits {lock : Option (LockFile ι)} {position : ι → LockPosition ι}
    (fits : ∀ other, Fits contenders lock other (position other))
    (contents : ∀ file ∈ lock, ∀ who, file.creator = some who →
      (file.contents = .error .caught ∨ file.contents = .ok (contenders who).payload)) :
    LockInvariant contenders { lock, position } where
  owners other := (fits other).owner
  contents := contents
  judged other := (fits other).judged
  stale other := (fits other).stale
  codes other := (fits other).code

theorem fits_judging {lock : Option (LockFile ι)} {existing : Option Json}
    {seen : Option (Option ι)} (judged : ∀ other, seen = some (some other) →
      existing = none ∨ existing = some (contenders other).payload) :
    Fits contenders lock who (.judging existing seen) where
  owner := by simp
  judged := by
    intro _ other same
    cases same
    exact judged other rfl
  stale := by simp
  code := by simp

/-- A position that says nothing about the file. -/
theorem fits_plain {lock : Option (LockFile ι)} {position : LockPosition ι}
    (plain : position = .creating ∨ position = .reading ∨ position = .raised ∨
      position = .returned (some exitAlreadyRunning)) : Fits contenders lock who position := by
  constructor <;> rcases plain with rfl | rfl | rfl | rfl <;> simp

/-- There is one owner at most. -/
theorem LockInvariant.unique (holds : LockInvariant contenders state) {first second : ι}
    (owns : Owns state first) (also : Owns state second) : first = second := by
  obtain ⟨file, there, created⟩ := holds.owners first owns
  obtain ⟨other, again, createdAlso⟩ := holds.owners second also
  have same : file = other := Option.mem_unique there again
  rw [same, createdAlso] at created
  exact (Option.some.inj created).symm

variable [DecidableEq ι]

/-- One call goes on; the file stays. -/
theorem lockInvariant_goes (holds : LockInvariant contenders state) {position : LockPosition ι}
    (fits : Fits contenders state.lock who position) :
    LockInvariant contenders (state.goes who position) := by
  apply lockInvariant_of_fits _ holds.contents
  intro other
  by_cases same : other = who
  · subst same
    rw [Function.update_self]
    exact fits
  · rw [Function.update_of_ne same]
    exact holds.fits other

/-- One call goes on and the file changes, while no other call owns the lock. -/
theorem lockInvariant_replaced (holds : LockInvariant contenders state)
    {lock : Option (LockFile ι)} {position : LockPosition ι}
    (free : ∀ other, other ≠ who → ¬ Owns state other) (fits : Fits contenders lock who position)
    (contents : ∀ file ∈ lock, ∀ who, file.creator = some who →
      (file.contents = .error .caught ∨ file.contents = .ok (contenders who).payload)) :
    LockInvariant contenders { state.goes who position with lock } := by
  apply lockInvariant_of_fits _ contents
  intro other
  change Fits contenders lock other (Function.update state.position who position other)
  by_cases same : other = who
  · subst same
    rw [Function.update_self]
    exact fits
  · rw [Function.update_of_ne same]
    exact { holds.fits other with owner := fun owns => absurd owns (free other same) }

theorem lockInvariant_step (state : LockState ι) (move : LockMove contenders)
    (undisturbed : StealsWhatItRead state move) (holds : LockInvariant contenders state) :
    LockInvariant contenders (lockStep contenders state move) := by
  unfold lockStep
  cases here : state.position move.who with
  | creating =>
    cases locked : state.lock with
    | none =>
      apply lockInvariant_replaced holds
      · intro other _ owns
        obtain ⟨file, there, _⟩ := holds.owners other owns
        rw [locked] at there
        cases there
      · constructor <;> simp
      · intro file mem creator created
        cases Option.mem_some.1 mem
        exact .inl rfl
    | some file => exact lockInvariant_goes holds (fits_plain (by simp))
  | reading =>
    cases locked : state.lock with
    | none => exact lockInvariant_goes holds (fits_judging fun other same => nomatch same)
    | some file =>
      dsimp only
      cases decoded : file.contents with
      | error raised =>
        cases raised with
        | caught => exact lockInvariant_goes holds (fits_judging fun other _ => .inl rfl)
        | escapes => exact lockInvariant_goes holds (fits_plain (by simp))
      | ok value =>
        apply lockInvariant_goes holds
        apply fits_judging
        intro other same
        have wrote := holds.contents file locked other (Option.some.inj same)
        rw [decoded] at wrote
        rcases wrote with empty | payload
        · cases empty
        · cases payload
          exact .inr (lockPayload_payload _)
  | judging existing seen =>
    cases locked : state.lock with
    | none => exact lockInvariant_goes holds (fits_plain (by simp))
    | some file =>
      dsimp only
      split
      · exact lockInvariant_goes holds (fits_plain (by simp))
      next dead =>
        split
        · exact lockInvariant_goes holds (fits_plain (by simp))
        next old =>
          -- what was read of a contender's file is either unwritten or names a live process
          have initial : ∀ other, seen ≠ some (some other) := by
            rintro other rfl
            rcases holds.judged _ _ _ here with rfl | rfl
            · unfold StealsWhatItRead at undisturbed
              rw [here] at undisturbed
              exact old (undisturbed file locked)
            · exact dead (namesLive_payload move other)
          apply lockInvariant_goes holds
          constructor <;> simp
          exact initial
  | unlinking seen =>
    dsimp only
    split
    next unlinks =>
      unfold StealsWhatItRead at undisturbed
      rw [here] at undisturbed
      apply lockInvariant_replaced holds
      · intro other _ owns
        obtain ⟨file, there, created⟩ := holds.owners other owns
        have same := undisturbed unlinks file there
        rw [created] at same
        exact holds.stale move.who other (here.trans (congrArg _ same))
      · exact fits_plain (by simp)
      · intro file mem
        cases mem
    next => exact lockInvariant_goes holds (fits_plain (by simp))
  | writing =>
    obtain ⟨file, there, created⟩ := holds.owners move.who (.inl here)
    rw [Option.mem_def.1 there]
    dsimp only
    rw [if_pos created]
    apply lockInvariant_replaced holds
    · intro other apart owns
      exact apart (holds.unique owns (.inl here))
    · constructor <;> simp [created]
    · intro other mem creator own
      cases Option.mem_some.1 mem
      rw [created] at own
      cases own
      exact .inr rfl
  | returned code =>
    have fits := holds.fits move.who
    rw [here] at fits
    exact lockInvariant_goes holds fits
  | raised => exact lockInvariant_goes holds (fits_plain (by simp))

end

/-! ## Who owns the lock -/

variable [DecidableEq ι]

/-- In a run without a disturbed unlink one call at most returns `None`, and every other
call that returns says that the engine is running. -/
theorem one_owner (contenders : ι → Contender) (lock : Option (LockFile ι))
    (initial : ∀ file ∈ lock, file.creator = none) (moves : List (LockMove contenders))
    (meets : Meets (lockStep contenders) StealsWhatItRead { lock } moves) :
    (∀ first second, (run (lockStep contenders) { lock } moves).position first = .returned none →
      (run (lockStep contenders) { lock } moves).position second = .returned none →
        first = second) ∧
    ∀ who code, (run (lockStep contenders) { lock } moves).position who = .returned code →
      code = none ∨ code = some exitAlreadyRunning := by
  have holds := run_of_meets lockInvariant_step (lockInvariant_start initial) meets
  constructor
  · intro first second owns also
    exact holds.unique (.inr owns) (.inr also)
  · intro who code returned
    cases code with
    | none => exact .inl rfl
    | some code => exact .inr (congrArg some (holds.codes who code returned))

/-! ## Two stealers -/

/-- The lock of a process that died a minute ago. -/
def deadLock : LockFile Bool where
  creator := none
  contents := .ok (Contender.payload ⟨7, 8765, text "0.0", text "1"⟩)
  mtime := 0

def twoContenders (first : Bool) : Contender :=
  if first then ⟨100, 8765, text "60.0", text "1"⟩ else ⟨200, 8765, text "60.0", text "1"⟩

/-- A step a minute later; of all processes only the two are alive. -/
def minuteLater (first : Bool) : LockMove twoContenders where
  who := first
  now := 60
  alive pid := pid = 100 || pid = 200
  live := by decide

/-- The second call finds the dead lock, reads when it has gone, and judges the new one. -/
def stealBetween : List (LockMove twoContenders) :=
  [minuteLater true, minuteLater true, minuteLater false, minuteLater true, minuteLater true,
    minuteLater false, minuteLater true, minuteLater false, minuteLater true]

theorem one_owner_stealBetween :
    (run (lockStep twoContenders) { lock := some deadLock } stealBetween).position true =
        .returned none ∧
      (run (lockStep twoContenders) { lock := some deadLock } stealBetween).position false =
        .returned (some exitAlreadyRunning) := by
  have owns : (run (lockStep twoContenders) { lock := some deadLock } stealBetween).position true =
      .returned none := acquired_iff.1 (by decide +kernel)
  have law := one_owner twoContenders (some deadLock) (by simp [deadLock]) stealBetween
    (by decide +kernel)
  have ended : refused ((run (lockStep twoContenders) { lock := some deadLock }
      stealBetween).position false) = true := by decide +kernel
  obtain ⟨code, returned⟩ := returned_of_refused ended
  rcases law.2 false _ returned with none | same
  · cases none
  · exact ⟨owns, same ▸ returned⟩

/-- Both find the lock stale; one steals it, and the other removes the new one. -/
theorem two_owners :
    ¬ ∀ (ι : Type) (_ : DecidableEq ι) (contenders : ι → Contender) (lock : Option (LockFile ι)),
      Function.Injective (fun i => (contenders i).pid) →
      (∀ file ∈ lock, file.creator = none) → ∀ moves : List (LockMove contenders),
        ∀ first second, (run (lockStep contenders) { lock } moves).position first = .returned none →
          (run (lockStep contenders) { lock } moves).position second = .returned none →
            first = second := by
  intro law
  have distinct : Function.Injective fun i => (twoContenders i).pid := by
    intro first second same
    revert first second
    decide
  have same := law Bool inferInstance twoContenders (some deadLock) distinct (by simp [deadLock])
    [minuteLater true, minuteLater true, minuteLater true, minuteLater false, minuteLater false,
      minuteLater false, minuteLater true, minuteLater true, minuteLater true, minuteLater false,
      minuteLater false, minuteLater false]
    true false (acquired_iff.1 (by decide +kernel)) (acquired_iff.1 (by decide +kernel))
  cases same

end EvoBlue.Guarantees
