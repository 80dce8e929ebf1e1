import EvoBlue.Source.Singleton

/-!
# One call of `try_acquire_lock`

The same loop for one process, down to what may fail in it: every file operation and the
probe of a process is a step with an outcome of its own, and between any two of them others
may create, change or remove the file.
-/

namespace EvoBlue.Source

open EvoBlue.Kernel

/-- What the call raises. -/
inductive AcquireError where
  /-- An `OSError` of `os.open` other than `FileExistsError`. -/
  | cannotOpen
  /-- An exception of `_read_lock` that it does not catch. -/
  | undecodable
  /-- `stat` finds no file, or may not look. -/
  | cannotStat
  /-- `os.kill` does not take the process id: `OverflowError`. -/
  | pidTooLarge
  /-- The payload cannot be written. -/
  | cannotWrite
  deriving DecidableEq, Repr

/-- Where the call stands. -/
inductive AcquirePosition where
  | creating
  | reading
  | statting (existing : Option Json)
  | probing (existing : Option Json) (age : ℚ)
  | unlinking
  | writing
  | returned (code : Option Nat)
  | raised (error : AcquireError)

/-- The file at the path of the lock; its creator is the call itself, if it created it. -/
structure AcquireState where
  lock : Option (LockFile Unit)
  position : AcquirePosition := .creating

/-- What the system says to one step of the call. -/
structure LockMoment where
  now : ℚ
  /-- `_pid_alive`; `none` is an `OverflowError`. -/
  alive : Int → Option Bool
  opens : Bool := true
  /-- Whether the file can be read; an `OSError` is caught. -/
  reads : Bool := true
  stats : Bool := true
  unlinks : Bool := true
  writes : Bool := true

inductive AcquireMove where
  | call (moment : LockMoment)
  /-- Others leave this at the path. -/
  | outside (lock : Option (LockFile Unit))

/-- What the probe of the named process says, if one is named. -/
def probeNamed (alive : Int → Option Bool) (existing : Option Json) : Option Bool :=
  match existing.bind pidValue with
  | none => some false
  | some pid => alive pid

/-- One step of the call. -/
def callStep (contender : Contender) (state : AcquireState) (moment : LockMoment) : AcquireState :=
  match state.position with
  | .creating =>
    if moment.opens then
      match state.lock with
      | none => ⟨some ⟨some (), .error .caught, moment.now⟩, .writing⟩
      | some _ => { state with position := .reading }
    else { state with position := .raised .cannotOpen }
  | .reading =>
    if moment.reads then
      match state.lock with
      | none => { state with position := .statting none }
      | some file =>
        match file.contents with
        | .ok value => { state with position := .statting (lockPayload value) }
        | .error .caught => { state with position := .statting none }
        | .error .escapes => { state with position := .raised .undecodable }
    else { state with position := .statting none }
  | .statting existing =>
    match state.lock with
    | none => { state with position := .raised .cannotStat }
    | some file =>
      if moment.stats then { state with position := .probing existing (lockAge moment.now file) }
      else { state with position := .raised .cannotStat }
  | .probing existing age =>
    match probeNamed moment.alive existing with
    | none => { state with position := .raised .pidTooLarge }
    | some live =>
      if live then { state with position := .returned (some exitAlreadyRunning) }
      else if age < stealGrace then { state with position := .returned (some exitAlreadyRunning) }
      else { state with position := .unlinking }
  | .unlinking =>
    -- every `OSError` of the unlink is suppressed
    if moment.unlinks then ⟨none, .creating⟩ else { state with position := .creating }
  | .writing =>
    if moment.writes then
      match state.lock with
      | some file =>
        -- the descriptor is of the file this call created
        if file.creator = some () then
          ⟨some ⟨file.creator, .ok contender.payload, moment.now⟩, .returned none⟩
        else { state with position := .returned none }
      | none => { state with position := .returned none }
    else { state with position := .raised .cannotWrite }
  | .returned code => { state with position := .returned code }
  | .raised error => { state with position := .raised error }

def acquireStep (contender : Contender) (state : AcquireState) : AcquireMove → AcquireState
  | .call moment => callStep contender state moment
  | .outside lock => { state with lock := lock }

/-- The state after the first moves of an endless sequence. -/
def acquireAt (contender : Contender) (lock : Option (LockFile Unit)) (moves : Nat → AcquireMove) :
    Nat → AcquireState
  | 0 => { lock }
  | n + 1 => acquireStep contender (acquireAt contender lock moves n) (moves n)

/-! ## The call among others -/

/-- The position of the coarser model, in which the file is looked at and its process probed
in one step. -/
inductive AcquirePosition.Stands : AcquirePosition → LockPosition Unit → Prop
  | creating : Stands .creating .creating
  | reading : Stands .reading .reading
  | judging (existing : Option Json) (seen : Option (Option Unit)) :
      Stands (.statting existing) (.judging existing seen)
  | unlinking (seen : Option (Option Unit)) : Stands .unlinking (.unlinking seen)
  | writing : Stands .writing .writing
  | returned (code : Option Nat) : Stands (.returned code) (.returned code)
  | raised (error : AcquireError) : Stands (.raised error) .raised

structure AcquireState.Matches (state : AcquireState) (other : LockState Unit) : Prop where
  lock : state.lock = other.lock
  position : state.position.Stands (other.position ())

/-- The moment of a move in which nothing fails but perhaps the unlink. -/
def LockMove.moment {contenders : Unit → Contender} (move : LockMove contenders) : LockMoment where
  now := move.now
  alive pid := some (move.alive pid)
  unlinks := move.unlinks

/-- One step of the call, or two where it looks at the file and probes. -/
def callSteps (contender : Contender) (state : AcquireState) (moment : LockMoment) : AcquireState :=
  match state.position with
  | .statting _ => callStep contender (callStep contender state moment) moment
  | _ => callStep contender state moment

theorem probeNamed_total (alive : Int → Bool) (existing : Option Json) :
    probeNamed (fun pid => some (alive pid)) existing = some (namesLive alive existing) := by
  unfold probeNamed namesLive
  cases existing.bind pidValue <;> rfl

theorem goes_position (other : LockState Unit) (position : LockPosition Unit) :
    (other.goes () position).position () = position := by
  simp [LockState.goes]

/-- Where nothing fails but perhaps the unlink, the call is the call of the coarser model. -/
theorem callSteps_matches {contenders : Unit → Contender} {state : AcquireState}
    {other : LockState Unit} (same : state.Matches other) (move : LockMove contenders) :
    (callSteps (contenders ()) state move.moment).Matches (lockStep contenders other move) := by
  obtain ⟨lock, position⟩ := state
  obtain ⟨sameLock, stands⟩ := same
  dsimp only at sameLock stands
  rw [sameLock]
  generalize placed : other.position () = place at stands
  have who : move.who = () := rfl
  unfold lockStep
  rw [who, placed]
  cases stands with
  | creating =>
    unfold callSteps callStep
    cases there : other.lock with
    | none => exact ⟨rfl, (goes_position other .writing).symm ▸ .writing⟩
    | some file => exact ⟨there.symm, (goes_position other .reading).symm ▸ .reading⟩
  | reading =>
    have reads : move.moment.reads = true := rfl
    unfold callSteps callStep
    dsimp only
    rw [if_pos reads]
    cases there : other.lock with
    | none => exact ⟨there.symm, (goes_position other _).symm ▸ .judging none none⟩
    | some file =>
      dsimp only
      cases file.contents with
      | ok value =>
        exact ⟨there.symm, (goes_position other _).symm ▸ .judging (lockPayload value) _⟩
      | error error =>
        cases error with
        | caught => exact ⟨there.symm, (goes_position other _).symm ▸ .judging none _⟩
        | escapes => exact ⟨there.symm, (goes_position other _).symm ▸ .raised _⟩
  | judging existing seen =>
    unfold callSteps callStep
    cases there : other.lock with
    | none => exact ⟨there.symm, (goes_position other _).symm ▸ .raised _⟩
    | some file =>
      have stats : move.moment.stats = true := rfl
      have probed : probeNamed move.moment.alive existing = some (namesLive move.alive existing) :=
        probeNamed_total move.alive existing
      have now : move.moment.now = move.now := rfl
      dsimp only
      rw [if_pos stats]
      dsimp only
      rw [probed, now]
      dsimp only
      cases namesLive move.alive existing with
      | true => exact ⟨there.symm, (goes_position other _).symm ▸ .returned _⟩
      | false =>
        by_cases young : lockAge move.now file < stealGrace
        · simp only [if_pos young, Bool.false_eq_true, if_false]
          exact ⟨there.symm, (goes_position other _).symm ▸ .returned _⟩
        · simp only [if_neg young, Bool.false_eq_true, if_false]
          exact ⟨there.symm, (goes_position other _).symm ▸ .unlinking _⟩
  | unlinking seen =>
    have unlinks : move.moment.unlinks = move.unlinks := rfl
    unfold callSteps callStep
    dsimp only
    by_cases gone : move.unlinks = true
    · rw [if_pos (unlinks.trans gone), if_pos gone]
      exact ⟨rfl, (goes_position other .creating).symm ▸ .creating⟩
    · rw [if_neg (unlinks ▸ gone), if_neg gone]
      exact ⟨rfl, (goes_position other .creating).symm ▸ .creating⟩
  | writing =>
    have writes : move.moment.writes = true := rfl
    unfold callSteps callStep
    dsimp only
    rw [if_pos writes]
    cases there : other.lock with
    | none => exact ⟨there.symm, (goes_position other _).symm ▸ .returned none⟩
    | some file =>
      dsimp only
      by_cases own : file.creator = some ()
      · rw [if_pos own, if_pos own]
        exact ⟨rfl, (goes_position other (.returned none)).symm ▸ .returned none⟩
      · rw [if_neg own, if_neg own]
        exact ⟨there.symm, (goes_position other _).symm ▸ .returned none⟩
  | returned code => exact ⟨rfl, (goes_position other _).symm ▸ .returned code⟩
  | raised error => exact ⟨rfl, (goes_position other _).symm ▸ .raised error⟩

end EvoBlue.Source
