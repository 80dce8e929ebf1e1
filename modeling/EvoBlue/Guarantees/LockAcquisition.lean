import EvoBlue.Source.LockCalls

/-!
# Acquiring the lock ends

The loop of `try_acquire_lock` has no counter. What bounds it is that an unlink goes through:
then the file is gone, and the next turn creates it unless another process was faster. So a
call ends after as many turns as others interfere and unlinks fail, if that is finite; and
it raises exactly when one of its operations meets something that the loop does not handle.
-/

namespace EvoBlue.Guarantees

open EvoBlue.Kernel EvoBlue.Source

/-- The step meets nothing that the loop does not handle: `os.open` fails with
`FileExistsError` only, the file decodes or fails in a way that is caught, it has not
vanished before `stat`, the system takes its process id, and the payload can be written. -/
def Foreseen (state : AcquireState) : AcquireMove → Prop
  | .outside _ => True
  | .call moment =>
    match state.position with
    | .creating => moment.opens = true
    | .reading => moment.reads = true → ∀ file ∈ state.lock, file.contents ≠ .error .escapes
    | .statting _ => state.lock ≠ none ∧ moment.stats = true
    | .probing existing _ => probeNamed moment.alive existing ≠ none
    | .writing => moment.writes = true
    | _ => True

def AcquirePosition.ended : AcquirePosition → Bool
  | .returned _ => true
  | .raised _ => true
  | _ => false

/-- While the call is under way, others change the file, or the unlink of a stale file
fails. -/
def disturbs (state : AcquireState) : AcquireMove → Bool
  | .outside _ => !AcquirePosition.ended state.position
  | .call moment =>
    match state.position with
    | .unlinking => !moment.unlinks
    | _ => false

def isCall : AcquireMove → Bool
  | .call _ => true
  | .outside _ => false

/-- How many steps of the call are among the first `n` moves. -/
def callsBefore (moves : Nat → AcquireMove) : Nat → Nat
  | 0 => 0
  | n + 1 => callsBefore moves n + if isCall (moves n) then 1 else 0

section

variable (contender : Contender) (lock : Option (LockFile Unit)) (moves : Nat → AcquireMove)

/-- How many of the first `n` moves disturb the call. -/
def disturbancesBefore : Nat → Nat
  | 0 => 0
  | n + 1 => disturbancesBefore n +
      if disturbs (acquireAt contender lock moves n) (moves n) then 1 else 0

end

/-- The steps a call still takes when nobody disturbs it. -/
def stepsLeft (state : AcquireState) : Nat :=
  match state.position with
  | .creating =>
    match state.lock with
    | none => 2
    | some _ => 7
  | .reading => 6
  | .statting _ => 5
  | .probing _ _ => 4
  | .unlinking => 3
  | .writing => 1
  | .returned _ => 0
  | .raised _ => 0

theorem stepsLeft_le (state : AcquireState) : stepsLeft state ≤ 7 := by
  unfold stepsLeft
  split
  case h_1 => split <;> omega
  all_goals omega

section

variable {contender : Contender} {state : AcquireState} {moment : LockMoment}

theorem ended_eq_false (running : ∀ code, state.position ≠ .returned code)
    (unraised : ∀ error, state.position ≠ .raised error) :
    AcquirePosition.ended state.position = false := by
  unfold AcquirePosition.ended
  split
  next code same => exact absurd same (running code)
  next error same => exact absurd same (unraised error)
  · rfl

theorem stepsLeft_pos (running : ∀ code, state.position ≠ .returned code)
    (unraised : ∀ error, state.position ≠ .raised error) : 0 < stepsLeft state := by
  unfold stepsLeft
  split
  case h_1 => split <;> omega
  case h_7 code same => exact absurd same (running code)
  case h_8 error same => exact absurd same (unraised error)
  all_goals omega

/-! ## One step -/

/-- A step raises exactly when it meets what is not handled. -/
theorem callStep_raises_iff (running : ∀ error, state.position ≠ .raised error) :
    (∃ error, (callStep contender state moment).position = .raised error) ↔
      ¬ Foreseen state (.call moment) := by
  obtain ⟨lock, position⟩ := state
  cases position with
  | creating =>
    unfold callStep Foreseen
    dsimp only
    cases moment.opens <;> cases lock <;> simp
  | reading =>
    unfold callStep Foreseen
    dsimp only
    cases moment.reads with
    | false => simp
    | true =>
      cases lock with
      | none => simp
      | some file =>
        cases read : file.contents with
        | ok value => simp [read]
        | error error => cases error <;> simp [read]
  | statting existing =>
    unfold callStep Foreseen
    dsimp only
    cases lock <;> cases moment.stats <;> simp
  | probing existing age =>
    unfold callStep Foreseen
    dsimp only
    cases probeNamed moment.alive existing with
    | none => simp
    | some live =>
      cases live with
      | true => simp
      | false =>
        by_cases young : age < stealGrace <;> simp [young]
  | unlinking =>
    unfold callStep Foreseen
    dsimp only
    cases moment.unlinks <;> simp
  | writing =>
    unfold callStep Foreseen
    dsimp only
    cases moment.writes with
    | false => simp
    | true =>
      cases lock with
      | none => simp
      | some file =>
        by_cases own : file.creator = some () <;> simp [own]
  | returned code => simp [callStep, Foreseen]
  | raised error => exact absurd rfl (running error)

/-- A step that raises nothing, while the call has not returned and is not disturbed, is
one of the steps it has left. -/
theorem callStep_stepsLeft (running : ∀ code, state.position ≠ .returned code)
    (handled : Foreseen state (.call moment)) (unraised : ∀ error, state.position ≠ .raised error)
    (undisturbed : disturbs state (.call moment) = false) :
    stepsLeft (callStep contender state moment) + 1 ≤ stepsLeft state := by
  obtain ⟨lock, position⟩ := state
  cases position with
  | creating =>
    have opens : moment.opens = true := handled
    unfold callStep stepsLeft
    dsimp only
    rw [if_pos opens]
    cases lock <;> simp
  | reading =>
    have readable : moment.reads = true → ∀ file ∈ lock, file.contents ≠ .error .escapes := handled
    unfold callStep stepsLeft
    dsimp only
    by_cases reads : moment.reads = true
    · rw [if_pos reads]
      cases lock with
      | none => simp
      | some file =>
        cases read : file.contents with
        | ok value => simp [read]
        | error error =>
          cases error with
          | caught => simp [read]
          | escapes => exact absurd read (readable reads file rfl)
    · rw [if_neg reads]
  | statting existing =>
    have there : lock ≠ none ∧ moment.stats = true := handled
    unfold callStep stepsLeft
    dsimp only
    cases lock with
    | none => exact absurd rfl there.1
    | some file => simp [there.2]
  | probing existing age =>
    have probed : probeNamed moment.alive existing ≠ none := handled
    unfold callStep stepsLeft
    dsimp only
    cases found : probeNamed moment.alive existing with
    | none => exact absurd found probed
    | some live =>
      cases live with
      | true => simp
      | false => by_cases young : age < stealGrace <;> simp [young]
  | unlinking =>
    have unlinks : moment.unlinks = true := by
      simpa [disturbs] using undisturbed
    unfold callStep stepsLeft
    simp [unlinks]
  | writing =>
    have writes : moment.writes = true := handled
    unfold callStep stepsLeft
    dsimp only
    rw [if_pos writes]
    cases lock with
    | none => simp
    | some file => by_cases own : file.creator = some () <;> simp [own]
  | returned code => exact absurd rfl (running code)
  | raised error => exact absurd rfl (unraised error)

theorem acquireStep_returned {code : Option Nat} (ended : state.position = .returned code)
    (move : AcquireMove) : (acquireStep contender state move).position = .returned code := by
  cases move with
  | outside lock => exact ended
  | call moment =>
    change (callStep contender state moment).position = _
    unfold callStep
    rw [ended]

theorem acquireStep_raised {error : AcquireError} (ended : state.position = .raised error)
    (move : AcquireMove) : (acquireStep contender state move).position = .raised error := by
  cases move with
  | outside lock => exact ended
  | call moment =>
    change (callStep contender state moment).position = _
    unfold callStep
    rw [ended]

/-- What a call returns. -/
def CodeFits (position : AcquirePosition) : Prop :=
  ∀ code, position = .returned code → code = none ∨ code = some exitAlreadyRunning

theorem callStep_code (fits : CodeFits state.position) :
    CodeFits (callStep contender state moment).position := by
  have unended {position : AcquirePosition} (other : ∀ code, position ≠ .returned code) :
      CodeFits position := fun code same => absurd same (other code)
  have refused : CodeFits (.returned (some exitAlreadyRunning)) := by
    intro code same
    cases same
    exact .inr rfl
  have granted : CodeFits (.returned none) := by
    intro code same
    cases same
    exact .inl rfl
  unfold callStep
  split
  · split
    · split <;> exact unended (by simp)
    · exact unended (by simp)
  · split
    · split
      · exact unended (by simp)
      · split <;> exact unended (by simp)
    · exact unended (by simp)
  · split
    · exact unended (by simp)
    · split <;> exact unended (by simp)
  · split
    · exact unended (by simp)
    · split
      · exact refused
      · split
        · exact refused
        · exact unended (by simp)
  · split <;> exact unended (by simp)
  · split
    · split
      · split <;> exact granted
      · exact granted
    · exact unended (by simp)
  next code same =>
    rw [same] at fits
    exact fits
  · exact unended (by simp)

/-! ## Every run -/

/-- The call returns `None` or the exit code of a running instance, and raises nothing. -/
structure Acquires (contender : Contender) (lock : Option (LockFile Unit))
    (moves : Nat → AcquireMove) : Prop where
  returns : ∃ n code, (acquireAt contender lock moves n).position = .returned code ∧
    (code = none ∨ code = some exitAlreadyRunning)
  raises_nothing : ∀ n error, (acquireAt contender lock moves n).position ≠ .raised error

variable {lock : Option (LockFile Unit)} {moves : Nat → AcquireMove}

theorem acquireAt_code (n : Nat) : CodeFits (acquireAt contender lock moves n).position := by
  induction n with
  | zero =>
    intro code same
    cases same
  | succ n ih =>
    unfold acquireAt
    cases moves n with
    | outside lock => exact ih
    | call moment => exact callStep_code ih

theorem acquireAt_returned {code : Option Nat} {n : Nat}
    (ended : (acquireAt contender lock moves n).position = .returned code) (further : Nat) :
    (acquireAt contender lock moves (n + further)).position = .returned code := by
  induction further with
  | zero => exact ended
  | succ further ih => exact acquireStep_returned ih (moves (n + further))

theorem acquireAt_raised {error : AcquireError} {n : Nat}
    (ended : (acquireAt contender lock moves n).position = .raised error) (further : Nat) :
    (acquireAt contender lock moves (n + further)).position = .raised error := by
  induction further with
  | zero => exact ended
  | succ further ih => exact acquireStep_raised ih (moves (n + further))

/-- A run raises nothing exactly when all its steps are handled. -/
theorem raises_nothing_iff :
    (∀ n error, (acquireAt contender lock moves n).position ≠ .raised error) ↔
      ∀ n, Foreseen (acquireAt contender lock moves n) (moves n) := by
  constructor
  · intro unraised n
    cases next : moves n with
    | outside lock => trivial
    | call moment =>
      by_contra unhandled
      obtain ⟨error, raised⟩ := (callStep_raises_iff (unraised n)).mpr unhandled
      apply unraised (n + 1) error
      unfold acquireAt
      rw [next]
      exact raised
  · intro handled n
    induction n with
    | zero =>
      intro error same
      cases same
    | succ n ih =>
      intro error raised
      unfold acquireAt at raised
      have step := handled n
      cases next : moves n with
      | outside lock =>
        rw [next] at raised
        exact ih error raised
      | call moment =>
        rw [next] at raised step
        exact (callStep_raises_iff ih).mp ⟨error, raised⟩ step

/-- A call that has not returned has taken at most seven steps, and seven for each time it
was disturbed. -/
theorem callsBefore_le (handled : ∀ n, Foreseen (acquireAt contender lock moves n) (moves n))
    (n : Nat) (running : ∀ code, (acquireAt contender lock moves n).position ≠ .returned code) :
    callsBefore moves n + stepsLeft (acquireAt contender lock moves n) ≤
      7 + 7 * disturbancesBefore contender lock moves n := by
  induction n with
  | zero =>
    have start := stepsLeft_le (acquireAt contender lock moves 0)
    unfold callsBefore disturbancesBefore
    omega
  | succ n ih =>
    have earlier : ∀ code, (acquireAt contender lock moves n).position ≠ .returned code :=
      fun code ended => running code (acquireStep_returned ended (moves n))
    have unraised := raises_nothing_iff.mpr handled n
    have bound := ih earlier
    have next := stepsLeft_le (acquireAt contender lock moves (n + 1))
    have left := stepsLeft_pos earlier unraised
    have step := handled n
    unfold callsBefore disturbancesBefore
    by_cases disturbed : disturbs (acquireAt contender lock moves n) (moves n) = true
    · rw [if_pos disturbed]
      have one : (if isCall (moves n) then 1 else 0) ≤ 1 := by split <;> omega
      omega
    · rw [if_neg disturbed]
      cases move : moves n with
      | outside lock =>
        rw [move] at disturbed
        exact absurd (ended_eq_false earlier unraised) (by simpa [disturbs] using disturbed)
      | call moment =>
        rw [move] at step disturbed
        have fewer := @callStep_stepsLeft contender _ _ earlier step unraised
          (by simpa using disturbed)
        have same : acquireAt contender lock moves (n + 1) =
            callStep contender (acquireAt contender lock moves n) moment := by
          have stepped : acquireAt contender lock moves (n + 1) =
            acquireStep contender (acquireAt contender lock moves n) (moves n) := rfl
          rw [stepped, move]
          rfl
        rw [same]
        simp only [isCall, if_true]
        omega

/-- Nothing disturbs a call that has ended. -/
theorem disturbancesBefore_returned {code : Option Nat} {n : Nat}
    (ended : (acquireAt contender lock moves n).position = .returned code) (further : Nat) :
    disturbancesBefore contender lock moves (n + further) =
      disturbancesBefore contender lock moves n := by
  induction further with
  | zero => rfl
  | succ further ih =>
    have still := acquireAt_returned ended further
    have undisturbed :
        disturbs (acquireAt contender lock moves (n + further)) (moves (n + further)) = false := by
      cases moves (n + further) with
      | outside lock => simp [disturbs, AcquirePosition.ended, still]
      | call moment => simp [disturbs, still]
    have unfolded : disturbancesBefore contender lock moves (n + (further + 1)) =
        disturbancesBefore contender lock moves (n + further) + 0 := by
      rw [← Nat.add_assoc]
      conv => lhs; unfold disturbancesBefore
      rw [undisturbed]
      rfl
    omega

theorem disturbancesBefore_mono (n further : Nat) :
    disturbancesBefore contender lock moves n ≤
      disturbancesBefore contender lock moves (n + further) := by
  induction further with
  | zero => exact Nat.le_refl _
  | succ further ih =>
    have more : disturbancesBefore contender lock moves (n + further) ≤
        disturbancesBefore contender lock moves (n + further + 1) := Nat.le_add_right _ _
    exact Nat.le_trans ih more

theorem disturbancesBefore_bounded {code : Option Nat} {ended : Nat}
    (returned : (acquireAt contender lock moves ended).position = .returned code) (n : Nat) :
    disturbancesBefore contender lock moves n ≤ disturbancesBefore contender lock moves ended := by
  rcases Nat.le_total ended n with later | earlier
  · obtain ⟨further, rfl⟩ := Nat.exists_eq_add_of_le later
    exact Nat.le_of_eq (disturbancesBefore_returned returned further)
  · obtain ⟨further, rfl⟩ := Nat.exists_eq_add_of_le earlier
    exact disturbancesBefore_mono n further

/-- A call that is given its turns returns, and raises nothing, exactly when each of its steps
is handled and it is disturbed only finitely often. -/
theorem acquiring_ends (contender : Contender) (lock : Option (LockFile Unit))
    (moves : Nat → AcquireMove) (scheduled : ∀ count, ∃ n, count ≤ callsBefore moves n) :
    Acquires contender lock moves ↔
      (∀ n, Foreseen (acquireAt contender lock moves n) (moves n)) ∧
        ∃ bound, ∀ n, disturbancesBefore contender lock moves n ≤ bound := by
  constructor
  · intro acquires
    obtain ⟨⟨ended, code, returned, -⟩, unraised⟩ := acquires
    constructor
    · exact raises_nothing_iff.mp unraised
    · use disturbancesBefore contender lock moves ended
      exact disturbancesBefore_bounded returned
  · intro ⟨handled, bound, bounded⟩
    constructor
    · obtain ⟨n, enough⟩ := scheduled (7 + 7 * bound + 1)
      by_contra endless
      have running : ∀ code, (acquireAt contender lock moves n).position ≠ .returned code :=
        fun code returned => endless ⟨n, code, returned, acquireAt_code n code returned⟩
      have few := callsBefore_le handled n running
      have disturbed := bounded n
      omega
    · exact raises_nothing_iff.mpr handled

/-- A call that has returned never raised. -/
theorem returned_unraised {code : Option Nat} {ended : Nat}
    (returned : (acquireAt contender lock moves ended).position = .returned code) (n : Nat)
    (error : AcquireError) : (acquireAt contender lock moves n).position ≠ .raised error := by
  intro raised
  rcases Nat.le_total ended n with later | earlier
  · obtain ⟨further, rfl⟩ := Nat.exists_eq_add_of_le later
    rw [acquireAt_returned returned further] at raised
    cases raised
  · obtain ⟨further, rfl⟩ := Nat.exists_eq_add_of_le earlier
    rw [acquireAt_raised raised further] at returned
    cases returned

end

/-! ## A stale lock -/

def hopeful : Contender := ⟨7, 8765, text "1.0", text "0.1.0"⟩

/-- An empty file that nobody alive is writing. -/
def staleLock : Option (LockFile Unit) := some ⟨none, .error .caught, 0⟩

/-- A minute and more later. -/
def laterMoment (unlinks : Bool) : LockMoment :=
  { now := 100, alive := fun _ => some false, unlinks }

def unlinking (unlinks : Bool) (_ : Nat) : AcquireMove := .call (laterMoment unlinks)

theorem unlinking_scheduled (unlinks : Bool) (count : Nat) :
    callsBefore (unlinking unlinks) count = count := by
  induction count with
  | zero => rfl
  | succ count ih =>
    unfold callsBefore
    rw [ih]
    rfl

/-- The positions between which an unlink that always fails makes the call turn. -/
inductive Turning : AcquirePosition → Prop
  | creating : Turning .creating
  | reading : Turning .reading
  | statting : Turning (.statting none)
  | probing : Turning (.probing none 100)
  | unlinking : Turning .unlinking

theorem stale_stat (unlinks : Bool) :
    callStep hopeful ⟨staleLock, .statting none⟩ (laterMoment unlinks) =
      ⟨staleLock, .probing none 100⟩ := by
  have age : lockAge 100 (⟨none, .error .caught, 0⟩ : LockFile Unit) = 100 := by
    unfold lockAge
    rw [sub_zero]
    exact max_eq_right (by decide)
  rw [← age]
  rfl

theorem stale_probe (unlinks : Bool) :
    callStep hopeful ⟨staleLock, .probing none 100⟩ (laterMoment unlinks) =
      ⟨staleLock, .unlinking⟩ := by
  have old : ¬ (100 : ℚ) < stealGrace := by decide
  simp [callStep, probeNamed, old]

theorem refused_turns (n : Nat) : ∃ position, Turning position ∧
    acquireAt hopeful staleLock (unlinking false) n = ⟨staleLock, position⟩ := by
  induction n with
  | zero => exact ⟨.creating, .creating, rfl⟩
  | succ n ih =>
    obtain ⟨position, turning, same⟩ := ih
    have stepped : acquireAt hopeful staleLock (unlinking false) (n + 1) =
        callStep hopeful ⟨staleLock, position⟩ (laterMoment false) := by
      rw [← same]
      rfl
    rw [stepped]
    cases turning with
    | creating => exact ⟨.reading, .reading, rfl⟩
    | reading => exact ⟨.statting none, .statting, rfl⟩
    | statting => exact ⟨.probing none 100, .probing, stale_stat false⟩
    | probing => exact ⟨.unlinking, .unlinking, stale_probe false⟩
    | unlinking => exact ⟨.creating, .creating, rfl⟩

/-- Nobody else is there, and the call turns forever: it returns at no step. -/
theorem refused_unlink_is_endless :
    (∀ count, ∃ n, count ≤ callsBefore (unlinking false) n) ∧
      ¬ Acquires hopeful staleLock (unlinking false) := by
  constructor
  · intro count
    exact ⟨count, Nat.le_of_eq (unlinking_scheduled false count).symm⟩
  · intro acquires
    obtain ⟨n, code, returned, -⟩ := acquires.returns
    obtain ⟨position, turning, same⟩ := refused_turns n
    rw [same] at returned
    cases returned
    cases turning

theorem stolen_at_seven :
    (acquireAt hopeful staleLock (unlinking true) 7).position = .returned none := by
  have fourth : acquireAt hopeful staleLock (unlinking true) 4 = ⟨staleLock, .unlinking⟩ := by
    have third : acquireAt hopeful staleLock (unlinking true) 3 =
        ⟨staleLock, .probing none 100⟩ := stale_stat true
    have stepped : acquireAt hopeful staleLock (unlinking true) 4 =
      callStep hopeful (acquireAt hopeful staleLock (unlinking true) 3) (laterMoment true) := rfl
    rw [stepped, third]
    exact stale_probe true
  have stepped (n : Nat) : acquireAt hopeful staleLock (unlinking true) (n + 1) =
    callStep hopeful (acquireAt hopeful staleLock (unlinking true) n) (laterMoment true) := rfl
  rw [stepped 6, stepped 5, stepped 4, fourth]
  rfl

/-- Where the unlink goes through, the call has the lock. -/
theorem stale_lock_is_stolen : Acquires hopeful staleLock (unlinking true) :=
  (acquiring_ends hopeful staleLock (unlinking true)
    fun count => ⟨count, Nat.le_of_eq (unlinking_scheduled true count).symm⟩).mpr
    ⟨raises_nothing_iff.mp (returned_unraised stolen_at_seven),
      disturbancesBefore hopeful staleLock (unlinking true) 7,
      disturbancesBefore_bounded stolen_at_seven⟩

end EvoBlue.Guarantees
