import EvoBlue.Source.WriteTransaction

/-!
# The verdict of a commit

Whoever compensates for a write needs to know whether it became durable. The
helper tells, in every order of the commit's end and the cancellations, and it
leaves as its documentation says, as long as no cancellation interrupts the
rollback or the `finally` block.
-/

namespace EvoBlue.Guarantees

open EvoBlue.Kernel EvoBlue.Source

/-- What leaving the helper with `exit` promises. -/
structure VerdictExact (helper : WriteHelper) (exit : Ending) : Prop where
  finished : helper.commit ≠ .running
  attempted : helper.commit ≠ .notStarted ↔ helper.bodyEnded = some (.ok ())
  notified : helper.onCommitCalls = if helper.commit = .finished none then 1 else 0
  durable : helper.commit = .finished none →
    exit = if Awaited.commit ∈ helper.cancels then .error .cancelled else .ok ()
  failed : ∀ detail, helper.commit = .finished (some detail) → exit = .error (.error detail)
  body : ∀ error, helper.bodyEnded = some (.error error) →
    helper.rolledBack = true ∧ exit = .error error

/-- No cancellation interrupts the rollback, and none the `finally` block unless
the helper is leaving with a cancellation anyway. -/
def Undisturbed (helper : WriteHelper) : Prop :=
  Awaited.rollback ∉ helper.cancels ∧
    (Awaited.restore ∈ helper.cancels →
      helper.bodyEnded = some (.error .cancelled) ∨
        helper.commit = .finished none ∧ Awaited.commit ∈ helper.cancels)

/-! ## The states of the helper -/

/-- The helper, at the end of its work, with the way out that is due. -/
inductive Due : WriteHelper → Ending → Prop
  | failed (helper : WriteHelper) (point : HelperPoint) (error : Raised)
      (same : helper = ⟨point, .notStarted, 0, true, some (.error error), []⟩) :
      Due helper (.error error)
  | interrupted (helper : WriteHelper) (point : HelperPoint) (error : Raised)
      (same : helper = ⟨point, .notStarted, 0, false, some (.error error), [.rollback]⟩) :
      Due helper (.error .cancelled)
  | durable (helper : WriteHelper) (point : HelperPoint) (cancels : List Awaited)
      (waits : ∀ awaited ∈ cancels, awaited = .commit)
      (same : helper = ⟨point, .finished none, 1, false, some (.ok ()), cancels⟩) :
      Due helper (if Awaited.commit ∈ cancels then .error .cancelled else .ok ())
  | refused (helper : WriteHelper) (point : HelperPoint) (cancels : List Awaited) (detail : String)
      (waits : ∀ awaited ∈ cancels, awaited = .commit)
      (same : helper = ⟨point, .finished (some detail), 0, false, some (.ok ()), cancels⟩) :
      Due helper (.error (.error detail))

/-- What holds of the helper at each of its awaits. -/
def Consistent (helper : WriteHelper) : Prop :=
  match helper.point with
  | .entering => helper = {}
  | .body => helper = { point := .body }
  | .rollingBack error =>
    helper = { point := .rollingBack error, bodyEnded := some (.error error) }
  | .committing => ∃ commit, commit ≠ .notStarted ∧
      helper = { point := .committing, commit, bodyEnded := some (.ok ()) }
  | .verdict => ∃ commit cancels, commit ≠ .notStarted ∧ cancels ≠ [] ∧
      (∀ awaited ∈ cancels, awaited = .commit) ∧
      helper = { point := .verdict, commit, bodyEnded := some (.ok ()), cancels }
  | .restoring pending => Due helper pending
  | .left exit =>
    (∃ cancels, (∀ awaited ∈ cancels, awaited = .entry) ∧
      helper = { point := .left exit, cancels }) ∨
    ∃ before pending, Due before pending ∧
      (exit = pending ∧ helper = { before with point := .left exit } ∨
        exit = .error .cancelled ∧
          helper = { before.delivered .restore with point := .left exit })

/-- The verdict with cancellations at the commit's wait alone. -/
theorem verdictReached_consistent {failure : Option String} {cancels : List Awaited}
    (waits : ∀ awaited ∈ cancels, awaited = .commit) (some_ : cancels ≠ []) (point : HelperPoint) :
    Consistent (({ point, commit := .finished failure, bodyEnded := some (.ok ()), cancels } :
      WriteHelper).verdictReached failure) := by
  cases failure with
  | some detail => exact Due.refused _ _ cancels detail waits rfl
  | none =>
    have delivered : Awaited.commit ∈ cancels := by
      obtain ⟨awaited, mem⟩ := List.exists_mem_of_ne_nil cancels some_
      exact waits awaited mem ▸ mem
    have due := Due.durable _ (.restoring (.error .cancelled)) cancels waits rfl
    rw [if_pos delivered] at due
    exact due

theorem awaitVerdict_consistent {commit : CommitTask} (started : commit ≠ .notStarted)
    {cancels : List Awaited} (waits : ∀ awaited ∈ cancels, awaited = .commit) (some_ : cancels ≠ [])
    (point : HelperPoint) :
    Consistent (({ point, commit, bodyEnded := some (.ok ()), cancels } :
      WriteHelper).awaitVerdict) := by
  cases commit with
  | notStarted => exact absurd rfl started
  | running => exact ⟨.running, cancels, by decide, some_, waits, rfl⟩
  | finished failure => exact verdictReached_consistent waits some_ point

theorem committing_consistent {commit : CommitTask} (started : commit ≠ .notStarted)
    (event : HelperEvent) :
    Consistent (({ point := .committing, commit, bodyEnded := some (.ok ()) } :
      WriteHelper).step event) := by
  have same : Consistent { point := .committing, commit, bodyEnded := some (.ok ()) } :=
    ⟨commit, started, rfl⟩
  cases event with
  | commitEnds failure =>
    simp only [WriteHelper.step]
    split
    · exact ⟨.finished failure, by simp, rfl⟩
    · exact same
  | resumes =>
    cases commit with
    | notStarted => exact absurd rfl started
    | running => exact same
    | finished failure =>
      cases failure with
      | none => exact Due.durable _ (.restoring (.ok ())) [] (by simp) rfl
      | some detail => exact Due.refused _ _ [] detail (by simp) rfl
  | cancel => exact awaitVerdict_consistent started (by simp) (by simp) _
  | bodyEnds ending => cases ending <;> exact same
  | _ => exact same

theorem verdict_consistent {commit : CommitTask} (started : commit ≠ .notStarted)
    {cancels : List Awaited} (waits : ∀ awaited ∈ cancels, awaited = .commit) (some_ : cancels ≠ [])
    (event : HelperEvent) :
    Consistent (({ point := .verdict, commit, bodyEnded := some (.ok ()), cancels } :
      WriteHelper).step event) := by
  have same : Consistent { point := .verdict, commit, bodyEnded := some (.ok ()), cancels } :=
    ⟨commit, cancels, started, some_, waits, rfl⟩
  cases event with
  | commitEnds failure =>
    simp only [WriteHelper.step]
    split
    · exact ⟨.finished failure, cancels, by simp, some_, waits, rfl⟩
    · exact same
  | resumes =>
    cases commit with
    | notStarted => exact absurd rfl started
    | running => exact same
    | finished failure => exact verdictReached_consistent waits some_ _
  | cancel =>
    refine awaitVerdict_consistent started ?_ (by simp) _
    intro awaited mem
    rcases List.mem_cons.1 mem with rfl | earlier
    · rfl
    · exact waits awaited earlier
  | bodyEnds ending => cases ending <;> exact same
  | _ => exact same

theorem due_idle {helper : WriteHelper} {pending : Ending} (due : Due helper pending) :
    helper.commit ≠ .running := by
  cases due <;> (rename_i same; rw [same]; simp)

/-- Nothing is left to happen but the restored option. -/
theorem restoring_consistent {helper : WriteHelper} {pending : Ending}
    (point : helper.point = .restoring pending) (due : Due helper pending) (event : HelperEvent) :
    Consistent (helper.step event) := by
  have same : Consistent helper := by
    unfold Consistent
    rw [point]
    exact due
  cases event with
  | commitEnds failure =>
    simp only [WriteHelper.step, due_idle due, if_false]
    exact same
  | resumes =>
    simp only [WriteHelper.step, WriteHelper.resumes, point]
    exact same
  | restoreEnds =>
    simp only [WriteHelper.step, point]
    exact .inr ⟨helper, pending, due, .inl ⟨rfl, rfl⟩⟩
  | cancel =>
    simp only [WriteHelper.step, WriteHelper.cancel, point]
    exact .inr ⟨helper, pending, due, .inr ⟨rfl, rfl⟩⟩
  | bodyEnds ending =>
    cases ending <;> (simp only [WriteHelper.step, point, reduceCtorEq, if_false]; exact same)
  | _ =>
    simp only [WriteHelper.step, point, reduceCtorEq, if_false]
    exact same

theorem left_same {helper : WriteHelper} {exit : Ending} (point : helper.point = .left exit)
    (idle : helper.commit ≠ .running) (event : HelperEvent) : helper.step event = helper := by
  cases event with
  | bodyEnds ending => cases ending <;> simp [WriteHelper.step, point]
  | _ => simp [WriteHelper.step, WriteHelper.resumes, WriteHelper.cancel, point, idle]

theorem step_consistent (helper : WriteHelper) (event : HelperEvent)
    (consistent : Consistent helper) : Consistent (helper.step event) := by
  unfold Consistent at consistent
  split at consistent
  next point =>
    subst consistent
    cases event with
    | bodyEnds ending => cases ending <;> rfl
    | cancel => exact .inl ⟨[.entry], by simp, rfl⟩
    | refused detail => exact .inl ⟨[], by simp, rfl⟩
    | _ => rfl
  next point =>
    subst consistent
    cases event with
    | bodyEnds ending =>
      cases ending with
      | ok value => exact ⟨.running, by decide, rfl⟩
      | error error => rfl
    | _ => rfl
  next error point =>
    subst consistent
    cases event with
    | bodyEnds ending => cases ending <;> rfl
    | rollbackEnds => exact Due.failed _ _ error rfl
    | cancel => exact Due.interrupted _ _ error rfl
    | _ => rfl
  next point =>
    obtain ⟨commit, started, rfl⟩ := consistent
    exact committing_consistent started event
  next point =>
    obtain ⟨commit, cancels, started, some_, waits, rfl⟩ := consistent
    exact verdict_consistent started waits some_ event
  next pending point => exact restoring_consistent point consistent event
  next exit point =>
    have idle : helper.commit ≠ .running := by
      rcases consistent with ⟨cancels, _, rfl⟩ | ⟨before, pending, due, ⟨_, rfl⟩ | ⟨_, rfl⟩⟩
      · simp
      all_goals
        have quiet := due_idle due
        exact quiet
    rw [left_same point idle event]
    unfold Consistent
    rw [point]
    exact consistent

theorem after_consistent (events : List HelperEvent) : Consistent (WriteHelper.after events) :=
  have begins : Consistent ({} : WriteHelper) := rfl
  @run_invariant _ _ WriteHelper.step Consistent step_consistent _ begins events

/-- A helper that leaves, or is about to leave, without an exception. -/
def Succeeding (helper : WriteHelper) : Prop :=
  helper.point = .restoring (.ok ()) ∨ helper.point = .left (.ok ())

theorem step_succeeding (helper : WriteHelper) (event : HelperEvent)
    (kept : Succeeding helper → helper.commit = .finished none) :
    Succeeding (helper.step event) → (helper.step event).commit = .finished none := by
  have waits : ∀ waiting : WriteHelper, ¬ Succeeding waiting.awaitVerdict := by
    intro waiting
    unfold WriteHelper.awaitVerdict
    split
    next failure finished => cases failure <;> simp [Succeeding, WriteHelper.verdictReached]
    next => simp [Succeeding]
  cases event with
  | bodyEnds ending =>
    cases ending with
    | ok value =>
      simp only [WriteHelper.step]
      split
      · simp [Succeeding]
      · exact kept
    | error error =>
      simp only [WriteHelper.step]
      split
      · simp [Succeeding]
      · exact kept
  | rollbackEnds =>
    simp only [WriteHelper.step]
    split
    · simp [Succeeding]
    · exact kept
  | commitEnds failure =>
    simp only [WriteHelper.step]
    split
    next running =>
      intro succeeding
      have before := kept succeeding
      rw [running] at before
      cases before
    next => exact kept
  | resumes =>
    simp only [WriteHelper.step, WriteHelper.resumes]
    split
    next finished => exact fun _ => finished
    next => simp [Succeeding]
    next failure _ _ => cases failure <;> simp [Succeeding, WriteHelper.verdictReached]
    next => exact kept
  | restoreEnds =>
    simp only [WriteHelper.step]
    split
    next pending point =>
      intro succeeding
      refine kept (.inl (point.trans (congrArg _ ?_)))
      simpa [Succeeding] using succeeding
    next => exact kept
  | cancel =>
    simp only [WriteHelper.step, WriteHelper.cancel]
    split
    · simp [Succeeding]
    · simp [Succeeding, WriteHelper.delivered]
    · exact fun succeeding => absurd succeeding (waits _)
    · exact fun succeeding => absurd succeeding (waits _)
    · simp [Succeeding, WriteHelper.delivered]
    · exact kept
    · exact kept
  | _ =>
    simp only [WriteHelper.step]
    split
    · simp [Succeeding]
    · exact kept

/-- What the way out says about the commit: nothing was raised after a commit that
did not succeed, and a failure other than a cancellation is no durable commit. -/
theorem left_verdict {events : List HelperEvent} {exit : Ending}
    (left : (WriteHelper.after events).point = .left exit) :
    ((WriteHelper.after events).onCommitCalls ≠ 0 ↔
        (WriteHelper.after events).commit = .finished none) ∧
      (exit = .ok () → (WriteHelper.after events).commit = .finished none) ∧
      ∀ detail, exit = .error (.error detail) →
        (WriteHelper.after events).commit ≠ .finished none := by
  have succeeds : Succeeding (WriteHelper.after events) →
      (WriteHelper.after events).commit = .finished none :=
    @run_invariant _ _ WriteHelper.step
      (fun helper => Succeeding helper → helper.commit = .finished none) step_succeeding _
      (by simp [Succeeding]) events
  have consistent := after_consistent events
  have notified : ∀ {before pending}, Due before pending →
      (before.onCommitCalls ≠ 0 ↔ before.commit = .finished none) := by
    intro before pending due
    cases due <;> (rename_i same; rw [same]; simp)
  refine ⟨?_, fun ok => succeeds (.inr (left.trans (by rw [ok]))), ?_⟩
  all_goals
    generalize WriteHelper.after events = helper at consistent left
    unfold Consistent at consistent
    rw [left] at consistent
  · rcases consistent with ⟨cancels, _, rfl⟩ | ⟨before, pending, due, ⟨_, rfl⟩ | ⟨_, rfl⟩⟩
    · simp
    all_goals
      have told := notified due
      exact told
  · rintro detail rfl
    rcases consistent with ⟨cancels, _, rfl⟩ | ⟨before, pending, due, ⟨same, rfl⟩ | ⟨same, _⟩⟩
    · simp
    · generalize raised : Except.error (Raised.error detail) = exit at same
      subst same
      cases due with
      | failed point error same => simp [same]
      | interrupted point error same => cases raised
      | durable point cancels waits same =>
        split at raised <;> cases raised
      | refused point cancels other waits same => simp [same]
    · cases same

/-! ## Leaving -/

/-- Leaving with the way out that was due. -/
theorem due_exact_iff {helper : WriteHelper} {pending : Ending} (due : Due helper pending) :
    VerdictExact helper pending ↔ Undisturbed helper := by
  cases due with
  | failed point error same =>
    subst same
    refine ⟨fun _ => ⟨by simp, by simp⟩, fun _ => ⟨by simp, by simp, by simp, by simp, by simp, ?_⟩⟩
    rintro other ⟨⟩
    exact ⟨rfl, rfl⟩
  | interrupted point error same =>
    subst same
    refine ⟨fun exact_ => ?_, fun undisturbed => ?_⟩
    · have rolledBack := (exact_.body error rfl).1
      cases rolledBack
    · exact absurd (List.mem_singleton_self _) undisturbed.1
  | durable point cancels waits same =>
    subst same
    have only : Awaited.rollback ∉ cancels ∧ Awaited.restore ∉ cancels :=
      ⟨fun mem => (by cases waits _ mem), fun mem => (by cases waits _ mem)⟩
    exact ⟨fun _ => ⟨only.1, fun mem => absurd mem only.2⟩, fun _ =>
      ⟨by simp, by simp, by simp, fun _ => rfl, by simp, by simp⟩⟩
  | refused point cancels detail waits same =>
    subst same
    have only : Awaited.rollback ∉ cancels ∧ Awaited.restore ∉ cancels :=
      ⟨fun mem => (by cases waits _ mem), fun mem => (by cases waits _ mem)⟩
    exact ⟨fun _ => ⟨only.1, fun mem => absurd mem only.2⟩, fun _ =>
      ⟨by simp, by simp, by simp, by simp, by simp, by simp⟩⟩

/-- Leaving with a cancellation that interrupts the `finally` block. -/
theorem interrupted_exact_iff {helper : WriteHelper} {pending : Ending} (due : Due helper pending) :
    VerdictExact (helper.delivered .restore) (.error .cancelled) ↔
      Undisturbed (helper.delivered .restore) := by
  cases due with
  | failed point error same =>
    subst same
    constructor
    · intro exact_
      have cancelled := (exact_.body error rfl).2
      cases cancelled
      exact ⟨by simp [WriteHelper.delivered], fun _ => .inl rfl⟩
    · intro undisturbed
      have cancelled := undisturbed.2 (by simp [WriteHelper.delivered])
      simp only [WriteHelper.delivered, Option.some.injEq, Except.error.injEq, reduceCtorEq,
        false_and, or_false] at cancelled
      subst cancelled
      refine ⟨by simp [WriteHelper.delivered], by simp [WriteHelper.delivered],
        by simp [WriteHelper.delivered], by simp [WriteHelper.delivered],
        by simp [WriteHelper.delivered], ?_⟩
      rintro other ⟨⟩
      exact ⟨rfl, rfl⟩
  | interrupted point error same =>
    subst same
    refine ⟨fun exact_ => ?_, fun undisturbed => ?_⟩
    · have rolledBack := (exact_.body error rfl).1
      cases rolledBack
    · exact absurd (by simp [WriteHelper.delivered]) undisturbed.1
  | durable point cancels waits same =>
    subst same
    have only : Awaited.rollback ∉ cancels := fun mem => (by cases waits _ mem)
    constructor
    · intro exact_
      have cancelled := exact_.durable rfl
      by_cases delivered : Awaited.commit ∈ cancels
      · exact ⟨by simp [WriteHelper.delivered, only], fun _ =>
          .inr ⟨rfl, by simp [WriteHelper.delivered, delivered]⟩⟩
      · simp [WriteHelper.delivered, delivered] at cancelled
    · intro undisturbed
      have delivered : Awaited.commit ∈ cancels := by
        simpa [WriteHelper.delivered] using undisturbed.2 (by simp [WriteHelper.delivered])
      exact ⟨by simp [WriteHelper.delivered], by simp [WriteHelper.delivered],
        by simp [WriteHelper.delivered], by simp [WriteHelper.delivered, delivered],
        by simp [WriteHelper.delivered], by simp [WriteHelper.delivered]⟩
  | refused point cancels detail waits same =>
    subst same
    refine ⟨fun exact_ => ?_, fun undisturbed => ?_⟩
    · have failed := exact_.failed detail rfl
      cases failed
    · simpa [WriteHelper.delivered] using undisturbed.2 (by simp [WriteHelper.delivered])

/-- `on_commit` is called at most once, and after a durable commit alone. -/
def NotifiedOnce (helper : WriteHelper) : Prop :=
  helper.onCommitCalls ≤ 1 ∧ (helper.onCommitCalls = 1 → helper.commit = .finished none)

theorem consistent_notifiedOnce {helper : WriteHelper} (consistent : Consistent helper) :
    NotifiedOnce helper := by
  have ended : ∀ {before pending}, Due before pending → NotifiedOnce before := by
    intro before pending due
    cases due <;> (rename_i same; subst same; simp [NotifiedOnce])
  unfold Consistent at consistent
  split at consistent
  next => subst consistent; simp [NotifiedOnce]
  next => subst consistent; simp [NotifiedOnce]
  next => subst consistent; simp [NotifiedOnce]
  next =>
    obtain ⟨commit, _, rfl⟩ := consistent
    simp [NotifiedOnce]
  next =>
    obtain ⟨commit, cancels, _, _, _, rfl⟩ := consistent
    simp [NotifiedOnce]
  next => exact ended consistent
  next =>
    rcases consistent with ⟨cancels, _, rfl⟩ | ⟨before, pending, due, ⟨_, rfl⟩ | ⟨_, rfl⟩⟩
    · simp [NotifiedOnce]
    all_goals
      have quiet := ended due
      exact quiet

/-- Where the helper stands does not matter to what it promises. -/
theorem verdictExact_point (helper : WriteHelper) (point : HelperPoint) (exit : Ending) :
    VerdictExact { helper with point } exit ↔ VerdictExact helper exit :=
  ⟨fun exact_ => ⟨exact_.finished, exact_.attempted, exact_.notified, exact_.durable,
    exact_.failed, exact_.body⟩, fun exact_ => ⟨exact_.finished, exact_.attempted,
      exact_.notified, exact_.durable, exact_.failed, exact_.body⟩⟩

/-- In every order of what the body, the commit and the cancellations do:
`on_commit` is called for a durable commit alone, and once the helper is left,
all it promises holds if, and only if, no cancellation interrupted the rollback
or turned the way out of the `finally` block. -/
theorem commit_verdict_exact (events : List HelperEvent) :
    NotifiedOnce (WriteHelper.after events) ∧
      ∀ exit, (WriteHelper.after events).point = .left exit →
        (VerdictExact (WriteHelper.after events) exit ↔ Undisturbed (WriteHelper.after events)) := by
  have consistent := after_consistent events
  refine ⟨consistent_notifiedOnce consistent, fun exit left => ?_⟩
  generalize WriteHelper.after events = helper at consistent left
  unfold Consistent at consistent
  rw [left] at consistent
  rcases consistent with ⟨cancels, entry, rfl⟩ | ⟨before, pending, due, ⟨rfl, rfl⟩ | ⟨rfl, rfl⟩⟩
  · have only : Awaited.rollback ∉ cancels ∧ Awaited.restore ∉ cancels :=
      ⟨fun mem => (by cases entry _ mem), fun mem => (by cases entry _ mem)⟩
    exact ⟨fun _ => ⟨only.1, fun mem => absurd mem only.2⟩, fun _ =>
      ⟨by simp, by simp, by simp, by simp, by simp, by simp⟩⟩
  · exact (verdictExact_point before _ _).trans (due_exact_iff due)
  · exact (verdictExact_point (before.delivered .restore) _ _).trans (interrupted_exact_iff due)

/-- The cancellation arrives before the commit is durable, and is raised after it. -/
theorem commit_verdict_exact_cancelled :
    VerdictExact (WriteHelper.after [.entered, .bodyEnds (.ok ()), .cancel, .commitEnds none,
      .resumes, .restoreEnds]) (.error .cancelled) :=
  ((commit_verdict_exact [.entered, .bodyEnds (.ok ()), .cancel, .commitEnds none, .resumes,
    .restoreEnds]).2 (.error .cancelled) (by decide)).2 ⟨by decide, by decide⟩

/-- The commit fails while a second cancellation is pending, and the helper says so. -/
example : (WriteHelper.after [.entered, .bodyEnds (.ok ()), .cancel, .commitEnds (some "disk full"),
    .cancel, .restoreEnds]).point = .left (.error (.error "disk full")) := by
  decide

/-- The commit is durable and nobody cancels while it is awaited; the one
cancellation arrives in the `finally` block, and the caller sees a write that was
kept end in `CancelledError`. -/
theorem late_cancellation_hides_commit :
    ¬ ∀ events exit, (WriteHelper.after events).point = .left exit →
      VerdictExact (WriteHelper.after events) exit := by
  intro stated
  have exact_ := stated [.entered, .bodyEnds (.ok ()), .commitEnds none, .resumes, .cancel]
    (.error .cancelled) (by decide)
  have due := exact_.durable (by decide)
  exact absurd due (by decide)

end EvoBlue.Guarantees
