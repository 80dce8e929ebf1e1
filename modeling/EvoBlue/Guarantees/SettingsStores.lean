import EvoBlue.Guarantees.CommitVerdict
import EvoBlue.Source.SettingsEffects

/-!
# Row, pointer and slots after a save

A save that fails compensates, and whether it has to is what the commit's verdict
tells. The branch for cancellations asks for it. The branch for other exceptions
takes every failure for a rollback; it is wrong when the exception comes after the
commit has become durable.
-/

namespace EvoBlue.Guarantees

open EvoBlue.Kernel EvoBlue.Source

/-- The recovery pointer is the directory of the committed row, and the slot of
the committed row is not scheduled for deletion. -/
structure Agrees (server : SettingsServer) (world : SettingsWorld) : Prop where
  pointer : server.hasPointerFile = true → readReportPointer world.pointer =
    some (pointerValue (world.row.bind (·.reportDirectory)))
  slot : ∀ slot, world.row.bind (·.llmCredentialRef) = some slot → slot ∉ world.deletes

/-- An exception other than a cancellation after the row is in the database: the
commit reports a failure all the same, or closing the session raises. -/
def lateFailure (fate : TransactionFate) : Bool :=
  match fate.helper.commit with
  | .finished (some _) => fate.adoptedDespite
  | .finished none =>
    match fate.close with
    | .error (.error _) => true
    | _ => false
  | _ => false

/-- If the request gets to its transaction, then the pointer it leaves reads as the
directory of the row it leaves, and no failure comes late on a new key. -/
def SaveSettles (server : SettingsServer) (fate : SaveFate) (request : AppSettingsUpdate)
    (token : Text) (world : SettingsWorld) : Prop :=
  ((prepareSave server fate request token).run world).1.isOk = true →
    let before := world.row.bind (·.reportDirectory)
    let saved := reportDirectoryValue request world.row
    let late := lateFailure fate.transaction
    (carriesPointer server request = true →
      rereadPointer (pointerValue (if fate.transaction.durable && !late then saved else before)) =
        pointerValue (if fate.transaction.durable then saved else before)) ∧
      (late = true → request.newKey = none)

theorem late_durable {fate : TransactionFate} (late : lateFailure fate = true) :
    fate.durable = true := by
  unfold lateFailure at late
  unfold TransactionFate.durable
  split at late
  next finished => simpa [finished] using late
  next finished => simp [finished]
  next => cases late

/-- What the handler takes for a rollback. -/
theorem compensates_eq (fate : TransactionFate) :
    compensates fate = (!fate.durable || lateFailure fate) := by
  obtain ⟨notified, succeeds, fails⟩ := left_verdict fate.left
  have committed : fate.committed = decide (fate.helper.commit = .finished none) := by
    unfold TransactionFate.committed
    exact decide_eq_decide.2 notified
  change _ → fate.helper.commit = _ at succeeds
  change ∀ detail, _ → fate.helper.commit ≠ _ at fails
  unfold compensates TransactionFate.durable lateFailure TransactionFate.ending
  rw [committed]
  cases close : fate.close with
  | error error =>
    cases error with
    | cancelled =>
      cases commit : fate.helper.commit with
      | finished failure => cases failure <;> simp
      | _ => simp
    | error detail =>
      cases commit : fate.helper.commit with
      | finished failure => cases failure <;> simp
      | _ => simp
  | ok value =>
    -- The way out of the helper is the way out of the block.
    cases exit : fate.exit with
    | ok value => simp [succeeds exit]
    | error error =>
      cases error with
      | cancelled =>
        cases commit : fate.helper.commit with
        | finished failure => cases failure <;> simp
        | _ => simp
      | error detail =>
        have undone := fails detail exit
        cases commit : fate.helper.commit with
        | finished failure => cases failure <;> simp_all
        | _ => simp

/-! ## The stores after a save -/

section

variable {server : SettingsServer} {fate : SaveFate} {request : AppSettingsUpdate} {token : Text}

/-- What the pointer reads as after the transaction. -/
theorem pointer_after {world entered last : SettingsWorld} {saved : AppSettings}
    {previous : Option (Option Text)} {before : Option Text}
    (there : readReportPointer world.pointer = some before)
    (moved : PointerMoved server fate request world.row world.pointer entered.pointer previous)
    (restorable : carriesPointer server request = true → Restorable fate (some before))
    (ended : SaveEnded server fate request token world.row saved previous entered last) :
    readReportPointer last.pointer =
      some (if carriesPointer server request then
        rereadPointer (if compensates fate.transaction then before
          else pointerValue (reportDirectoryValue request world.row))
      else before) := by
  unfold PointerMoved at moved
  split at moved
  next carries =>
    obtain ⟨old, bytes, read, rfl, written, file⟩ := moved
    obtain rfl : before = old := Option.some.inj (there.symm.trans read)
    rw [if_pos carries]
    cases compensated : compensates fate.transaction with
    | true => simpa using ended.putBack (restorable carries) compensated before rfl
    | false =>
      rw [ended.kept (.inl compensated), file, readReportPointer_written written]
      simp
  next without =>
    rw [if_neg without, ended.kept (.inr moved.1), moved.2, there]

/-- The directory of the row after the transaction. -/
theorem directory_after {world entered last : SettingsWorld} {now : Time}
    {previous : Option (Option Text)} (row : entered.row = world.row)
    (ended : SaveEnded server fate request token world.row
      (savedSettings server.unicode request token world.row now) previous entered last) :
    last.row.bind (·.reportDirectory) =
      if fate.transaction.durable then reportDirectoryValue request world.row
      else world.row.bind (·.reportDirectory) := by
  rw [ended.row, row]
  split <;> rfl

/-- The slot of the row after the transaction, and what is scheduled. -/
theorem slots_after {world entered last : SettingsWorld} {now : Time}
    {previous : Option (Option Text)} (row : entered.row = world.row)
    (deletes : entered.deletes = world.deletes)
    (agrees : ∀ slot, world.row.bind (·.llmCredentialRef) = some slot → slot ∉ world.deletes)
    (unused : Unused (freshReference server.unicode request token world.row) world)
    (scheduled_ : last.deletes = (scheduled server fate request token world.row).toList ++
      entered.deletes)
    (ended : SaveEnded server fate request token world.row
      (savedSettings server.unicode request token world.row now) previous entered last) :
    (∀ slot, last.row.bind (·.llmCredentialRef) = some slot → slot ∉ last.deletes) ↔
      (lateFailure fate.transaction = true → request.newKey = none) := by
  have binding := savedBinding_cases server.unicode request token world.row
  rw [scheduled_, deletes, ended.row, row]
  unfold scheduled
  rw [compensates_eq]
  cases durable : fate.transaction.durable with
  | false =>
    have early : lateFailure fate.transaction = false := by
      by_contra late
      rw [late_durable (by simpa using late)] at durable
      cases durable
    simp only [early, Bool.not_false, Bool.true_or, if_true, Bool.false_eq_true, if_false,
      false_implies, iff_true]
    intro slot bound mem
    rcases List.mem_append.1 mem with fresh | old
    · have same : freshReference server.unicode request token world.row = slot := by
        cases new : request.newKey <;> simp_all
      exact unused.bound (same ▸ bound)
    · exact agrees slot bound old
  | true =>
    cases late : lateFailure fate.transaction with
    | true =>
      simp only [Bool.not_true, Bool.or_true, if_true, true_implies, Option.bind_some,
        savedSettings]
      constructor
      · intro apart
        by_contra some_
        rcases binding with ⟨new, bound⟩ | ⟨without, _⟩ | ⟨missing, _, _⟩
        · refine apart _ (by rw [bound]) (List.mem_append_left _ ?_)
          obtain ⟨key, there⟩ := Option.isSome_iff_exists.1 new
          simp [there]
        · exact some_ without
        · simp [AppSettingsUpdate.newKey, missing] at some_
      · intro without slot bound
        simp only [without, Option.map_none, Option.toList_none, List.nil_append]
        rcases binding with ⟨new, _⟩ | ⟨_, unbound⟩ | ⟨_, _, kept⟩
        · simp [without] at new
        · rw [unbound] at bound
          cases bound
        · rw [kept] at bound
          exact agrees slot bound
    | false =>
      simp only [Bool.not_true, Bool.or_false, Bool.false_eq_true, if_false, if_true,
        false_implies, iff_true, Option.bind_some, savedSettings]
      intro slot bound mem
      rcases binding with ⟨_, new⟩ | ⟨_, unbound⟩ | ⟨missing, _, kept⟩
      · rw [new] at bound
        cases bound
        rcases List.mem_append.1 mem with replaced | old
        · unfold replacedSlot at replaced
          split at replaced
          · exact unused.bound (Option.filter_eq_some_iff.1 (Option.mem_toList.1 replaced)).1
          · cases replaced
        · exact unused.scheduled old
      · rw [unbound] at bound
        cases bound
      · rw [kept] at bound
        simp only [replacedSlot, missing, Option.isSome_none, Bool.false_eq_true, if_false,
          Option.toList_none, List.nil_append] at mem
        exact agrees slot bound mem

/-- The pointer is the directory of the row that is left. -/
theorem pointer_settles {world entered last : SettingsWorld} {now : Time}
    {previous : Option (Option Text)} (row : entered.row = world.row)
    (agrees : Agrees server world)
    (moved : PointerMoved server fate request world.row world.pointer entered.pointer previous)
    (restorable : carriesPointer server request = true →
      Restorable fate (some (pointerValue (world.row.bind (·.reportDirectory)))))
    (ended : SaveEnded server fate request token world.row
      (savedSettings server.unicode request token world.row now) previous entered last) :
    (server.hasPointerFile = true →
        readReportPointer last.pointer = some (pointerValue (last.row.bind (·.reportDirectory)))) ↔
      (carriesPointer server request = true →
        rereadPointer (pointerValue
            (if fate.transaction.durable && !lateFailure fate.transaction then
              reportDirectoryValue request world.row
            else world.row.bind (·.reportDirectory))) =
          pointerValue (if fate.transaction.durable then reportDirectoryValue request world.row
            else world.row.bind (·.reportDirectory))) := by
  rw [directory_after row ended]
  cases has : server.hasPointerFile with
  | false => simp [carriesPointer, has]
  | true =>
    rw [pointer_after (agrees.pointer has) moved restorable ended, compensates_eq]
    cases carries : carriesPointer server request with
    | true =>
      cases fate.transaction.durable <;> cases lateFailure fate.transaction <;> simp
    | false =>
      have absent : request.reportDirectory = none := by
        simpa [carriesPointer, has] using carries
      have same : reportDirectoryValue request world.row =
          world.row.bind (·.reportDirectory) := by
        simp [reportDirectoryValue, merged, absent]
      simp [same]

/-- A save whose compensating write succeeds, of a row and a pointer that agree,
however its awaits and calls end: row, pointer and slots agree afterwards if, and
only if, the save settles. -/
theorem settings_stores_agree (server : SettingsServer) (fate : SaveFate)
    (request : AppSettingsUpdate) (token : Text) (now : Time) (world : SettingsWorld)
    (agrees : Agrees server world)
    (unused : Unused (freshReference server.unicode request token world.row) world)
    (restorable : carriesPointer server request = true →
      Restorable fate (some (pointerValue (world.row.bind (·.reportDirectory))))) :
    Agrees server ((settingsPut server fate request token now).run world).2 ↔
      SaveSettles server fate request token world := by
  have done := @settingsPut_world server fate request token now world
  generalize ((settingsPut server fate request token now).run world).2 = last at done
  simp only at done
  rcases done with ⟨⟨raised, after, refused⟩, underway, pointer⟩ |
    ⟨previous, entered, prepared, moved, only, ended⟩
  · -- The request was refused before its transaction.
    have settles : SaveSettles server fate request token world := by
      intro returned
      rw [refused] at returned
      cases returned
    refine ⟨fun _ => settles, fun _ => ⟨fun has => ?_, fun slot bound mem => ?_⟩⟩
    · rw [pointer, underway.row]
      exact agrees.pointer has
    · rw [underway.row] at bound
      rcases underway.deletes with same | ⟨_, more⟩
      · exact agrees.slot slot bound (same ▸ mem)
      · rw [more] at mem
        rcases List.mem_cons.1 mem with rfl | old
        · exact unused.bound bound
        · exact agrees.slot slot bound old
  · have row : entered.row = world.row := by rw [only]
    have deletes : entered.deletes = world.deletes := by rw [only]
    have returned : ((prepareSave server fate request token).run world).1.isOk = true := by
      rw [prepared]
      rfl
    have safe : Restorable fate previous := by
      unfold PointerMoved at moved
      split at moved
      next carries =>
        obtain ⟨old, bytes, there, rfl, _, _⟩ := moved
        have has : server.hasPointerFile = true := by simp_all [carriesPointer]
        obtain rfl := Option.some.inj ((agrees.pointer has).symm.trans there)
        exact restorable carries
      next =>
        rw [moved.1]
        rintro old ⟨⟩
    have pointer := pointer_settles row agrees moved restorable ended
    have slots := slots_after row deletes agrees.slot unused (ended.deletes safe) ended
    exact ⟨fun after _ => ⟨pointer.1 after.pointer, slots.1 after.slot⟩,
      fun settles => ⟨pointer.2 (settles returned).1, slots.2 (settles returned).2⟩⟩

end

/-- A finished commit that a cancellation arrives at. -/
def cancelledCommit : TransactionFate where
  events := [.entered, .bodyEnds (.ok ()), .commitEnds none, .cancel, .restoreEnds]
  exit := .error .cancelled
  left := by decide

/-- A finished commit, and a session that raises when it is closed. -/
def failingClose : TransactionFate :=
  { undisturbedCommit with close := .error (.error "OperationalError") }

/-- Reports go to `/srv/a`. -/
def sampleSettings : SettingsWorld where
  row := some { reportDirectory := some (text "/srv/a"), updatedAt := 0 }
  pointer := encodeUtf8 (text "/srv/a\n")

/-- Reports shall go to `/srv/b`. -/
def sampleRequest : AppSettingsUpdate where
  reportDirectory := some (some (text "/srv/b"))

theorem sampleSettings_agrees : Agrees sampleServer sampleSettings :=
  ⟨fun _ => by decide, fun slot bound => by cases bound⟩

theorem sampleSettings_unused (token : Text) :
    Unused (freshReference sampleServer.unicode sampleRequest token sampleSettings.row)
      sampleSettings :=
  ⟨by simp [sampleSettings], by simp [sampleSettings], by simp [sampleSettings]⟩

theorem sampleSettings_restorable {fate : SaveFate} (works : fate.restorePointer = none) :
    Restorable fate
      (some (pointerValue (sampleSettings.row.bind (·.reportDirectory)))) := by
  rintro old ⟨⟩
  rw [works]
  exact ⟨_, rfl⟩

/-- The cancellation that meets a durable commit leaves the new pointer. -/
theorem settings_stores_agree_cancelled :
    Agrees sampleServer ((settingsPut sampleServer { transaction := cancelledCommit } sampleRequest
      (text "0123456789ab") 1).run sampleSettings).2 :=
  (settings_stores_agree sampleServer { transaction := cancelledCommit } sampleRequest
    (text "0123456789ab") 1 sampleSettings sampleSettings_agrees (sampleSettings_unused _)
    fun _ => sampleSettings_restorable rfl).2 fun _ => ⟨fun _ => by decide, fun _ => rfl⟩

/-- The row is committed, closing the session raises, and the old pointer is put
back: the row says `/srv/b`, the pointer `/srv/a`. -/
theorem late_failure_splits_stores :
    ¬ ∀ (server : SettingsServer) (fate : SaveFate) (request : AppSettingsUpdate) (token : Text)
      (now : Time) (world : SettingsWorld), Agrees server world →
      Unused (freshReference server.unicode request token world.row) world →
      (carriesPointer server request = true →
        Restorable fate (some (pointerValue (world.row.bind (·.reportDirectory))))) →
      Agrees server ((settingsPut server fate request token now).run world).2 := by
  intro stated
  have after := stated sampleServer { transaction := failingClose } sampleRequest
    (text "0123456789ab") 1 sampleSettings sampleSettings_agrees (sampleSettings_unused _)
    fun _ => sampleSettings_restorable rfl
  exact absurd (after.pointer rfl) (by decide)

end EvoBlue.Guarantees
