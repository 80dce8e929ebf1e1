import EvoBlue.Source.SettingsSave

/-!
# What a save changes

One lemma for each part of `settings_put`: the gate changes nothing, a new key is
handed over under its own slot, the pointer is written last before the
transaction, and after it the three stores are what its end makes of them.
-/

namespace EvoBlue.Source

open EvoBlue.Kernel

/-- A slot that no save has named. -/
structure Unused (slot : Text) (world : SettingsWorld) : Prop where
  bound : world.row.bind (·.llmCredentialRef) ≠ some slot
  written : ∀ key ∈ world.keys, key.slot ≠ slot
  scheduled : slot ∉ world.deletes

instance (slot : Text) (world : SettingsWorld) : Decidable (Unused slot world) :=
  decidable_of_iff
    (world.row.bind (·.llmCredentialRef) ≠ some slot ∧ (∀ key ∈ world.keys, key.slot ≠ slot) ∧
      slot ∉ world.deletes)
    ⟨fun ⟨bound, written, scheduled⟩ => ⟨bound, written, scheduled⟩,
      fun unused => ⟨unused.bound, unused.written, unused.scheduled⟩⟩

section

variable {server : SettingsServer} {fate : SaveFate} {request : AppSettingsUpdate} {token : Text}
  {current : Option AppSettings}

theorem raiseIf_world (ending : Ending) (world : SettingsWorld) :
    ((raiseIf ending).run world).2 = world := by
  cases ending <;> rfl

theorem keyStored_world (world : SettingsWorld) :
    ((keyStored server fate request token current).run world).2 = world := by
  unfold keyStored
  split
  · split <;> rfl
  · rfl

theorem requireRunnable_world (world : SettingsWorld) :
    ((requireRunnable server fate request token current).run world).2 = world := by
  have same := @keyStored_world server fate request token current world
  unfold requireRunnable
  split
  · rw [Script.bind_run]
    rcases begun : (keyStored server fate request token current).run world with ⟨result, after⟩
    rw [begun] at same
    cases same
    cases result with
    | error raised => rfl
    | ok stored =>
      simp only
      split <;> rfl
  · rfl

/-- The slot and the key of the request, with what it says about them. -/
def newSlotKey (server : SettingsServer) (request : AppSettingsUpdate) (token : Text)
    (current : Option AppSettings) : Option SlotKey :=
  request.newKey.map fun key =>
    { slot := freshReference server.unicode request token current
      key
      provider := provider request current
      baseUrl := mergedBaseUrl request current }

/-- Before the transaction: the row stays, and only the request's own slot is
written, or deleted again. -/
structure SaveRefused (server : SettingsServer) (request : AppSettingsUpdate) (token : Text)
    (before after : SettingsWorld) : Prop where
  row : after.row = before.row
  keys : after.keys = before.keys ∨
    after.keys = (newSlotKey server request token before.row).toList ++ before.keys
  deletes : after.deletes = before.deletes ∨ request.newKey.isSome ∧
    after.deletes = freshReference server.unicode request token before.row :: before.deletes

/-- Writing the key, and what it leaves when it returns. -/
theorem storeKey_effect (world : SettingsWorld) :
    let ended := (storeKey server fate request token world.row).run world
    SaveRefused server request token world ended.2 ∧ ended.2.pointer = world.pointer ∧
      (ended.1.isOk → ended.2.deletes = world.deletes ∧
        ended.2.keys = (newSlotKey server request token world.row).toList ++ world.keys) := by
  unfold storeKey
  split
  next absent =>
    have none_ : newSlotKey server request token world.row = none := by
      have missing : request.llmApiKey = none := by simpa using absent
      simp [newSlotKey, AppSettingsUpdate.newKey, missing]
    exact ⟨⟨rfl, .inl rfl, .inl rfl⟩, rfl, fun _ => ⟨rfl, by rw [none_]; rfl⟩⟩
  · split
    · exact ⟨⟨rfl, .inl rfl, .inl rfl⟩, rfl, fun returned => by cases returned⟩
    · split
      next without =>
        have none_ : newSlotKey server request token world.row = none := by
          simp [newSlotKey, without]
        exact ⟨⟨rfl, .inl rfl, .inl rfl⟩, rfl, fun _ => ⟨rfl, by rw [none_]; rfl⟩⟩
      next key there =>
        have written : newSlotKey server request token world.row =
            some ⟨freshReference server.unicode request token world.row, key,
              provider request world.row, mergedBaseUrl request world.row⟩ := by
          simp [newSlotKey, there]
        have some_ : request.newKey.isSome = true := by simp [there]
        simp only [Script.write_bind_run]
        cases fate.setSecret with
        | confirmed =>
          exact ⟨⟨rfl, .inr (by rw [written]; rfl), .inl rfl⟩, rfl,
            fun _ => ⟨rfl, by rw [written]; rfl⟩⟩
        | cancelled =>
          exact ⟨⟨rfl, .inr (by rw [written]; rfl), .inl rfl⟩, rfl,
            fun returned => by cases returned⟩
        | unconfirmed =>
          exact ⟨⟨rfl, .inr (by rw [written]; rfl), .inr ⟨some_, rfl⟩⟩, rfl,
            fun returned => by cases returned⟩

/-- What the pointer becomes before the transaction, and the value to restore. -/
def PointerMoved (server : SettingsServer) (fate : SaveFate) (request : AppSettingsUpdate)
    (current : Option AppSettings) (before after : Option Bytes)
    (previous : Option (Option Text)) : Prop :=
  if carriesPointer server request then
    ∃ old bytes, readReportPointer before = some old ∧ previous = some old ∧
      writeReportPointer fate.writePointer (pointerValue (reportDirectoryValue request current)) =
        .ok bytes ∧
      after = some bytes
  else previous = none ∧ after = before

theorem replacePointer_ok {file : Option Bytes} {old : Option Text} {bytes : Bytes}
    (replaced : replacePointer fate request current file = .ok (old, bytes)) :
    readReportPointer file = some old ∧
      writeReportPointer fate.writePointer (pointerValue (reportDirectoryValue request current)) =
        .ok bytes := by
  unfold replacePointer at replaced
  split at replaced
  · cases replaced
  · split at replaced
    next => cases replaced
    next previous there =>
      split at replaced
      next written =>
        cases replaced
        exact ⟨there, written⟩
      all_goals cases replaced

theorem pointToDirectory_returned {world after : SettingsWorld} {previous : Option (Option Text)}
    (returned : (pointToDirectory server fate request token current).run world =
      (.ok previous, after)) :
    PointerMoved server fate request current world.pointer after.pointer previous ∧
      after = { world with pointer := after.pointer } := by
  unfold pointToDirectory at returned
  unfold PointerMoved
  split at returned
  next carries =>
    rw [if_pos carries]
    simp only [Script.read_bind_run] at returned
    split at returned
    next old bytes replaced =>
      cases returned
      obtain ⟨there, written⟩ := replacePointer_ok replaced
      exact ⟨⟨old, bytes, there, rfl, written, rfl⟩, rfl⟩
    next =>
      unfold cleanupUnadoptedFreshSlot at returned
      split at returned <;> cases returned
  next without =>
    rw [if_neg without]
    cases returned
    exact ⟨⟨rfl, rfl⟩, rfl⟩

theorem pointToDirectory_raised {world after : SettingsWorld} {raised : SaveRaised}
    (error : (pointToDirectory server fate request token current).run world =
      (.error raised, after)) :
    after = world ∨ request.newKey.isSome ∧ after =
      { world with
        deletes := freshReference server.unicode request token current :: world.deletes } := by
  unfold pointToDirectory at error
  split at error
  · simp only [Script.read_bind_run] at error
    split at error
    next => cases error
    next =>
      unfold cleanupUnadoptedFreshSlot at error
      split at error
      next new =>
        cases error
        exact .inr ⟨new, rfl⟩
      next =>
        cases error
        exact .inl rfl
  · cases error

/-- Nothing but the request's own slot has changed when a save is refused. -/
theorem prepareSave_raised {world after : SettingsWorld} {raised : SaveRaised}
    (error : (prepareSave server fate request token).run world = (.error raised, after)) :
    SaveRefused server request token world after ∧ after.pointer = world.pointer := by
  have same : SaveRefused server request token world world := ⟨rfl, .inl rfl, .inl rfl⟩
  unfold prepareSave at error
  rcases Script.bind_raised error with began | ⟨_, first, began, rest⟩
  · have kept := raiseIf_world fate.readSettings world
    rw [began] at kept
    subst kept
    exact ⟨same, rfl⟩
  have kept := raiseIf_world fate.readSettings world
  rw [began] at kept
  subst kept
  simp only [Script.read_bind_run] at rest
  rcases Script.bind_raised rest with gate | ⟨_, second, gate, later⟩
  · have kept := @requireRunnable_world server fate request token first.row first
    rw [gate] at kept
    subst kept
    exact ⟨same, rfl⟩
  have kept := @requireRunnable_world server fate request token first.row first
  rw [gate] at kept
  subst kept
  have effect := @storeKey_effect server fate request token second
  rcases Script.bind_raised later with stored | ⟨_, third, stored, last⟩
  · rw [stored] at effect
    exact ⟨effect.1, effect.2.1⟩
  rw [stored] at effect
  obtain ⟨refused, pointer, returns⟩ := effect
  have deletes : third.deletes = second.deletes := (returns rfl).1
  rcases Script.bind_raised last with pointed | ⟨_, fourth, _, done⟩
  · rcases pointToDirectory_raised pointed with rfl | ⟨new, rfl⟩
    · exact ⟨refused, pointer⟩
    · exact ⟨⟨refused.row, refused.keys, .inr ⟨new, by simp only [deletes]⟩⟩, pointer⟩
  · cases done

/-- The world a save enters its transaction in. -/
theorem prepareSave_returned {world after : SettingsWorld} {current : Option AppSettings}
    {previous : Option (Option Text)}
    (returned : (prepareSave server fate request token).run world =
      (.ok (current, previous), after)) :
    current = world.row ∧
      PointerMoved server fate request world.row world.pointer after.pointer previous ∧
      after =
        { world with
          pointer := after.pointer
          keys := (newSlotKey server request token world.row).toList ++ world.keys } := by
  unfold prepareSave at returned
  obtain ⟨_, first, began, rest⟩ := Script.bind_returned returned
  have kept := raiseIf_world fate.readSettings world
  rw [began] at kept
  subst kept
  simp only [Script.read_bind_run] at rest
  obtain ⟨_, second, gate, later⟩ := Script.bind_returned rest
  have kept := @requireRunnable_world server fate request token first.row first
  rw [gate] at kept
  subst kept
  obtain ⟨_, third, stored, last⟩ := Script.bind_returned later
  have effect := @storeKey_effect server fate request token second
  rw [stored] at effect
  obtain ⟨refused, pointer, returns⟩ := effect
  have deletes : third.deletes = second.deletes := (returns rfl).1
  have keys : third.keys = (newSlotKey server request token second.row).toList ++ second.keys :=
    (returns rfl).2
  obtain ⟨restored, fourth, pointed, done⟩ := Script.bind_returned last
  obtain ⟨moved, onlyPointer⟩ := pointToDirectory_returned pointed
  cases done
  have row : third.row = second.row := refused.row
  refine ⟨rfl, pointer ▸ moved, ?_⟩
  refine onlyPointer.trans ?_
  simp only [row, deletes, keys]

/-! ## The transaction -/

/-- The database after the transaction. -/
def adopted (fate : SaveFate) (saved : AppSettings) (world : SettingsWorld) : SettingsWorld :=
  if fate.transaction.durable then { world with row := some saved } else world

/-- The end of the transaction is answered by compensation. -/
def compensates (fate : TransactionFate) : Bool :=
  match fate.ending with
  | .ok _ => false
  | .error .cancelled => !fate.committed
  | .error (.error _) => true

/-- The slots scheduled for deletion once a save has ended. -/
def scheduled (server : SettingsServer) (fate : SaveFate) (request : AppSettingsUpdate)
    (token : Text) (current : Option AppSettings) : Option Text :=
  if compensates fate.transaction then
    request.newKey.map fun _ => freshReference server.unicode request token current
  else replacedSlot request current

/-- The compensating write of the pointer, if there is one, succeeds. -/
def Restorable (fate : SaveFate) (previous : Option (Option Text)) : Prop :=
  ∀ old ∈ previous, ∃ bytes, writeReportPointer fate.restorePointer old = .ok bytes

theorem cleanupReplacedSlots_world (world : SettingsWorld) :
    (cleanupReplacedSlots request current).run world =
      (.ok (), { world with
        deletes := (replacedSlot request current).toList ++ world.deletes }) := by
  unfold cleanupReplacedSlots
  cases replacedSlot request current <;> rfl

theorem cleanupUnadoptedFreshSlot_world (world : SettingsWorld) :
    (cleanupUnadoptedFreshSlot server request token current).run world =
      (.ok (), { world with
        deletes := (request.newKey.map fun _ =>
          freshReference server.unicode request token current).toList ++ world.deletes }) := by
  unfold cleanupUnadoptedFreshSlot
  cases request.newKey <;> rfl

/-- The pointer file, put back or left. -/
theorem restorePointer_world (previous : Option (Option Text)) (world : SettingsWorld) :
    ∃ result file, (restorePointer fate previous).run world =
        (result, { world with pointer := file }) ∧
      (previous = none → file = world.pointer) ∧
      (Restorable fate previous → result = .ok () ∧
        ∀ old ∈ previous, readReportPointer file = some (rereadPointer old)) := by
  cases previous with
  | none => exact ⟨.ok (), world.pointer, rfl, fun _ => rfl, by simp⟩
  | some old =>
    unfold restorePointer
    simp only
    cases written : writeReportPointer fate.restorePointer old with
    | ok bytes =>
      refine ⟨.ok (), some bytes, rfl, by simp, fun _ => ⟨rfl, ?_⟩⟩
      rintro other ⟨⟩
      exact readReportPointer_written written
    | error error =>
      have lost : ¬ Restorable fate (some old) := by
        intro restorable
        obtain ⟨bytes, there⟩ := restorable old rfl
        rw [written] at there
        cases there
      cases error with
      | osError => exact ⟨_, world.pointer, rfl, by simp, fun restorable => absurd restorable lost⟩
      | unicodeEncodeError =>
        exact ⟨_, world.pointer, rfl, by simp, fun restorable => absurd restorable lost⟩

/-- The three stores after the transaction: `previous` is put back in compensation. -/
structure SaveEnded (server : SettingsServer) (fate : SaveFate) (request : AppSettingsUpdate)
    (token : Text) (current : Option AppSettings) (saved : AppSettings)
    (previous : Option (Option Text)) (world last : SettingsWorld) : Prop where
  row : last.row = if fate.transaction.durable then some saved else world.row
  keys : last.keys = world.keys
  deletes : Restorable fate previous →
    last.deletes = (scheduled server fate request token current).toList ++ world.deletes
  kept : compensates fate.transaction = false ∨ previous = none → last.pointer = world.pointer
  putBack : Restorable fate previous → compensates fate.transaction = true →
    ∀ old ∈ previous, readReportPointer last.pointer = some (rereadPointer old)

theorem adopted_row (saved : AppSettings) (world : SettingsWorld) :
    adopted fate saved world =
      { world with row := if fate.transaction.durable then some saved else world.row } := by
  unfold adopted
  split <;> rfl

theorem commitSettings_world (saved : AppSettings) (previous : Option (Option Text))
    (world : SettingsWorld) :
    SaveEnded server fate request token current saved previous world
      ((commitSettings server fate request token current saved previous).run world).2 := by
  have put : (fun world => if fate.transaction.durable then { world with row := some saved }
      else world) = adopted fate saved := rfl
  have replaced := @cleanupReplacedSlots_world request current (adopted fate saved world)
  obtain ⟨result, file, restore, kept, reread⟩ :=
    @restorePointer_world fate previous (adopted fate saved world)
  have fresh := @cleanupUnadoptedFreshSlot_world server request token current
    { adopted fate saved world with pointer := file }
  rw [adopted_row] at replaced restore kept fresh
  dsimp only at replaced restore kept fresh
  -- After a durable commit that is known: the replaced slot goes.
  have left : compensates fate.transaction = false → ∀ body : Save Unit,
      (body.run (adopted fate saved world)).2 =
        ((cleanupReplacedSlots request current).run (adopted fate saved world)).2 →
      SaveEnded server fate request token current saved previous world
        (body.run (adopted fate saved world)).2 := by
    intro does body same
    rw [same, adopted_row, replaced]
    exact ⟨rfl, rfl, by simp [scheduled, does], fun _ => rfl, by simp [does]⟩
  -- Otherwise the pointer is put back, and the request's own slot goes.
  have putBack : compensates fate.transaction = true → ∀ raised : SaveRaised,
      SaveEnded server fate request token current saved previous world
        ((do
          restorePointer fate previous
          cleanupUnadoptedFreshSlot server request token current
          .raise raised : Save Unit).run (adopted fate saved world)).2 := by
    intro does raised
    have unchanged : compensates fate.transaction = false ∨ previous = none →
        file = world.pointer := by
      rw [does]
      rintro (⟨⟨⟩⟩ | without)
      exact kept without
    rw [adopted_row]
    cases result with
    | ok value =>
      simp only [Script.bind_run, restore, fresh, Script.raise_run]
      exact ⟨rfl, rfl, by simp [scheduled, does], unchanged,
        fun restorable _ => (reread restorable).2⟩
    | error error =>
      simp only [Script.bind_run, restore]
      have lost : ¬ Restorable fate previous := fun restorable => nomatch (reread restorable).1
      exact ⟨rfl, rfl, fun restorable => absurd restorable lost, unchanged,
        fun restorable => absurd restorable lost⟩
  unfold commitSettings
  rw [put, Script.write_bind_run]
  cases ended : fate.transaction.ending with
  | ok value => exact left (by simp [compensates, ended]) _ rfl
  | error error =>
    cases error with
    | error detail => exact putBack (by simp [compensates, ended]) _
    | cancelled =>
      cases committed : fate.transaction.committed with
      | true =>
        refine left (by simp [compensates, ended, committed]) _ ?_
        rw [adopted_row]
        simp only [if_true, Script.bind_run, replaced, Script.raise_run]
      | false => exact putBack (by simp [compensates, ended, committed]) _

/-- A save as a whole: refused before its transaction, or ended by it. -/
theorem settingsPut_world (now : Time) (world : SettingsWorld) :
    let last := ((settingsPut server fate request token now).run world).2
    ((∃ raised after, (prepareSave server fate request token).run world = (.error raised, after)) ∧
        SaveRefused server request token world last ∧ last.pointer = world.pointer) ∨
      ∃ previous after, (prepareSave server fate request token).run world =
          (.ok (world.row, previous), after) ∧
        PointerMoved server fate request world.row world.pointer after.pointer previous ∧
        after =
          { world with
            pointer := after.pointer
            keys := (newSlotKey server request token world.row).toList ++ world.keys } ∧
        SaveEnded server fate request token world.row
          (savedSettings server.unicode request token world.row now) previous after last := by
  intro last
  rcases prepared : (prepareSave server fate request token).run world with ⟨result, after⟩
  have began : last = ((settingsPut server fate request token now).run world).2 := rfl
  unfold settingsPut at began
  cases result with
  | error raised =>
    obtain ⟨refused, pointer⟩ := prepareSave_raised prepared
    rw [Script.bind_of_error prepared] at began
    exact .inl ⟨⟨raised, after, rfl⟩, began ▸ refused, began ▸ pointer⟩
  | ok read =>
    obtain ⟨current, previous⟩ := read
    obtain ⟨rfl, moved, only⟩ := prepareSave_returned prepared
    have ended := @commitSettings_world server fate request token world.row
      (savedSettings server.unicode request token world.row now) previous after
    rw [Script.bind_of_ok prepared, Script.bind_frame] at began
    · exact .inr ⟨previous, after, rfl, moved, only, began ▸ ended⟩
    · intro _ db
      split
      · rw [Script.bind_frame, raiseIf_world]
        intro _ db
        rw [Script.bind_frame, raiseIf_world]
        exact fun _ _ => rfl
      · rw [Script.bind_frame, raiseIf_world]
        exact fun _ _ => rfl


end

end EvoBlue.Source
