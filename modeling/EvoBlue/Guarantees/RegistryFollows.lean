import EvoBlue.Kernel.Runs
import EvoBlue.Source.AsrRegistration

/-!
# The provider registry follows disk and settings

After a reconcile a managed id has an instance built from the current signature when that build
succeeded, and nothing of this module otherwise. A build that fails while an instance of this
module is registered leaves that instance, which the record then forgets.
-/

namespace EvoBlue.Guarantees

open EvoBlue.Kernel EvoBlue.Source

/-- What a reconcile with these inputs is to leave of one managed provider. -/
structure FollowsInputs (inputs : AsrInputs) (provider : ManagedProvider)
    (before after : ProviderRegistry) : Prop where
  registered : (∃ signature built, inputs.signature provider = some signature ∧
      after.registry provider.providerId = some built ∧
      built.builtFrom = some (provider.providerId, signature)) ↔
    ∃ signature, inputs.signature provider = some signature ∧
      after.lastBuild provider.providerId signature = some true
  cleared : (∀ signature, inputs.signature provider = some signature →
      after.lastBuild provider.providerId signature = some false) →
    ∀ built origin, after.registry provider.providerId = some built → built.builtFrom = some origin →
      inputs.signature provider = some origin.2
  kept : inputs.signature provider = none → ∀ other, before.registry provider.providerId = some other →
    other.builtFrom = none → after.registry provider.providerId = some other

/-- Every build that fails finds nothing of this module under its id, and nobody else registers
an instance that this module built. -/
def Clears (state : ProviderRegistry) : RegistryEvent → Prop
  | .reconcile inputs retryFailedLoads loads =>
    ∀ provider signature, inputs.signature provider = some signature → loads provider = false →
      (if retryFailedLoads then state.dropKnownBad else state).isSettled provider.providerId signature = true ∨
        ∀ there, state.registry provider.providerId = some there → there.builtFrom = none
  | .register _ provider => provider.builtFrom = none
  | .forget _ => True
  | .unregister _ => True

/-- The record of one id: an instance of this module that is registered is the recorded one, which
was built for the id from the recorded signature, and the record is that of the last build. -/
structure OwnedAt (state : ProviderRegistry) (providerId : String) : Prop where
  ours : ∀ built origin, state.registry providerId = some built → built.builtFrom = some origin →
    ∃ signature, state.managed providerId = some (signature, some built)
  origin : ∀ signature built, state.managed providerId = some (signature, some built) →
    built.builtFrom = some (providerId, signature)
  tried : ∀ signature owned, state.managed providerId = some (signature, owned) →
    state.lastBuild providerId signature = some owned.isSome

section

variable {state after : ProviderRegistry} {providerId : String}

theorem OwnedAt.of_same (same : ProviderRegistry.SameAt providerId state after)
    (owned : OwnedAt state providerId) : OwnedAt after providerId where
  ours built origin there := by
    rw [same.registry] at there
    rw [same.managed]
    exact owned.ours built origin there
  origin signature built recorded := by
    rw [same.managed] at recorded
    exact owned.origin signature built recorded
  tried signature entry recorded := by
    rw [same.managed] at recorded
    rw [same.builds]
    exact owned.tried signature entry recorded

theorem OwnedAt.dropKnownBad (owned : OwnedAt state providerId) : OwnedAt state.dropKnownBad providerId where
  ours built origin there isOurs := by
    obtain ⟨signature, recorded⟩ := owned.ours built origin there isOurs
    refine ⟨signature, ?_⟩
    unfold ProviderRegistry.dropKnownBad
    dsimp only
    rw [recorded]
    rfl
  origin signature built recorded := owned.origin signature built (Option.filter_eq_some_iff.1 recorded).1
  tried signature entry recorded := owned.tried signature entry (Option.filter_eq_some_iff.1 recorded).1

/-! ## Forgetting -/

/-- After it, nothing of this module is registered or recorded; what others registered stays. -/
theorem forgotten (owned : OwnedAt state providerId) :
    (state.forgetManaged providerId).managed providerId = none ∧
    (∀ built origin, (state.forgetManaged providerId).registry providerId = some built →
      built.builtFrom ≠ some origin) ∧
    ∀ other, state.registry providerId = some other → other.builtFrom = none →
      (state.forgetManaged providerId).registry providerId = some other := by
  unfold ProviderRegistry.forgetManaged
  cases recorded : state.managed providerId with
  | none =>
    refine ⟨recorded, fun built origin there isOurs => ?_, fun _ there _ => there⟩
    obtain ⟨_, found⟩ := owned.ours built origin there isOurs
    rw [recorded] at found
    cases found
  | some entry =>
    obtain ⟨signature, held⟩ := entry
    dsimp only
    split
    next removed =>
      rw [Bool.and_eq_true, decide_eq_true_eq] at removed
      refine ⟨Function.update_self .., fun built origin there => ?_, fun other there foreign => ?_⟩
      · have gone : ((state.setManaged providerId none).unregister providerId).registry providerId = none :=
          Function.update_self ..
        rw [gone] at there
        cases there
      · obtain ⟨built, rfl⟩ := Option.isSome_iff_exists.1 removed.1
        rw [removed.2, Option.some.injEq] at there
        have origin := owned.origin signature built recorded
        rw [there, foreign] at origin
        cases origin
    next kept =>
      refine ⟨Function.update_self .., fun built origin there isOurs => ?_, fun _ there _ => there⟩
      obtain ⟨_, found⟩ := owned.ours built origin there isOurs
      rw [recorded, Option.some.injEq, Prod.mk.injEq] at found
      apply kept
      rw [found.2, Bool.and_eq_true, decide_eq_true_eq]
      exact ⟨rfl, there⟩

theorem ownedAt_forget (owned : OwnedAt state providerId) :
    OwnedAt (state.forgetManaged providerId) providerId := by
  obtain ⟨gone, none_, _⟩ := forgotten owned
  constructor
  · exact fun built origin there isOurs => absurd isOurs (none_ built origin there)
  · intro signature built recorded
    rw [gone] at recorded
    cases recorded
  · intro signature entry recorded
    rw [gone] at recorded
    cases recorded

/-! ## Building -/

theorem lastBuild_rebuild (signature : String) (loads : Bool) :
    (state.rebuild providerId signature loads).lastBuild providerId signature = some loads := by
  unfold ProviderRegistry.rebuild ProviderRegistry.lastBuild
  cases loads <;> simp [ProviderRegistry.register, ProviderRegistry.setManaged]

theorem rebuild_true (signature : String) : ∃ built,
    (state.rebuild providerId signature true).registry providerId = some built ∧
    (state.rebuild providerId signature true).managed providerId = some (signature, some built) ∧
    built.builtFrom = some (providerId, signature) :=
  ⟨_, Function.update_self .., Function.update_self .., rfl⟩

theorem rebuild_false (signature : String) :
    (state.rebuild providerId signature false).registry providerId = state.registry providerId ∧
    (state.rebuild providerId signature false).managed providerId = some (signature, none) :=
  ⟨rfl, Function.update_self ..⟩

theorem ownedAt_rebuild {signature : String} {loads : Bool}
    (clears : loads = false → ∀ there, state.registry providerId = some there → there.builtFrom = none) :
    OwnedAt (state.rebuild providerId signature loads) providerId := by
  cases loads with
  | true =>
    obtain ⟨built, there, recorded, origin⟩ := @rebuild_true state providerId signature
    constructor
    · intro other _ registered _
      rw [there] at registered
      exact ⟨signature, recorded.trans (by rw [Option.some.inj registered])⟩
    · intro other found known
      rw [recorded, Option.some.injEq, Prod.mk.injEq, Option.some.injEq] at known
      rw [← known.1, ← known.2]
      exact origin
    · intro other entry known
      rw [recorded, Option.some.injEq, Prod.mk.injEq] at known
      rw [← known.1, ← known.2, lastBuild_rebuild]
      rfl
  | false =>
    obtain ⟨same, recorded⟩ := @rebuild_false state providerId signature
    constructor
    · intro other origin registered isOurs
      rw [same] at registered
      rw [clears rfl other registered] at isOurs
      cases isOurs
    · intro other found known
      rw [recorded] at known
      cases known
    · intro other entry known
      rw [recorded, Option.some.injEq, Prod.mk.injEq] at known
      rw [← known.1, ← known.2, lastBuild_rebuild]
      rfl

/-! ## One provider -/

variable {inputs : AsrInputs} {provider : ManagedProvider} {loads : Bool}

/-- The build, if there is to be one, finds nothing of this module when it fails. -/
def ClearsAt (inputs : AsrInputs) (provider : ManagedProvider) (loads : Bool) (state : ProviderRegistry) :
    Prop :=
  ∀ signature, inputs.signature provider = some signature → loads = false →
    state.isSettled provider.providerId signature = true ∨
      ∀ there, state.registry provider.providerId = some there → there.builtFrom = none

theorem settled_cases {signature : String} (settled : state.isSettled providerId signature = true) :
    ∃ held, state.managed providerId = some (signature, held) ∧
      (held = none ∨ state.registry providerId = held) := by
  unfold ProviderRegistry.isSettled at settled
  split at settled
  · cases settled
  next known held recorded =>
    rw [Bool.and_eq_true, Bool.or_eq_true, decide_eq_true_eq, decide_eq_true_eq,
      Option.isNone_iff_eq_none] at settled
    obtain ⟨rfl, shape⟩ := settled
    exact ⟨held, recorded, shape⟩

/-- With inputs that are not usable. -/
theorem follows_of_unusable (owned : OwnedAt state provider.providerId)
    (unusable : inputs.signature provider = none) :
    FollowsInputs inputs provider state (state.forgetManaged provider.providerId) := by
  obtain ⟨_, none_, kept⟩ := forgotten owned
  constructor
  · rw [unusable]
    simp
  · exact fun _ built origin there isOurs => absurd isOurs (none_ built origin there)
  · exact fun _ => kept

/-- Nothing is built while the record is settled. -/
theorem follows_of_settled (owned : OwnedAt state provider.providerId) {signature : String}
    (usable : inputs.signature provider = some signature)
    (settled : state.isSettled provider.providerId signature = true) :
    FollowsInputs inputs provider state state := by
  obtain ⟨held, recorded, shape⟩ := settled_cases settled
  have tried := owned.tried signature held recorded
  cases held with
  | none =>
    have foreign : ∀ built origin, state.registry provider.providerId = some built →
        built.builtFrom ≠ some origin := by
      intro built origin there isOurs
      obtain ⟨_, found⟩ := owned.ours built origin there isOurs
      rw [recorded] at found
      cases found
    constructor
    · constructor
      · rintro ⟨_, built, _, there, isOurs⟩
        exact absurd isOurs (foreign built _ there)
      · rintro ⟨other, known, succeeded⟩
        rw [usable, Option.some.injEq] at known
        rw [← known, tried] at succeeded
        cases succeeded
    · exact fun _ built origin there isOurs => absurd isOurs (foreign built origin there)
    · intro unusable
      rw [usable] at unusable
      cases unusable
  | some built =>
    have there := shape.resolve_left nofun
    constructor
    · constructor
      · exact fun _ => ⟨signature, usable, tried⟩
      · exact fun _ => ⟨signature, built, usable, there, owned.origin signature built recorded⟩
    · intro failed
      have none_ := failed signature usable
      rw [tried] at none_
      cases none_
    · intro unusable
      rw [usable] at unusable
      cases unusable

/-- A build that succeeds is registered; one that fails leaves what is there. -/
theorem follows_of_rebuilt (owned : OwnedAt state provider.providerId) {signature : String}
    (usable : inputs.signature provider = some signature) :
    FollowsInputs inputs provider state (state.rebuild provider.providerId signature loads) ↔
      (loads = false → ∀ there, state.registry provider.providerId = some there →
        there.builtFrom = none) := by
  have last := @lastBuild_rebuild state provider.providerId signature loads
  have impossible (unusable : inputs.signature provider = none) : False := by
    rw [usable] at unusable
    cases unusable
  cases loads with
  | true =>
    obtain ⟨built, there, _, origin⟩ := @rebuild_true state provider.providerId signature
    have follows : FollowsInputs inputs provider state
        (state.rebuild provider.providerId signature true) := by
      refine ⟨?_, ?_, fun unusable => (impossible unusable).elim⟩
      · constructor
        · exact fun _ => ⟨signature, usable, last⟩
        · exact fun _ => ⟨signature, built, usable, there, origin⟩
      · intro failed
        have none_ := failed signature usable
        rw [last] at none_
        cases none_
    constructor
    · intro _ no
      cases no
    · exact fun _ => follows
  | false =>
    obtain ⟨same, _⟩ := @rebuild_false state provider.providerId signature
    have failed : ∀ other, inputs.signature provider = some other →
        (state.rebuild provider.providerId signature false).lastBuild provider.providerId other =
          some false := by
      intro other known
      rw [usable, Option.some.injEq] at known
      rw [← known, last]
    constructor
    · rintro follows _ there registered
      by_contra isOurs
      obtain ⟨origin, isOurs⟩ := Option.ne_none_iff_exists'.1 isOurs
      obtain ⟨known, recorded⟩ := owned.ours there origin registered isOurs
      have from_ := owned.origin known there recorded
      rw [← same] at registered
      have current := follows.cleared failed there origin registered isOurs
      -- an instance from this very signature is registered, although its build has failed
      obtain ⟨other, knownOther, succeeded⟩ := follows.registered.1
        ⟨origin.2, there, current, registered, by rw [isOurs] at from_; rw [isOurs, Option.some.inj from_]⟩
      rw [failed other knownOther] at succeeded
      cases succeeded
    · intro clears
      have foreign : ∀ built origin,
          (state.rebuild provider.providerId signature false).registry provider.providerId = some built →
          built.builtFrom ≠ some origin := by
        intro built origin there isOurs
        rw [same] at there
        rw [clears rfl built there] at isOurs
        cases isOurs
      refine ⟨?_, ?_, fun unusable => (impossible unusable).elim⟩
      · constructor
        · rintro ⟨_, built, _, there, isOurs⟩
          exact absurd isOurs (foreign built _ there)
        · rintro ⟨other, known, succeeded⟩
          rw [failed other known] at succeeded
          cases succeeded
      · exact fun _ built origin there isOurs => absurd isOurs (foreign built origin there)

theorem reconcileManaged_follows (owned : OwnedAt state provider.providerId) :
    FollowsInputs inputs provider state
        (state.reconcileManaged provider.providerId (inputs.signature provider) loads) ↔
      ClearsAt inputs provider loads state := by
  unfold ProviderRegistry.reconcileManaged ClearsAt
  cases usable : inputs.signature provider with
  | none => exact ⟨fun _ _ no => (nomatch no), fun _ => follows_of_unusable owned usable⟩
  | some signature =>
    dsimp only
    split
    next settled =>
      refine ⟨fun _ other same _ => ?_, fun _ => follows_of_settled owned usable settled⟩
      rw [← Option.some.inj same]
      exact .inl settled
    next unsettled =>
      rw [follows_of_rebuilt owned usable]
      constructor
      · exact fun clears other _ failed => .inr (clears failed)
      · exact fun clears failed => (clears signature rfl failed).resolve_left unsettled

theorem ownedAt_reconcile (owned : OwnedAt state provider.providerId)
    (clears : ClearsAt inputs provider loads state) :
    OwnedAt (state.reconcileManaged provider.providerId (inputs.signature provider) loads)
      provider.providerId := by
  unfold ProviderRegistry.reconcileManaged
  unfold ClearsAt at clears
  cases usable : inputs.signature provider with
  | none => exact ownedAt_forget owned
  | some signature =>
    dsimp only
    split
    next => exact owned
    next unsettled =>
      exact ownedAt_rebuild fun failed => (clears signature usable failed).resolve_left unsettled

theorem FollowsInputs.of_same {before reached left : ProviderRegistry}
    (same : reached.registry provider.providerId = before.registry provider.providerId)
    (sameAfter : ProviderRegistry.SameAt provider.providerId after left) :
    FollowsInputs inputs provider before left ↔ FollowsInputs inputs provider reached after := by
  constructor
  · rintro ⟨registered, cleared, kept⟩
    simp only [sameAfter.registry, sameAfter.builds, ← same] at registered cleared kept
    exact ⟨registered, cleared, kept⟩
  · rintro ⟨registered, cleared, kept⟩
    constructor
    · simp only [sameAfter.registry, sameAfter.builds]
      exact registered
    · simp only [sameAfter.registry, sameAfter.builds]
      exact cleared
    · simp only [sameAfter.registry, ← same]
      exact kept

/-! ## A call -/

section

variable {inputs : AsrInputs} {retryFailedLoads : Bool} {loads : ManagedProvider → Bool}

theorem ownedAt_retried (owned : ∀ providerId, OwnedAt state providerId) (providerId : String) :
    OwnedAt (if retryFailedLoads then state.dropKnownBad else state) providerId := by
  split
  · exact (owned providerId).dropKnownBad
  · exact owned providerId

theorem retried_registry :
    (if retryFailedLoads then state.dropKnownBad else state).registry = state.registry := by
  split <;> rfl

theorem isSettled_same {reached : ProviderRegistry} {signature : String}
    (same : ProviderRegistry.SameAt providerId state reached) :
    reached.isSettled providerId signature = state.isSettled providerId signature := by
  unfold ProviderRegistry.isSettled
  rw [same.managed, same.registry]

theorem clearsAt_same {reached : ProviderRegistry} {provider : ManagedProvider} {loads : Bool}
    (same : ProviderRegistry.SameAt provider.providerId
      (if retryFailedLoads then state.dropKnownBad else state) reached) :
    ClearsAt inputs provider loads reached ↔
      ∀ signature, inputs.signature provider = some signature → loads = false →
        (if retryFailedLoads then state.dropKnownBad else state).isSettled provider.providerId signature
            = true ∨
          ∀ there, state.registry provider.providerId = some there → there.builtFrom = none := by
  unfold ClearsAt
  simp only [isSettled_same same, same.registry, retried_registry]

/-- A call leaves every managed provider as its inputs have it exactly when each build that fails
finds nothing of this module. -/
theorem registerAvailable_follows (owned : ∀ providerId, OwnedAt state providerId) :
    (∀ provider, FollowsInputs inputs provider state
      (state.registerAvailable inputs retryFailedLoads loads)) ↔
      Clears state (.reconcile inputs retryFailedLoads loads) := by
  apply forall_congr'
  intro provider
  obtain ⟨reached, same, leaves⟩ := @ProviderRegistry.registerAvailable_at state inputs loads provider
    retryFailedLoads
  have registry : reached.registry provider.providerId = state.registry provider.providerId := by
    rw [same.registry, retried_registry]
  rw [FollowsInputs.of_same registry leaves,
    reconcileManaged_follows ((ownedAt_retried owned _).of_same same), clearsAt_same same]

theorem ownedAt_registerAvailable (owned : ∀ providerId, OwnedAt state providerId)
    (clears : Clears state (.reconcile inputs retryFailedLoads loads)) (providerId : String) :
    OwnedAt (state.registerAvailable inputs retryFailedLoads loads) providerId := by
  by_cases managed : ∃ provider : ManagedProvider, provider.providerId = providerId
  · obtain ⟨provider, rfl⟩ := managed
    obtain ⟨reached, same, leaves⟩ := @ProviderRegistry.registerAvailable_at state inputs loads provider
      retryFailedLoads
    have reachedOwned := (ownedAt_retried owned _).of_same same
    exact (ownedAt_reconcile reachedOwned ((clearsAt_same same).2 (clears provider))).of_same leaves
  · apply (ownedAt_retried owned providerId).of_same
    apply ProviderRegistry.registerAvailable_other
    intro provider same
    exact managed ⟨provider, same.symm⟩

end

/-! ## Runs -/

/-- Step lemma: the records stay those of what is registered. -/
theorem ownedAt_step (event : RegistryEvent) (clears : Clears state event)
    (owned : ∀ providerId, OwnedAt state providerId) (providerId : String) :
    OwnedAt (registryStep state event) providerId := by
  cases event with
  | reconcile inputs retryFailedLoads loads => exact ownedAt_registerAvailable owned clears providerId
  | forget other =>
    by_cases same : providerId = other
    · subst same
      exact ownedAt_forget (owned providerId)
    · exact (owned providerId).of_same (ProviderRegistry.forgetManaged_other same)
  | register other provider =>
    by_cases same : providerId = other
    · subst same
      refine ⟨fun built origin there isOurs => ?_, (owned providerId).origin, (owned providerId).tried⟩
      change Function.update state.registry providerId (some provider) providerId = some built at there
      rw [Function.update_self, Option.some.injEq] at there
      rw [← there, show provider.builtFrom = none from clears] at isOurs
      cases isOurs
    · exact (owned providerId).of_same ⟨Function.update_of_ne same _ _, rfl, fun _ => rfl⟩
  | unregister other =>
    by_cases same : providerId = other
    · subst same
      refine ⟨fun built origin there isOurs => ?_, (owned providerId).origin, (owned providerId).tried⟩
      change Function.update state.registry providerId none providerId = some built at there
      rw [Function.update_self] at there
      cases there
    · exact (owned providerId).of_same ⟨Function.update_of_ne same _ _, rfl, fun _ => rfl⟩

theorem ownedAt_empty (providerId : String) : OwnedAt {} providerId where
  ours _ _ there := nomatch there
  origin _ _ recorded := nomatch recorded
  tried _ _ recorded := nomatch recorded

end

/-- In every run whose steps so far have met the condition, a reconcile leaves every managed
provider as its inputs have it exactly when it meets the condition too. -/
theorem registry_follows_iff {events : List RegistryEvent} (meets : Meets registryStep Clears {} events)
    (inputs : AsrInputs) (retryFailedLoads : Bool) (loads : ManagedProvider → Bool) :
    (∀ provider, FollowsInputs inputs provider (run registryStep {} events)
      (registryStep (run registryStep {} events) (.reconcile inputs retryFailedLoads loads))) ↔
      Clears (run registryStep {} events) (.reconcile inputs retryFailedLoads loads) := by
  have owned : ∀ providerId, OwnedAt (run registryStep {} events) providerId :=
    @run_of_meets _ _ registryStep Clears (fun state => ∀ providerId, OwnedAt state providerId)
      (fun state event clears owned => ownedAt_step event clears owned) _ _ ownedAt_empty meets
  exact registerAvailable_follows owned

/-! ## Another model directory -/

/-- The sherpa tiers under this model directory, and no whisper CLI. -/
def tierInputs (modelDir : String) : AsrInputs where
  modelDir := some modelDir
  whisperCppExecutable := none
  isFile _ := true
  isDir _ := true
  vadModel := some "vad.onnx"
  sherpaImportable := true

theorem registry_follows_reloaded : FollowsInputs (tierInputs "other") .standard
    (run registryStep {} [.reconcile (tierInputs "models") false fun _ => true])
    (registryStep (run registryStep {} [.reconcile (tierInputs "models") false fun _ => true])
      (.reconcile (tierInputs "other") false fun _ => true)) := by
  have meets : Meets registryStep Clears {} [.reconcile (tierInputs "models") false fun _ => true] :=
    ⟨fun _ _ _ no => (nomatch no), trivial⟩
  have clears : Clears (run registryStep {} [.reconcile (tierInputs "models") false fun _ => true])
      (.reconcile (tierInputs "other") false fun _ => true) := fun _ _ _ no => nomatch no
  exact (registry_follows_iff meets (tierInputs "other") false fun _ => true).2 clears .standard

/-- The weights of the standard tier load from the first directory and not from the second. -/
def firstAlone : RegistryEvent :=
  .reconcile (tierInputs "other") false fun provider => decide (provider ≠ .standard)

/-- The model directory is edited and the tier fails to load: the provider of the old one stays. -/
theorem stale_provider_stays : ¬ ∀ provider, FollowsInputs (tierInputs "other") provider
    (run registryStep {} [.reconcile (tierInputs "models") false fun _ => true])
    (registryStep (run registryStep {} [.reconcile (tierInputs "models") false fun _ => true])
      firstAlone) := by
  intro follows
  have ended : ((tierInputs "other").signature .standard).all (fun signature =>
      (registryStep (run registryStep {} [.reconcile (tierInputs "models") false fun _ => true])
        firstAlone).lastBuild "sherpa-onnx-standard" signature = some false) = true := by
    decide +kernel
  have there : (registryStep (run registryStep {} [.reconcile (tierInputs "models") false fun _ => true])
      firstAlone).registry "sherpa-onnx-standard" =
      some ⟨some ("sherpa-onnx-standard",
        "dir=models/sensevoice-small-int8/2024-07-17|vad=vad.onnx"), 0⟩ := by
    decide +kernel
  have current := (follows .standard).cleared (fun signature usable => by
    rw [usable, Option.all_some, decide_eq_true_eq] at ended
    exact ended) _ _ there rfl
  revert current
  decide +kernel

end EvoBlue.Guarantees
