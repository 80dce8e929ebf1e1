import Mathlib.Logic.Function.Basic

/-!
# The provider registry

`asr/registry.py` and `asr/registration.py`: a registry of instances by provider id, which
anybody may write to, and the record of what this module built from which signature. A signature
spells out the inputs of a provider while they are usable. Which builds succeed comes from outside.
-/

namespace EvoBlue.Source

/-! ## Inputs -/

inductive ManagedProvider where
  | whisper
  | standard
  | lite
  | qwen3
  deriving DecidableEq, Repr

def ManagedProvider.providerId : ManagedProvider → String
  | .whisper => "whisper-cpp-base"
  | .standard => "sherpa-onnx-standard"
  | .lite => "sherpa-onnx-lite"
  | .qwen3 => "sherpa-onnx-qwen3"

/-- Settings and disk, as far as the registration looks at them. -/
structure AsrInputs where
  modelDir : Option String
  whisperCppExecutable : Option String
  isFile : String → Bool
  isDir : String → Bool
  /-- `bundled_silero_vad()`. -/
  vadModel : Option String
  sherpaImportable : Bool

namespace AsrInputs

variable (inputs : AsrInputs)

def whisperSignature : Option String :=
  match inputs.modelDir, inputs.whisperCppExecutable with
  | some modelDir, some executable =>
    let modelFile := modelDir ++ "/whisper-cpp-base/80da2d8/ggml-base.bin"
    if executable ≠ "" && inputs.isFile executable && inputs.isFile modelFile then
      some s!"cli={executable}|model={modelFile}"
    else none
  | _, _ => none

/-- `_tier_signature` and `_qwen3_signature`, by the files they require. -/
def tierSignature (required : List String) (tierDir vad : String) : Option String :=
  if required.all fun relative => inputs.isFile (tierDir ++ "/" ++ relative) then
    some s!"dir={tierDir}|vad={vad}"
  else none

/-- The signature of a sherpa tier; without a verified VAD there is none. -/
def sherpaSignature (subdir : String) (required : List String) : Option String :=
  match inputs.modelDir, inputs.vadModel with
  | some modelDir, some vad =>
    if inputs.isDir modelDir && inputs.sherpaImportable then
      inputs.tierSignature required (modelDir ++ "/" ++ subdir) vad
    else none
  | _, _ => none

def signature : ManagedProvider → Option String
  | .whisper => inputs.whisperSignature
  | .standard =>
    inputs.sherpaSignature "sensevoice-small-int8/2024-07-17" ["model.int8.onnx", "tokens.txt"]
  | .lite =>
    inputs.sherpaSignature "zipformer-ctc-small-zh-int8/2025-07-16" ["model.int8.onnx", "tokens.txt"]
  | .qwen3 =>
    inputs.sherpaSignature "qwen3-asr-0.6b-int8/2026-03-25"
      ["conv_frontend.onnx", "encoder.int8.onnx", "decoder.int8.onnx", "tokenizer/vocab.json",
        "tokenizer/merges.txt", "tokenizer/tokenizer_config.json"]

end AsrInputs

/-! ## The registry -/

/-- An instance, which is the same as another only if it is that one. -/
structure ProviderInstance where
  /-- The id and the signature this module built it for; nothing for one made elsewhere. -/
  builtFrom : Option (String × String)
  serial : Nat
  deriving DecidableEq

/-- One call of `build()`. -/
structure ProviderBuild where
  providerId : String
  signature : String
  succeeded : Bool
  deriving DecidableEq

structure ProviderRegistry where
  /-- `_REGISTRY`. -/
  registry : String → Option ProviderInstance := fun _ => none
  /-- `_MANAGED`. -/
  managed : String → Option (String × Option ProviderInstance) := fun _ => none
  /-- The builds so far, the last one first. -/
  builds : List ProviderBuild := []

namespace ProviderRegistry

variable (state : ProviderRegistry)

/-- How the last build from this signature went. -/
def lastBuild (providerId signature : String) : Option Bool :=
  (state.builds.find? fun build => build.providerId = providerId && build.signature = signature).map
    (·.succeeded)

/-- `register_provider`. -/
def register (providerId : String) (provider : ProviderInstance) : ProviderRegistry :=
  { state with registry := Function.update state.registry providerId (some provider) }

/-- `unregister_provider`. -/
def unregister (providerId : String) : ProviderRegistry :=
  { state with registry := Function.update state.registry providerId none }

def setManaged (providerId : String) (entry : Option (String × Option ProviderInstance)) :
    ProviderRegistry :=
  { state with managed := Function.update state.managed providerId entry }

/-- `_forget_managed`. -/
def forgetManaged (providerId : String) : ProviderRegistry :=
  match state.managed providerId with
  | none => state
  | some (_, owned) =>
    let popped := state.setManaged providerId none
    if owned.isSome && state.registry providerId = owned then popped.unregister providerId else popped

/-- Known bad from these inputs, or up to date and still ours. -/
def isSettled (providerId signature : String) : Bool :=
  match state.managed providerId with
  | none => false
  | some (known, owned) =>
    known = signature && (owned.isNone || state.registry providerId = owned)

/-- `build()` and what follows it. -/
def rebuild (providerId signature : String) (loads : Bool) : ProviderRegistry :=
  let built := { state with builds := ⟨providerId, signature, loads⟩ :: state.builds }
  if loads then
    let provider : ProviderInstance := ⟨some (providerId, signature), state.builds.length⟩
    (built.register providerId provider).setManaged providerId (some (signature, some provider))
  else built.setManaged providerId (some (signature, none))

/-- `_reconcile_managed`. -/
def reconcileManaged (providerId : String) (signature : Option String) (loads : Bool) :
    ProviderRegistry :=
  match signature with
  | none => state.forgetManaged providerId
  | some signature =>
    if state.isSettled providerId signature then state
    else state.rebuild providerId signature loads

/-- Without the markers of builds that failed. -/
def dropKnownBad : ProviderRegistry :=
  { state with managed := fun providerId => (state.managed providerId).filter fun entry => entry.2.isSome }

/-- `register_available_asr_providers`. -/
def registerAvailable (inputs : AsrInputs) (retryFailedLoads : Bool) (loads : ManagedProvider → Bool) :
    ProviderRegistry :=
  [ManagedProvider.whisper, .standard, .lite, .qwen3].foldl
    (fun state provider =>
      state.reconcileManaged provider.providerId (inputs.signature provider) (loads provider))
    (if retryFailedLoads then state.dropKnownBad else state)

end ProviderRegistry

/-! ## Runs -/

inductive RegistryEvent where
  | reconcile (inputs : AsrInputs) (retryFailedLoads : Bool) (loads : ManagedProvider → Bool)
  /-- `unregister_managed_provider`. -/
  | forget (providerId : String)
  /-- Somebody else registers an instance. -/
  | register (providerId : String) (provider : ProviderInstance)
  /-- Somebody else removes a registration. -/
  | unregister (providerId : String)

def registryStep (state : ProviderRegistry) : RegistryEvent → ProviderRegistry
  | .reconcile inputs retryFailedLoads loads => state.registerAvailable inputs retryFailedLoads loads
  | .forget providerId => state.forgetManaged providerId
  | .register providerId provider => state.register providerId provider
  | .unregister providerId => state.unregister providerId

/-! ## One id at a time -/

namespace ProviderRegistry

/-- What concerns one id is the same in both. -/
structure SameAt (providerId : String) (state after : ProviderRegistry) : Prop where
  registry : after.registry providerId = state.registry providerId
  managed : after.managed providerId = state.managed providerId
  builds : ∀ signature, after.lastBuild providerId signature = state.lastBuild providerId signature

variable {state after last : ProviderRegistry} {providerId other : String}

theorem SameAt.refl (state : ProviderRegistry) : SameAt providerId state state :=
  ⟨rfl, rfl, fun _ => rfl⟩

theorem SameAt.trans (first : SameAt providerId state after) (second : SameAt providerId after last) :
    SameAt providerId state last where
  registry := second.registry.trans first.registry
  managed := second.managed.trans first.managed
  builds signature := (second.builds signature).trans (first.builds signature)

theorem forgetManaged_other (different : other ≠ providerId) :
    SameAt other state (state.forgetManaged providerId) := by
  unfold forgetManaged
  split
  · exact .refl state
  · dsimp only
    split
    · exact ⟨Function.update_of_ne different _ _, Function.update_of_ne different _ _, fun _ => rfl⟩
    · exact ⟨rfl, Function.update_of_ne different _ _, fun _ => rfl⟩

theorem lastBuild_cons {build : ProviderBuild} (different : other ≠ build.providerId) (signature : String) :
    lastBuild { state with builds := build :: state.builds } other signature =
      state.lastBuild other signature := by
  unfold lastBuild
  rw [List.find?_cons_of_neg]
  simp [Ne.symm different]

theorem rebuild_other {signature : String} {loads : Bool} (different : other ≠ providerId) :
    SameAt other state (state.rebuild providerId signature loads) := by
  unfold rebuild
  cases loads with
  | true =>
    exact ⟨Function.update_of_ne different _ _, Function.update_of_ne different _ _,
      fun _ => lastBuild_cons different _⟩
  | false => exact ⟨rfl, Function.update_of_ne different _ _, fun _ => lastBuild_cons different _⟩

theorem reconcileManaged_other {signature : Option String} {loads : Bool} (different : other ≠ providerId) :
    SameAt other state (state.reconcileManaged providerId signature loads) := by
  unfold reconcileManaged
  split
  · exact forgetManaged_other different
  · split
    · exact .refl state
    · exact rebuild_other different

theorem providerId_injective {one two : ManagedProvider} (same : one.providerId = two.providerId) :
    one = two := by
  revert same
  cases one <;> cases two <;> decide

section

variable {inputs : AsrInputs} {loads : ManagedProvider → Bool}

/-- Reconciling other providers changes nothing of this id. -/
theorem reconcileAll_other (providers : List ManagedProvider)
    (absent : ∀ provider ∈ providers, other ≠ provider.providerId) :
    SameAt other state (providers.foldl (fun state provider =>
      state.reconcileManaged provider.providerId (inputs.signature provider) (loads provider)) state) := by
  induction providers generalizing state with
  | nil => exact .refl state
  | cons first rest ih =>
    exact (reconcileManaged_other (absent first List.mem_cons_self)).trans
      (ih fun provider mem => absent provider (List.mem_cons_of_mem _ mem))

/-- What a reconcile of all leaves of one provider is what its own reconcile leaves. -/
theorem reconcileAll_at {provider : ManagedProvider} (providers : List ManagedProvider)
    (distinct : providers.Nodup) (mem : provider ∈ providers) :
    ∃ reached, SameAt provider.providerId state reached ∧
      SameAt provider.providerId
        (reached.reconcileManaged provider.providerId (inputs.signature provider) (loads provider))
        (providers.foldl (fun state provider =>
          state.reconcileManaged provider.providerId (inputs.signature provider) (loads provider)) state) := by
  induction providers generalizing state with
  | nil => cases mem
  | cons first rest ih =>
    obtain ⟨absent, distinct⟩ := List.nodup_cons.1 distinct
    rcases List.mem_cons.1 mem with rfl | later
    · refine ⟨state, .refl state, reconcileAll_other rest fun other mem same => ?_⟩
      exact absent (providerId_injective same ▸ mem)
    · have different : provider.providerId ≠ first.providerId := by
        intro same
        exact absent (providerId_injective same ▸ later)
      obtain ⟨reached, before, leaves⟩ := @ih
        (state.reconcileManaged first.providerId (inputs.signature first) (loads first)) distinct later
      exact ⟨reached, (reconcileManaged_other different).trans before, leaves⟩

theorem registerAvailable_at (provider : ManagedProvider) (retryFailedLoads : Bool) :
    ∃ reached, SameAt provider.providerId (if retryFailedLoads then state.dropKnownBad else state) reached ∧
      SameAt provider.providerId
        (reached.reconcileManaged provider.providerId (inputs.signature provider) (loads provider))
        (state.registerAvailable inputs retryFailedLoads loads) := by
  apply reconcileAll_at
  · decide
  · cases provider <;> decide

theorem registerAvailable_other (absent : ∀ provider : ManagedProvider, other ≠ provider.providerId)
    (retryFailedLoads : Bool) :
    SameAt other (if retryFailedLoads then state.dropKnownBad else state)
      (state.registerAvailable inputs retryFailedLoads loads) :=
  reconcileAll_other _ fun provider _ => absent provider

end

end ProviderRegistry

end EvoBlue.Source
