import EvoBlue.Kernel.Text

/-!
# Choosing an ASR provider

`asr/routing.py`, with the built-in catalog of `asr/service.py` and of
`_provider_options` in `runtime/handlers.py`. The approval flag `formal_default`
decides nothing here and is left out, as is `tier`.
-/

namespace EvoBlue.Source

open EvoBlue.Kernel

def sensevoiceLanguages : List Text := ["zh", "en", "ja", "ko", "yue"].map text

def qwen3Languages : List Text :=
  ["zh", "en", "yue", "ar", "de", "fr", "es", "pt", "id", "it", "ko", "ru", "th", "vi", "ja", "tr",
    "hi", "ms", "nl", "sv", "da", "fi", "pl", "cs", "fil", "fa", "el", "hu", "mk", "ro"].map text

structure ProviderOption where
  providerId : String
  modelId : String
  modelVersion : String
  languages : List Text
  installed : Bool
  deriving DecidableEq

structure RoutingDecision where
  providerId : String
  modelId : String
  modelVersion : String
  installed : Bool
  recommendation : Bool
  deriving DecidableEq, Repr

/-- `normalize_language`. -/
def normalizeLanguage (unicode : UnicodeData) : Option String → Option Text
  | none => none
  | some language =>
    if language = "" || ["auto", "unknown", "und"].any (lower unicode (text language) = text ·) then
      none
    else
      let lowered := lower unicode (strip (text language))
      let dashed := lowered.map fun c => if c = cp '_' then cp '-' else c
      let token := dashed.takeWhile fun c => c ≠ cp '-'
      if token = text "cmn" || token = text "zho" then some (text "zh")
      else if token = text "cantonese" then some (text "yue")
      else some token

/-- `_supports`. -/
def supports (option : ProviderOption) (language : Option Text) : Bool :=
  match language with
  | none => true
  | some language => option.languages.contains (text "*") || option.languages.contains language

/-- `_decision`. -/
def decision (option : ProviderOption) : RoutingDecision where
  providerId := option.providerId
  modelId := option.modelId
  modelVersion := option.modelVersion
  installed := option.installed
  recommendation := !option.installed

/-- `by_provider.get`: a later option of the same id replaces an earlier one. -/
def byProvider (options : List ProviderOption) (providerId : String) : Option ProviderOption :=
  options.reverse.find? fun option => option.providerId = providerId

/-- `lang in SENSEVOICE_LANGUAGES or lang is None`. -/
def isSensevoice (language : Option Text) : Bool :=
  match language with
  | none => true
  | some language => sensevoiceLanguages.contains language

/-- The first ready option in the order of preference. -/
def preferredOption (language : Option Text) (installed : List ProviderOption) :
    Option ProviderOption :=
  (if isSensevoice language then
      ["sherpa-onnx-standard", "sherpa-onnx-qwen3", "sherpa-onnx-lite", "whisper-cpp-base"]
    else ["sherpa-onnx-qwen3", "whisper-cpp-base"]).findSome? fun providerId =>
      installed.find? fun option => option.providerId = providerId

/-- `route_asr`; `none` is its `ValueError`. -/
def routeAsr (unicode : UnicodeData) (language : Option String) (preference : String)
    (options : List ProviderOption) : Option RoutingDecision :=
  let lang := normalizeLanguage unicode language
  if preference ≠ "auto" then
    match byProvider options preference with
    | none => none
    | some pinned => if supports pinned lang then some (decision pinned) else none
  else
    let compatible := options.filter fun option => supports option lang
    match preferredOption lang (compatible.filter (·.installed)) with
    | some option => some (decision option)
    | none =>
      -- An explicit recommendation: it never starts a download.
      (byProvider options
        (if isSensevoice lang then "sherpa-onnx-standard" else "whisper-cpp-base")).map decision

/-- `_MODEL_PROVIDER_IDS`. -/
def modelProviderIds : List (String × String) :=
  [("zipformer-ctc-small-zh-int8", "sherpa-onnx-lite"),
    ("sensevoice-small-int8", "sherpa-onnx-standard"),
    ("whisper-cpp-base", "whisper-cpp-base"),
    ("qwen3-asr-0.6b-int8", "sherpa-onnx-qwen3")]

def providerOfModel (modelId : String) : Option String :=
  (modelProviderIds.find? fun entry => entry.1 = modelId).map (·.2)

/-- A built-in option of `_provider_options`, ready when its provider is
registered and its model has an install record. -/
def builtinOption (providerId modelId modelVersion : String) (languages : List Text)
    (installedIds installedModels : List String) : ProviderOption where
  providerId := providerId
  modelId := modelId
  modelVersion := modelVersion
  languages := languages
  installed := installedIds.contains providerId && installedModels.contains modelId

/-- The four options of the catalog. -/
def builtinOptions (installedIds installedModels : List String) : List ProviderOption :=
  [builtinOption "sherpa-onnx-lite" "zipformer-ctc-small-zh-int8" "2025-07-16" [text "zh"]
      installedIds installedModels,
    builtinOption "sherpa-onnx-standard" "sensevoice-small-int8" "2024-07-17" sensevoiceLanguages
      installedIds installedModels,
    builtinOption "sherpa-onnx-qwen3" "qwen3-asr-0.6b-int8" "2026-03-25" qwen3Languages
      installedIds installedModels,
    builtinOption "whisper-cpp-base" "whisper-cpp-base" "80da2d8" [text "*"]
      installedIds installedModels]

/-! ## What a decision says -/

/-- The decision was taken from one of the options. -/
theorem routeAsr_from {unicode : UnicodeData} {language : Option String} {preference : String}
    {options : List ProviderOption} {routed : RoutingDecision}
    (chosen : routeAsr unicode language preference options = some routed) :
    ∃ option ∈ options, routed = decision option := by
  have known : ∀ providerId option, byProvider options providerId = some option →
      option ∈ options := by
    intro providerId option found
    exact List.mem_reverse.1 (List.mem_of_find?_eq_some found)
  unfold routeAsr at chosen
  simp only at chosen
  split at chosen
  · split at chosen
    · cases chosen
    next pinned found =>
      split at chosen
      · exact ⟨pinned, known _ _ found, (Option.some.inj chosen).symm⟩
      · cases chosen
  · split at chosen
    next option preferred =>
      obtain ⟨providerId, _, found⟩ := List.exists_of_findSome?_eq_some preferred
      have mem := List.mem_of_find?_eq_some found
      exact ⟨option, (List.mem_filter.1 (List.mem_filter.1 mem).1).1, (Option.some.inj chosen).symm⟩
    next =>
      obtain ⟨option, found, same⟩ := Option.map_eq_some_iff.1 chosen
      exact ⟨option, known _ _ found, same.symm⟩

/-- The models of the catalog are the ones an install wakes jobs for. -/
theorem builtinOptions_known {installedIds installedModels : List String} {option : ProviderOption}
    (mem : option ∈ builtinOptions installedIds installedModels) :
    providerOfModel option.modelId = some option.providerId ∧
      option.installed = (installedIds.contains option.providerId &&
        installedModels.contains option.modelId) := by
  simp only [builtinOptions, List.mem_cons, List.not_mem_nil, or_false] at mem
  rcases mem with rfl | rfl | rfl | rfl
  all_goals exact ⟨by simp [providerOfModel, modelProviderIds, builtinOption], rfl⟩

end EvoBlue.Source
