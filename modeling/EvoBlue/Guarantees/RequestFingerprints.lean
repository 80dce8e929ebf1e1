import EvoBlue.Kernel.Joined
import EvoBlue.Guarantees.CanonicalUrls

/-!
# Fingerprints of requests

A request fingerprint joins the canonical URL, the mode, the ASR choice, the language and
the fingerprint of the configuration by `|`, and that of the configuration joins its
provider, base URL, model and ASR provider. Most of these hold no `|`; three texts that a
user types may. Requests of different content share a fingerprint exactly where these
three are regrouped.
-/

namespace EvoBlue.Guarantees

open EvoBlue.Kernel EvoBlue.Source

def modes : List String := ["auto", "standard", "unboxing"]

def asrChoices : List String := ["auto", "disabled", "required"]

def asrProviders : List String :=
  ["auto", "sherpa-onnx-lite", "sherpa-onnx-standard", "sherpa-onnx-qwen3", "whisper-cpp-base"]

/-- A submission with the settings it is submitted under. -/
structure AnalysisRequest where
  canonicalUrl : String
  mode : String
  asr : String
  language : Option String
  provider : String
  baseUrl : String
  model : String
  asrProvider : String
  detected : ∃ env url ref, detectVideo env url = .ok ref ∧ ref.url = canonicalUrl
  modeListed : mode ∈ modes
  asrListed : asr ∈ asrChoices
  asrProviderListed : asrProvider ∈ asrProviders

def AnalysisRequest.fingerprint (sha256 : String → String) (request : AnalysisRequest) : String :=
  computeRequestFingerprint sha256 request.canonicalUrl request.mode request.asr request.language
    (computeConfigFingerprint sha256 request.provider request.model request.baseUrl
      request.asrProvider)

/-- All that a fingerprint should tell apart is equal. -/
structure SameRequest (one other : AnalysisRequest) : Prop where
  canonicalUrl : one.canonicalUrl = other.canonicalUrl
  mode : one.mode = other.mode
  asr : one.asr = other.asr
  language : one.language.getD "" = other.language.getD ""
  provider : one.provider = other.provider
  baseUrl : one.baseUrl = other.baseUrl
  model : one.model = other.model
  asrProvider : one.asrProvider = other.asrProvider

/-- The texts of a configuration that are free. -/
def AnalysisRequest.freeTexts (request : AnalysisRequest) : List (List Char) :=
  [request.provider.toList, request.baseUrl.toList, request.model.toList]

/-- How many `|` each of these holds. -/
def AnalysisRequest.separators (request : AnalysisRequest) : List Nat :=
  request.freeTexts.map (List.count '|')

/-- Provider, base URL and model are the same text when joined by `|`, but the `|` in it are
not spread over the three alike; all else is equal. -/
structure Regrouped (one other : AnalysisRequest) : Prop where
  canonicalUrl : one.canonicalUrl = other.canonicalUrl
  mode : one.mode = other.mode
  asr : one.asr = other.asr
  language : one.language.getD "" = other.language.getD ""
  asrProvider : one.asrProvider = other.asrProvider
  joined : ['|'].intercalate one.freeTexts = ['|'].intercalate other.freeTexts
  shifted : one.separators ≠ other.separators

/-! ## What holds no separator -/

theorem count_eq_zero_of_listed {listed : List String} {t : String}
    (plain : (listed.all fun s => s.toList.count '|' = 0) = true) (mem : t ∈ listed) :
    t.toList.count '|' = 0 := by
  simpa using List.all_eq_true.1 plain t mem

theorem canonicalUrl_count (request : AnalysisRequest) :
    request.canonicalUrl.toList.count '|' = 0 := by
  obtain ⟨env, url, ref, detected, same⟩ := request.detected
  obtain ⟨platform, videoId, accepted, whole⟩ := detectVideo_ok detected
  have spelled := text_url accepted
  rw [← whole, same] at spelled
  rw [List.count_eq_zero]
  intro mem
  have there : cp '|' ∈ canonicalUrl platform [] ++ videoId := by
    have split : canonicalUrl platform videoId = canonicalUrl platform [] ++ videoId := by
      cases platform <;> simp [canonicalUrl]
    rw [← split, ← spelled]
    exact List.mem_map_of_mem mem
  rcases List.mem_append.1 there with front | back
  · revert front
    cases platform <;> decide +kernel
  · exact not_mem_videoId accepted '|' (by decide) back

theorem mode_count (request : AnalysisRequest) : request.mode.toList.count '|' = 0 :=
  count_eq_zero_of_listed (by decide) request.modeListed

theorem asr_count (request : AnalysisRequest) : request.asr.toList.count '|' = 0 :=
  count_eq_zero_of_listed (by decide) request.asrListed

theorem asrProvider_count (request : AnalysisRequest) : request.asrProvider.toList.count '|' = 0 :=
  count_eq_zero_of_listed (by decide) request.asrProviderListed

/-! ## What is hashed -/

/-- The digest of a configuration. -/
def AnalysisRequest.configDigest (sha256 : String → String) (request : AnalysisRequest) : String :=
  computeConfigFingerprint sha256 request.provider request.model request.baseUrl request.asrProvider

def AnalysisRequest.requestPieces (sha256 : String → String) (request : AnalysisRequest) :
    List (List Char) :=
  [request.canonicalUrl.toList, request.mode.toList, request.asr.toList,
    (request.language.getD "").toList, (request.configDigest sha256).toList]

theorem fingerprint_pieces (sha256 : String → String) (request : AnalysisRequest) :
    ∃ raw, request.fingerprint sha256 = sha256 raw ∧
      raw.toList = ['|'].intercalate (request.requestPieces sha256) := by
  refine ⟨_, rfl, ?_⟩
  change (request.canonicalUrl ++ "|" ++ request.mode ++ "|" ++ request.asr ++ "|" ++
    request.language.getD "" ++ "|" ++ request.configDigest sha256).toList = _
  simp [AnalysisRequest.requestPieces, List.intercalate_cons_cons]

theorem configDigest_pieces (sha256 : String → String) (request : AnalysisRequest) :
    ∃ material, request.configDigest sha256 = sha256 material ∧
      material.toList = "pipeline-v1|report-v1|chunks-4000|".toList ++
        (['|'].intercalate request.freeTexts ++ '|' :: request.asrProvider.toList) := by
  refine ⟨_, rfl, ?_⟩
  have bar : "|".toList = ['|'] := rfl
  change ("pipeline-v1|report-v1|chunks-4000|" ++ request.provider ++ "|" ++ request.baseUrl ++ "|" ++
    request.model ++ "|" ++ request.asrProvider).toList = _
  simp only [String.toList_append, bar, AnalysisRequest.freeTexts, List.intercalate_cons_cons,
    List.intercalate_singleton, List.append_assoc, List.cons_append, List.nil_append]

variable {sha256 : String → String} {one other : AnalysisRequest}

/-- Requests of one fingerprint agree but for the grouping of the free texts. -/
theorem fingerprint_eq_iff (injective : Function.Injective sha256)
    (clean : ∀ t, '|' ∉ (sha256 t).toList) : one.fingerprint sha256 = other.fingerprint sha256 ↔
      one.canonicalUrl = other.canonicalUrl ∧ one.mode = other.mode ∧ one.asr = other.asr ∧
        one.language.getD "" = other.language.getD "" ∧ one.asrProvider = other.asrProvider ∧
        ['|'].intercalate one.freeTexts = ['|'].intercalate other.freeTexts := by
  obtain ⟨raw, hashed, rawPieces⟩ := fingerprint_pieces sha256 one
  obtain ⟨raw', hashed', rawPieces'⟩ := fingerprint_pieces sha256 other
  obtain ⟨material, digest, materialPieces⟩ := configDigest_pieces sha256 one
  obtain ⟨material', digest', materialPieces'⟩ := configDigest_pieces sha256 other
  have digestCount (request : AnalysisRequest) : (request.configDigest sha256).toList.count '|' = 0 :=
    List.count_eq_zero.2 (clean _)
  constructor
  · intro same
    rw [hashed, hashed'] at same
    have joined : ['|'].intercalate (one.requestPieces sha256) =
        ['|'].intercalate (other.requestPieces sha256) := by
      rw [← rawPieces, ← rawPieces', injective same]
    have counts : (one.requestPieces sha256).map (List.count '|') =
        (other.requestPieces sha256).map (List.count '|') := by
      have totals := congrArg (List.count '|') joined
      simp only [AnalysisRequest.requestPieces, count_intercalate, List.map_cons, List.map_nil,
        canonicalUrl_count, mode_count, asr_count, digestCount, List.sum_cons, List.sum_nil,
        List.length_cons, List.length_nil] at totals
      simp only [AnalysisRequest.requestPieces, List.map_cons, List.map_nil, canonicalUrl_count,
        mode_count, asr_count, digestCount]
      have language : (one.language.getD "").toList.count '|' =
          (other.language.getD "").toList.count '|' := by omega
      rw [language]
    have pieces := intercalate_inj_of_counts counts joined
    simp only [AnalysisRequest.requestPieces, List.cons.injEq, String.toList_inj, and_true] at pieces
    obtain ⟨url, mode, asr, language, digests⟩ := pieces
    rw [digest, digest'] at digests
    have materials := congrArg String.toList (injective digests)
    rw [materialPieces, materialPieces'] at materials
    have tails := List.append_cancel_left materials
    have fronts : (['|'].intercalate one.freeTexts).count '|' =
        (['|'].intercalate other.freeTexts).count '|' := by
      have totals := congrArg (List.count '|') tails
      rw [List.count_append, List.count_append, List.count_cons_self, List.count_cons_self,
        asrProvider_count, asrProvider_count] at totals
      omega
    obtain ⟨free, provider⟩ := append_sep_inj tails fronts
    exact ⟨url, mode, asr, language, String.toList_inj.1 provider, free⟩
  · intro ⟨url, mode, asr, language, provider, free⟩
    have materials : material = material' := by
      rw [← String.toList_inj, materialPieces, materialPieces', free, provider]
    have raws : raw = raw' := by
      rw [← String.toList_inj, rawPieces, rawPieces']
      unfold AnalysisRequest.requestPieces
      rw [url, mode, asr, language, digest, digest', materials]
    rw [hashed, hashed', raws]

/-! ## Sharing a fingerprint -/

theorem freeTexts_inj (same : one.freeTexts = other.freeTexts) :
    one.provider = other.provider ∧ one.baseUrl = other.baseUrl ∧ one.model = other.model := by
  simpa [AnalysisRequest.freeTexts, String.toList_inj] using same

/-- Two requests share no fingerprint unless they are the same, but for those that regroup
the free texts of each other. -/
theorem told_apart_iff (injective : Function.Injective sha256)
    (clean : ∀ t, '|' ∉ (sha256 t).toList) (one other : AnalysisRequest) :
    (one.fingerprint sha256 = other.fingerprint sha256 → SameRequest one other) ↔
      ¬ Regrouped one other := by
  constructor
  · intro told regrouped
    have shared : one.fingerprint sha256 = other.fingerprint sha256 :=
      (fingerprint_eq_iff injective clean).2 ⟨regrouped.canonicalUrl, regrouped.mode, regrouped.asr,
        regrouped.language, regrouped.asrProvider, regrouped.joined⟩
    have same := told shared
    apply regrouped.shifted
    unfold AnalysisRequest.separators AnalysisRequest.freeTexts
    rw [same.provider, same.baseUrl, same.model]
  · intro grouped shared
    obtain ⟨url, mode, asr, language, asrProvider, joined⟩ :=
      (fingerprint_eq_iff injective clean).1 shared
    have counts : one.separators = other.separators := by
      by_contra shifted
      exact grouped ⟨url, mode, asr, language, asrProvider, joined, shifted⟩
    obtain ⟨provider, baseUrl, model⟩ := freeTexts_inj (intercalate_inj_of_counts counts joined)
    exact ⟨url, mode, asr, language, provider, baseUrl, model, asrProvider⟩

/-- No request regroups one whose free texts hold no `|`. -/
theorem not_regrouped_of_plain (plain : one.separators = [0, 0, 0]) : ¬ Regrouped one other := by
  intro regrouped
  have totals := congrArg (List.count '|') regrouped.joined
  simp only [AnalysisRequest.freeTexts, count_intercalate, List.length_cons, List.length_nil] at totals
  have oneSum : one.separators.sum = 0 := by rw [plain]; rfl
  have otherSum : other.separators.sum = 0 := by
    unfold AnalysisRequest.separators AnalysisRequest.freeTexts at oneSum ⊢
    omega
  apply regrouped.shifted
  rw [plain]
  simp only [AnalysisRequest.separators, AnalysisRequest.freeTexts, List.map_cons, List.map_nil,
    List.sum_cons, List.sum_nil] at otherSum ⊢
  simp only [List.cons.injEq, and_true]
  omega

/-- With SHA-256 injective, two requests of one fingerprint are the same exactly unless they
regroup the free texts of each other; and a request whose provider, base URL and model hold
no `|` shares its fingerprint with no other one. -/
theorem fingerprints_tell_apart_iff (injective : Function.Injective sha256)
    (clean : ∀ t, '|' ∉ (sha256 t).toList) :
    (∀ one other : AnalysisRequest,
      (one.fingerprint sha256 = other.fingerprint sha256 → SameRequest one other) ↔
        ¬ Regrouped one other) ∧
    ∀ one : AnalysisRequest, one.separators = [0, 0, 0] → ∀ other : AnalysisRequest,
      one.fingerprint sha256 = other.fingerprint sha256 → SameRequest one other := by
  constructor
  · exact told_apart_iff injective clean
  · intro one plain other
    exact (told_apart_iff injective clean one other).2 (not_regrouped_of_plain plain)

/-! ## Two that share one -/

/-- A configuration with this base URL and model. -/
def watchRequest (baseUrl model : String) : AnalysisRequest where
  canonicalUrl := (videoRef .youtube (text "dQw4w9WgXcQ")).url
  mode := "auto"
  asr := "auto"
  language := none
  provider := "openai"
  baseUrl := baseUrl
  model := model
  asrProvider := "auto"
  detected := ⟨asciiDetector, _, _, detectVideo_canonical asciiDetector (by decide), rfl⟩
  modeListed := by decide
  asrListed := by decide
  asrProviderListed := by decide

def watchMaterial (model : String) : String :=
  "pipeline-v1|report-v1|chunks-4000|openai|https://llm.example/v1|" ++ model ++ "|auto"

def watchRaw (digest : String) : String :=
  "https://www.youtube.com/watch?v=dQw4w9WgXcQ|auto|auto||" ++ digest

/-- SHA-256 of the two texts of three configurations. -/
def watchDigests : List (String × String) :=
  [(watchMaterial "a|b", "68c3122125b30f46335ee5ec5abf06205f75dbb446fbc1a4735625a8d2fbcce9"),
    (watchRaw "68c3122125b30f46335ee5ec5abf06205f75dbb446fbc1a4735625a8d2fbcce9",
      "a8053ab25c2907a57334e569b0ed25b6db30ed7077a2dc307d314f6f939c7999"),
    (watchMaterial "a", "b6c7d2f99bf77d6884e7b5812fd793ec84358c38ee1c066d062e0e99d08417ad"),
    (watchRaw "b6c7d2f99bf77d6884e7b5812fd793ec84358c38ee1c066d062e0e99d08417ad",
      "f298dcb11ad6281d4d891cd2557f2461902d7332830e6d6c20c9a774fecbac98"),
    (watchMaterial "b", "2199f5bdfd8c7539c0a3755496557f40397b54cadb324171c1a4affab9119eec"),
    (watchRaw "2199f5bdfd8c7539c0a3755496557f40397b54cadb324171c1a4affab9119eec",
      "1e20d78326dd84bce710cc92d19ddd7d3464f791d217a0817d8dfc90f98e7092")]

/-- A character in two that are no `|`. -/
def doubledChar (c : Char) : List Char := if c = '|' then ['a', 'a'] else ['b', c]

theorem doubledChar_inj {c d : Char} (same : doubledChar c = doubledChar d) : c = d := by
  unfold doubledChar at same
  split at same <;> split at same <;> simp_all

theorem doubledChar_length (c : Char) : (doubledChar c).length = 2 := by
  unfold doubledChar
  split <;> rfl

theorem flatMap_doubledChar_inj {s t : List Char} (same : s.flatMap doubledChar = t.flatMap doubledChar) :
    s = t := by
  induction s generalizing t with
  | nil =>
    cases t with
    | nil => rfl
    | cons d t =>
      have lengths := congrArg List.length same
      rw [List.flatMap_cons, List.length_append, doubledChar_length, List.flatMap_nil, List.length_nil]
        at lengths
      omega
  | cons c s ih =>
    cases t with
    | nil =>
      have lengths := congrArg List.length same
      rw [List.flatMap_cons, List.length_append, doubledChar_length, List.flatMap_nil, List.length_nil]
        at lengths
      omega
    | cons d t =>
      rw [List.flatMap_cons, List.flatMap_cons] at same
      obtain ⟨heads, tails⟩ :=
        List.append_inj same (by rw [doubledChar_length, doubledChar_length])
      rw [doubledChar_inj heads, ih tails]

/-- The digests of these texts, and an injective spelling of all others. -/
def watchDigest (t : String) : String :=
  match watchDigests.find? fun entry => entry.1 = t with
  | some entry => entry.2
  | none => String.ofList ('-' :: t.toList.flatMap doubledChar)

theorem watchDigests_clean : ∀ entry ∈ watchDigests,
    entry.2.toList.head? ≠ some '-' ∧ '|' ∉ entry.2.toList := by
  decide +kernel

theorem watchDigests_apart : ∀ entry ∈ watchDigests, ∀ other ∈ watchDigests,
    entry.2 = other.2 → entry.1 = other.1 := by
  decide +kernel

/-- The text is one of these with its digest, or none of them. -/
theorem watchDigest_cases (t : String) :
    (t, watchDigest t) ∈ watchDigests ∨
      watchDigest t = String.ofList ('-' :: t.toList.flatMap doubledChar) := by
  unfold watchDigest
  split
  next entry found =>
    have named := List.find?_some found
    rw [decide_eq_true_eq] at named
    rw [← named]
    exact .inl (List.mem_of_find?_eq_some found)
  next => exact .inr rfl

theorem digest_not_spelled {t u : String} (listed : (t, watchDigest t) ∈ watchDigests) :
    watchDigest t ≠ String.ofList ('-' :: u.toList.flatMap doubledChar) := by
  intro spelled
  have head := (watchDigests_clean _ listed).1
  rw [spelled, String.toList_ofList] at head
  exact head rfl

theorem watchDigest_injective : Function.Injective watchDigest := by
  intro s t same
  rcases watchDigest_cases s with listed | spelled <;>
    rcases watchDigest_cases t with listed' | spelled'
  · exact watchDigests_apart _ listed _ listed' same
  · exact absurd (same.trans spelled') (digest_not_spelled listed)
  · exact absurd (same.symm.trans spelled) (digest_not_spelled listed')
  · rw [spelled, spelled'] at same
    have texts := congrArg String.toList same
    rw [String.toList_ofList, String.toList_ofList, List.cons.injEq] at texts
    exact String.toList_inj.1 (flatMap_doubledChar_inj texts.2)

theorem watchDigest_clean (t : String) : '|' ∉ (watchDigest t).toList := by
  rcases watchDigest_cases t with listed | spelled
  · exact (watchDigests_clean _ listed).2
  · rw [spelled, String.toList_ofList, List.mem_cons, List.mem_flatMap]
    rintro (dash | ⟨c, _, mem⟩)
    · revert dash
      decide
    · unfold doubledChar at mem
      split at mem
      · revert mem
        decide
      next other =>
        rcases List.mem_cons.1 mem with first | second
        · revert first
          decide
        · exact other (List.mem_singleton.1 second).symm

/-- Two models of one endpoint. -/
theorem fingerprints_tell_apart_models :
    ¬ Regrouped (watchRequest "https://llm.example/v1" "a") (watchRequest "https://llm.example/v1" "b") ∧
    (watchRequest "https://llm.example/v1" "a").fingerprint watchDigest ≠
      (watchRequest "https://llm.example/v1" "b").fingerprint watchDigest := by
  have told := fingerprints_tell_apart_iff watchDigest_injective watchDigest_clean
  have apart : ¬ SameRequest (watchRequest "https://llm.example/v1" "a")
      (watchRequest "https://llm.example/v1" "b") := by
    intro same
    have models := same.model
    revert models
    decide
  have tells := told.2 (watchRequest "https://llm.example/v1" "a") (by decide +kernel)
    (watchRequest "https://llm.example/v1" "b")
  exact ⟨(told.1 _ _).1 tells, fun same => apart (tells same)⟩

/-- Two base URLs and models of one fingerprint. -/
theorem shared_fingerprint : ¬ ∀ sha256 : String → String, Function.Injective sha256 →
    (∀ t, '|' ∉ (sha256 t).toList) → ∀ one other : AnalysisRequest,
      one.fingerprint sha256 = other.fingerprint sha256 → SameRequest one other := by
  intro told
  have shared : (watchRequest "https://llm.example/v1" "a|b").fingerprint watchDigest =
      (watchRequest "https://llm.example/v1|a" "b").fingerprint watchDigest := by
    rfl
  have same := (told watchDigest watchDigest_injective watchDigest_clean _ _ shared).model
  revert same
  decide

end EvoBlue.Guarantees
