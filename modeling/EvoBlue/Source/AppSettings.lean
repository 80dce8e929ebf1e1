import EvoBlue.Kernel.Origin
import EvoBlue.Source.JobRepository

/-!
# The application's settings

The single row of `app_settings`, the requests that change it (`web/schemas.py`),
and how `settings_put` of `web/app.py` decides which endpoint a stored API key
belongs to. Secrets are in the credential store, under the name of a slot; the row
holds the name.
-/

namespace EvoBlue.Source

open EvoBlue.Kernel

structure AppSettings where
  setupCompleted : Bool := false
  reportDirectory : Option Text := none
  llmProvider : Option Text := none
  llmBaseUrl : Option Text := none
  llmModel : Option Text := none
  llmCredentialRef : Option Text := none
  /-- The base URL the key was saved for, as it was written. -/
  llmCredentialOrigin : Option Text := none
  asrProvider : Option Text := none
  whisperCppExecutable : Option Text := none
  updatedAt : Time
  deriving DecidableEq, Repr

/-- The values `asr_provider` may be set to. -/
inductive AsrSetting where
  | auto
  | sherpaOnnxLite
  | sherpaOnnxStandard
  | sherpaOnnxQwen3
  | whisperCppBase
  deriving DecidableEq, Repr

def AsrSetting.text : AsrSetting → Text
  | .auto => Kernel.text "auto"
  | .sherpaOnnxLite => Kernel.text "sherpa-onnx-lite"
  | .sherpaOnnxStandard => Kernel.text "sherpa-onnx-standard"
  | .sherpaOnnxQwen3 => Kernel.text "sherpa-onnx-qwen3"
  | .whisperCppBase => Kernel.text "whisper-cpp-base"

/-- The body of `PUT /api/settings`. The outer `none` is a field that is not in the
body, the inner one a null. -/
structure AppSettingsUpdate where
  /-- Null and missing mean the same. -/
  setupCompleted : Option Bool := none
  reportDirectory : Option (Option Text) := none
  llmProvider : Option (Option Text) := none
  llmBaseUrl : Option (Option Text) := none
  llmModel : Option (Option Text) := none
  llmApiKey : Option (Option Text) := none
  asrProvider : Option (Option AsrSetting) := none
  whisperCppExecutable : Option (Option Text) := none
  deriving DecidableEq, Repr

def localHosts : List Text := [text "127.0.0.1", text "localhost", text "::1"]

/-- `_require_https_or_local_base_url`; `none` is its `ValueError`. -/
def requireHttpsOrLocalBaseUrl (unicode : UnicodeData) : Option Text → Option (Option Text)
  | none => some none
  | some value => do
    let parsed ← urlsplit unicode value
    let hostname := parsed.hostname unicode
    if parsed.scheme = text "https" ∧ hostname.isSome ∨
        parsed.scheme = text "http" ∧ ∃ host ∈ hostname, host ∈ localHosts then
      some (some (value.rdropWhile fun c => c = cp '/'))
    else none

/-- The request as `settings_put` gets it; `none` when the validator refuses it. -/
def AppSettingsUpdate.validated (unicode : UnicodeData) (request : AppSettingsUpdate) :
    Option AppSettingsUpdate :=
  match request.llmBaseUrl with
  | none => some request
  | some value =>
    (requireHttpsOrLocalBaseUrl unicode value).map fun baseUrl =>
      { request with llmBaseUrl := some baseUrl }

/-- `_V10_STATEMENTS` on a row from before there were credential origins. -/
def backfillOrigin (row : AppSettings) : AppSettings :=
  { row with
    llmCredentialOrigin :=
      if row.llmCredentialRef.isSome ∧ row.llmBaseUrl.isSome then row.llmBaseUrl else none }

/-! ## Whose key it is -/

/-- `_normalized_origin`. -/
def normalizedOrigin (unicode : UnicodeData) : Option Text → Option Text
  | none => none
  | some baseUrl =>
    if baseUrl = [] then none
    else
      match urlsplit unicode (strip baseUrl) with
      | none => none
      | some parsed =>
        let hostname := lower unicode ((parsed.hostname unicode).getD [])
        match parsed.port with
        | none => none
        | some port =>
          if parsed.scheme = [] ∨ hostname = [] then none
          else
            let scheme := lower unicode parsed.scheme
            let netloc :=
              match port with
              | none => hostname
              | some port =>
                if scheme = text "https" ∧ port = 443 ∨ scheme = text "http" ∧ port = 80 then
                  hostname
                else hostname ++ [cp ':'] ++ decimalText port
            some (scheme ++ text "://" ++ netloc)

/-- `new_llm_credential_reference`; `token` is what `uuid4` gives. -/
def newLlmCredentialReference (unicode : UnicodeData) (provider token : Text) : Text :=
  let normalized := lower unicode (strip provider)
  let normalized := if normalized = [] then text "openai-compatible" else normalized
  text "llm:" ++ normalized ++ [cp ':'] ++ token

/-- What the request makes of a column. -/
def merged {α : Type} (field : Option (Option α)) (current : Option AppSettings)
    (column : AppSettings → Option α) : Option α :=
  field.getD (current.bind column)

section

variable (unicode : UnicodeData) (request : AppSettingsUpdate) (token : Text)
  (current : Option AppSettings)

def provider : Option Text := merged request.llmProvider current (·.llmProvider)

def mergedBaseUrl : Option Text := merged request.llmBaseUrl current (·.llmBaseUrl)

/-- The key in the request, if it is not empty. -/
def AppSettingsUpdate.newKey : Option Text :=
  match request.llmApiKey with
  | some (some key) => if key = [] then none else some key
  | _ => none

/-- The slot a key in the request is written to. -/
def freshReference : Text :=
  newLlmCredentialReference unicode ((provider request current).getD []) token

/-- The request gives the bound key up: another provider, or another origin. -/
def unbinds : Bool :=
  (request.llmProvider.isSome && provider request current ≠ current.bind (·.llmProvider)) ||
    (request.llmBaseUrl.isSome &&
      normalizedOrigin unicode (mergedBaseUrl request current) ≠
        normalizedOrigin unicode (current.bind (·.llmCredentialOrigin)))

/-- The slot and the origin after the binding is decided. -/
def bindCredential : Option Text × Option Text :=
  if request.newKey.isSome then
    (some (freshReference unicode request token current), mergedBaseUrl request current)
  else if unbinds unicode request current then (none, none)
  else (current.bind (·.llmCredentialRef), current.bind (·.llmCredentialOrigin))

/-- The key is in the request, and empty. -/
def AppSettingsUpdate.deletesKey : Bool := request.llmApiKey.isSome && request.newKey.isNone

/-- The slot and the origin that are saved. -/
def savedBinding : Option Text × Option Text :=
  if request.deletesKey then (none, none) else bindCredential unicode request token current

/-- What `save_app_settings` writes. -/
def savedSettings (now : Time) : AppSettings :=
  let binding := savedBinding unicode request token current
  { setupCompleted := request.setupCompleted.getD ((current.map (·.setupCompleted)).getD false)
    reportDirectory := merged request.reportDirectory current (·.reportDirectory)
    llmProvider := provider request current
    llmBaseUrl := mergedBaseUrl request current
    llmModel := merged request.llmModel current (·.llmModel)
    llmCredentialRef := binding.1
    llmCredentialOrigin := binding.2
    asrProvider :=
      match request.asrProvider with
      | some choice => choice.map (·.text)
      | none =>
        match current.bind (·.asrProvider) with
        | some stored => if stored = [] then some (text "auto") else some stored
        | none => some (text "auto")
    whisperCppExecutable :=
      merged request.whisperCppExecutable current (·.whisperCppExecutable)
    updatedAt := now }

/-- The saved binding: a new one, none, or the one that was. -/
theorem savedBinding_cases :
    (request.newKey.isSome = true ∧ savedBinding unicode request token current =
        (some (freshReference unicode request token current), mergedBaseUrl request current)) ∨
      (request.newKey = none ∧ savedBinding unicode request token current = (none, none)) ∨
      (request.llmApiKey = none ∧ unbinds unicode request current = false ∧
        savedBinding unicode request token current =
          (current.bind (·.llmCredentialRef), current.bind (·.llmCredentialOrigin))) := by
  unfold savedBinding bindCredential
  cases new : request.newKey with
  | some key => exact .inl ⟨rfl, by simp [AppSettingsUpdate.deletesKey, new]⟩
  | none =>
    by_cases carried : request.llmApiKey.isSome = true
    · exact .inr (.inl ⟨rfl, by simp [AppSettingsUpdate.deletesKey, new, carried]⟩)
    · have missing : request.llmApiKey = none := by simpa using carried
      have stays : request.deletesKey = false := by simp [AppSettingsUpdate.deletesKey, missing]
      cases gone : unbinds unicode request current with
      | true => exact .inr (.inl ⟨rfl, by simp [stays]⟩)
      | false => exact .inr (.inr ⟨missing, rfl, by simp [stays]⟩)

end

/-- The scheme's own port, as the normalizer compares it. -/
theorem effectivePort_own (scheme : Text) (port : Nat) :
    effectivePort scheme none = some port ↔
      scheme = text "https" ∧ port = 443 ∨ scheme = text "http" ∧ port = 80 := by
  have different : text "https" ≠ text "http" := by decide
  by_cases https : scheme = text "https"
  · simp [effectivePort, https, different, eq_comm]
  · by_cases http : scheme = text "http"
    · simp [effectivePort, http, different.symm, eq_comm]
    · simp [effectivePort, https, http]

/-- No text, no origin. -/
theorem endpoint_nil (unicode : UnicodeData) : endpoint unicode [] = none := by
  have noScheme : ∀ parsed, urlsplit unicode [] = some parsed → parsed.scheme = [] := by
    intro parsed done
    unfold urlsplit at done
    simp only at done
    split at done
    · cases done
      rfl
    · cases done
  unfold endpoint
  cases done : urlsplit unicode [] with
  | none => rfl
  | some parsed => simp [noScheme parsed done]

/-- The normalizer spells the origin of the stripped URL, if its port is a number. -/
theorem normalizedOrigin_eq (unicode : UnicodeData) (url : Option Text) :
    normalizedOrigin unicode url =
      (url.bind fun url => numberedEndpoint unicode (strip url)).map Endpoint.spelling := by
  cases url with
  | none => rfl
  | some url =>
    by_cases empty : url = []
    · subst empty
      have stripped : strip [] = [] := rfl
      simp [normalizedOrigin, stripped, numberedEndpoint, endpoint_nil]
    · simp only [normalizedOrigin, if_neg empty, Option.bind_some, numberedEndpoint, endpoint]
      cases done : urlsplit unicode (strip url) with
      | none => rfl
      | some parsed =>
        have lowered : lower unicode parsed.scheme = parsed.scheme :=
          lowerAfter_plain unicode [] fun c mem => (urlsplit_scheme_clean done mem).1
        simp only [Option.bind_eq_bind, Option.bind_some, lowered]
        by_cases missing : parsed.scheme = [] ∨ lower unicode ((parsed.hostname unicode).getD []) = []
        · cases parsed.port <;> simp [missing]
        · cases port : parsed.port with
          | none => simp [missing, Except.isOk, Except.toBool]
          | some spelled =>
            cases spelled with
            | none =>
              simp [missing, Except.isOk, Except.toBool, Endpoint.spelling, Endpoint.portSuffix_own]
            | some number =>
              have suffix := effectivePort_own parsed.scheme number
              by_cases own : effectivePort parsed.scheme none = some number
              · simp [missing, Except.isOk, Except.toBool, Endpoint.spelling, Endpoint.portSuffix,
                  own, suffix.1 own]
              · simp [missing, Except.isOk, Except.toBool, Endpoint.spelling, Endpoint.portSuffix,
                  own, mt suffix.2 own]

end EvoBlue.Source
