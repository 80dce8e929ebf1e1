import EvoBlue.Guarantees.BackupShelf
import EvoBlue.Guarantees.JsonMerge
import EvoBlue.Kernel.RepeatedKeys

/-!
# Which configurations are refused

The adapter takes one byte order mark off before the gates of the merge see a text, and
the merge takes a null registry for a missing one: the comparison of the code then
raises, for another reason. What the gates refuse is left as it was.
-/

namespace EvoBlue.Guarantees

open EvoBlue.Kernel EvoBlue.Source MergeJson

/-- Neither null nor an object. -/
def Misshapen (value : Json) : Prop := value ≠ .null ∧ ∀ members, value ≠ .object members

/-- The root, the registry or the entry is no object; the last two may be null. -/
def Unfit (key : Text) : Json → Prop
  | .object doc =>
    (∃ registry, Dict.get serversKey doc = some registry ∧ Misshapen registry) ∨
      ∃ servers entry, Dict.get serversKey doc = some (.object servers) ∧
        Dict.get key servers = some entry ∧ Misshapen entry
  | _ => True

/-- A gate of the merge stands in the way of a text. -/
inductive Refused (env : JsonEnv) (key original : Text) : Prop where
  | mark (first : original.head? = some (codePoint 0xfeff))
  | blank (empty : strip original = [])
  | broken (read : Json.loadsWith (decoder env) original = .error (.json .decode))
  | repeated (message : Text) (read : Json.loadsWith (decoder env) original = .error (.hook message))
  | unfit (value : Json) (read : Json.loadsWith (decoder env) original = .ok value)
    (unfit : Unfit key value)

/-- What section 4.2 of the contract rejects, of the texts that JSON describes. -/
def ContractRejects (env : JsonEnv) (raw : Bytes) : Prop :=
  bomUtf8 <+: raw ∨ ∃ original depth value, decodeUtf8 raw = some original ∧
    Json.loadsWith { depth, float := env.float, pairs := .ok (ε := Text) } original = .ok value ∧
      (Json.Repeats value ∨ (∀ members, value ≠ .object members) ∨
        ∃ doc registry, value = .object doc ∧ (serversKey, registry) ∈ doc ∧
          ∀ servers, registry ≠ .object servers)

variable {env : JsonEnv} {doc servers : Members} {key original : Text}

/-! ## The gates -/

theorem parse_unsupported :
    (∃ message, parse env original = .error (.unsupported message)) ↔
      original.head? = some (codePoint 0xfeff) ∨ strip original = [] ∨
        Json.loadsWith (decoder env) original = .error (.json .decode) ∨
          (∃ message, Json.loadsWith (decoder env) original = .error (.hook message)) ∨
            ∃ value, Json.loadsWith (decoder env) original = .ok value ∧
              ∀ members, value ≠ .object members := by
  unfold parse
  by_cases mark : original.head? = some (codePoint 0xfeff)
  · simp [mark]
  rw [if_neg mark]
  by_cases empty : strip original = []
  · simp [empty]
  rw [if_neg empty]
  cases Json.loadsWith (decoder env) original with
  | error raised =>
    cases raised with
    | json error => cases error <;> simp [mark, empty]
    | hook message => simp [mark, empty]
  | ok value => cases value <;> simp [mark, empty]

theorem registry_unsupported :
    (∃ message, registry doc = .error (.unsupported message)) ↔
      ∃ registry, Dict.get serversKey doc = some registry ∧ Misshapen registry := by
  unfold registry Misshapen
  cases Dict.get serversKey doc with
  | none => simp
  | some value => cases value <;> simp

theorem toAssign_unsupported {expected : Members} {force : Bool} {current : Option Json} :
    (∃ message, toAssign env key expected force current = .error (.unsupported message)) ↔
      ∃ entry, current = some entry ∧ Misshapen entry := by
  unfold toAssign Misshapen
  cases current with
  | none => simp
  | some value =>
    cases value with
    | object entry =>
      dsimp only
      split
      next => simp
      split
      next => simp
      split <;> simp
    | null | bool | int | float | str | array => simp

/-- Behind the gates a merge raises for other reasons. -/
theorem proveIntact_supported {before after : Members} {removing : Bool} {message : Text} :
    proveIntact env before after key removing ≠ .error (.unsupported message) := by
  unfold proveIntact MergeJson.prune
  split
  next => simp [bind, Except.bind]
  split
  next => simp [bind, Except.bind]
  rw [Json.ok_bind, Json.ok_bind]
  split
  next => simp
  dsimp only
  repeat' split
  all_goals simp

theorem dumped_supported (parsed : parse env original = .ok doc)
    {later : Members} (again : Readable env later) {expected : Members} {indent : Nat}
    {message : Text} :
    (do
      let mergedText ← dumps env indent later
      proveMerge env original mergedText key expected
      return MergeOutcome.mk mergedText true) ≠ .error (.unsupported message) := by
  cases dumped : dumps env indent later with
  | error raised =>
    unfold dumps at dumped
    split at dumped
    next =>
      cases dumped
      simp [bind, Except.bind]
    next => cases dumped
  | ok mergedText =>
    have back := parse_dumps again dumped
    rw [Json.ok_bind]
    unfold proveMerge
    rw [parsed, Json.ok_bind, back]
    split
    next =>
      rw [Json.ok_bind]
      split
      next => simp [bind, Except.bind]
      next =>
        cases proved : proveIntact env doc later key false with
        | error raised =>
          simp only [bind, Except.bind]
          intro same
          exact proveIntact_supported (proved.trans (congrArg Except.error (Except.error.inj same)))
        | ok => simp [bind, Except.bind, pure, Except.pure]
    next => simp [bind, Except.bind]

theorem parse_ok : parse env original = .ok doc ↔
    original.head? ≠ some (codePoint 0xfeff) ∧ strip original ≠ [] ∧
      Json.loadsWith (decoder env) original = .ok (.object doc) := by
  unfold parse
  by_cases mark : original.head? = some (codePoint 0xfeff)
  · simp [mark]
  rw [if_neg mark]
  by_cases empty : strip original = []
  · simp [empty]
  rw [if_neg empty]
  cases Json.loadsWith (decoder env) original with
  | error raised =>
    cases raised with
    | json error => cases error <;> simp [mark, empty]
    | hook message => simp [mark, empty]
  | ok value => cases value <;> simp [mark, empty]

/-- A text is refused by the parser, or for what it holds. -/
theorem refused_iff : Refused env key original ↔
    (∃ message, parse env original = .error (.unsupported message)) ∨
      ∃ doc, parse env original = .ok doc ∧ Unfit key (.object doc) := by
  rw [parse_unsupported]
  constructor
  · intro refused
    by_cases mark : original.head? = some (codePoint 0xfeff)
    · exact .inl (.inl mark)
    by_cases empty : strip original = []
    · exact .inl (.inr (.inl empty))
    cases refused with
    | mark first => exact absurd first mark
    | blank blank => exact absurd blank empty
    | broken read => exact .inl (.inr (.inr (.inl read)))
    | repeated message read => exact .inl (.inr (.inr (.inr (.inl ⟨message, read⟩))))
    | unfit value read unfit =>
      cases value with
      | object doc => exact .inr ⟨doc, parse_ok.2 ⟨mark, empty, read⟩, unfit⟩
      | null | bool | int | float | str | array =>
        exact .inl (.inr (.inr (.inr (.inr ⟨_, read, by simp⟩))))
  · rintro ((first | empty | read | ⟨message, read⟩ | ⟨value, read, root⟩) | ⟨doc, parsed, unfit⟩)
    · exact .mark first
    · exact .blank empty
    · exact .broken read
    · exact .repeated message read
    · apply Refused.unfit value read
      cases value with
      | object members => exact absurd rfl (root members)
      | null | bool | int | float | str | array => trivial
    · exact .unfit _ (parse_ok.1 parsed).2.2 unfit

theorem unfit_of_registry (found : registry doc = .ok servers) :
    Unfit key (.object doc) ↔ ∃ entry, Dict.get key servers = some entry ∧ Misshapen entry := by
  have shaped : ¬ ∃ registry, Dict.get serversKey doc = some registry ∧ Misshapen registry := by
    rw [← registry_unsupported, found]
    simp
  unfold Unfit
  constructor
  · rintro (bad | ⟨others, entry, listed, stored, bad⟩)
    · exact absurd bad shaped
    · rcases registry_ok found with ⟨null, _⟩ | ⟨absent, _⟩ | same
      · rw [null] at listed
        cases listed
      · rw [absent] at listed
        cases listed
      · rw [same] at listed
        cases listed
        exact ⟨entry, stored, bad⟩
  · rintro ⟨entry, stored, bad⟩
    rcases registry_ok found with ⟨_, rfl⟩ | ⟨_, rfl⟩ | same
    · cases stored
    · cases stored
    · exact .inr ⟨servers, entry, same, stored, bad⟩

/-- A merge refuses what a gate refuses, and nothing else. -/
theorem mergeJson_unsupported (floats : Json.FloatsReadBack (decoder env)) {payload : EntryPayload}
    {indent : Nat} {force : Bool} :
    (∃ message, mergeJson env original key payload indent force = .error (.unsupported message)) ↔
      Refused env key original := by
  rw [refused_iff]
  unfold mergeJson
  cases parsed : parse env original with
  | error raised => simp [bind, Except.bind]
  | ok doc =>
    rw [Json.ok_bind]
    have readable := parse_readable floats parsed
    cases found : registry doc with
    | error raised =>
      have unfit : ∃ message, raised = .unsupported message := by
        unfold registry at found
        split at found
        all_goals cases found
        exact ⟨_, rfl⟩
      obtain ⟨message, rfl⟩ := unfit
      constructor
      · intro _
        exact .inr ⟨doc, rfl, .inl (registry_unsupported.1 ⟨message, found⟩)⟩
      · intro _
        exact ⟨message, rfl⟩
    | ok servers =>
      rw [Json.ok_bind]
      dsimp only
      have gate := @toAssign_unsupported env key (payloadEntry payload) force (Dict.get key servers)
      have unfit := @unfit_of_registry doc servers key found
      constructor
      · rintro ⟨message, ran⟩
        cases decided : toAssign env key (payloadEntry payload) force (Dict.get key servers) with
        | error raised =>
          rw [decided] at ran gate
          cases ran
          exact .inr ⟨doc, rfl, unfit.2 (gate.1 ⟨message, rfl⟩)⟩
        | ok assigns =>
          rw [decided, Json.ok_bind] at ran
          split at ran
          next => cases ran
          next =>
            have again : Readable env (assigned doc servers key (payloadEntry payload)) := by
              apply readable.set
              apply (registry_readable readable found).set
              exact payloadEntry_readable env payload
            exact absurd ran (dumped_supported parsed again)
      · rintro (⟨_, bad⟩ | ⟨other, same, bad⟩)
        · cases bad
        · cases same
          obtain ⟨message, raised⟩ := gate.2 (unfit.1 bad)
          rw [raised]
          exact ⟨message, rfl⟩

/-! ## The adapter -/

/-- What goes wrong after the backup is no refusal. -/
theorem rollBack_supported {env : FileEnv} {target backupName : Text} {safety : Stamp}
    {files : ConfigDir} {dir : TargetDir} {message : Text} :
    FileAutoAdapter.rollBack env target backupName safety files ≠
      (.error (.config (.unsupported message)), dir) := by
  unfold FileAutoAdapter.rollBack
  split
  next => simp
  next => simp

theorem installSync_unsupported {env : FileEnv} (floats : Json.FloatsReadBack (decoder env.json))
    {adapter : FileAutoAdapter} (json : adapter.isToml = false) {payload : EntryPayload} {force : Bool}
    {stamp safety : Stamp} {path : Text} {files : ConfigDir} {raw : Bytes}
    (resolved : adapter.resolve = some path) (stored : files.lookup (nameOf path) = some raw)
    (decoded : decodeText raw = some original) :
    (∃ message, adapter.installSync env payload force stamp safety (some files) =
        (.error (.config (.unsupported message)), some files)) ↔
      Refused env.json adapter.spec.entryKey original := by
  rw [← @mergeJson_unsupported env.json _ _ floats payload adapter.indent force]
  unfold FileAutoAdapter.installSync
  rw [resolved]
  dsimp only
  rw [stored, original_decoded decoded]
  dsimp only
  rw [merge_json json]
  cases mergeJson env.json original adapter.spec.entryKey payload adapter.indent force with
  | error raised => simp
  | ok merged =>
    constructor
    · rintro ⟨message, installed⟩
      dsimp only at installed
      split at installed
      next => cases installed
      next =>
        split at installed
        next => cases installed
        next => exact absurd installed rollBack_supported
    · rintro ⟨message, bad⟩
      cases bad

/-! ## Within the limits of the reader -/

/-- Within the limits of the reader a text is refused for a repeated key, or for what it
holds. -/
theorem refused_of_kept {value : Json} (kept : Json.loadsWith (decoder env).keeping original = .ok value) :
    Refused env key original ↔ Json.Repeats value ∨ Unfit key value := by
  constructor
  · intro refused
    rcases Json.loadsWith_keeping (decoder_strict env) kept with ⟨twice, _⟩ | ⟨_, read⟩
    · exact .inl twice
    · right
      cases refused with
      | mark first =>
        unfold Json.loadsWith at kept
        rw [if_pos first] at kept
        cases kept
      | blank empty => exact absurd empty (Json.strip_of_loads kept)
      | broken broken =>
        rw [read] at broken
        cases broken
      | repeated message repeated =>
        rw [read] at repeated
        cases repeated
      | unfit other same unfit =>
        rw [read] at same
        cases same
        exact unfit
  · intro why
    rcases Json.loadsWith_keeping (decoder_strict env) kept with ⟨_, message, raised⟩ | ⟨once, read⟩
    · exact .repeated message raised
    · exact .unfit value read (why.resolve_left once)

/-! ## What is refused -/

/-- Of the contents that are UTF-8, `install` refuses exactly those that, with one byte
order mark off, meet a gate of the merge, and it leaves the directory as it was. Within the
limits of the reader these are the texts with a repeated key at some depth, a root that is
no object, or a registry or an entry that is neither null nor an object. -/
theorem config_refused_iff (env : FileEnv) (floats : Json.FloatsReadBack (decoder env.json))
    (adapter : FileAutoAdapter) (json : adapter.isToml = false) (payload : EntryPayload) (force : Bool)
    (stamp safety : Stamp) (path : Text) (files : ConfigDir) (raw : Bytes) (original : Text)
    (resolved : adapter.resolve = some path) (stored : files.lookup (nameOf path) = some raw)
    (decoded : decodeText raw = some original) :
    ((∃ message, adapter.installSync env payload force stamp safety (some files) =
        (.error (.config (.unsupported message)), some files)) ↔
      Refused env.json adapter.spec.entryKey original) ∧
    ∀ value, Json.loadsWith (decoder env.json).keeping original = .ok value →
      (Refused env.json adapter.spec.entryKey original ↔
        Json.Repeats value ∨ Unfit adapter.spec.entryKey value) := by
  constructor
  · exact installSync_unsupported floats json resolved stored decoded
  · intro value kept
    exact refused_of_kept kept

/-! ## Three files -/

/-- The adapter of WorkBuddy. -/
def workBuddy : FileAutoAdapter where
  spec := clientSpecs[2]
  home := text "/home/user"
  appdata := none
  written := rfl

def onlyFile (raw : Bytes) : ConfigDir := AList.insert mcpJson raw ∅

def repeatedConfig : Text := text "\x7b\"a\": [\x7b\"b\": 1, \"b\": 2\x7d]\x7d"

/-- Two braces behind a byte order mark. -/
def markedConfig : Bytes := bomUtf8 ++ [0x7b, 0x7d]

def nullRegistry : Text := text "\x7b\"mcpServers\": null\x7d"

def isNullRegistry : Json → Bool
  | .object [(name, .null)] => name = serversKey
  | _ => false

theorem workBuddy_resolve : workBuddy.resolve = some (text "/home/user/.workbuddy/mcp.json") := by
  decide +kernel

theorem onlyFile_lookup (raw : Bytes) :
    (onlyFile raw).lookup (nameOf (text "/home/user/.workbuddy/mcp.json")) = some raw := by
  have name : nameOf (text "/home/user/.workbuddy/mcp.json") = mcpJson := by decide +kernel
  rw [name]
  exact AList.lookup_insert _

theorem loaded_of_any {ε α : Type} {read : Except ε α} {test : α → Bool}
    (passes : read.toOption.any test = true) : ∃ value, read = .ok value ∧ test value = true := by
  cases read with
  | error raised => cases passes
  | ok value => exact ⟨value, rfl, passes⟩

/-- A key repeated in an array is found. -/
theorem config_refused_iff_repeated :
    ∃ message, workBuddy.installSync jsonHost pythonModule true (newYear 2026 (by decide), (0, 0))
        (newYear 2026 (by decide), (0, 1)) (some (onlyFile ((encodeUtf8 repeatedConfig).getD []))) =
      (.error (.config (.unsupported message)),
        some (onlyFile ((encodeUtf8 repeatedConfig).getD []))) := by
  have found : (Json.loadsWith (decoder jsonHost.json).keeping repeatedConfig).toOption.any
      (fun value => Json.Repeats value) = true := by
    decide +kernel
  obtain ⟨value, kept, twice⟩ := loaded_of_any found
  obtain ⟨refuses, within⟩ := config_refused_iff jsonHost halves_read_back workBuddy rfl pythonModule
    true (newYear 2026 (by decide), (0, 0)) (newYear 2026 (by decide), (0, 1)) _ _ _ repeatedConfig
    workBuddy_resolve (onlyFile_lookup ((encodeUtf8 repeatedConfig).getD [])) (by decide +kernel)
  exact refuses.2 ((within value kept).2 (.inl (of_decide_eq_true twice)))

/-- A file behind a byte order mark, and one with a null registry, are not refused. -/
theorem marked_config_accepted :
    (ContractRejects halves markedConfig ∧ ¬ ∃ message,
      workBuddy.installSync jsonHost pythonModule false (newYear 2026 (by decide), (0, 0))
          (newYear 2026 (by decide), (0, 1)) (some (onlyFile markedConfig)) =
        (.error (.config (.unsupported message)), some (onlyFile markedConfig))) ∧
    ContractRejects halves ((encodeUtf8 nullRegistry).getD []) ∧ ¬ ∃ message,
      workBuddy.installSync jsonHost pythonModule false (newYear 2026 (by decide), (0, 0))
          (newYear 2026 (by decide), (0, 1)) (some (onlyFile ((encodeUtf8 nullRegistry).getD []))) =
        (.error (.config (.unsupported message)),
          some (onlyFile ((encodeUtf8 nullRegistry).getD []))) := by
  have empty : Json.loadsWith (decoder jsonHost.json).keeping (text "{}") = .ok (.object []) :=
    rfl
  have found : (Json.loadsWith (decoder jsonHost.json).keeping nullRegistry).toOption.any
      isNullRegistry = true := by
    decide +kernel
  have null : Json.loadsWith (decoder jsonHost.json).keeping nullRegistry =
      .ok (.object [(serversKey, .null)]) := by
    obtain ⟨value, kept, shape⟩ := loaded_of_any found
    unfold isNullRegistry at shape
    split at shape
    next => rw [kept, of_decide_eq_true shape]
    next => cases shape
  constructor
  · constructor
    · exact .inl (List.prefix_append _ _)
    · rw [installSync_unsupported halves_read_back rfl workBuddy_resolve (onlyFile_lookup markedConfig)
        (show decodeText markedConfig = some (text "{}") by decide +kernel), refused_of_kept empty]
      simp [Json.Repeats, Json.RepeatsMembers, Dict.keys, Unfit, Dict.get]
  · constructor
    · refine .inr ⟨nullRegistry, 990, _, by decide +kernel, null, .inr (.inr ⟨_, .null, rfl, ?_, ?_⟩)⟩
      · simp
      · simp
    · rw [installSync_unsupported halves_read_back rfl workBuddy_resolve (onlyFile_lookup _)
        (show decodeText _ = some nullRegistry by decide +kernel), refused_of_kept null]
      simp [Json.Repeats, Json.RepeatsMembers, Dict.keys, Unfit, Dict.get, Misshapen]

end EvoBlue.Guarantees
