import EvoBlue.Source.FileAuto
import EvoBlue.Source.MergeJsonEffects

/-!
# A JSON merge assigns one entry

What a merge returns is read as the original document with one entry assigned, in its
place or behind the others. Merging the entry again leaves the text alone, reading it
gives the entry back, and removing it the document.
-/

namespace EvoBlue.Guarantees

open EvoBlue.Kernel EvoBlue.Source MergeJson

/-- The value under a key of the registry. -/
def registered (doc : Members) (key : Text) : Option Json :=
  match Dict.get serversKey doc with
  | some (.object servers) => Dict.get key servers
  | _ => none

/-- A document with one entry assigned and nothing else changed: keys that were there
keep their places, and new ones go last. -/
structure SetsEntry (doc : Members) (key : Text) (entry later : Members) : Prop where
  rootKeys : Dict.keys later =
    if serversKey ∈ Dict.keys doc then Dict.keys doc else Dict.keys doc ++ [serversKey]
  root : ∀ name, name ≠ serversKey → Dict.get name later = Dict.get name doc
  keys : registryKeys later =
    if key ∈ registryKeys doc then registryKeys doc else registryKeys doc ++ [key]
  entry : registered later key = some (.object entry)
  others : ∀ name, name ≠ key → registered later name = registered doc name

/-- An entry is the expected one, up to an explicit `disabled: false`. -/
def Alike (env : JsonEnv) (entry expected : Members) : Prop :=
  equal env entry expected = true ∨
    (Dict.get (text "disabled") entry = some (.bool false) ∧
      equal env (Dict.pop (text "disabled") entry) expected = true)

/-- A document is another one, up to an empty registry. -/
def UpToRegistry (doc other : Members) : Prop :=
  other = doc ∨ (serversKey ∉ Dict.keys doc ∧ other = doc ++ [(serversKey, .object [])])

/-- What a merge that returns leaves of a document. -/
structure MergesOnce (env : JsonEnv) (original key : Text) (payload : EntryPayload) (doc : Members)
    (outcome : MergeOutcome) : Prop where
  parsed : parse env original = .ok doc
  unchanged : outcome.changed = false → outcome.text = original
  changed : outcome.changed = true → ∃ later, parse env outcome.text = .ok later ∧
    SetsEntry doc key (payloadEntry payload) later
  noop : outcome.changed = false ↔
    ∃ entry, registered doc key = some (.object entry) ∧ Alike env entry (payloadEntry payload)
  again : ∀ indent force,
    mergeJson env outcome.text key payload indent force = .ok ⟨outcome.text, false⟩
  read : ∃ entry, readEntry env outcome.text key = .ok (some entry) ∧
    equal env entry (payloadEntry payload) = true
  removed : registered doc key = none → ∀ indent, ∃ removedText back,
    removeEntryJson env outcome.text key indent = .ok ⟨removedText, true⟩ ∧
      parse env removedText = .ok back ∧ UpToRegistry doc back

variable {env : JsonEnv} {doc servers : Members} {key : Text}

/-! ## The entry that is there -/

theorem disabled_get {entry : Members} (distinct : (Dict.keys entry).Nodup) {pair : Text × Json}
    (mem : pair ∈ entry) (same : pair.1 = text "disabled") :
    Dict.get (text "disabled") entry = some pair.2 := by
  rw [← same]
  exact Dict.get_of_mem distinct mem

theorem effectiveEntry_of_off {entry : Members} (distinct : (Dict.keys entry).Nodup)
    (off : Dict.get (text "disabled") entry = some (.bool false)) :
    effectiveEntry entry = Dict.pop (text "disabled") entry := by
  unfold effectiveEntry Dict.pop
  apply List.filter_congr
  intro pair mem
  obtain ⟨name, value⟩ := pair
  by_cases same : name = text "disabled"
  · have stored := disabled_get distinct mem same
    rw [off, Option.some.injEq] at stored
    obtain rfl : Json.bool false = value := stored
    rfl
  · dsimp only
    split
    · rfl
    · simp [same]

theorem effectiveEntry_of_on {entry : Members} (distinct : (Dict.keys entry).Nodup)
    (on : Dict.get (text "disabled") entry ≠ some (.bool false)) : effectiveEntry entry = entry := by
  unfold effectiveEntry
  rw [List.filter_eq_self]
  intro pair mem
  obtain ⟨name, value⟩ := pair
  dsimp only
  split
  next value =>
    rw [decide_eq_true_eq]
    intro same
    exact on (disabled_get distinct mem same)
  next => rfl

theorem alike_iff {entry : Members} (distinct : (Dict.keys entry).Nodup) (payload : EntryPayload) :
    Alike env entry (payloadEntry payload) ↔
      equal env (effectiveEntry entry) (payloadEntry payload) = true := by
  constructor
  · intro alike
    rcases alike with same | ⟨off, same⟩
    · rw [effectiveEntry_of_equal same]
      exact same
    · rw [effectiveEntry_of_off distinct off]
      exact same
  · intro same
    by_cases off : Dict.get (text "disabled") entry = some (.bool false)
    · rw [effectiveEntry_of_off distinct off] at same
      exact .inr ⟨off, same⟩
    · rw [effectiveEntry_of_on distinct off] at same
      exact .inl same

/-! ## The document of a merge -/

theorem registered_of_registry (found : registry doc = .ok servers) (name : Text) :
    registered doc name = Dict.get name servers := by
  unfold registered
  rcases registry_ok found with ⟨null, rfl⟩ | ⟨absent, rfl⟩ | same
  · rw [null]
    rfl
  · rw [absent]
    rfl
  · rw [same]

theorem registryKeys_of_registry (found : registry doc = .ok servers) :
    registryKeys doc = Dict.keys servers := by
  unfold registryKeys
  rcases registry_ok found with ⟨null, rfl⟩ | ⟨absent, rfl⟩ | same
  · rw [null]
    rfl
  · rw [absent]
    rfl
  · rw [same]

theorem keys_assigned (name : Text) (value : Json) (doc : Members) :
    Dict.keys (Dict.set name value doc) =
      if name ∈ Dict.keys doc then Dict.keys doc else Dict.keys doc ++ [name] := by
  rw [Dict.keys_set]
  by_cases mem : name ∈ Dict.keys doc
  · rw [if_pos mem, if_pos mem]
  · rw [if_neg mem, if_neg mem]

theorem setsEntry_assigned (found : registry doc = .ok servers) (entry : Members) :
    SetsEntry doc key entry (assigned doc servers key entry) := by
  have registry : Dict.get serversKey (assigned doc servers key entry) =
      some (.object (Dict.set key (.object entry) servers)) := Dict.get_set_self _ _ _
  have listed (name : Text) : registered (assigned doc servers key entry) name =
      Dict.get name (Dict.set key (.object entry) servers) := by
    unfold registered
    rw [registry]
  constructor
  · exact keys_assigned _ _ _
  · intro name apart
    exact Dict.get_set_ne apart _ _
  · rw [registryKeys_of_registry found]
    unfold registryKeys
    rw [registry]
    exact keys_assigned _ _ _
  · rw [listed]
    exact Dict.get_set_self _ _ _
  · intro name apart
    rw [listed, registered_of_registry found]
    exact Dict.get_set_ne apart _ _

/-- Assigning the registry that was there gives the document back. -/
theorem upToRegistry_back (found : registry doc = .ok servers)
    (notNull : Dict.get serversKey doc ≠ some .null) : UpToRegistry doc (Wrote.back doc servers) := by
  unfold Wrote.back
  rcases registry_ok found with ⟨null, _⟩ | ⟨absent, rfl⟩ | same
  · exact absurd null notNull
  · have unset := Dict.get_eq_none.1 absent
    exact .inr ⟨unset, Dict.set_of_absent unset _⟩
  · exact .inl (Dict.set_of_get same)

/-! ## What a merge returns -/

theorem mergesOnce_unchanged {original : Text} {payload : EntryPayload}
    (readable : Readable env doc) (parsed : parse env original = .ok doc)
    (found : registry doc = .ok servers) {entry : Members}
    (stored : Dict.get key servers = some (.object entry))
    (alike : equal env (effectiveEntry entry) (payloadEntry payload) = true) :
    MergesOnce env original key payload doc ⟨original, false⟩ := by
  have listed : Dict.get serversKey doc = some (.object servers) := by
    rcases registry_ok found with ⟨_, rfl⟩ | ⟨_, rfl⟩ | same
    · cases stored
    · cases stored
    · exact same
  have distinct : (Dict.keys entry).Nodup := ((registry_readable readable found).get stored).1
  have here : registered doc key = some (.object entry) := by
    rw [registered_of_registry found]
    exact stored
  have read : readEntry env original key = .ok (some (effectiveEntry entry)) :=
    readEntry_some.2 ⟨doc, servers, entry, parsed, listed, stored, rfl⟩
  constructor
  · exact parsed
  · intro _
    rfl
  · intro changed
    cases changed
  · constructor
    · intro _
      exact ⟨entry, here, (alike_iff distinct payload).2 alike⟩
    · intro _
      rfl
  · intro indent force
    exact mergeJson_unchanged.2 ⟨_, read, alike⟩
  · exact ⟨_, read, alike⟩
  · intro absent
    rw [here] at absent
    cases absent

theorem mergesOnce_wrote {original mergedText : Text} {payload : EntryPayload} {force : Bool}
    (readable : Readable env doc) (parsed : parse env original = .ok doc)
    (found : registry doc = .ok servers)
    (assigns : toAssign env key (payloadEntry payload) force (Dict.get key servers) = .ok true)
    (wrote : Wrote env doc servers key (payloadEntry payload) mergedText) :
    MergesOnce env original key payload doc ⟨mergedText, true⟩ := by
  have same := payloadEntry_equal env payload
  constructor
  · exact parsed
  · intro unchanged
    cases unchanged
  · intro _
    exact ⟨_, wrote.parsed, setsEntry_assigned found _⟩
  · constructor
    · intro unchanged
      cases unchanged
    · rintro ⟨entry, here, alike⟩
      rw [registered_of_registry found] at here
      have distinct : (Dict.keys entry).Nodup := ((registry_readable readable found).get here).1
      have kept := (@toAssign_false env key payload force _).2
        ⟨entry, here, (alike_iff distinct payload).1 alike⟩
      rw [kept] at assigns
      cases assigns
  · intro indent force
    exact mergeJson_unchanged.2 ⟨_, wrote.readEntry, same⟩
  · exact ⟨_, wrote.readEntry, same⟩
  · intro absent indent
    rw [registered_of_registry found] at absent
    obtain ⟨removedText, removed, back⟩ :=
      wrote.removed found (Dict.get_eq_none.1 absent) (registry_readable readable found) indent
    exact ⟨removedText, _, removed, back, upToRegistry_back found wrote.notNull⟩

/-! ## Verifying -/

theorem parse_fresh {doc : Members} (parsed : parse env (text "\x7b\x7d") = .ok doc) : doc = [] := by
  have loaded : Json.loadsWith (decoder env) (text "\x7b\x7d") =
      if env.readDepth = 0 then .error (.json .recursion) else .ok (.object []) := by
    by_cases zero : env.readDepth = 0
    · rw [if_pos zero]
      have flat : decoder env = ⟨0, env.float, rejectDuplicates⟩ := by
        rw [← zero]
        rfl
      rw [flat]
      rfl
    · obtain ⟨depth, more⟩ := Nat.exists_eq_succ_of_ne_zero zero
      have deep : decoder env = ⟨depth + 1, env.float, rejectDuplicates⟩ := by
        rw [← Nat.succ_eq_add_one, ← more]
        rfl
      rw [if_neg zero, deep]
      rfl
  unfold parse at parsed
  rw [if_neg (by decide), if_neg (by decide), loaded] at parsed
  split at parsed
  all_goals try cases parsed
  next deep =>
    split at deep
    · cases deep
    · cases deep
      rfl

/-- `verify` finds the entry of the payload in a file. -/
theorem verify_matches {env : FileEnv} {adapter : FileAutoAdapter} (json : adapter.isToml = false)
    {payload : EntryPayload} {dir : TargetDir} :
    (∃ outcome, adapter.verify env payload dir = .ok outcome ∧
        outcome.entryMatchesCurrent = some true) ↔
      ∃ path raw original entry, adapter.resolve = some path ∧
        FileAutoAdapter.readBytes path dir = some raw ∧ decodeText raw = some original ∧
        readEntry env.json original adapter.spec.entryKey = .ok (some entry) ∧
        equal env.json entry (payloadEntry payload) = true := by
  unfold FileAutoAdapter.verify
  constructor
  · rintro ⟨outcome, verified, found⟩
    split at verified
    next =>
      cases verified
      cases found
    next path resolved =>
      split at verified
      next =>
        cases verified
        cases found
      next raw stored =>
        split at verified
        next => cases verified
        next original decoded =>
          obtain ⟨entry, read, verified⟩ := Json.ok_of_bind verified
          unfold FileAutoAdapter.readEntry at read
          rw [json, if_neg (by decide)] at read
          obtain ⟨members, inner, read⟩ := Json.ok_of_bind read
          cases read
          cases members with
          | none =>
            cases verified
            cases found
          | some members =>
            cases verified
            refine ⟨path, raw, original, members, resolved, stored, decoded, inner, ?_⟩
            dsimp only at found
            unfold FileAutoAdapter.expected at found
            rw [json, if_neg (by decide), Option.some.injEq] at found
            exact found
  · rintro ⟨path, raw, original, entry, resolved, stored, decoded, read, alike⟩
    rw [resolved]
    dsimp only
    rw [stored]
    dsimp only
    rw [decoded]
    dsimp only
    unfold FileAutoAdapter.readEntry FileAutoAdapter.expected
    rw [json, if_neg (by decide), if_neg (by decide), read]
    exact ⟨_, rfl, congrArg some alike⟩

theorem original_decoded {adapter : FileAutoAdapter} {raw : Bytes} {original : Text}
    (decoded : decodeText raw = some original) :
    adapter.original (some raw) = .ok (if bomUtf8 <+: raw then raw.take 3 else [], original) := by
  unfold FileAutoAdapter.original splitBom
  dsimp only
  rw [decoded]

theorem merge_json {env : FileEnv} {adapter : FileAutoAdapter} (json : adapter.isToml = false)
    (original : Text) (payload : EntryPayload) (force : Bool) :
    adapter.merge env original payload force =
      mergeJson env.json original adapter.spec.entryKey payload adapter.indent force := by
  unfold FileAutoAdapter.merge
  rw [json, if_neg (by decide)]

/-- A merge that says so leaves the text alone. -/
theorem mergeJson_kept {original : Text} {payload : EntryPayload} {indent : Nat} {force : Bool}
    {outcome : MergeOutcome} (merged : mergeJson env original key payload indent force = .ok outcome)
    (kept : outcome.changed = false) : ∃ entry, readEntry env original key = .ok (some entry) ∧
      equal env entry (payloadEntry payload) = true := by
  have same : outcome = ⟨original, false⟩ := by
    obtain ⟨_, _, _, _, ⟨_, same⟩ | ⟨_, _, _, changed⟩⟩ := mergeJson_ok merged
    · exact same
    · rw [kept] at changed
      cases changed
  rw [same] at merged
  exact mergeJson_unchanged.1 merged

/-- `install` has nothing to do. -/
theorem install_noop {env : FileEnv} {adapter : FileAutoAdapter} (json : adapter.isToml = false)
    {payload : EntryPayload} {force : Bool} {stamp safety : Stamp} {dir : TargetDir} :
    (∃ outcome, adapter.installSync env payload force stamp safety dir = (.ok outcome, dir) ∧
        outcome.reason = some (text "already_configured")) ↔
      ∃ path raw original entry, adapter.resolve = some path ∧
        FileAutoAdapter.readBytes path dir = some raw ∧ decodeText raw = some original ∧
        readEntry env.json original adapter.spec.entryKey = .ok (some entry) ∧
        equal env.json entry (payloadEntry payload) = true := by
  constructor
  · rintro ⟨outcome, installed, why⟩
    unfold FileAutoAdapter.installSync at installed
    split at installed
    next =>
      cases installed
      exact absurd why (by decide)
    next =>
      cases installed
      exact absurd why (by decide)
    next path files resolved =>
      dsimp only at installed
      split at installed
      next => cases installed
      next bomPrefix original started =>
        rw [merge_json json] at installed
        split at installed
        next => cases installed
        next merged ran =>
          split at installed
          next kept =>
            obtain ⟨entry, read, alike⟩ := mergeJson_kept ran kept
            unfold FileAutoAdapter.original at started
            split at started
            next absent =>
              cases started
              rw [json] at read
              obtain ⟨doc, servers, _, parsed, listed, _⟩ := readEntry_some.1 read
              rw [parse_fresh parsed] at listed
              cases listed
            next raw stored =>
              unfold splitBom at started
              split at started
              next original decoded =>
                cases started
                exact ⟨path, raw, original, entry, resolved, stored, decoded, read, alike⟩
              next => cases started
          next =>
            split at installed
            next =>
              cases installed
              cases why
            next =>
              unfold FileAutoAdapter.rollBack at installed
              split at installed
              next => cases installed
              next => cases installed
  · rintro ⟨path, raw, original, entry, resolved, stored, decoded, read, alike⟩
    have merged := (@mergeJson_unchanged env.json adapter.spec.entryKey original payload
      adapter.indent force).2 ⟨entry, read, alike⟩
    cases dir with
    | none => cases stored
    | some files =>
      have found : files.lookup (nameOf path) = some raw := stored
      unfold FileAutoAdapter.installSync
      rw [resolved]
      dsimp only
      rw [found, original_decoded decoded]
      dsimp only
      rw [merge_json json, merged]
      exact ⟨_, rfl, rfl⟩

/-! ## The merge -/

/-- A merge that returns assigns one entry and changes nothing else, can be repeated,
read and undone; and `verify` matches exactly when `install` has nothing to do. -/
theorem json_merge_assigns_once (env : FileEnv) (floats : Json.FloatsReadBack (decoder env.json)) :
    (∀ original key payload indent force outcome,
      mergeJson env.json original key payload indent force = .ok outcome →
        ∃ doc, MergesOnce env.json original key payload doc outcome) ∧
    ∀ (adapter : FileAutoAdapter) payload force stamp safety dir, adapter.isToml = false →
      ((∃ outcome, adapter.verify env payload dir = .ok outcome ∧
          outcome.entryMatchesCurrent = some true) ↔
        ∃ outcome, adapter.installSync env payload force stamp safety dir = (.ok outcome, dir) ∧
          outcome.reason = some (text "already_configured")) := by
  constructor
  · intro original key payload indent force outcome merged
    obtain ⟨doc, servers, parsed, found, kept | wrote⟩ := mergeJson_ok merged
    · obtain ⟨no, rfl⟩ := kept
      obtain ⟨entry, stored, alike⟩ := toAssign_false.1 no
      have readable := parse_readable floats parsed
      exact ⟨doc, mergesOnce_unchanged readable parsed found stored alike⟩
    · obtain ⟨assigns, dumped, proved, changed⟩ := wrote
      obtain ⟨mergedText, _⟩ := outcome
      cases changed
      have readable := parse_readable floats parsed
      have wrote := wrote_of_proved floats parsed found dumped proved
      exact ⟨doc, mergesOnce_wrote readable parsed found assigns wrote⟩
  · intro adapter payload force stamp safety dir json
    rw [verify_matches json, install_noop json]

/-! ## A registry with another server -/

/-- An interpreter in whose files the only float is a half. -/
def halves : JsonEnv where
  readDepth := 990
  writeDepth := 990
  cloneDepth := 990
  float _ := text "0.5"
  floatEquality := { float := fun one other => one = other, int := fun _ _ => false }
  decodeMessage _ := []
  reprText t := t

theorem halves_read_back : Json.FloatsReadBack (decoder halves) := by
  intro lexeme rest ends
  cases rest with
  | nil => rfl
  | cons c rest =>
    obtain rfl | rfl := ends c rfl
    · rfl
    · rfl

def otherServer : Text :=
  text "\x7b\"scale\": 0.5, \"mcpServers\": \x7b\"other\": \x7b\"url\": \"http://x\"\x7d\x7d, \"n\": 3\x7d"

def pythonModule : EntryPayload where
  command := text "python"
  args := [text "-m"]

def jsonHost : FileEnv where
  json := halves
  toml :=
    { loads := fun _ => .error (.decode []), cloneDepth := 990
      scalarEqual := fun one other => one = other, shown := fun _ => [], alnum := fun _ => false }
  backup := { unicode := ⟨fun _ c _ => [c], fun _ => none, fun t => t⟩, sha256 := fun _ => [] }

/-- Another server, a number and a float stand in the file before and after. -/
theorem json_merge_assigns_once_other : ∃ outcome doc,
    mergeJson halves otherServer (text "evoblue-video") pythonModule 2 false = .ok outcome ∧
      outcome.changed = true ∧
        MergesOnce halves otherServer (text "evoblue-video") pythonModule doc outcome := by
  have ran : ((mergeJson halves otherServer (text "evoblue-video") pythonModule 2 false).toOption.any
      fun outcome => outcome.changed) = true := by
    decide +kernel
  cases merged : mergeJson halves otherServer (text "evoblue-video") pythonModule 2 false with
  | error raised =>
    rw [merged] at ran
    cases ran
  | ok outcome =>
    rw [merged] at ran
    obtain ⟨doc, once⟩ := (json_merge_assigns_once jsonHost halves_read_back).1 _ _ _ _ _ _ merged
    exact ⟨outcome, doc, rfl, ran, once⟩

end EvoBlue.Guarantees
