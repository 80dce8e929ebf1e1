import EvoBlue.Source.MergeJson

/-!
# What a JSON merge leaves

The document that is written is the document that is read, so the comparison of the
code is one of dictionaries: assigning an entry and removing it agree outside of it.
-/

namespace EvoBlue.Source

open EvoBlue.Kernel

namespace MergeJson

variable {env : JsonEnv} {doc servers : Members} {key : Text}

/-! ## The hook -/

theorem rejectFrom_ok {seen pairs found : Members} (distinct : (Dict.keys seen).Nodup) :
    rejectFrom seen pairs = .ok found ↔ found = seen ++ pairs ∧ (Dict.keys (seen ++ pairs)).Nodup := by
  induction pairs generalizing seen with
  | nil =>
    rw [rejectFrom, List.append_nil, Except.ok.injEq]
    constructor
    · intro same
      exact ⟨same.symm, distinct⟩
    · intro both
      exact both.1.symm
  | cons pair pairs ih =>
    obtain ⟨name, value⟩ := pair
    rw [rejectFrom]
    split
    next mem =>
      constructor
      · intro raised
        cases raised
      · intro both
        have apart := (List.nodup_append.1 (Dict.keys_append seen _ ▸ both.2)).2.2
        exact absurd rfl (apart name mem name List.mem_cons_self)
    next absent =>
      rw [ih (Dict.nodup_set distinct name value), Dict.set_of_absent absent, List.append_assoc,
        List.singleton_append]

/-- The hook passes dictionaries only. -/
theorem decoder_strict (env : JsonEnv) : Json.Strict (decoder env) := by
  intro members found
  exact rejectFrom_ok List.nodup_nil

/-! ## Documents that were read -/

/-- A dictionary that can be written and read again. -/
abbrev Readable (env : JsonEnv) (doc : Members) : Prop := Json.Settled (decoder env) (.object doc)

theorem Readable.set (settled : Readable env doc) {name : Text} {value : Json}
    (new : Json.Settled (decoder env) value) : Readable env (Dict.set name value doc) := by
  constructor
  · exact Dict.nodup_set settled.1 name value
  · rw [Json.settledMembers_iff]
    intro pair mem
    rcases Dict.mem_set mem with rfl | old
    · exact new
    · exact Json.settledMembers_iff.1 settled.2 pair old

theorem Readable.pop (settled : Readable env doc) (name : Text) : Readable env (Dict.pop name doc) := by
  constructor
  · exact Dict.nodup_pop settled.1 name
  · rw [Json.settledMembers_iff]
    intro pair mem
    exact Json.settledMembers_iff.1 settled.2 pair (List.mem_filter.1 mem).1

theorem Readable.get (settled : Readable env doc) {name : Text} {value : Json}
    (stored : Dict.get name doc = some value) : Json.Settled (decoder env) value :=
  Json.settledMembers_iff.1 settled.2 (name, value) (Dict.mem_of_get stored)

theorem readable_nil (env : JsonEnv) : Readable env [] := ⟨List.nodup_nil, trivial⟩

theorem parse_readable (floats : Json.FloatsReadBack (decoder env)) {original : Text}
    (parsed : parse env original = .ok doc) : Readable env doc := by
  unfold parse at parsed
  split at parsed
  next => cases parsed
  split at parsed
  next => cases parsed
  split at parsed
  all_goals cases parsed
  next loaded => exact Json.loadsWith_settled floats (decoder_strict env) loaded

/-- What was written is parsed again, unless it nests too deep. -/
theorem parse_dumps (settled : Readable env doc) {indent : Nat} {written : Text}
    (dumped : dumps env indent doc = .ok written) : parse env written =
      if Json.nesting (.object doc) ≤ env.readDepth then .ok doc else .error .recursionError := by
  unfold dumps at dumped
  split at dumped
  next => cases dumped
  cases dumped
  have loaded := Json.loadsWith_write (decoder_strict env) settled indent
  obtain ⟨c, t, first⟩ : ∃ c t, Json.write indent 0 (.object doc) = cp '{' :: c :: t := by
    rw [Json.write]
    split
    · exact ⟨_, _, rfl⟩
    · exact ⟨_, _, rfl⟩
  have mark : (Json.write indent 0 (.object doc) ++ text "\n").head? ≠ some (codePoint 0xfeff) := by
    rw [first, List.cons_append, List.head?_cons]
    decide
  have visible : strip (Json.write indent 0 (.object doc) ++ text "\n") ≠ [] := by
    apply strip_ne_nil (c := cp '{')
    · rw [first]
      simp
    · decide
  unfold parse
  rw [if_neg mark, if_neg visible, loaded]
  have depth : (decoder env).depth = env.readDepth := rfl
  rw [depth]
  by_cases fits : Json.nesting (.object doc) ≤ env.readDepth
  · rw [if_pos fits, if_pos fits]
  · rw [if_neg fits, if_neg fits]

/-! ## The payload -/

theorem payloadEntry_keys (payload : EntryPayload) {name : Text}
    (mem : name ∈ Dict.keys (payloadEntry payload)) : name ∈ managedKeys := by
  unfold payloadEntry at mem
  split at mem
  next => simpa [managedKeys] using Or.imp_right Or.inl (by simpa using mem)
  next => simpa [managedKeys] using mem

theorem keys_strings (pairs : List (Text × Text)) :
    Dict.keys (pairs.map fun pair => (pair.1, Json.str pair.2)) = Dict.keys pairs := by
  unfold Dict.keys
  rw [List.map_map]
  rfl

theorem payloadEntry_readable (env : JsonEnv) (payload : EntryPayload) :
    Readable env (payloadEntry payload) := by
  have args : Json.SettledItems (decoder env) (payload.args.map .str) := by
    induction payload.args with
    | nil => trivial
    | cons arg args ih => exact ⟨trivial, ih⟩
  have strings : Readable env
      ((Dict.ofPairs payload.env).map fun pair => (pair.1, Json.str pair.2)) := by
    constructor
    · rw [keys_strings]
      exact Dict.nodup_ofPairs payload.env
    · rw [Json.settledMembers_iff]
      intro pair mem
      obtain ⟨old, _, rfl⟩ := List.mem_map.1 mem
      trivial
  have two : [text "command", text "args"].Nodup := by decide
  have three : [text "command", text "args", text "env"].Nodup := by decide
  unfold payloadEntry
  split
  · exact ⟨two, trivial, args, trivial⟩
  · exact ⟨three, trivial, args, strings, trivial⟩

theorem same_texts (env : JsonEnv) {pairs : List (Text × Text)} (distinct : (Dict.keys pairs).Nodup) :
    equal env (pairs.map fun pair => (pair.1, .str pair.2))
      (pairs.map fun pair => (pair.1, .str pair.2)) = true := by
  unfold equal
  rw [Json.same, decide_eq_true rfl, Bool.true_and, Json.sameMembers_iff]
  intro pair mem
  have stored := Dict.get_of_mem ((keys_strings pairs).symm ▸ distinct) mem
  obtain ⟨old, _, rfl⟩ := List.mem_map.1 mem
  exact ⟨_, stored, by simp [Json.same]⟩

theorem payloadEntry_equal (env : JsonEnv) (payload : EntryPayload) :
    equal env (payloadEntry payload) (payloadEntry payload) = true := by
  have args := @Json.same_strings env.floatEquality payload.args
  have texts := same_texts env (Dict.nodup_ofPairs payload.env)
  unfold equal
  rw [Json.same, decide_eq_true rfl, Bool.true_and, Json.sameMembers_iff]
  intro pair mem
  have stored := Dict.get_of_mem (payloadEntry_readable env payload).1 mem
  refine ⟨_, stored, ?_⟩
  unfold payloadEntry at mem
  rcases List.mem_append.1 mem with first | last
  · simp only [List.mem_cons, List.not_mem_nil, or_false] at first
    rcases first with rfl | rfl
    · simp [Json.same]
    · simpa [Json.same] using args
  · split at last
    next => cases last
    next =>
      rw [List.mem_singleton.1 last]
      exact texts

/-! ## Entries -/

theorem effectiveEntry_of_absent {entry : Members} (absent : text "disabled" ∉ Dict.keys entry) :
    effectiveEntry entry = entry := by
  unfold effectiveEntry
  rw [List.filter_eq_self]
  intro pair mem
  obtain ⟨name, value⟩ := pair
  have apart : name ≠ text "disabled" := by
    intro same
    exact absent (same ▸ List.mem_map_of_mem mem)
  dsimp only
  split
  · exact decide_eq_true apart
  · rfl

/-- An entry like the payload's has no `disabled`. -/
theorem effectiveEntry_of_equal {entry : Members} {payload : EntryPayload}
    (alike : equal env entry (payloadEntry payload) = true) : effectiveEntry entry = entry := by
  apply effectiveEntry_of_absent
  intro mem
  have managed := payloadEntry_keys payload (Json.mem_keys_of_same alike mem)
  exact absurd managed (by decide)

/-- Nothing is assigned exactly when the effective entry is the payload's. -/
theorem toAssign_false {payload : EntryPayload} {force : Bool} {current : Option Json} :
    toAssign env key (payloadEntry payload) force current = .ok false ↔
      ∃ entry, current = some (.object entry) ∧
        equal env (effectiveEntry entry) (payloadEntry payload) = true := by
  constructor
  · intro kept
    unfold toAssign at kept
    split at kept
    next => cases kept
    next => cases kept
    next entry =>
      split at kept
      next alike => exact ⟨entry, rfl, by rw [effectiveEntry_of_equal alike, alike]⟩
      split at kept
      next alike => exact ⟨entry, rfl, alike⟩
      split at kept <;> cases kept
    next => cases kept
  · rintro ⟨entry, rfl, alike⟩
    unfold toAssign
    dsimp only
    rw [if_pos alike]
    split <;> rfl

/-! ## The document of a merge -/

/-- The document with an entry assigned. -/
def assigned (doc servers : Members) (key : Text) (entry : Members) : Members :=
  Dict.set serversKey (.object (Dict.set key (.object entry) servers)) doc

theorem pruned_set (doc servers : Members) (key : Text) :
    pruned (Dict.set serversKey (.object servers) doc) key =
      if (Dict.pop key servers).isEmpty then Dict.pop serversKey doc
      else Dict.set serversKey (.object (Dict.pop key servers)) doc := by
  unfold pruned
  rw [Dict.get_set_self]
  dsimp only
  rw [Dict.pop_set, Dict.set_set]

theorem registry_ok (found : registry doc = .ok servers) :
    (Dict.get serversKey doc = some .null ∧ servers = []) ∨
      (Dict.get serversKey doc = none ∧ servers = []) ∨
        Dict.get serversKey doc = some (.object servers) := by
  unfold registry at found
  split at found
  next absent =>
    cases found
    exact .inr (.inl ⟨absent, rfl⟩)
  next null =>
    cases found
    exact .inl ⟨null, rfl⟩
  next same =>
    cases found
    exact .inr (.inr same)
  next => cases found

/-- Outside of the entry an assignment changes nothing, unless the registry is null. -/
theorem pruned_assigned (found : registry doc = .ok servers)
    (notNull : Dict.get serversKey doc ≠ some .null) (entry : Members) :
    pruned (assigned doc servers key entry) key = pruned doc key := by
  unfold assigned
  rw [pruned_set, Dict.pop_set]
  rcases registry_ok found with ⟨null, _⟩ | ⟨absent, rfl⟩ | same
  · exact absurd null notNull
  · have unset : Dict.pop serversKey doc = doc :=
      Dict.pop_of_absent (Dict.get_eq_none.1 absent)
    unfold pruned
    rw [absent]
    exact unset
  · unfold pruned
    rw [same]

theorem keys_of_get {name : Text} {value : Json} (stored : Dict.get name doc = some value) :
    name ∈ Dict.keys doc := List.mem_map_of_mem (Dict.mem_of_get stored)

/-- A null registry is there before a merge and not after it. -/
theorem pruned_null (null : Dict.get serversKey doc = some .null) (entry : Members) :
    equal env (pruned doc key) (pruned (assigned doc [] key entry) key) = false := by
  have gone : pruned (assigned doc [] key entry) key = Dict.pop serversKey doc := by
    unfold assigned
    rw [pruned_set, Dict.pop_set]
    rfl
  have kept : pruned doc key = doc := by
    unfold pruned
    rw [null]
  rw [gone, kept, Bool.eq_false_iff]
  intro alike
  have mem := Json.mem_keys_of_same alike (keys_of_get null)
  rw [Dict.keys_pop] at mem
  simp at mem

/-! ## A merge that returns -/

theorem proveIntact_ok {before after : Members} {removing : Bool}
    (proved : proveIntact env before after key removing = .ok ()) :
    Json.nesting (.object before) ≤ env.cloneDepth ∧ Json.nesting (.object after) ≤ env.cloneDepth ∧
      equal env (pruned before key) (pruned after key) = true := by
  unfold proveIntact at proved
  obtain ⟨rest, first, proved⟩ := Json.ok_of_bind proved
  obtain ⟨restAfter, second, proved⟩ := Json.ok_of_bind proved
  unfold prune at first second
  split at first
  next => cases first
  split at second
  next => cases second
  cases first
  cases second
  split at proved
  next => cases proved
  next alike => exact ⟨by omega, by omega, by simpa using alike⟩

/-- What `merge_json` returns. -/
theorem mergeJson_ok {original : Text} {payload : EntryPayload} {indent : Nat} {force : Bool}
    {outcome : MergeOutcome} (merged : mergeJson env original key payload indent force = .ok outcome) :
    ∃ doc servers, parse env original = .ok doc ∧ registry doc = .ok servers ∧
      ((toAssign env key (payloadEntry payload) force (Dict.get key servers) = .ok false ∧
          outcome = ⟨original, false⟩) ∨
        (toAssign env key (payloadEntry payload) force (Dict.get key servers) = .ok true ∧
          dumps env indent (assigned doc servers key (payloadEntry payload)) = .ok outcome.text ∧
          proveMerge env original outcome.text key (payloadEntry payload) = .ok () ∧
          outcome.changed = true)) := by
  unfold mergeJson at merged
  obtain ⟨doc, parsed, merged⟩ := Json.ok_of_bind merged
  obtain ⟨servers, found, merged⟩ := Json.ok_of_bind merged
  obtain ⟨assigns, decided, merged⟩ := Json.ok_of_bind merged
  refine ⟨doc, servers, parsed, found, ?_⟩
  split at merged
  next no =>
    rw [no] at decided
    cases merged
    exact .inl ⟨decided, rfl⟩
  next yes =>
    rw [Bool.not_eq_false] at yes
    rw [yes] at decided
    obtain ⟨mergedText, dumped, merged⟩ := Json.ok_of_bind merged
    obtain ⟨_, proved, merged⟩ := Json.ok_of_bind merged
    cases merged
    exact .inr ⟨decided, dumped, proved, rfl⟩

/-- A merge that wrote: the registry was no null, the merged document is read again, and
what is outside of the entry equals itself. -/
structure Wrote (env : JsonEnv) (doc servers : Members) (key : Text) (entry : Members)
    (mergedText : Text) : Prop where
  notNull : Dict.get serversKey doc ≠ some .null
  readable : Readable env (assigned doc servers key entry)
  parsed : parse env mergedText = .ok (assigned doc servers key entry)
  read : Json.nesting (.object (assigned doc servers key entry)) ≤ env.readDepth
  written : Json.nesting (.object (assigned doc servers key entry)) ≤ env.writeDepth
  cloned : Json.nesting (.object (assigned doc servers key entry)) ≤ env.cloneDepth
  rest : equal env (pruned doc key) (pruned doc key) = true

theorem registry_readable (readable : Readable env doc) (found : registry doc = .ok servers) :
    Readable env servers := by
  rcases registry_ok found with ⟨_, rfl⟩ | ⟨_, rfl⟩ | same
  · exact readable_nil env
  · exact readable_nil env
  · exact readable.get same

theorem wrote_of_proved (floats : Json.FloatsReadBack (decoder env)) {original mergedText : Text}
    {payload : EntryPayload} {indent : Nat} (parsed : parse env original = .ok doc)
    (found : registry doc = .ok servers)
    (dumped : dumps env indent (assigned doc servers key (payloadEntry payload)) = .ok mergedText)
    (proved : proveMerge env original mergedText key (payloadEntry payload) = .ok ()) :
    Wrote env doc servers key (payloadEntry payload) mergedText := by
  have readableDoc := parse_readable floats parsed
  have readable : Readable env (assigned doc servers key (payloadEntry payload)) := by
    apply readableDoc.set
    apply (registry_readable readableDoc found).set
    exact payloadEntry_readable env payload
  have again := parse_dumps readable dumped
  unfold proveMerge at proved
  obtain ⟨before, first, proved⟩ := Json.ok_of_bind proved
  obtain ⟨after, second, proved⟩ := Json.ok_of_bind proved
  rw [parsed] at first
  cases first
  rw [second] at again
  split at again
  next read =>
    cases again
    split at proved
    next => cases proved
    next =>
      obtain ⟨_, cloned, alike⟩ := proveIntact_ok proved
      have notNull : Dict.get serversKey doc ≠ some .null := by
        intro null
        obtain ⟨_, rfl⟩ | ⟨absent, _⟩ | same := registry_ok found
        · rw [pruned_null null] at alike
          cases alike
        · rw [null] at absent
          cases absent
        · rw [null] at same
          cases same
      have written : Json.nesting (.object (assigned doc servers key (payloadEntry payload))) ≤
          env.writeDepth := by
        unfold dumps at dumped
        split at dumped
        next => cases dumped
        next fits => exact Nat.le_of_not_lt fits
      rw [pruned_assigned found notNull] at alike
      exact ⟨notNull, readable, second, read, written, cloned, alike⟩
  next => cases again

/-! ## Merging again, and removing -/

theorem readEntry_some {original : Text} {found : Members} :
    readEntry env original key = .ok (some found) ↔
      ∃ doc servers entry, parse env original = .ok doc ∧
        Dict.get serversKey doc = some (.object servers) ∧
        Dict.get key servers = some (.object entry) ∧ found = effectiveEntry entry := by
  constructor
  · intro read
    unfold readEntry at read
    obtain ⟨doc, parsed, read⟩ := Json.ok_of_bind read
    split at read
    next servers listed =>
      split at read
      next entry stored =>
        cases read
        exact ⟨doc, servers, entry, parsed, listed, stored, rfl⟩
      next => cases read
    next => cases read
  · rintro ⟨doc, servers, entry, parsed, listed, stored, rfl⟩
    unfold readEntry
    rw [parsed, Json.ok_bind, listed]
    dsimp only
    rw [stored]
    rfl

/-- A merge leaves the text alone exactly when `read_entry` gives the payload's entry. -/
theorem mergeJson_unchanged {original : Text} {payload : EntryPayload} {indent : Nat} {force : Bool} :
    mergeJson env original key payload indent force = .ok ⟨original, false⟩ ↔
      ∃ entry, readEntry env original key = .ok (some entry) ∧
        equal env entry (payloadEntry payload) = true := by
  constructor
  · intro merged
    obtain ⟨doc, servers, parsed, found, ⟨kept, _⟩ | ⟨_, _, _, changed⟩⟩ := mergeJson_ok merged
    · obtain ⟨entry, stored, alike⟩ := toAssign_false.1 kept
      rcases registry_ok found with ⟨_, rfl⟩ | ⟨_, rfl⟩ | listed
      · cases stored
      · cases stored
      · exact ⟨_, readEntry_some.2 ⟨doc, servers, entry, parsed, listed, stored, rfl⟩, alike⟩
    · cases changed
  · rintro ⟨_, read, alike⟩
    obtain ⟨doc, servers, entry, parsed, listed, stored, rfl⟩ := readEntry_some.1 read
    have found : registry doc = .ok servers := by
      unfold registry
      rw [listed]
    have kept := (@toAssign_false env key payload force _).2 ⟨entry, stored, alike⟩
    unfold mergeJson
    rw [parsed, Json.ok_bind, found, Json.ok_bind]
    dsimp only
    rw [kept, Json.ok_bind]
    rfl

namespace Wrote

variable {payload : EntryPayload} {mergedText : Text}

theorem readEntry (wrote : Wrote env doc servers key (payloadEntry payload) mergedText) :
    readEntry env mergedText key = .ok (some (payloadEntry payload)) := by
  rw [readEntry_some]
  have plain := effectiveEntry_of_equal (payloadEntry_equal env payload)
  exact ⟨_, _, _, wrote.parsed, Dict.get_set_self _ _ _, Dict.get_set_self _ _ _, plain.symm⟩

/-- The document without the entry that was assigned. -/
def back (doc servers : Members) : Members := Dict.set serversKey (.object servers) doc

theorem back_of_assigned (doc servers : Members) (key : Text) (entry : Members) :
    Dict.set serversKey (.object servers) (assigned doc servers key entry) = back doc servers :=
  Dict.set_set _ _ _ _

/-- Nothing nests deeper without the entry. -/
theorem nesting_back {entry : Members} (absent : key ∉ Dict.keys servers) :
    Json.nesting (.object (back doc servers)) ≤
      Json.nesting (.object (assigned doc servers key entry)) := by
  have added : Dict.set key (.object entry) servers = servers ++ [(key, .object entry)] :=
    Dict.set_of_absent absent _
  have member : (serversKey, Json.object (Dict.set key (.object entry) servers)) ∈
      assigned doc servers key entry := Dict.mem_of_get (Dict.get_set_self _ _ _)
  unfold Json.nesting
  apply Nat.succ_le_succ
  rw [Json.nestingMembers_le, ← back_of_assigned doc servers key entry]
  intro pair mem
  rcases Dict.mem_set mem with rfl | old
  · have inner : Json.nesting (.object servers) ≤
        Json.nesting (.object (Dict.set key (.object entry) servers)) := by
      unfold Json.nesting
      apply Nat.succ_le_succ
      rw [Json.nestingMembers_le, added]
      intro pair mem
      exact Json.nestingMembers_le.1 (Nat.le_refl _) pair (List.mem_append_left _ mem)
    exact inner.trans (Json.nestingMembers_le.1 (Nat.le_refl _) _ member)
  · exact Json.nestingMembers_le.1 (Nat.le_refl _) pair old

theorem readable_back (wrote : Wrote env doc servers key (payloadEntry payload) mergedText)
    (readable : Readable env servers) : Readable env (back doc servers) := by
  rw [← back_of_assigned doc servers key (payloadEntry payload)]
  exact wrote.readable.set readable

theorem pruned_back (doc : Members) (entry : Members) :
    pruned (back doc servers) key = pruned (assigned doc servers key entry) key := by
  unfold back assigned
  rw [pruned_set, pruned_set, Dict.pop_set]

/-- The comparison of the code finds nothing changed. -/
theorem proveRemoval_back (wrote : Wrote env doc servers key (payloadEntry payload) mergedText)
    (found : registry doc = .ok servers) (absent : key ∉ Dict.keys servers) {removedText : Text}
    (parsed : parse env removedText = .ok (back doc servers)) :
    proveRemoval env mergedText removedText key = .ok () := by
  have cloned := (@nesting_back doc servers key (payloadEntry payload) absent).trans wrote.cloned
  have keysBack : registryKeys (back doc servers) = Dict.keys servers := by
    unfold registryKeys back
    rw [Dict.get_set_self]
  have keysAssigned : registryKeys (assigned doc servers key (payloadEntry payload)) =
      Dict.keys (Dict.set key (.object (payloadEntry payload)) servers) := by
    unfold registryKeys assigned
    rw [Dict.get_set_self]
  have keys : (Dict.keys (Dict.set key (.object (payloadEntry payload)) servers)).filter
      (fun name => name ≠ key) = Dict.keys servers := by
    rw [← Dict.keys_pop, Dict.pop_set, Dict.pop_of_absent absent]
  have alike : equal env (pruned (assigned doc servers key (payloadEntry payload)) key)
      (pruned (back doc servers) key) = true := by
    rw [pruned_back doc (payloadEntry payload), pruned_assigned found wrote.notNull]
    exact wrote.rest
  unfold proveRemoval
  rw [wrote.parsed, parsed, Json.ok_bind, Json.ok_bind, keysBack, if_neg absent]
  unfold proveIntact prune
  rw [if_neg (Nat.not_lt.2 wrote.cloned), if_neg (Nat.not_lt.2 cloned), Json.ok_bind, Json.ok_bind,
    alike, if_neg (by decide), keysBack, keysAssigned]
  simp only [if_true, keys]
  exact if_neg fun apart => apart rfl

/-- The entry that was assigned can be removed, and the document is back, with a registry. -/
theorem removed (wrote : Wrote env doc servers key (payloadEntry payload) mergedText)
    (found : registry doc = .ok servers) (absent : key ∉ Dict.keys servers)
    (readable : Readable env servers) (indent : Nat) :
    ∃ removedText, removeEntryJson env mergedText key indent = .ok ⟨removedText, true⟩ ∧
      parse env removedText = .ok (back doc servers) := by
  have less := @nesting_back doc servers key (payloadEntry payload) absent
  have dumped : dumps env indent (back doc servers) =
      .ok (Json.write indent 0 (.object (back doc servers)) ++ text "\n") :=
    if_neg (Nat.not_lt.2 (less.trans wrote.written))
  have parsed := parse_dumps (readable_back wrote readable) dumped
  rw [if_pos (less.trans wrote.read)] at parsed
  refine ⟨_, ?_, parsed⟩
  have listed : Dict.get serversKey (assigned doc servers key (payloadEntry payload)) =
      some (.object (Dict.set key (.object (payloadEntry payload)) servers)) := Dict.get_set_self _ _ _
  have stored : key ∈ Dict.keys (Dict.set key (.object (payloadEntry payload)) servers) :=
    keys_of_get (Dict.get_set_self _ _ _)
  unfold removeEntryJson
  rw [wrote.parsed, Json.ok_bind, listed]
  dsimp only
  rw [if_pos stored, Dict.pop_set, Dict.pop_of_absent absent, back_of_assigned, dumped, Json.ok_bind,
    proveRemoval_back wrote found absent parsed]
  rfl

end Wrote

end MergeJson

end EvoBlue.Source
