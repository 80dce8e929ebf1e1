import EvoBlue.Guarantees.RefusedConfigs
import EvoBlue.Kernel.Runs
import EvoBlue.Source.ConfigOperations

/-!
# Where a configuration comes from

A configuration file belongs to its user: this tool owns one entry of it. Over any
history of installations, removals, restores and edits by others, what the target holds
outside of that entry was there at the start, or somebody else wrote it. Every backup
holds what the target held at some earlier moment.
-/

namespace EvoBlue.Guarantees

open EvoBlue.Kernel EvoBlue.Source MergeJson FileAutoAdapter

/-! ## Outside of the entry -/

/-- The members of a document and of its registry, each in order, without ours, and the
mark the file begins with. -/
structure Outside where
  mark : Bytes
  root : Members
  others : Members

/-- A missing file reads as an empty document, and an empty registry as none; what the tool
cannot read counts byte by byte. -/
def outside (env : FileEnv) (adapter : FileAutoAdapter) (content : Option Bytes) :
    Option Bytes ⊕ Outside :=
  match adapter.original content with
  | .error _ => .inl content
  | .ok (mark, original) =>
    match parse env.json original with
    | .error _ => .inl content
    | .ok doc =>
      match Dict.get serversKey doc with
      | none => .inr ⟨mark, Dict.pop serversKey doc, []⟩
      | some (.object servers) =>
        .inr ⟨mark, Dict.pop serversKey doc, Dict.pop adapter.spec.entryKey servers⟩
      | some _ => .inl content

/-- The value of our entry in a content. -/
def entryIn (env : FileEnv) (adapter : FileAutoAdapter) (content : Option Bytes) : Option Json :=
  match adapter.original content with
  | .error _ => none
  | .ok (_, original) =>
    match parse env.json original with
    | .error _ => none
    | .ok doc => registered doc adapter.spec.entryKey

/-- What a target is after a restore of these bytes. -/
def released (data : Bytes) : Option Bytes := if isSentinel data then none else some data

/-- What the target holds. -/
def held (adapter : FileAutoAdapter) (dir : TargetDir) : Option Bytes :=
  adapter.resolve.bind fun path => (dir.getD ∅).lookup (nameOf path)

variable {env : FileEnv} {adapter : FileAutoAdapter} {path : Text}

theorem held_resolved (resolved : adapter.resolve = some path) (dir : TargetDir) :
    held adapter dir = (dir.getD ∅).lookup (nameOf path) := by
  unfold held
  rw [resolved]
  rfl

theorem outside_of_registry {content : Option Bytes} {mark : Bytes} {original : Text}
    {doc servers : Members} (started : adapter.original content = .ok (mark, original))
    (parsed : parse env.json original = .ok doc) (found : registry doc = .ok servers)
    (notNull : Dict.get serversKey doc ≠ some .null) :
    outside env adapter content =
      .inr ⟨mark, Dict.pop serversKey doc, Dict.pop adapter.spec.entryKey servers⟩ := by
  unfold outside
  rw [started]
  dsimp only
  rw [parsed]
  dsimp only
  rcases registry_ok found with ⟨null, _⟩ | ⟨absent, rfl⟩ | same
  · exact absurd null notNull
  · rw [absent]
    rfl
  · rw [same]

theorem entryIn_of_parsed {content : Option Bytes} {mark : Bytes} {original : Text} {doc : Members}
    (started : adapter.original content = .ok (mark, original))
    (parsed : parse env.json original = .ok doc) :
    entryIn env adapter content = registered doc adapter.spec.entryKey := by
  unfold entryIn
  rw [started]
  dsimp only
  rw [parsed]

/-! ## Texts in bytes -/

/-- The mark that was split off is the byte order mark, or nothing. -/
theorem original_mark {content : Option Bytes} {mark : Bytes} {original : Text}
    (started : adapter.original content = .ok (mark, original)) : mark = [] ∨ mark = bomUtf8 := by
  unfold FileAutoAdapter.original at started
  cases content with
  | none =>
    cases started
    exact .inl rfl
  | some raw =>
    dsimp only at started
    unfold splitBom at started
    split at started
    next =>
      by_cases marked : bomUtf8 <+: raw
      · rw [if_pos marked] at started
        cases started
        obtain ⟨rest, rfl⟩ := marked
        exact .inr rfl
      · rw [if_neg marked] at started
        cases started
        exact .inl rfl
    next => cases started

/-- What `json.dumps` writes begins with a brace. -/
theorem dumps_opens {indent : Nat} {doc : Members} {written : Text}
    (dumped : dumps env.json indent doc = .ok written) : ∃ rest, written = cp '{' :: rest := by
  unfold dumps at dumped
  split at dumped
  next => cases dumped
  cases dumped
  rw [Json.write]
  split
  · exact ⟨_, rfl⟩
  · exact ⟨_, rfl⟩

theorem encoded_opens {rest : Text} {bytes : Bytes}
    (encoded : encodeUtf8 (cp '{' :: rest) = some bytes) : ∃ tail, bytes = 0x7b :: tail := by
  unfold encodeUtf8 at encoded
  split at encoded
  next =>
    cases encoded
    exact ⟨rest.flatMap encodedForm, rfl⟩
  next => cases encoded

/-- What is written is split as it was joined. -/
theorem splitBom_encoded {mark : Bytes} (marked : mark = [] ∨ mark = bomUtf8) {rest : Text}
    {bytes : Bytes} (encoded : encode (cp '{' :: rest) mark = .ok bytes) :
    splitBom bytes = .ok (mark, cp '{' :: rest) ∧ decodeText bytes = some (cp '{' :: rest) := by
  unfold encode at encoded
  split at encoded
  next plain spelled =>
    cases encoded
    obtain ⟨tail, rfl⟩ := encoded_opens spelled
    have back := decode_of_encode spelled
    rcases marked with rfl | rfl
    · have unmarked : ¬ bomUtf8 <+: [] ++ 0x7b :: tail := by
        intro start
        obtain ⟨tail', same⟩ := start
        exact absurd (List.cons.inj same).1 (by decide)
      have decoded : decodeText ([] ++ 0x7b :: tail) = some (cp '{' :: rest) := by
        unfold decodeText
        rw [if_neg unmarked]
        exact back
      unfold splitBom
      rw [decoded]
      dsimp only
      rw [if_neg unmarked]
      exact ⟨rfl, rfl⟩
    · have start : bomUtf8 <+: bomUtf8 ++ 0x7b :: tail := List.prefix_append _ _
      have decoded : decodeText (bomUtf8 ++ 0x7b :: tail) = some (cp '{' :: rest) := by
        unfold decodeText
        rw [if_pos start]
        exact back
      unfold splitBom
      rw [decoded]
      dsimp only
      rw [if_pos start]
      exact ⟨rfl, rfl⟩
  next => cases encoded

/-- The sentinel is no document. -/
theorem sentinel_unreadable {mark : Bytes} {original : Text} {doc : Members}
    (started : adapter.original (some sentinelPayload) = .ok (mark, original)) :
    parse env.json original ≠ .ok doc := by
  intro parsed
  have decoded : decodeText sentinelPayload = some (absentSentinel ++ text "\n") := by
    decide +kernel
  rw [original_decoded decoded] at started
  cases started
  obtain ⟨_, _, loaded⟩ := parse_ok.1 parsed
  have broken : Json.loadsWith (decoder env.json) (absentSentinel ++ text "\n") =
      .error (.json .decode) := rfl
  rw [broken] at loaded
  cases loaded

theorem not_sentinel {content : Option Bytes} {mark : Bytes} {original : Text} {doc : Members}
    (started : adapter.original content = .ok (mark, original))
    (parsed : parse env.json original = .ok doc) : content ≠ some sentinelPayload := by
  intro same
  rw [same] at started
  exact sentinel_unreadable started parsed

/-- What cannot be read tells which content it was. -/
theorem eq_of_unreadable {content other : Option Bytes}
    (same : outside env adapter content = .inl other) : content = other := by
  unfold outside at same
  split at same
  next => exact Sum.inl.inj same
  next =>
    split at same
    next => exact Sum.inl.inj same
    next =>
      split at same
      next => cases same
      next => cases same
      next => exact Sum.inl.inj same

theorem outside_sentinel :
    outside env adapter (some sentinelPayload) = .inl (some sentinelPayload) := by
  unfold outside
  split
  next => rfl
  next mark original started =>
    split
    next => rfl
    next doc parsed => exact absurd parsed (sentinel_unreadable started)

/-! ## The shelf -/

/-- What an operation leaves of the files next to the target: a backup is old or holds
what the target held, and nothing else is touched. -/
structure Shelved (env : FileEnv) (target : Text) (before after : ConfigDir) : Prop where
  shelf : ∀ name data, isBackupName env.backup.unicode target name = true →
    after.lookup name = some data →
      before.lookup name = some data ∨ data = captureOf (before.lookup target)
  beside : ∀ name, name ≠ target → isBackupName env.backup.unicode target name = false →
    after.lookup name = before.lookup name

section

variable {target : Text} {dir before middle after : ConfigDir} {stamp safety : Stamp}

theorem shelved_of_others (same : ∀ name, name ≠ target → after.lookup name = before.lookup name) :
    Shelved env target before after := by
  constructor
  · intro name data backup stored
    have apart : name ≠ target := by
      intro here
      rw [here, target_not_backup] at backup
      cases backup
    rw [same name apart] at stored
    exact .inl stored
  · intro name apart _
    exact same name apart

theorem Shelved.trans (first : Shelved env target before middle)
    (kept : middle.lookup target = before.lookup target)
    (second : Shelved env target middle after) : Shelved env target before after := by
  constructor
  · intro name data backup stored
    rcases second.shelf name data backup stored with old | new
    · exact first.shelf name data backup old
    · exact .inr (kept ▸ new)
  · intro name apart plain
    rw [second.beside name apart plain, first.beside name apart plain]

/-- The directory with a new backup, before the shelf is pruned. -/
def withBackup (target : Text) (stamp : Stamp) (dir : ConfigDir) : ConfigDir :=
  dir.insert (backupName target stamp.1 stamp.2) (captureOf (dir.lookup target))

theorem createBackup_eq : (createBackup env.backup target stamp.1 stamp.2 dir).2 =
    (withBackup target stamp dir).eraseAll
      ((backupPaths env.backup.unicode target (withBackup target stamp dir)).drop
        backupRetention) := rfl

/-- What is there after a backup was there with it. -/
theorem createBackup_lookup {name : Text} {data : Bytes}
    (stored : (createBackup env.backup target stamp.1 stamp.2 dir).2.lookup name = some data) :
    (withBackup target stamp dir).lookup name = some data := by
  rw [createBackup_eq] at stored
  by_cases dropped : name ∈ (backupPaths env.backup.unicode target
      (withBackup target stamp dir)).drop backupRetention
  · rw [lookup_eraseAll_of_mem dropped] at stored
    cases stored
  · rw [lookup_eraseAll_of_notMem dropped] at stored
    exact stored

theorem createBackup_own {data : Bytes}
    (stored : (createBackup env.backup target stamp.1 stamp.2 dir).2.lookup
      (backupName target stamp.1 stamp.2) = some data) : data = captureOf (dir.lookup target) := by
  have there := createBackup_lookup stored
  unfold withBackup at there
  rw [AList.lookup_insert, Option.some.injEq] at there
  exact there.symm

theorem shelved_createBackup :
    Shelved env target dir (createBackup env.backup target stamp.1 stamp.2 dir).2 := by
  constructor
  · intro name data _ stored
    by_cases own : name = backupName target stamp.1 stamp.2
    · rw [own] at stored
      exact .inr (createBackup_own stored)
    · have there := createBackup_lookup stored
      unfold withBackup at there
      rw [AList.lookup_insert_ne own] at there
      exact .inl there
  · intro name _ plain
    have own : name ≠ backupName target stamp.1 stamp.2 := by
      intro same
      rw [same, backupName_isBackup] at plain
      cases plain
    have kept : name ∉ (backupPaths env.backup.unicode target
        (withBackup target stamp dir)).drop backupRetention := by
      intro dropped
      have listed := (List.mem_filter.1 (mem_descending.1 (List.mem_of_mem_drop dropped))).2
      rw [plain] at listed
      cases listed
    rw [createBackup_eq, lookup_eraseAll_of_notMem kept]
    exact AList.lookup_insert_ne own

theorem shelved_restored {data : Bytes} :
    Shelved env target dir
      (restoredDir target data (createBackup env.backup target stamp.1 stamp.2 dir).2) :=
  shelved_createBackup.trans createBackup_target
    (shelved_of_others fun _ apart => restoredDir_other apart data)

theorem restoredDir_released (data : Bytes) :
    (restoredDir target data dir).lookup target = released data := by
  unfold restoredDir released
  split
  · exact AList.lookup_erase _ _
  · exact AList.lookup_insert _

/-- What a failed write is rolled back to is what was there. -/
theorem restore_undoes (plain : dir.lookup target ≠ some sentinelPayload) {result : RestoreResult}
    (returned : restore env.backup target (backupName target stamp.1 stamp.2) safety.1 safety.2
      (createBackup env.backup target stamp.1 stamp.2 dir).2 = .ok (result, after)) :
    after.lookup target = dir.lookup target ∧ Shelved env target dir after := by
  have resolved := restore_ok returned
  obtain ⟨_, _, _, data, there⟩ := resolveBackup_iff.1 resolved
  rw [restore_eq resolved there] at returned
  cases returned
  rw [createBackup_own there]
  constructor
  · exact (restoredDir_target_iff _).2 plain
  · exact shelved_createBackup.trans createBackup_target shelved_restored

theorem rollBackWith_keeps (message : Text) (plain : dir.lookup target ≠ some sentinelPayload) :
    ∃ fault after, rollBackWith env message target (backupName target stamp.1 stamp.2) safety
        (createBackup env.backup target stamp.1 stamp.2 dir).2 = (.error fault, some after) ∧
      after.lookup target = dir.lookup target ∧ Shelved env target dir after := by
  unfold rollBackWith
  cases returned : restore env.backup target (backupName target stamp.1 stamp.2) safety.1 safety.2
      (createBackup env.backup target stamp.1 stamp.2 dir).2 with
  | error raised => exact ⟨_, _, rfl, createBackup_target, shelved_createBackup⟩
  | ok pair => exact ⟨_, _, rfl, restore_undoes plain returned⟩

end

/-! ## Installing and removing -/

/-- The operation says that it was performed. -/
def performed : Except FileFault OperationOutcome → Bool
  | .ok outcome => outcome.performed
  | .error _ => false

/-- An operation that was performed leaves what is outside of the entry, and this entry;
one that was not, or that raised, leaves the target. -/
structure Tends (env : FileEnv) (adapter : FileAutoAdapter) (path : Text) (entry : Option Json)
    (before : TargetDir) (result : Except FileFault OperationOutcome) (after : TargetDir) :
    Prop where
  outside : performed result = true →
    outside env adapter (held adapter after) = outside env adapter (held adapter before)
  entry : performed result = true → entryIn env adapter (held adapter after) = entry
  kept : performed result = false → held adapter after = held adapter before
  shelved : Shelved env (nameOf path) (before.getD ∅) (after.getD ∅)

variable {entry : Option Json} {files : ConfigDir}

theorem tends_unchanged {dir : TargetDir} {result : Except FileFault OperationOutcome}
    (refused : performed result = false) : Tends env adapter path entry dir result dir := by
  have undone : performed result ≠ true := by simp [refused]
  constructor
  · intro done
    exact absurd done undone
  · intro done
    exact absurd done undone
  · intro _
    rfl
  · exact shelved_of_others fun _ _ => rfl

theorem tends_rolledBack (resolved : adapter.resolve = some path) {fault : FileFault}
    {after : ConfigDir} (same : after.lookup (nameOf path) = files.lookup (nameOf path))
    (shelved : Shelved env (nameOf path) files after) :
    Tends env adapter path entry (some files) (.error fault) (some after) := by
  constructor
  · intro done
    cases done
  · intro done
    cases done
  · intro _
    rw [held_resolved resolved, held_resolved resolved]
    exact same
  · exact shelved

/-- The target is replaced by a text that reads as the same document, the entry apart. -/
theorem tends_committed (resolved : adapter.resolve = some path) {stamp : Stamp}
    {outcome : OperationOutcome} {mark bytes : Bytes} {original written : Text}
    {doc servers later others : Members}
    (started : adapter.original (files.lookup (nameOf path)) = .ok (mark, original))
    (parsed : parse env.json original = .ok doc) (found : registry doc = .ok servers)
    (notNull : Dict.get serversKey doc ≠ some .null) (splits : splitBom bytes = .ok (mark, written))
    (read : parse env.json written = .ok later)
    (listed : Dict.get serversKey later = some (.object others))
    (root : Dict.pop serversKey later = Dict.pop serversKey doc)
    (rest : Dict.pop adapter.spec.entryKey others = Dict.pop adapter.spec.entryKey servers)
    (own : Dict.get adapter.spec.entryKey others = entry) (done : outcome.performed = true) :
    Tends env adapter path entry (some files) (.ok outcome)
      (some ((createBackup env.backup (nameOf path) stamp.1 stamp.2 files).2.insert (nameOf path)
        bytes)) := by
  have now : held adapter (some ((createBackup env.backup (nameOf path) stamp.1 stamp.2 files).2.insert
      (nameOf path) bytes)) = some bytes := by
    rw [held_resolved resolved]
    exact AList.lookup_insert _
  have starts : adapter.original (some bytes) = .ok (mark, written) := splits
  constructor
  · intro _
    have registered : registry later = .ok others := by
      unfold registry
      rw [listed]
    have present : Dict.get serversKey later ≠ some .null := by
      rw [listed]
      simp
    rw [now, held_resolved resolved, outside_of_registry starts read registered present, root, rest]
    exact (outside_of_registry started parsed found notNull).symm
  · intro _
    rw [now, entryIn_of_parsed starts read]
    unfold registered
    rw [listed]
    exact own
  · intro undone
    rw [performed, done] at undone
    cases undone
  · apply shelved_createBackup.trans createBackup_target
    exact shelved_of_others fun _ apart => AList.lookup_insert_ne apart

theorem commitChecked_ends {check : Text → Except ConfigError Unit} {target rest : Text} {mark : Bytes}
    (marked : mark = [] ∨ mark = bomUtf8) (checked : check (cp '{' :: rest) = .ok ()) :
    (∃ error, commitChecked check target mark (cp '{' :: rest) files = (.error error, files)) ∨
      ∃ bytes, splitBom bytes = .ok (mark, cp '{' :: rest) ∧
        commitChecked check target mark (cp '{' :: rest) files = (.ok (), files.insert target bytes) := by
  unfold commitChecked
  cases encoded : encode (cp '{' :: rest) mark with
  | error error => exact .inl ⟨error, rfl⟩
  | ok bytes =>
    obtain ⟨splits, decoded⟩ := splitBom_encoded marked encoded
    refine .inr ⟨bytes, splits, ?_⟩
    dsimp only
    rw [decoded]
    dsimp only
    rw [checked]

/-- From the backup on: what passed the proof before it was written passes it afterwards, so
only the encoding can fail, and then the target is what it was. -/
theorem overwrite_tends (resolved : adapter.resolve = some path) (stamp safety : Stamp)
    {check : Text → Except ConfigError Unit} {outcome : Text → OperationOutcome} {mark : Bytes}
    {original rest : Text} {doc servers later others : Members} (message : Text)
    (started : adapter.original (files.lookup (nameOf path)) = .ok (mark, original))
    (parsed : parse env.json original = .ok doc) (found : registry doc = .ok servers)
    (notNull : Dict.get serversKey doc ≠ some .null) (checked : check (cp '{' :: rest) = .ok ())
    (read : parse env.json (cp '{' :: rest) = .ok later)
    (listed : Dict.get serversKey later = some (.object others))
    (root : Dict.pop serversKey later = Dict.pop serversKey doc)
    (same : Dict.pop adapter.spec.entryKey others = Dict.pop adapter.spec.entryKey servers)
    (own : Dict.get adapter.spec.entryKey others = entry)
    (done : ∀ name, (outcome name).performed = true) :
    Tends env adapter path entry (some files)
      (overwrite env check message outcome (nameOf path) mark (cp '{' :: rest) stamp safety files).1
      (overwrite env check message outcome (nameOf path) mark (cp '{' :: rest) stamp safety files).2 := by
  have ends := @commitChecked_ends (createBackup env.backup (nameOf path) stamp.1 stamp.2 files).2
    check (nameOf path) rest mark (original_mark started) checked
  unfold overwrite
  cases made : createBackup env.backup (nameOf path) stamp.1 stamp.2 files with
  | mk backup shelf =>
    have shelfIs : (createBackup env.backup (nameOf path) stamp.1 stamp.2 files).2 = shelf :=
      congrArg Prod.snd made
    have nameIs : backupName (nameOf path) stamp.1 stamp.2 = backup.name :=
      congrArg (fun pair => pair.1.name) made
    dsimp only
    rw [shelfIs] at ends
    rcases ends with ⟨error, failed⟩ | ⟨bytes, splits, committed⟩
    · rw [failed]
      dsimp only
      rw [← nameIs, ← shelfIs]
      obtain ⟨fault, after, rolled, back, shelved⟩ := @rollBackWith_keeps env (nameOf path) files
        stamp safety message (not_sentinel started parsed)
      rw [rolled]
      exact tends_rolledBack resolved back shelved
    · rw [committed]
      dsimp only
      rw [← shelfIs]
      exact tends_committed resolved started parsed found notNull splits read listed root same own
        (done _)

theorem installSync_tends (floats : Json.FloatsReadBack (decoder env.json))
    (json : adapter.isToml = false) (resolved : adapter.resolve = some path) (payload : EntryPayload)
    (force : Bool) (stamp safety : Stamp) (dir : TargetDir) :
    Tends env adapter path (some (.object (payloadEntry payload))) dir
      (adapter.installSync env payload force stamp safety dir).1
      (adapter.installSync env payload force stamp safety dir).2 := by
  unfold FileAutoAdapter.installSync
  rw [resolved]
  cases dir with
  | none => exact tends_unchanged rfl
  | some files =>
    dsimp only
    cases started : adapter.original (files.lookup (nameOf path)) with
    | error error => exact tends_unchanged rfl
    | ok pair =>
      obtain ⟨mark, original⟩ := pair
      dsimp only
      rw [merge_json json]
      cases merged : mergeJson env.json original adapter.spec.entryKey payload adapter.indent force with
      | error error => exact tends_unchanged rfl
      | ok outcome =>
        dsimp only
        split
        next => exact tends_unchanged rfl
        next changed =>
          obtain ⟨doc, servers, parsed, found, ⟨_, same⟩ | ⟨_, dumped, proved, _⟩⟩ := mergeJson_ok merged
          · rw [same] at changed
            exact absurd rfl changed
          · have wrote := wrote_of_proved floats parsed found dumped proved
            obtain ⟨rest, opens⟩ := dumps_opens dumped
            rw [opens] at proved wrote ⊢
            have passes : adapter.postMergeProof env original (cp '{' :: rest) payload = .ok () := by
              unfold FileAutoAdapter.postMergeProof
              rw [json, if_neg (by decide), proved]
            have tends := @overwrite_tends env adapter path
              (some (.object (payloadEntry payload))) files resolved stamp safety
              (fun written => adapter.postMergeProof env original written payload) installedEntry mark
              original rest doc servers _ _ postWriteFailed started parsed found wrote.notNull passes
              wrote.parsed (Dict.get_set_self _ _ _) (Dict.pop_set _ _ _) (Dict.pop_set _ _ _)
              (Dict.get_set_self _ _ _) fun _ => rfl
            exact tends

/-- A removal that wrote: what it wrote is read as the document without the entry. -/
theorem removeEntryJson_wrote (floats : Json.FloatsReadBack (decoder env.json)) {original key : Text}
    {indent : Nat} {outcome : MergeOutcome}
    (removed : removeEntryJson env.json original key indent = .ok outcome)
    (changed : outcome.changed ≠ false) :
    ∃ doc servers, parse env.json original = .ok doc ∧
      Dict.get serversKey doc = some (.object servers) ∧
      dumps env.json indent (Wrote.back doc (Dict.pop key servers)) = .ok outcome.text ∧
      parse env.json outcome.text = .ok (Wrote.back doc (Dict.pop key servers)) ∧
      proveRemoval env.json original outcome.text key = .ok () := by
  unfold removeEntryJson at removed
  obtain ⟨doc, parsed, removed⟩ := Json.ok_of_bind removed
  split at removed
  next servers listed =>
    split at removed
    next =>
      obtain ⟨mergedText, dumped, removed⟩ := Json.ok_of_bind removed
      obtain ⟨_, proved, removed⟩ := Json.ok_of_bind removed
      cases removed
      have readable := parse_readable floats parsed
      have later : Readable env.json (Wrote.back doc (Dict.pop key servers)) :=
        readable.set (Readable.pop (readable.get listed) key)
      have again := parse_dumps later dumped
      have seen := proved
      unfold proveRemoval at seen
      obtain ⟨_, _, seen⟩ := Json.ok_of_bind seen
      obtain ⟨after, second, _⟩ := Json.ok_of_bind seen
      rw [second] at again
      split at again
      next =>
        rw [again] at second
        exact ⟨doc, servers, parsed, listed, dumped, second, proved⟩
      next => cases again
    next =>
      cases removed
      exact absurd rfl changed
  next =>
    cases removed
    exact absurd rfl changed

theorem removeSync_tends (floats : Json.FloatsReadBack (decoder env.json))
    (json : adapter.isToml = false) (resolved : adapter.resolve = some path) (stamp safety : Stamp)
    (dir : TargetDir) :
    Tends env adapter path none dir (adapter.removeSync env stamp safety dir).1
      (adapter.removeSync env stamp safety dir).2 := by
  unfold removeSync
  rw [resolved]
  cases dir with
  | none => exact tends_unchanged rfl
  | some files =>
    dsimp only
    cases stored : files.lookup (nameOf path) with
    | none => exact tends_unchanged rfl
    | some raw =>
      dsimp only
      cases split : splitBom raw with
      | error error => exact tends_unchanged rfl
      | ok pair =>
        obtain ⟨mark, original⟩ := pair
        have started : adapter.original (files.lookup (nameOf path)) = .ok (mark, original) := by
          rw [stored]
          exact split
        dsimp only
        cases adapter.readEntry env original with
        | error error => exact tends_unchanged rfl
        | ok read =>
          cases read with
          | none => exact tends_unchanged rfl
          | some _ =>
            have plain : adapter.removeEntry env original =
                removeEntryJson env.json original adapter.spec.entryKey adapter.indent := by
              unfold removeEntry
              rw [json, if_neg (by decide)]
            dsimp only
            rw [plain]
            cases removed : removeEntryJson env.json original adapter.spec.entryKey adapter.indent with
            | error error => exact tends_unchanged rfl
            | ok outcome =>
              dsimp only
              split
              next => exact tends_unchanged rfl
              next changed =>
                obtain ⟨doc, servers, parsed, listed, dumped, read, proved⟩ :=
                  removeEntryJson_wrote floats removed changed
                obtain ⟨rest, opens⟩ := dumps_opens dumped
                rw [opens] at proved read ⊢
                have passes : adapter.postRemovalProof env original (cp '{' :: rest) = .ok () := by
                  unfold postRemovalProof
                  rw [json, if_neg (by decide), proved]
                have found : registry doc = .ok servers := by
                  unfold registry
                  rw [listed]
                have notNull : Dict.get serversKey doc ≠ some .null := by
                  rw [listed]
                  simp
                have twice : Dict.pop adapter.spec.entryKey (Dict.pop adapter.spec.entryKey servers) =
                    Dict.pop adapter.spec.entryKey servers := by
                  apply Dict.pop_of_absent
                  rw [Dict.keys_pop]
                  simp
                exact overwrite_tends resolved stamp safety postRemovalFailed started parsed found notNull
                  passes read (Dict.get_set_self _ _ _) (Dict.pop_set _ _ _) twice
                  (Dict.get_pop_self _ _) fun _ => rfl

/-! ## Restoring -/

/-- A restore puts back what the backup holds, or leaves everything as it is. -/
structure Reverts (env : FileEnv) (adapter : FileAutoAdapter) (path name : Text) (before : TargetDir)
    (result : Except FileFault OperationOutcome) (after : TargetDir) : Prop where
  back : after = before ∨ ∃ data, isBackupName env.backup.unicode (nameOf path) name = true ∧
    (before.getD ∅).lookup name = some data ∧ held adapter after = released data
  done : performed result = true → ∃ data, (before.getD ∅).lookup name = some data ∧
    held adapter after = released data
  shelved : Shelved env (nameOf path) (before.getD ∅) (after.getD ∅)

theorem restoreSync_reverts (resolved : adapter.resolve = some path) (name : Text) (safety : Stamp)
    (dir : TargetDir) :
    Reverts env adapter path name dir (adapter.restoreSync env name safety dir).1
      (adapter.restoreSync env name safety dir).2 := by
  unfold restoreSync
  rw [resolved]
  dsimp only
  cases returned : restore env.backup (nameOf path) name safety.1 safety.2 (dir.getD ∅) with
  | error raised =>
    constructor
    · exact .inl rfl
    · intro done
      cases done
    · exact shelved_of_others fun _ _ => rfl
  | ok pair =>
    obtain ⟨result, after⟩ := pair
    have resolves := restore_ok returned
    obtain ⟨_, _, backup, data, there⟩ := resolveBackup_iff.1 resolves
    have moved := @restore_eq env.backup (nameOf path) safety.1 safety.2 _ _ _ resolves there
    rw [returned] at moved
    cases moved
    have now : ∀ outcome, Reverts env adapter path name dir outcome
        (some (restoredDir (nameOf path) data
          (createBackup env.backup (nameOf path) safety.1 safety.2 (dir.getD ∅)).2)) := by
      intro outcome
      have content : held adapter (some (restoredDir (nameOf path) data
          (createBackup env.backup (nameOf path) safety.1 safety.2 (dir.getD ∅)).2)) =
            released data := by
        rw [held_resolved resolved]
        exact restoredDir_released data
      constructor
      · exact .inr ⟨data, backup, there, content⟩
      · intro _
        exact ⟨data, there, content⟩
      · exact shelved_restored
    dsimp only
    split
    next => exact now _
    next => exact now _

/-! ## Histories -/

/-- A content that does not come from this tool: it was there at the start, or another
program wrote it. A restore takes a target that reads like the sentinel for a missing
one. -/
inductive Foreign (env : FileEnv) (adapter : FileAutoAdapter) (path : Text) (start : TargetDir)
    (events : List Event) : Option Bytes → Prop where
  | start : Foreign env adapter path start events (held adapter start)
  | edit (content : Option Bytes) (made : .edit content ∈ events) :
    Foreign env adapter path start events content
  | shelf (name : Text) (data : Bytes)
    (backup : isBackupName env.backup.unicode (nameOf path) name = true)
    (stored : (start.getD ∅).lookup name = some data) :
    Foreign env adapter path start events (released data)
  | sentinel (written : Foreign env adapter path start events (some sentinelPayload)) :
    Foreign env adapter path start events none

theorem Foreign.later {start : TargetDir} {past : List Event} {content : Option Bytes}
    (foreign : Foreign env adapter path start past content) (event : Event) :
    Foreign env adapter path start (past ++ [event]) content := by
  induction foreign with
  | start => exact .start
  | edit content made => exact .edit content (List.mem_append_left _ made)
  | shelf name data backup stored => exact .shelf name data backup stored
  | sentinel _ ih => exact .sentinel ih

/-- Where the files of a target come from after these events. -/
structure Attributed (env : FileEnv) (adapter : FileAutoAdapter) (path : Text) (start : TargetDir)
    (events : List Event) (dir : TargetDir) : Prop where
  target : ∃ content, Foreign env adapter path start events content ∧
    outside env adapter (held adapter dir) = outside env adapter content
  shelf : ∀ name data, isBackupName env.backup.unicode (nameOf path) name = true →
    (dir.getD ∅).lookup name = some data → ∃ content, Foreign env adapter path start events content ∧
      outside env adapter (released data) = outside env adapter content
  moments : ∀ name data, isBackupName env.backup.unicode (nameOf path) name = true →
    (dir.getD ∅).lookup name = some data → (start.getD ∅).lookup name = some data ∨
      ∃ past, past <+: events ∧ data = captureOf (held adapter (run (happen env adapter) start past))
  beside : ∀ name, name ≠ nameOf path → isBackupName env.backup.unicode (nameOf path) name = false →
    (dir.getD ∅).lookup name = (start.getD ∅).lookup name

variable {start : TargetDir}

theorem attributed_start : Attributed env adapter path start [] start := by
  constructor
  · exact ⟨_, .start, rfl⟩
  · intro name data backup stored
    exact ⟨_, .shelf name data backup stored, rfl⟩
  · intro name data _ stored
    exact .inl stored
  · intro name _ _
    rfl

/-- What a backup of a target gives back comes from where the target came from. -/
theorem foreign_capture {events : List Event} {dir : TargetDir}
    (known : Attributed env adapter path start events dir) :
    ∃ content, Foreign env adapter path start events content ∧
      outside env adapter (released (captureOf (held adapter dir))) = outside env adapter content := by
  obtain ⟨content, foreign, same⟩ := known.target
  cases holds : held adapter dir with
  | none =>
    have missing : released (captureOf none) = none := if_pos (isSentinel_iff.2 rfl)
    rw [missing]
    rw [holds] at same
    exact ⟨content, foreign, same⟩
  | some data =>
    unfold captureOf released
    dsimp only [Option.getD_some]
    split
    next sentinel =>
      rw [isSentinel_iff.1 sentinel] at holds
      rw [holds, outside_sentinel] at same
      rw [eq_of_unreadable same.symm] at foreign
      exact ⟨none, .sentinel foreign, rfl⟩
    next =>
      rw [holds] at same
      exact ⟨content, foreign, same⟩

/-- The files next to the target after one more event. -/
theorem attributed_shelved (resolved : adapter.resolve = some path) {past : List Event}
    {event : Event} {after : TargetDir}
    (known : Attributed env adapter path start past (run (happen env adapter) start past))
    (shelved : Shelved env (nameOf path) ((run (happen env adapter) start past).getD ∅) (after.getD ∅))
    (target : ∃ content, Foreign env adapter path start (past ++ [event]) content ∧
      outside env adapter (held adapter after) = outside env adapter content) :
    Attributed env adapter path start (past ++ [event]) after := by
  constructor
  · exact target
  · intro name data backup stored
    rcases shelved.shelf name data backup stored with old | new
    · obtain ⟨content, foreign, same⟩ := known.shelf name data backup old
      exact ⟨content, foreign.later event, same⟩
    · obtain ⟨content, foreign, same⟩ := foreign_capture known
      rw [← held_resolved resolved] at new
      rw [new]
      exact ⟨content, foreign.later event, same⟩
  · intro name data backup stored
    rcases shelved.shelf name data backup stored with old | new
    · rcases known.moments name data backup old with first | ⟨moment, before, captured⟩
      · exact .inl first
      · exact .inr ⟨moment, before.trans (List.prefix_append _ _), captured⟩
    · rw [← held_resolved resolved] at new
      exact .inr ⟨past, List.prefix_append _ _, new⟩
  · intro name apart plain
    rw [shelved.beside name apart plain, known.beside name apart plain]

/-- An operation that keeps what is outside of the entry. -/
theorem attributed_tended (resolved : adapter.resolve = some path) {past : List Event}
    {event : Event} {after : TargetDir} {result : Except FileFault OperationOutcome}
    (known : Attributed env adapter path start past (run (happen env adapter) start past))
    (tends : Tends env adapter path entry (run (happen env adapter) start past) result after) :
    Attributed env adapter path start (past ++ [event]) after := by
  apply attributed_shelved resolved known tends.shelved
  obtain ⟨content, foreign, same⟩ := known.target
  refine ⟨content, foreign.later event, ?_⟩
  cases done : performed result with
  | true => rw [tends.outside done, same]
  | false => rw [tends.kept done, same]

theorem attributed_reverted (resolved : adapter.resolve = some path) {past : List Event}
    {event : Event} {after : TargetDir} {name : Text} {result : Except FileFault OperationOutcome}
    (known : Attributed env adapter path start past (run (happen env adapter) start past))
    (reverts : Reverts env adapter path name (run (happen env adapter) start past) result after) :
    Attributed env adapter path start (past ++ [event]) after := by
  apply attributed_shelved resolved known reverts.shelved
  rcases reverts.back with same | ⟨data, backup, stored, now⟩
  · obtain ⟨content, foreign, outside⟩ := known.target
    rw [same]
    exact ⟨content, foreign.later event, outside⟩
  · obtain ⟨content, foreign, outside⟩ := known.shelf name data backup stored
    rw [now]
    exact ⟨content, foreign.later event, outside⟩

theorem edited_target (target : Text) (content : Option Bytes) (dir : TargetDir) :
    ((edited target content dir).getD ∅).lookup target = content := by
  cases content with
  | some data => exact AList.lookup_insert _
  | none =>
    cases dir with
    | none => rfl
    | some files => exact AList.lookup_erase _ _

theorem edited_shelved (target : Text) (content : Option Bytes) (dir : TargetDir) :
    Shelved env target (dir.getD ∅) ((edited target content dir).getD ∅) := by
  apply shelved_of_others
  intro name apart
  cases content with
  | some data => exact AList.lookup_insert_ne apart
  | none =>
    cases dir with
    | none => rfl
    | some files => exact AList.lookup_erase_ne apart

theorem attributed_step (floats : Json.FloatsReadBack (decoder env.json))
    (json : adapter.isToml = false) (resolved : adapter.resolve = some path) (past : List Event)
    (event : Event)
    (known : Attributed env adapter path start past (run (happen env adapter) start past)) :
    Attributed env adapter path start (past ++ [event])
      (happen env adapter (run (happen env adapter) start past) event) := by
  cases event with
  | install payload force stamp safety =>
    exact attributed_tended resolved known
      (installSync_tends floats json resolved payload force stamp safety _)
  | remove stamp safety =>
    exact attributed_tended resolved known (removeSync_tends floats json resolved stamp safety _)
  | restore name safety =>
    exact attributed_reverted resolved known (restoreSync_reverts resolved name safety _)
  | edit content =>
    have written : happen env adapter (run (happen env adapter) start past) (.edit content) =
        edited (nameOf path) content (run (happen env adapter) start past) := by
      unfold happen
      rw [resolved]
    rw [written]
    apply attributed_shelved resolved known (edited_shelved _ _ _)
    refine ⟨content, .edit content (List.mem_append_right _ (List.mem_singleton_self _)), ?_⟩
    rw [held_resolved resolved, edited_target]

/-- Without other programs, and with no backup at the start, everything is the start's. -/
theorem foreign_alone {events : List Event} {content : Option Bytes}
    (foreign : Foreign env adapter path start events content)
    (alone : ∀ content, .edit content ∉ events)
    (bare : ∀ name, isBackupName env.backup.unicode (nameOf path) name = true →
      (start.getD ∅).lookup name = none)
    (plain : held adapter start ≠ some sentinelPayload) : content = held adapter start := by
  induction foreign with
  | start => rfl
  | edit content made => exact absurd made (alone content)
  | shelf name data backup stored =>
    rw [bare name backup] at stored
    cases stored
  | sentinel _ ih => exact absurd ih.symm plain

/-! ### A target that reads like the sentinel -/

theorem installSync_stuck (json : adapter.isToml = false) (resolved : adapter.resolve = some path)
    {dir : TargetDir} (stuck : held adapter dir = some sentinelPayload) (payload : EntryPayload)
    (force : Bool) (stamp safety : Stamp) :
    (adapter.installSync env payload force stamp safety dir).2 = dir := by
  unfold FileAutoAdapter.installSync
  rw [resolved]
  rw [held_resolved resolved] at stuck
  cases dir with
  | none => rfl
  | some files =>
    dsimp only [Option.getD_some] at stuck ⊢
    rw [stuck]
    cases started : adapter.original (some sentinelPayload) with
    | error error => rfl
    | ok pair =>
      obtain ⟨mark, original⟩ := pair
      dsimp only
      rw [merge_json json]
      cases merged : mergeJson env.json original adapter.spec.entryKey payload adapter.indent force with
      | error error => rfl
      | ok outcome =>
        obtain ⟨doc, _, parsed, _⟩ := mergeJson_ok merged
        exact absurd parsed (sentinel_unreadable started)

theorem removeSync_stuck (json : adapter.isToml = false) (resolved : adapter.resolve = some path)
    {dir : TargetDir} (stuck : held adapter dir = some sentinelPayload) (stamp safety : Stamp) :
    (adapter.removeSync env stamp safety dir).2 = dir := by
  unfold removeSync
  rw [resolved]
  rw [held_resolved resolved] at stuck
  cases dir with
  | none => rfl
  | some files =>
    dsimp only [Option.getD_some] at stuck ⊢
    rw [stuck]
    dsimp only
    cases split : splitBom sentinelPayload with
    | error error => rfl
    | ok pair =>
      obtain ⟨mark, original⟩ := pair
      have started : adapter.original (some sentinelPayload) = .ok (mark, original) := split
      dsimp only
      cases adapter.readEntry env original with
      | error error => rfl
      | ok read =>
        cases read with
        | none => rfl
        | some _ =>
          dsimp only
          cases removed : adapter.removeEntry env original with
          | error error => rfl
          | ok outcome =>
            unfold removeEntry removeEntryJson at removed
            rw [json, if_neg (by decide)] at removed
            obtain ⟨doc, parsed, _⟩ := Json.ok_of_bind removed
            exact absurd parsed (sentinel_unreadable started)

/-- The tool leaves such a target alone until another program writes it. -/
theorem happen_stuck (json : adapter.isToml = false) (resolved : adapter.resolve = some path)
    {dir : TargetDir} (stuck : held adapter dir = some sentinelPayload)
    (bare : ∀ name, isBackupName env.backup.unicode (nameOf path) name = true →
      (dir.getD ∅).lookup name = none) {event : Event} (alone : ∀ content, event ≠ .edit content) :
    happen env adapter dir event = dir := by
  cases event with
  | install payload force stamp safety => exact installSync_stuck json resolved stuck payload force _ _
  | remove stamp safety => exact removeSync_stuck json resolved stuck stamp safety
  | restore name safety =>
    rcases (@restoreSync_reverts env adapter path resolved name safety dir).back with
      same | ⟨data, backup, stored, _⟩
    · exact same
    · rw [bare name backup] at stored
      cases stored
  | edit content => exact absurd rfl (alone content)

theorem run_stuck (json : adapter.isToml = false) (resolved : adapter.resolve = some path)
    (stuck : held adapter start = some sentinelPayload)
    (bare : ∀ name, isBackupName env.backup.unicode (nameOf path) name = true →
      (start.getD ∅).lookup name = none) {events : List Event}
    (alone : ∀ content, .edit content ∉ events) : run (happen env adapter) start events = start := by
  induction events with
  | nil => rfl
  | cons event rest ih =>
    have same : happen env adapter start event = start :=
      happen_stuck json resolved stuck bare fun content edits => alone content (by simp [edits])
    change run (happen env adapter) (happen env adapter start event) rest = start
    rw [same]
    exact ih fun content mem => alone content (List.mem_cons_of_mem _ mem)

/-! ## The user's part -/

/-- An installation or a removal that is performed changes our entry alone, one that is
not, or raises, leaves the target, and a restore puts a backup back. After any history
what the target and each backup hold outside of the entry is foreign, each backup made
meanwhile is the target of an earlier moment, and no other file was touched. Where the
tool is alone, the user's part of the configuration never changes. -/
theorem configs_keep_their_part (env : FileEnv) (floats : Json.FloatsReadBack (decoder env.json))
    (adapter : FileAutoAdapter) (json : adapter.isToml = false) (path : Text)
    (resolved : adapter.resolve = some path) :
    ((∀ payload force stamp safety dir,
        Tends env adapter path (some (.object (payloadEntry payload))) dir
          (adapter.installSync env payload force stamp safety dir).1
          (adapter.installSync env payload force stamp safety dir).2) ∧
      (∀ stamp safety dir, Tends env adapter path none dir (adapter.removeSync env stamp safety dir).1
        (adapter.removeSync env stamp safety dir).2) ∧
      ∀ name safety dir, Reverts env adapter path name dir (adapter.restoreSync env name safety dir).1
        (adapter.restoreSync env name safety dir).2) ∧
    ∀ start events,
      Attributed env adapter path start events (run (happen env adapter) start events) ∧
      ((∀ content, .edit content ∉ events) →
        (∀ name, isBackupName env.backup.unicode (nameOf path) name = true →
          (start.getD ∅).lookup name = none) →
          outside env adapter (held adapter (run (happen env adapter) start events)) =
            outside env adapter (held adapter start)) := by
  constructor
  · exact ⟨fun payload force stamp safety dir =>
        installSync_tends floats json resolved payload force stamp safety dir,
      fun stamp safety dir => removeSync_tends floats json resolved stamp safety dir,
      fun name safety dir => restoreSync_reverts resolved name safety dir⟩
  · intro start events
    have known : Attributed env adapter path start events
        (run (happen env adapter) start events) :=
      run_history attributed_start
        (fun past event => attributed_step floats json resolved past event) events
    refine ⟨known, ?_⟩
    intro alone bare
    by_cases stuck : held adapter start = some sentinelPayload
    · rw [run_stuck json resolved stuck bare alone]
    · obtain ⟨content, foreign, same⟩ := known.target
      rw [same, foreign_alone foreign alone bare stuck]

/-- The only file of the directory, with another server in it. -/
def otherDir : TargetDir := some (onlyFile ((encodeUtf8 otherServer).getD []))

theorem otherDir_bare {name : Text} (backup : isBackupName jsonHost.backup.unicode
    (nameOf (text "/home/user/.workbuddy/mcp.json")) name = true) :
    (otherDir.getD ∅).lookup name = none := by
  have file : nameOf (text "/home/user/.workbuddy/mcp.json") = mcpJson := by decide +kernel
  have apart : name ≠ mcpJson := by
    intro same
    rw [file, same, target_not_backup] at backup
    cases backup
  unfold otherDir onlyFile
  rw [Option.getD_some, AList.lookup_insert_ne apart]
  rfl

/-- The other server is there after an installation and a removal. -/
theorem configs_keep_their_part_other :
    performed (workBuddy.installSync jsonHost pythonModule false (newYear 2026 (by decide), (0, 0))
        (newYear 2026 (by decide), (0, 1)) otherDir).1 = true ∧
      Tends jsonHost workBuddy (text "/home/user/.workbuddy/mcp.json")
        (some (.object (payloadEntry pythonModule))) otherDir
        (workBuddy.installSync jsonHost pythonModule false (newYear 2026 (by decide), (0, 0))
          (newYear 2026 (by decide), (0, 1)) otherDir).1
        (workBuddy.installSync jsonHost pythonModule false (newYear 2026 (by decide), (0, 0))
          (newYear 2026 (by decide), (0, 1)) otherDir).2 ∧
      outside jsonHost workBuddy (held workBuddy (run (happen jsonHost workBuddy) otherDir
          [.install pythonModule false (newYear 2026 (by decide), (0, 0))
            (newYear 2026 (by decide), (0, 1)),
          .remove (newYear 2027 (by decide), (0, 0)) (newYear 2027 (by decide), (0, 1))])) =
        outside jsonHost workBuddy (held workBuddy otherDir) := by
  obtain ⟨⟨install, _, _⟩, histories⟩ := configs_keep_their_part jsonHost halves_read_back workBuddy
    rfl _ workBuddy_resolve
  refine ⟨by decide +kernel, install _ _ _ _ _, (histories _ _).2 ?_ ?_⟩
  · intro content
    simp
  · intro name backup
    exact otherDir_bare backup

end EvoBlue.Guarantees
