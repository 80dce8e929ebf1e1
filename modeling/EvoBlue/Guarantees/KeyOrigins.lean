import EvoBlue.Kernel.Runs
import EvoBlue.Source.SettingsEffects

/-!
# A key stays with its endpoint

Whether a stored key may follow an edited base URL is decided on two normalized
origins. The normalizer strips the URL, gives no origin at all for a port that is
no port number, and loses the brackets around an IPv6 address. Where none of that
makes two endpoints look alike, no save takes a key to an endpoint it was not
given for.
-/

namespace EvoBlue.Guarantees

open EvoBlue.Kernel EvoBlue.Source

/-- Scheme, host and effective port are the same. A URL has the origin of itself,
also where it has none. -/
def SameOrigin (unicode : UnicodeData) (url other : Option Text) : Prop :=
  url = other ∨ (url.bind (endpoint unicode)).isSome = true ∧
    url.bind (endpoint unicode) = other.bind (endpoint unicode)

instance (unicode : UnicodeData) (url other : Option Text) :
    Decidable (SameOrigin unicode url other) := by
  unfold SameOrigin
  infer_instance

/-- The origin without the white space around the URL, and with a port number. -/
def strippedOrigin (unicode : UnicodeData) (url : Option Text) : Option Endpoint :=
  url.bind fun url => numberedEndpoint unicode (strip url)

/-- One of the two has such an origin, the other has another one or none, and
neither host reads as the other's host and port. -/
def ToldApart (unicode : UnicodeData) (url other : Option Text) : Prop :=
  strippedOrigin unicode url ≠ strippedOrigin unicode other ∧
    ∀ origin ∈ strippedOrigin unicode url, ∀ origin' ∈ strippedOrigin unicode other,
      ¬ origin.Shadows origin' ∧ ¬ origin'.Shadows origin

instance (unicode : UnicodeData) (url other : Option Text) : Decidable (ToldApart unicode url other) := by
  unfold ToldApart
  infer_instance

/-- The normalized origins differ for URLs that are told apart, and for no others. -/
theorem normalizedOrigin_ne_iff (unicode : UnicodeData) (url other : Option Text) :
    normalizedOrigin unicode url ≠ normalizedOrigin unicode other ↔
      ToldApart unicode url other := by
  rw [normalizedOrigin_eq, normalizedOrigin_eq]
  change (strippedOrigin unicode url).map _ ≠ (strippedOrigin unicode other).map _ ↔ _
  have formed : ∀ {url origin}, strippedOrigin unicode url = some origin → origin.Formed := by
    intro url origin there
    obtain ⟨spelled, _, numbered⟩ := Option.bind_eq_some_iff.1 there
    exact numberedEndpoint_formed numbered
  unfold ToldApart
  cases first : strippedOrigin unicode url with
  | none => cases second : strippedOrigin unicode other <;> simp
  | some origin =>
    cases second : strippedOrigin unicode other with
    | none => simp
    | some origin' =>
      have spelled := Endpoint.spelling_eq_iff (formed first) (formed second)
      simp only [Option.map_some, ne_eq, Option.some.injEq, spelled, Option.mem_def,
        forall_eq', not_or]

/-! ## Saves one after another -/

/-- One request, with what the environment adds to it. -/
structure SettingsSave where
  request : AppSettingsUpdate
  fate : SaveFate
  /-- From `uuid4`. -/
  token : Text
  now : Time

/-- `PUT /api/settings`: the validator, then the handler. -/
def saveStep (server : SettingsServer) (world : SettingsWorld) (save : SettingsSave) :
    SettingsWorld :=
  match save.request.validated server.unicode with
  | none => world
  | some request => ((settingsPut server save.fate request save.token save.now).run world).2

/-- A new key goes to a slot that no save has named. -/
def NewSlot (server : SettingsServer) (world : SettingsWorld) (save : SettingsSave) : Prop :=
  ∀ request ∈ save.request.validated server.unicode, request.newKey.isSome = true →
    Unused (freshReference server.unicode request save.token world.row) world

instance (server : SettingsServer) (world : SettingsWorld) (save : SettingsSave) : Decidable (NewSlot server world save) := by
  unfold NewSlot
  infer_instance

/-- A save is committed that sets a base URL while a key is bound, keeps the provider
and says nothing about the key: the two URLs have one origin, or they are told apart. -/
def Tellable (server : SettingsServer) (world : SettingsWorld) (save : SettingsSave) : Prop :=
  ∀ request ∈ save.request.validated server.unicode, ∀ row ∈ world.row,
    ((prepareSave server save.fate request save.token).run world).1.isOk = true →
    save.fate.transaction.durable = true →
    row.llmCredentialRef.isSome = true → request.llmApiKey = none →
    (request.llmProvider = none ∨ request.llmProvider = some row.llmProvider) →
    ∀ url ∈ request.llmBaseUrl,
      SameOrigin server.unicode url row.llmCredentialOrigin ∨
        ToldApart server.unicode url row.llmCredentialOrigin

instance (server : SettingsServer) (world : SettingsWorld) (save : SettingsSave) : Decidable (Tellable server world save) := by
  unfold Tellable
  have implied (p q : Prop) [Decidable p] [Decidable q] : Decidable (p → q) := instDecidableForall
  infer_instance

/-- No row, or a row from before there were credential origins, whose key was
stored for its provider and its URL. -/
def Starts (world : SettingsWorld) : Prop :=
  world.row = none ∨ ∃ row, world.row = some (backfillOrigin row) ∧
    ∀ key ∈ world.keys, row.llmCredentialRef = some key.slot →
      key.provider = row.llmProvider ∧ key.baseUrl = row.llmBaseUrl

/-- The row's base URL has the origin its key was saved for, and what was ever
handed over under the row's slot was for its provider and that origin. -/
def KeyStays (unicode : UnicodeData) (world : SettingsWorld) : Prop :=
  ∀ row ∈ world.row, ∀ slot ∈ row.llmCredentialRef,
    SameOrigin unicode row.llmBaseUrl row.llmCredentialOrigin ∧
      ∀ key ∈ world.keys, key.slot = slot →
        key.provider = row.llmProvider ∧ key.baseUrl = row.llmCredentialOrigin

instance (unicode : UnicodeData) (world : SettingsWorld) : Decidable (KeyStays unicode world) := by
  unfold KeyStays
  infer_instance

theorem starts_keyStays (unicode : UnicodeData) {world : SettingsWorld} (starts : Starts world) :
    KeyStays unicode world := by
  intro row there slot bound
  rcases starts with none_ | ⟨old, same, keys⟩
  · rw [none_] at there
    cases there
  · rw [same] at there
    cases there
    have ref : old.llmCredentialRef = some slot := bound
    have origin : (backfillOrigin old).llmCredentialOrigin = old.llmBaseUrl := by
      unfold backfillOrigin
      cases url : old.llmBaseUrl <;> simp [ref]
    refine ⟨.inl origin.symm, fun key mem same => ?_⟩
    rw [origin]
    exact keys key mem (same ▸ ref)

/-- A binding that is kept keeps provider and origin. -/
theorem kept_origin {server : SettingsServer} {world : SettingsWorld} {save : SettingsSave}
    {request : AppSettingsUpdate} (valid : save.request.validated server.unicode = some request)
    (prepared : ((prepareSave server save.fate request save.token).run world).1.isOk = true)
    (durable : save.fate.transaction.durable = true)
    (tellable : Tellable server world save) (stays : KeyStays server.unicode world)
    {row : AppSettings} (there : world.row = some row) {slot : Text}
    (bound : row.llmCredentialRef = some slot) (silent : request.llmApiKey = none)
    (kept : unbinds server.unicode request world.row = false) :
    provider request world.row = row.llmProvider ∧
      SameOrigin server.unicode (mergedBaseUrl request world.row) row.llmCredentialOrigin := by
  rw [there] at kept ⊢
  simp only [unbinds, Bool.or_eq_false_iff, Bool.and_eq_false_iff, Option.bind_some,
    decide_eq_false_iff_not, not_not] at kept
  obtain ⟨sameProvider, sameOrigin⟩ := kept
  have keeps : request.llmProvider = none ∨ request.llmProvider = some row.llmProvider := by
    cases field : request.llmProvider with
    | none => exact .inl rfl
    | some value =>
      simp only [field, provider, merged, Option.isSome_some, Bool.true_eq_false, false_or,
        Option.getD_some] at sameProvider
      exact .inr (congrArg some sameProvider)
  refine ⟨?_, ?_⟩
  · rcases keeps with absent | same
    · simp [provider, merged, absent]
    · simp [provider, merged, same]
  · cases field : request.llmBaseUrl with
    | none =>
      have url : mergedBaseUrl request (some row) = row.llmBaseUrl := by
        simp [mergedBaseUrl, merged, field]
      rw [url]
      exact (stays row there slot bound).1
    | some value =>
      have url : mergedBaseUrl request (some row) = value := by simp [mergedBaseUrl, merged, field]
      rw [url] at sameOrigin ⊢
      have told := tellable request valid row there prepared durable (by simp [bound]) silent keeps
        value field
      refine told.resolve_right fun apart => ?_
      have differ := (normalizedOrigin_ne_iff server.unicode value row.llmCredentialOrigin).2 apart
      exact differ (sameOrigin.resolve_left (by simp [field]))

/-- Keys of the slot of a row that stays: the request's own slot is another one. -/
theorem keyStays_of_same_row {server : SettingsServer} {world last : SettingsWorld}
    {request : AppSettingsUpdate} {token : Text} (stays : KeyStays server.unicode world)
    (unused : request.newKey.isSome = true →
      Unused (freshReference server.unicode request token world.row) world)
    (row : last.row = world.row)
    (keys : last.keys = world.keys ∨
      last.keys = (newSlotKey server request token world.row).toList ++ world.keys) :
    KeyStays server.unicode last := by
  intro stored there slot bound
  rw [row] at there
  refine ⟨(stays stored there slot bound).1, fun key mem same => ?_⟩
  rcases keys with same_ | more
  · exact (stays stored there slot bound).2 key (same_ ▸ mem) same
  · rw [more] at mem
    rcases List.mem_append.1 mem with own | old
    · obtain ⟨value, new, rfl⟩ := Option.map_eq_some_iff.1 (Option.mem_toList.1 own)
      have named : world.row.bind (·.llmCredentialRef) = some slot := by
        rw [Option.mem_def.1 there]
        exact bound
      exact absurd (named.trans (congrArg some same.symm)) (unused (by simp [new])).bound
    · exact (stays stored there slot bound).2 key old same

theorem saveStep_keyStays {server : SettingsServer} {world : SettingsWorld} {save : SettingsSave}
    (fresh : NewSlot server world save) (tellable : Tellable server world save)
    (stays : KeyStays server.unicode world) :
    KeyStays server.unicode (saveStep server world save) := by
  unfold saveStep
  split
  · exact stays
  next request valid =>
    have unused := fresh request valid
    have done := @settingsPut_world server save.fate request save.token save.now world
    generalize ((settingsPut server save.fate request save.token save.now).run world).2 = last
      at done
    simp only at done
    rcases done with ⟨_, refused, _⟩ | ⟨previous, entered, prepared, _, only, ended⟩
    · exact keyStays_of_same_row stays unused refused.row refused.keys
    · have keys : last.keys =
          (newSlotKey server request save.token world.row).toList ++ world.keys := by
        rw [ended.keys, only]
      have row := ended.row
      cases durable : save.fate.transaction.durable with
      | false =>
        simp only [durable, Bool.false_eq_true, if_false] at row
        refine keyStays_of_same_row stays unused ?_ (.inr keys)
        rw [row, only]
      | true =>
        simp only [durable, if_true] at row
        intro stored there slot bound
        rw [row] at there
        cases there
        rcases savedBinding_cases server.unicode request save.token world.row with
          ⟨new, binding⟩ | ⟨_, binding⟩ | ⟨silent, kept, binding⟩
        · -- The new key is the only one in its slot.
          simp only [savedSettings, binding, Option.mem_def, Option.some.injEq] at bound ⊢
          refine ⟨.inl rfl, fun key mem same => ?_⟩
          rw [keys] at mem
          rcases List.mem_append.1 mem with own | old
          · obtain ⟨value, _, rfl⟩ := Option.map_eq_some_iff.1 (Option.mem_toList.1 own)
            exact ⟨rfl, rfl⟩
          · exact absurd (same.trans bound.symm) ((unused new).written key old)
        · simp [savedSettings, binding] at bound
        · simp only [savedSettings, binding] at bound ⊢
          obtain ⟨before, present, ref⟩ := Option.bind_eq_some_iff.1 (Option.mem_def.1 bound)
          obtain ⟨sameProvider, origin⟩ :=
            kept_origin valid (by rw [prepared]; rfl) durable tellable stays present ref silent kept
          have without : newSlotKey server request save.token world.row = none := by
            simp [newSlotKey, AppSettingsUpdate.newKey, silent]
          rw [keys, without, sameProvider]
          rw [present] at origin ⊢
          exact ⟨origin, (stays before present slot ref).2⟩

/-- In every sequence of saves each of which writes a new key to an unused slot, and
never edits the URL of a bound key to one that looks alike: the key of every
committed row stays with the provider and the origin it was given for. -/
theorem key_stays_with_its_origin (server : SettingsServer) (world : SettingsWorld)
    (saves : List SettingsSave) (starts : Starts world)
    (fresh : Meets (saveStep server) (NewSlot server) world saves)
    (tellable : Meets (saveStep server) (Tellable server) world saves) :
    KeyStays server.unicode (run (saveStep server) world saves) := by
  have both := fresh.and tellable
  exact run_of_meets (fun _ _ admitted stays => saveStep_keyStays admitted.1 admitted.2 stays)
    (starts_keyStays server.unicode starts) both

/-- A save with a key for a URL, or an edit of the URL alone. -/
def sampleSave (url : String) (key : Option String) (token : String) : SettingsSave where
  request :=
    { llmBaseUrl := some (some (text url))
      llmApiKey := key.map fun key => some (text key) }
  fate := { transaction := undisturbedCommit }
  token := text token
  now := 0

/-- The key stays when the path is edited, and is given up for another host. -/
theorem key_stays_with_its_origin_sample :
    KeyStays sampleServer.unicode (run (saveStep sampleServer) {}
      [sampleSave "https://a.example/v1" (some "sk-1") "0123456789ab",
        sampleSave "https://a.example/v2" none "123456789abc",
        sampleSave "https://b.example" none "23456789abcd"]) :=
  key_stays_with_its_origin sampleServer {} _ (.inl rfl) (by decide +kernel) (by decide +kernel)

/-- Neither URL has a port that is a number, so that both normalize to no origin, and
the key given for the one goes to the other. -/
theorem invalid_ports_take_the_key :
    ¬ ∀ (server : SettingsServer) (world : SettingsWorld) (saves : List SettingsSave),
      Starts world → Meets (saveStep server) (NewSlot server) world saves →
      KeyStays server.unicode (run (saveStep server) world saves) := by
  intro stated
  have stays := stated sampleServer {}
    [sampleSave "https://a.example:99999" (some "sk-1") "0123456789ab",
      sampleSave "https://b.example:99999" none "123456789abc"] (.inl rfl) (by decide +kernel)
  revert stays
  decide +kernel

/-- Two addresses whose origins are spelled alike without their brackets. -/
example :
    normalizedOrigin sampleServer.unicode (some (text "https://[2001:db8::1]:8443")) =
        normalizedOrigin sampleServer.unicode (some (text "https://[2001:db8::1:8443]")) ∧
      ¬ SameOrigin sampleServer.unicode (some (text "https://[2001:db8::1]:8443"))
        (some (text "https://[2001:db8::1:8443]")) := by
  decide +kernel

end EvoBlue.Guarantees
