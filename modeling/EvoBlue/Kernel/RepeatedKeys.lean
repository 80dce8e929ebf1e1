import EvoBlue.Kernel.JsonDocs

/-!
# Repeated keys

A hook that passes dictionaries only raises on a text exactly when the document of the
text repeats a key somewhere.
-/

namespace EvoBlue.Kernel

namespace Json

variable {ε : Type} {decoder : Decoder ε}

mutual

/-- A dictionary at some depth has a key twice. -/
def Repeats : Json → Prop
  | .array items => RepeatsItems items
  | .object members => RepeatsMembers members ∨ ¬ (Dict.keys members).Nodup
  | _ => False

def RepeatsItems : List Json → Prop
  | [] => False
  | item :: items => Repeats item ∨ RepeatsItems items

def RepeatsMembers : List (Text × Json) → Prop
  | [] => False
  | (_, value) :: members => Repeats value ∨ RepeatsMembers members

end

mutual

def decideRepeats : (value : Json) → Decidable (Repeats value)
  | .array items => decideRepeatsItems items
  | .object members =>
    have := decideRepeatsMembers members
    inferInstanceAs (Decidable (RepeatsMembers members ∨ ¬ (Dict.keys members).Nodup))
  | .null | .bool _ | .int _ | .float _ | .str _ => .isFalse id

def decideRepeatsItems : (items : List Json) → Decidable (RepeatsItems items)
  | [] => .isFalse id
  | item :: items =>
    have := decideRepeats item
    have := decideRepeatsItems items
    inferInstanceAs (Decidable (Repeats item ∨ RepeatsItems items))

def decideRepeatsMembers : (members : List (Text × Json)) → Decidable (RepeatsMembers members)
  | [] => .isFalse id
  | (_, value) :: members =>
    have := decideRepeats value
    have := decideRepeatsMembers members
    inferInstanceAs (Decidable (Repeats value ∨ RepeatsMembers members))

end

instance (value : Json) : Decidable (Repeats value) := decideRepeats value

/-- The decoder that keeps all pairs of an object. -/
def Decoder.keeping (decoder : Decoder ε) : Decoder ε := { decoder with pairs := .ok }

/-- The hook raises in a reading where a key is repeated, and not in another. -/
def Hooked {α : Type} (repeats : Prop) (found : α × Text)
    (read : Except (LoadError ε) (α × Text)) : Prop :=
  (repeats ∧ ∃ raised, read = .error (.hook raised)) ∨ (¬ repeats ∧ read = .ok found)

theorem Hooked.bind {α β : Type} {first later : Prop} {found : α × Text} {result : β × Text}
    {read : Except (LoadError ε) (α × Text)} {next : α × Text → Except (LoadError ε) (β × Text)}
    (hooked : Hooked first found read) (after : Hooked later result (next found)) :
    Hooked (first ∨ later) result (read >>= next) := by
  rcases hooked with ⟨here, raised, rfl⟩ | ⟨notHere, rfl⟩
  · exact .inl ⟨.inl here, raised, rfl⟩
  · rcases after with ⟨there, raised⟩ | ⟨notThere, same⟩
    · exact .inl ⟨.inr there, raised⟩
    · exact .inr ⟨not_or.2 ⟨notHere, notThere⟩, same⟩

theorem Hooked.wrap {α β : Type} {repeats : Prop} {value : α} {rest : Text} {wrap : α → β}
    {read : Except (LoadError ε) (α × Text)} (hooked : Hooked repeats (value, rest) read) :
    Hooked repeats (wrap value, rest) (read.map fun (value, rest) => (wrap value, rest)) := by
  rcases hooked with ⟨here, raised, rfl⟩ | ⟨notHere, rfl⟩
  · exact .inl ⟨here, raised, rfl⟩
  · exact .inr ⟨notHere, rfl⟩

theorem closeObject_hooked (strict : Strict decoder) {members : List (Text × Json)} {rest : Text} :
    Hooked (¬ (Dict.keys members).Nodup) (.object members, rest) (closeObject decoder members rest) := by
  unfold closeObject
  cases closed : decoder.pairs members with
  | error raised =>
    left
    constructor
    · intro distinct
      rw [(strict members members).2 ⟨rfl, distinct⟩] at closed
      cases closed
    · exact ⟨raised, rfl⟩
  | ok found =>
    obtain ⟨rfl, distinct⟩ := (strict members found).1 closed
    exact .inr ⟨not_not.2 distinct, rfl⟩

/-- A scalar has no keys. -/
theorem readScalar_flat {t : Text} {found : Json × Text} (read : readScalar decoder t = .ok found) :
    ¬ Repeats found.1 := by
  unfold readScalar at read
  split at read
  next scanned named =>
    cases read
    obtain ⟨entry, among, same⟩ := Option.map_eq_some_iff.1 named
    have listed : entry ∈ constants := List.mem_of_find?_eq_some among
    rw [← congrArg Prod.fst same]
    simp only [constants, List.mem_cons, List.not_mem_nil, or_false] at listed
    rcases listed with rfl | rfl | rfl | rfl | rfl | rfl <;> exact id
  next =>
    split at read
    next => cases read
    next =>
      cases read
      exact id
    next number scanned =>
      cases read
      rcases scanNumber_kind scanned with ⟨_, int, _⟩ | ⟨_, float⟩
      · rw [int]
        exact id
      · rw [float]
        exact id

/-- With so much fuel, a text that is read with all pairs kept is read or raised on. -/
structure KeepsPairs (decoder : Decoder ε) (fuel : Nat) : Prop where
  value : ∀ depth t found, readValue decoder.keeping fuel depth t = .ok found →
    Hooked (Repeats found.1) found (readValue decoder fuel depth t)
  items : ∀ depth t found, readItems decoder.keeping fuel depth t = .ok found →
    Hooked (RepeatsItems found.1) found (readItems decoder fuel depth t)
  members : ∀ depth t found, readMembers decoder.keeping fuel depth t = .ok found →
    Hooked (RepeatsMembers found.1) found (readMembers decoder fuel depth t)

section

variable {fuel depth : Nat} {t : Text}

theorem readObject_keeping (strict : Strict decoder) (keeps : KeepsPairs decoder fuel)
    {found : Json × Text}
    (read : readValue decoder.keeping (fuel + 1) depth (cp '{' :: t) = .ok found) :
    Hooked (Repeats found.1) found (readValue decoder (fuel + 1) depth (cp '{' :: t)) := by
  have noQuote : cp '{' ≠ cp '"' := by decide
  rw [readValue, if_neg noQuote, if_pos rfl] at read ⊢
  split at read
  next => cases read
  next deep =>
  rw [if_neg deep]
  split at read
  next => cases read
  next d after left =>
  split at read
  next ends =>
    cases read
    rw [if_pos ends]
    have closed := @closeObject_hooked _ _ strict [] after
    rcases closed with ⟨twice, _⟩ | ⟨_, same⟩
    · exact absurd List.nodup_nil twice
    · exact .inr ⟨fun repeats => repeats.elim id fun twice => twice List.nodup_nil, same⟩
  next more =>
    rw [if_neg more]
    obtain ⟨⟨pairs, rest⟩, inner, closed⟩ := ok_of_bind read
    cases closed
    exact (keeps.members _ _ _ inner).bind (closeObject_hooked strict)

theorem readArray_keeping (keeps : KeepsPairs decoder fuel) {found : Json × Text}
    (read : readValue decoder.keeping (fuel + 1) depth (cp '[' :: t) = .ok found) :
    Hooked (Repeats found.1) found (readValue decoder (fuel + 1) depth (cp '[' :: t)) := by
  have noQuote : cp '[' ≠ cp '"' := by decide
  have noBrace : cp '[' ≠ cp '{' := by decide
  rw [readValue, if_neg noQuote, if_neg noBrace, if_pos rfl] at read ⊢
  split at read
  next => cases read
  next deep =>
  rw [if_neg deep]
  split at read
  next => cases read
  next d after left =>
  split at read
  next ends =>
    cases read
    rw [if_pos ends]
    exact .inr ⟨id, rfl⟩
  next more =>
    rw [if_neg more]
    obtain ⟨⟨values, rest⟩, inner, same⟩ := ok_of_map read
    cases same
    exact (keeps.items _ _ _ inner).wrap

theorem readValue_keeping (strict : Strict decoder) (keeps : KeepsPairs decoder fuel)
    {found : Json × Text} (read : readValue decoder.keeping (fuel + 1) depth t = .ok found) :
    Hooked (Repeats found.1) found (readValue decoder (fuel + 1) depth t) := by
  cases t with
  | nil => cases read
  | cons c t =>
    by_cases brace : c = cp '{'
    · subst brace
      exact readObject_keeping strict keeps read
    by_cases bracket : c = cp '['
    · subst bracket
      exact readArray_keeping keeps read
    rw [readValue] at read ⊢
    split at read
    next quote =>
      rw [if_pos quote]
      obtain ⟨string, scanned, same⟩ := ok_of_map read
      cases same
      exact .inr ⟨id, by rw [scanned]; rfl⟩
    next noQuote =>
      rw [if_neg noQuote, if_neg brace, if_neg bracket]
      exact .inr ⟨readScalar_flat read, read⟩

theorem readItems_keeping (keeps : KeepsPairs decoder fuel) {found : List Json × Text}
    (read : readItems decoder.keeping (fuel + 1) depth t = .ok found) :
    Hooked (RepeatsItems found.1) found (readItems decoder (fuel + 1) depth t) := by
  rw [readItems] at read ⊢
  obtain ⟨⟨value, after⟩, first, read⟩ := ok_of_bind read
  dsimp only at read
  split at read
  next => cases read
  next c left separated =>
  split at read
  next ends =>
    cases read
    apply (keeps.value _ _ _ first).bind
    dsimp only
    rw [separated]
    dsimp only
    rw [if_pos ends]
    exact .inr ⟨id, rfl⟩
  next goesOn =>
  split at read
  next comma =>
    obtain ⟨⟨more, last⟩, later, same⟩ := ok_of_bind read
    cases same
    apply (keeps.value _ _ _ first).bind
    dsimp only
    rw [separated]
    dsimp only
    rw [if_neg goesOn, if_pos comma]
    exact (keeps.items _ _ _ later).wrap
  next => cases read

theorem readMembers_keeping (keeps : KeepsPairs decoder fuel) {found : List (Text × Json) × Text}
    (read : readMembers decoder.keeping (fuel + 1) depth t = .ok found) :
    Hooked (RepeatsMembers found.1) found (readMembers decoder (fuel + 1) depth t) := by
  cases t with
  | nil => cases read
  | cons quote t =>
    rw [readMembers] at read ⊢
    split at read
    next => cases read
    next quoted =>
    rw [if_neg quoted]
    obtain ⟨⟨key, after⟩, scanned, read⟩ := ok_of_bind read
    rw [scanned, ok_bind]
    dsimp only at read ⊢
    split at read
    next => cases read
    next colon left _ =>
    split at read
    next => cases read
    next named =>
    rw [if_neg named]
    obtain ⟨⟨value, beyond⟩, first, read⟩ := ok_of_bind read
    dsimp only at read
    split at read
    next => cases read
    next c last separated =>
    split at read
    next ends =>
      cases read
      apply (keeps.value _ _ _ first).bind
      dsimp only
      rw [separated]
      dsimp only
      rw [if_pos ends]
      exact .inr ⟨id, rfl⟩
    next goesOn =>
    split at read
    next comma =>
      obtain ⟨⟨more, left⟩, later, same⟩ := ok_of_bind read
      cases same
      apply (keeps.value _ _ _ first).bind
      dsimp only
      rw [separated]
      dsimp only
      rw [if_neg goesOn, if_pos comma]
      exact (keeps.members _ _ _ later).wrap
    next => cases read

end

theorem read_keeping (strict : Strict decoder) (fuel : Nat) : KeepsPairs decoder fuel := by
  induction fuel with
  | zero => exact ⟨fun _ _ _ => nofun, fun _ _ _ => nofun, fun _ _ _ => nofun⟩
  | succ fuel keeps =>
    exact ⟨fun _ _ _ => readValue_keeping strict keeps, fun _ _ _ => readItems_keeping keeps,
      fun _ _ _ => readMembers_keeping keeps⟩

/-- Of a text that a reader takes which keeps all pairs, the hook raises exactly when a
dictionary at some depth repeats a key. -/
theorem loadsWith_keeping (strict : Strict decoder) {t : Text} {value : Json}
    (kept : loadsWith decoder.keeping t = .ok value) :
    (Repeats value ∧ ∃ raised, loadsWith decoder t = .error (.hook raised)) ∨
      (¬ Repeats value ∧ loadsWith decoder t = .ok value) := by
  unfold loadsWith at kept ⊢
  split at kept
  next => cases kept
  next noMark =>
    rw [if_neg noMark]
    obtain ⟨⟨found, rest⟩, read, ended⟩ := ok_of_bind kept
    dsimp only at ended
    split at ended
    next blank =>
      cases ended
      have depth : decoder.keeping.depth = decoder.depth := rfl
      rcases (read_keeping strict _).value _ _ _ read with ⟨here, raised, same⟩ | ⟨notHere, same⟩
      · rw [← depth, same]
        exact .inl ⟨here, raised, rfl⟩
      · rw [← depth, same, ok_bind]
        exact .inr ⟨notHere, if_pos blank⟩
    next => cases ended

end Json

end EvoBlue.Kernel
