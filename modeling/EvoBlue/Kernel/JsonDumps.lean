import EvoBlue.Kernel.Json
import EvoBlue.Kernel.Utf8

/-!
# JSON texts on one line

`json.dumps` without an indentation: items and members are separated by a comma and a
blank. The decoder reads such a text back as the document, as deep as it may nest, if
it reads the numbers in it back.
-/

namespace EvoBlue.Kernel

theorem encodable_text (s : String) : Encodable (text s) := by
  intro c mem
  obtain ⟨char, _, rfl⟩ := List.mem_map.1 mem
  have valid := char.valid
  have same : (cp char).val = char.val.toNat := rfl
  simp only [UInt32.isValidChar, Nat.isValidChar] at valid
  simp only [isSurrogate, same, Bool.and_eq_false_iff, decide_eq_false_iff_not]
  omega

namespace Json

mutual

/-- `json.dumps`, with `ensure_ascii=False`. -/
def dumps : Json → Text
  | .null => text "null"
  | .bool value => text (if value then "true" else "false")
  | .int value => if value < 0 then cp '-' :: decimalText value.natAbs else decimalText value.natAbs
  | .float spelled => spelled
  | .str value => dumpsStr value
  | .array items => cp '[' :: (dumpsItems items ++ [cp ']'])
  | .object members => cp '{' :: (dumpsMembers members ++ [cp '}'])

def dumpsItems : List Json → Text
  | [] => []
  | [item] => dumps item
  | item :: next :: items => dumps item ++ cp ',' :: cp ' ' :: dumpsItems (next :: items)

def dumpsMembers : List (Text × Json) → Text
  | [] => []
  | [(key, value)] => dumpsStr key ++ cp ':' :: cp ' ' :: dumps value
  | (key, value) :: next :: members =>
    dumpsStr key ++ cp ':' :: cp ' ' :: (dumps value ++ cp ',' :: cp ' ' :: dumpsMembers (next :: members))

end

/-- What follows a value on the line. -/
def Stops (rest : Text) : Prop := ∀ c ∈ rest.head?, c = cp ',' ∨ c = cp ']' ∨ c = cp '}'

/-- The decoder reads the number back. -/
def NumberReads (spelled : Text) (value : Json) : Prop :=
  ∀ rest, Stops rest → scanConstant (spelled ++ rest) = none ∧
    scanNumber (spelled ++ rest) = .ok (value, rest)

mutual

/-- Containers nest at most this deep, and the numbers are read back. -/
def Written : (depth : Nat) → Json → Prop
  | _, .int value => NumberReads (dumps (.int value)) (.int value)
  | _, .float spelled => NumberReads spelled (.float spelled)
  | 0, .array _ | 0, .object _ => False
  | depth + 1, .array items => WrittenItems depth items
  | depth + 1, .object members => WrittenMembers depth members
  | _, _ => True

def WrittenItems : (depth : Nat) → List Json → Prop
  | _, [] => True
  | depth, item :: items => Written depth item ∧ WrittenItems depth items

def WrittenMembers : (depth : Nat) → List (Text × Json) → Prop
  | _, [] => True
  | depth, (_, value) :: members => Written depth value ∧ WrittenMembers depth members

end

/-! ## How values begin -/

theorem scanNumber_head {c : CodePoint} {t : Text} {found : Json × Text}
    (scanned : scanNumber (c :: t) = .ok found) :
    isJsonSpace c = false ∧ c ≠ codePoint 0xfeff ∧ c ≠ cp ']' ∧ c ≠ cp '"' ∧ c ≠ cp '{' ∧
      c ≠ cp '[' := by
  have refused : ∀ d ∈ [cp ' ', cp '\t', cp '\n', cp '\r', cp ']', cp '"', cp '{', cp '[',
      codePoint 0xfeff], scanNumber (d :: t) = .error .decode := by
    intro d mem
    simp only [List.mem_cons, List.not_mem_nil, or_false] at mem
    rcases mem with rfl | rfl | rfl | rfl | rfl | rfl | rfl | rfl | rfl <;> rfl
  have apart : ∀ d ∈ [cp ' ', cp '\t', cp '\n', cp '\r', cp ']', cp '"', cp '{', cp '[',
      codePoint 0xfeff], c ≠ d := by
    rintro d mem rfl
    rw [refused c mem] at scanned
    cases scanned
  simp only [List.mem_cons, List.not_mem_nil, or_false, forall_eq_or_imp, forall_eq] at apart
  simp [isJsonSpace, apart]

theorem stops_nil : Stops [] := by simp [Stops]

theorem stops_comma (rest : Text) : Stops (cp ',' :: rest) := by simp [Stops]

theorem stops_bracket (rest : Text) : Stops (cp ']' :: rest) := by simp [Stops]

theorem stops_brace (rest : Text) : Stops (cp '}' :: rest) := by simp [Stops]

theorem number_head {spelled : Text} {value : Json} (reads : NumberReads spelled value) :
    ∃ c t, spelled = c :: t ∧ isJsonSpace c = false ∧ c ≠ codePoint 0xfeff ∧ c ≠ cp ']' ∧
      c ≠ cp '"' ∧ c ≠ cp '{' ∧ c ≠ cp '[' := by
  obtain ⟨_, scanned⟩ := reads [] stops_nil
  rw [List.append_nil] at scanned
  cases spelled with
  | nil => cases scanned
  | cons c t => exact ⟨c, t, rfl, scanNumber_head scanned⟩

/-- A value begins with a visible character that closes no array. -/
theorem dumps_head {depth : Nat} {value : Json} (written : Written depth value) :
    ∃ c t, dumps value = c :: t ∧ isJsonSpace c = false ∧ c ≠ codePoint 0xfeff ∧ c ≠ cp ']' := by
  cases value with
  | null => exact ⟨cp 'n', _, rfl, by decide, by decide, by decide⟩
  | bool value =>
    cases value with
    | true => exact ⟨cp 't', _, rfl, by decide, by decide, by decide⟩
    | false => exact ⟨cp 'f', _, rfl, by decide, by decide, by decide⟩
  | int value =>
    have reads : NumberReads (dumps (.int value)) (.int value) := by cases depth <;> exact written
    obtain ⟨c, t, same, space, mark, close, _⟩ := number_head reads
    exact ⟨c, t, same, space, mark, close⟩
  | float spelled =>
    have reads : NumberReads spelled (.float spelled) := by cases depth <;> exact written
    obtain ⟨c, t, same, space, mark, close, _⟩ := number_head reads
    exact ⟨c, t, same, space, mark, close⟩
  | str value => exact ⟨cp '"', _, rfl, by decide, by decide, by decide⟩
  | array items => exact ⟨cp '[', _, rfl, by decide, by decide, by decide⟩
  | object members => exact ⟨cp '{', _, rfl, by decide, by decide, by decide⟩

theorem skipSpace_dumps {depth : Nat} {value : Json} (written : Written depth value) (rest : Text) :
    skipSpace (dumps value ++ rest) = dumps value ++ rest := by
  obtain ⟨c, t, same, visible, _⟩ := dumps_head written
  rw [same, List.cons_append]
  exact skipSpace_cons visible _

theorem scanValue_number {spelled : Text} {value : Json} (reads : NumberReads spelled value)
    (fuel depth : Nat) {rest : Text} (stops : Stops rest) :
    scanValue (fuel + 1) depth (spelled ++ rest) = .ok (value, rest) := by
  obtain ⟨c, t, same, _, _, _, quote, brace, bracket⟩ := number_head reads
  obtain ⟨name, number⟩ := reads rest stops
  subst same
  rw [List.cons_append] at name number ⊢
  rw [scanValue, if_neg quote, if_neg brace, if_neg bracket, name]
  exact number

/-! ## What the decoder does with a written text -/

theorem member_quoted (key t : Text) : dumpsStr key ++ cp ':' :: cp ' ' :: t =
    cp '"' :: (key.flatMap escapeOne ++ cp '"' :: cp ':' :: cp ' ' :: t) := by
  simp [dumpsStr]

/-- The last member of an object. -/
theorem scanMembers_last {fuel depth : Nat} {key t rest : Text} {value : Json}
    (scanned : scanValue fuel depth (skipSpace t) = .ok (value, cp '}' :: rest)) :
    scanMembers (fuel + 1) depth (dumpsStr key ++ cp ':' :: cp ' ' :: t) =
      .ok ([(key, value)], rest) := by
  have colon : skipSpace (cp ':' :: cp ' ' :: t) = cp ':' :: cp ' ' :: t := rfl
  have blank : skipSpace (cp ' ' :: t) = skipSpace t := rfl
  have brace : skipSpace (cp '}' :: rest) = cp '}' :: rest := rfl
  rw [member_quoted, scanMembers]
  simp only [ne_eq, not_true_eq_false, if_false, scanString_escaped, bind, Except.bind, pure,
    Except.pure, colon, blank, scanned, brace, if_true]

/-- A member before others. -/
theorem scanMembers_more {fuel depth : Nat} {key t more rest : Text} {value : Json}
    {members : List (Text × Json)}
    (scanned : scanValue fuel depth (skipSpace t) = .ok (value, cp ',' :: cp ' ' :: more))
    (others : scanMembers fuel depth (skipSpace more) = .ok (members, rest)) :
    scanMembers (fuel + 1) depth (dumpsStr key ++ cp ':' :: cp ' ' :: t) =
      .ok ((key, value) :: members, rest) := by
  have colon : skipSpace (cp ':' :: cp ' ' :: t) = cp ':' :: cp ' ' :: t := rfl
  have blank : ∀ t, skipSpace (cp ' ' :: t) = skipSpace t := fun _ => rfl
  have comma : skipSpace (cp ',' :: cp ' ' :: more) = cp ',' :: cp ' ' :: more := rfl
  have apart : cp ',' ≠ cp '}' := by decide
  rw [member_quoted, scanMembers]
  simp only [ne_eq, not_true_eq_false, if_false, scanString_escaped, bind, Except.bind, pure,
    Except.pure, colon, blank, scanned, comma, apart, if_true, others]

theorem scanItems_last {fuel depth : Nat} {t rest : Text} {value : Json}
    (scanned : scanValue fuel depth t = .ok (value, cp ']' :: rest)) :
    scanItems (fuel + 1) depth t = .ok ([value], rest) := by
  have bracket : skipSpace (cp ']' :: rest) = cp ']' :: rest := rfl
  rw [scanItems, scanned]
  simp only [bind, Except.bind, bracket, if_true]
  rfl

theorem scanItems_more {fuel depth : Nat} {t more rest : Text} {value : Json} {items : List Json}
    (scanned : scanValue fuel depth t = .ok (value, cp ',' :: cp ' ' :: more))
    (others : scanItems fuel depth (skipSpace more) = .ok (items, rest)) :
    scanItems (fuel + 1) depth t = .ok (value :: items, rest) := by
  have comma : skipSpace (cp ',' :: cp ' ' :: more) = cp ',' :: cp ' ' :: more := rfl
  have blank : skipSpace (cp ' ' :: more) = skipSpace more := rfl
  have apart : cp ',' ≠ cp ']' := by decide
  rw [scanItems, scanned]
  simp only [bind, Except.bind, comma, if_neg apart, if_true, blank, others]
  rfl

/-! ## A written text is read back -/

mutual

theorem scanValue_dumps : (value : Json) → (fuel depth : Nat) → (rest : Text) →
    Written depth value → Stops rest → 2 * (dumps value ++ rest).length + 1 ≤ fuel →
    scanValue fuel depth (dumps value ++ rest) = .ok (value, rest)
  | value, 0, depth, rest, _, _, enough => by omega
  | .null, fuel + 1, depth, rest, _, _, _ => rfl
  | .bool false, fuel + 1, depth, rest, _, _, _ => rfl
  | .bool true, fuel + 1, depth, rest, _, _, _ => rfl
  | .int value, fuel + 1, depth, rest, written, stops, _ => by
    have reads : NumberReads (dumps (.int value)) (.int value) := by cases depth <;> exact written
    exact scanValue_number reads fuel depth stops
  | .float spelled, fuel + 1, depth, rest, written, stops, _ => by
    have reads : NumberReads spelled (.float spelled) := by cases depth <;> exact written
    exact scanValue_number reads fuel depth stops
  | .str value, fuel + 1, depth, rest, _, _, _ => scanValue_dumpsStr fuel depth value rest
  | .array items, fuel + 1, 0, rest, written, _, _ => by cases written
  | .array [], fuel + 1, depth + 1, rest, _, _, _ => rfl
  | .array (item :: items), fuel + 1, depth + 1, rest, written, _, enough => by
    have spelled : dumps (.array (item :: items)) ++ rest =
        cp '[' :: (dumpsItems (item :: items) ++ cp ']' :: rest) := by
      rw [dumps]
      simp
    rw [spelled, List.length_cons] at enough
    have inner := scanItems_dumps (item :: items) fuel depth rest (List.cons_ne_nil _ _) written
      (by omega)
    obtain ⟨c, t, first, visible, _, open'⟩ := dumps_head written.1
    obtain ⟨after, begins⟩ : ∃ after, dumpsItems (item :: items) ++ cp ']' :: rest = c :: after := by
      cases items with
      | nil =>
        rw [dumpsItems, first]
        exact ⟨_, rfl⟩
      | cons next items =>
        rw [dumpsItems, first]
        exact ⟨_, rfl⟩
    rw [spelled, scanValue, if_neg (by decide), if_neg (by decide), if_pos rfl,
      if_neg (Nat.succ_ne_zero _)]
    rw [begins] at inner ⊢
    rw [skipSpace_cons visible]
    dsimp only
    rw [if_neg open', Nat.add_sub_cancel, inner]
    rfl
  | .object members, fuel + 1, 0, rest, written, _, _ => by cases written
  | .object [], fuel + 1, depth + 1, rest, _, _, _ => rfl
  | .object (member :: members), fuel + 1, depth + 1, rest, written, _, enough => by
    have spelled : dumps (.object (member :: members)) ++ rest =
        cp '{' :: (dumpsMembers (member :: members) ++ cp '}' :: rest) := by
      rw [dumps]
      simp
    rw [spelled, List.length_cons] at enough
    have inner := scanMembers_dumps (member :: members) fuel depth rest (List.cons_ne_nil _ _) written
      (by omega)
    obtain ⟨after, begins⟩ : ∃ after, dumpsMembers (member :: members) ++ cp '}' :: rest =
        cp '"' :: after := by
      cases members with
      | nil =>
        rw [dumpsMembers]
        exact ⟨_, rfl⟩
      | cons next members =>
        rw [dumpsMembers]
        exact ⟨_, rfl⟩
    rw [spelled, scanValue, if_neg (by decide), if_pos rfl, if_neg (Nat.succ_ne_zero _)]
    rw [begins] at inner ⊢
    rw [skipSpace_cons (by decide)]
    dsimp only
    rw [if_neg (by decide), Nat.add_sub_cancel, inner]
    rfl

theorem scanItems_dumps : (items : List Json) → (fuel depth : Nat) → (rest : Text) →
    items ≠ [] → WrittenItems depth items →
    2 * (dumpsItems items ++ cp ']' :: rest).length + 2 ≤ fuel →
    scanItems fuel depth (dumpsItems items ++ cp ']' :: rest) = .ok (items, rest)
  | _, 0, _, _, _, _, enough => by omega
  | [], _ + 1, _, _, nonempty, _, _ => absurd rfl nonempty
  | [item], fuel + 1, depth, rest, _, written, enough =>
    scanItems_last (scanValue_dumps item fuel depth (cp ']' :: rest) written.1 (stops_bracket rest)
      (by rw [dumpsItems] at enough; omega))
  | item :: next :: items, fuel + 1, depth, rest, _, written, enough => by
    have spelled : dumpsItems (item :: next :: items) ++ cp ']' :: rest =
        dumps item ++ cp ',' :: cp ' ' :: (dumpsItems (next :: items) ++ cp ']' :: rest) := by
      rw [dumpsItems]
      simp
    rw [spelled] at enough ⊢
    have first := scanValue_dumps item fuel depth _ written.1
      (stops_comma (cp ' ' :: (dumpsItems (next :: items) ++ cp ']' :: rest))) (by omega)
    simp only [List.length_append, List.length_cons] at enough
    have others := scanItems_dumps (next :: items) fuel depth rest (List.cons_ne_nil _ _) written.2
      (by simp only [List.length_append, List.length_cons]; omega)
    refine scanItems_more first ?_
    have visible : skipSpace (dumpsItems (next :: items) ++ cp ']' :: rest) =
        dumpsItems (next :: items) ++ cp ']' :: rest := by
      cases items with
      | nil =>
        rw [dumpsItems]
        exact skipSpace_dumps written.2.1 _
      | cons _ _ =>
        rw [dumpsItems, List.append_assoc]
        exact skipSpace_dumps written.2.1 _
    rw [visible]
    exact others

theorem scanMembers_dumps : (members : List (Text × Json)) → (fuel depth : Nat) → (rest : Text) →
    members ≠ [] → WrittenMembers depth members →
    2 * (dumpsMembers members ++ cp '}' :: rest).length + 2 ≤ fuel →
    scanMembers fuel depth (dumpsMembers members ++ cp '}' :: rest) = .ok (members, rest)
  | _, 0, _, _, _, _, enough => by omega
  | [], _ + 1, _, _, nonempty, _, _ => absurd rfl nonempty
  | [(key, value)], fuel + 1, depth, rest, _, written, enough => by
    have spelled : dumpsMembers [(key, value)] ++ cp '}' :: rest =
        dumpsStr key ++ cp ':' :: cp ' ' :: (dumps value ++ cp '}' :: rest) := by
      rw [dumpsMembers]
      simp
    rw [spelled] at enough ⊢
    simp only [List.length_append, List.length_cons] at enough
    apply scanMembers_last
    rw [skipSpace_dumps written.1]
    exact scanValue_dumps value fuel depth _ written.1 (stops_brace rest)
      (by simp only [List.length_append, List.length_cons]; omega)
  | (key, value) :: (later, next) :: members, fuel + 1, depth, rest, _, written, enough => by
    have spelled : dumpsMembers ((key, value) :: (later, next) :: members) ++ cp '}' :: rest =
        dumpsStr key ++ cp ':' :: cp ' ' :: (dumps value ++ cp ',' :: cp ' ' ::
          (dumpsMembers ((later, next) :: members) ++ cp '}' :: rest)) := by
      rw [dumpsMembers]
      simp
    rw [spelled] at enough ⊢
    simp only [List.length_append, List.length_cons] at enough
    have others := scanMembers_dumps ((later, next) :: members) fuel depth rest
      (List.cons_ne_nil _ _) written.2
      (by simp only [List.length_append, List.length_cons]; omega)
    have visible : skipSpace (dumpsMembers ((later, next) :: members) ++ cp '}' :: rest) =
        dumpsMembers ((later, next) :: members) ++ cp '}' :: rest := by
      cases members with
      | nil =>
        rw [dumpsMembers]
        exact skipSpace_cons (by decide) _
      | cons _ _ =>
        rw [dumpsMembers]
        exact skipSpace_cons (by decide) _
    apply scanMembers_more
    · rw [skipSpace_dumps written.1]
      exact scanValue_dumps value fuel depth _ written.1 (stops_comma _)
        (by simp only [List.length_append, List.length_cons]; omega)
    · rw [visible]
      exact others

end

/-- A written text is read back. -/
theorem loads_dumps {depth : Nat} {value : Json} (written : Written depth value) :
    loads depth (dumps value) = .ok value := by
  obtain ⟨c, t, first, visible, mark, _⟩ := dumps_head written
  have read := scanValue_dumps value (2 * (dumps value ++ []).length + 2) depth [] written stops_nil
    (by omega)
  have start : (dumps value).head? ≠ some (codePoint 0xfeff) := by
    rw [first, List.head?_cons, Ne, Option.some.injEq]
    exact mark
  have skipped : skipSpace (dumps value) = dumps value := by
    rw [first]
    exact skipSpace_cons visible _
  rw [List.append_nil] at read
  unfold loads
  rw [if_neg start, skipped]
  simp only [read, bind, Except.bind, pure, Except.pure]
  rfl

/-! ## A written text can be encoded -/

mutual

/-- No string in the document, and no number, has a lone surrogate. -/
def Plain : Json → Prop
  | .str value => Encodable value
  | .float spelled => Encodable spelled
  | .array items => PlainItems items
  | .object members => PlainMembers members
  | _ => True

def PlainItems : List Json → Prop
  | [] => True
  | item :: items => Plain item ∧ PlainItems items

def PlainMembers : List (Text × Json) → Prop
  | [] => True
  | (key, value) :: members => Encodable key ∧ Plain value ∧ PlainMembers members

end

theorem encodable_nil : Encodable [] := by simp [Encodable]

theorem encodable_cons {c : CodePoint} {t : Text} :
    Encodable (c :: t) ↔ isSurrogate c = false ∧ Encodable t := by
  simp [Encodable]

theorem encodable_append {s t : Text} : Encodable (s ++ t) ↔ Encodable s ∧ Encodable t := by
  unfold Encodable
  constructor
  · intro all
    exact ⟨fun c mem => all c (List.mem_append_left _ mem),
      fun c mem => all c (List.mem_append_right _ mem)⟩
  · intro both c mem
    rcases List.mem_append.1 mem with front | back
    · exact both.1 c front
    · exact both.2 c back

theorem hexDigit_encodable : ∀ n < 16, isSurrogate (hexDigit n) = false := by decide +kernel

theorem escapeOne_encodable {c : CodePoint} (scalar : isSurrogate c = false) :
    Encodable (escapeOne c) := by
  unfold escapeOne
  split_ifs with quote backslash newline carriage tab backspace formFeed control
  on_goal 8 =>
    have upper := hexDigit_encodable (c.val / 16) (by omega)
    have lower := hexDigit_encodable (c.val % 16) (by omega)
    refine encodable_append.2 ⟨by decide, ?_⟩
    exact encodable_cons.2 ⟨upper, encodable_cons.2 ⟨lower, encodable_nil⟩⟩
  on_goal 8 => exact encodable_cons.2 ⟨scalar, encodable_nil⟩
  all_goals decide

theorem dumpsStr_encodable {t : Text} (encodable : Encodable t) : Encodable (dumpsStr t) := by
  have escaped : Encodable (t.flatMap escapeOne) := by
    intro c mem
    obtain ⟨d, there, inside⟩ := List.mem_flatMap.1 mem
    exact escapeOne_encodable (encodable d there) c inside
  refine encodable_cons.2 ⟨by decide, encodable_append.2 ⟨escaped, ?_⟩⟩
  decide

mutual

theorem dumps_encodable : (value : Json) → Plain value → Encodable (dumps value)
  | .null, _ => by decide
  | .bool true, _ => by decide
  | .bool false, _ => by decide
  | .int value, _ => by
    have digits : Encodable (decimalText value.natAbs) := by
      intro c mem
      have digit := decimalText_digits mem
      simp only [isDigit, Bool.and_eq_true, decide_eq_true_eq] at digit
      simp only [isSurrogate, Bool.and_eq_false_iff, decide_eq_false_iff_not]
      omega
    rw [dumps]
    split
    · exact encodable_cons.2 ⟨by decide, digits⟩
    · exact digits
  | .float spelled, plain => plain
  | .str value, plain => dumpsStr_encodable plain
  | .array items, plain => by
    rw [dumps]
    exact encodable_cons.2 ⟨by decide, encodable_append.2 ⟨dumpsItems_encodable items plain, by decide⟩⟩
  | .object members, plain => by
    rw [dumps]
    exact encodable_cons.2
      ⟨by decide, encodable_append.2 ⟨dumpsMembers_encodable members plain, by decide⟩⟩

theorem dumpsItems_encodable : (items : List Json) → PlainItems items → Encodable (dumpsItems items)
  | [], _ => encodable_nil
  | [item], plain => dumps_encodable item plain.1
  | item :: next :: items, plain => by
    rw [dumpsItems, encodable_append, encodable_cons, encodable_cons]
    exact ⟨dumps_encodable item plain.1, by decide, by decide,
      dumpsItems_encodable (next :: items) plain.2⟩

theorem dumpsMembers_encodable : (members : List (Text × Json)) → PlainMembers members →
    Encodable (dumpsMembers members)
  | [], _ => encodable_nil
  | [(key, value)], plain => by
    rw [dumpsMembers, encodable_append, encodable_cons, encodable_cons]
    exact ⟨dumpsStr_encodable plain.1, by decide, by decide, dumps_encodable value plain.2.1⟩
  | (key, value) :: next :: members, plain => by
    rw [dumpsMembers, encodable_append, encodable_cons, encodable_cons, encodable_append,
      encodable_cons, encodable_cons]
    exact ⟨dumpsStr_encodable plain.1, by decide, by decide, dumps_encodable value plain.2.1,
      by decide, by decide, dumpsMembers_encodable (next :: members) plain.2.2⟩

end

end Json

end EvoBlue.Kernel
