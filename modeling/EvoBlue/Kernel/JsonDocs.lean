import EvoBlue.Kernel.Json
import EvoBlue.Kernel.OrderedDict

/-!
# JSON documents

Reading a text into dictionaries, with a hook that sees the pairs of each object as it
closes, and writing a document back indented. A float is the text of its `repr`. What
the reader returns can be written and read again, as far as containers nest.
-/

namespace EvoBlue.Kernel

namespace Json

/-- What the caller of a decoder chooses, and the limits of its host. -/
structure Decoder (ε : Type) where
  /-- Containers nest at most this deep. -/
  depth : Nat
  /-- `repr` of the float a literal spells. -/
  float : Text → Text
  /-- `object_pairs_hook`. -/
  pairs : List (Text × Json) → Except ε (List (Text × Json))

inductive LoadError (ε : Type) where
  | json (error : JsonError)
  /-- The hook raised. -/
  | hook (raised : ε)

variable {ε : Type} (decoder : Decoder ε)

/-! ## Reading -/

/-- A number or a name. -/
def readScalar (t : Text) : Except (LoadError ε) (Json × Text) :=
  match scanConstant t with
  | some found => .ok found
  | none =>
    match scanNumber t with
    | .error error => .error (.json error)
    | .ok (.float lexeme, rest) => .ok (.float (decoder.float lexeme), rest)
    | .ok found => .ok found

/-- An object closes. -/
def closeObject (members : List (Text × Json)) (rest : Text) : Except (LoadError ε) (Json × Text) :=
  match decoder.pairs members with
  | .error raised => .error (.hook raised)
  | .ok members => .ok (.object members, rest)

def readString (t : Text) : Except (LoadError ε) (Text × Text) :=
  (scanString t).mapError .json

mutual

/-- One value at the start of the text, nested at most `depth` deep. -/
def readValue : (fuel depth : Nat) → Text → Except (LoadError ε) (Json × Text)
  | 0, _, _ => .error (.json .outOfFuel)
  | _ + 1, _, [] => .error (.json .decode)
  | fuel + 1, depth, c :: rest =>
    if c = cp '"' then (readString rest).map fun (value, rest) => (.str value, rest)
    else if c = cp '{' then
      if depth = 0 then .error (.json .recursion)
      else
        match skipSpace rest with
        | [] => .error (.json .decode)
        | d :: rest =>
          if d = cp '}' then closeObject decoder [] rest
          else do
            let (members, rest) ← readMembers fuel (depth - 1) (d :: rest)
            closeObject decoder members rest
    else if c = cp '[' then
      if depth = 0 then .error (.json .recursion)
      else
        match skipSpace rest with
        | [] => .error (.json .decode)
        | d :: rest =>
          if d = cp ']' then .ok (.array [], rest)
          else (readItems fuel (depth - 1) (d :: rest)).map fun (items, rest) => (.array items, rest)
    else readScalar decoder (c :: rest)

/-- The items of an array up to its closing bracket. -/
def readItems : (fuel depth : Nat) → Text → Except (LoadError ε) (List Json × Text)
  | 0, _, _ => .error (.json .outOfFuel)
  | fuel + 1, depth, t => do
    let (value, rest) ← readValue fuel depth t
    match skipSpace rest with
    | [] => .error (.json .decode)
    | c :: rest =>
      if c = cp ']' then return ([value], rest)
      else if c = cp ',' then
        let (values, rest) ← readItems fuel depth (skipSpace rest)
        return (value :: values, rest)
      else .error (.json .decode)

/-- The members of an object up to its closing brace. -/
def readMembers : (fuel depth : Nat) → Text → Except (LoadError ε) (List (Text × Json) × Text)
  | 0, _, _ => .error (.json .outOfFuel)
  | _ + 1, _, [] => .error (.json .decode)
  | fuel + 1, depth, quote :: rest =>
    if quote ≠ cp '"' then .error (.json .decode)
    else do
      let (key, rest) ← readString rest
      match skipSpace rest with
      | [] => .error (.json .decode)
      | colon :: rest =>
        if colon ≠ cp ':' then .error (.json .decode)
        else do
          let (value, rest) ← readValue fuel depth (skipSpace rest)
          match skipSpace rest with
          | [] => .error (.json .decode)
          | c :: rest =>
            if c = cp '}' then return ([(key, value)], rest)
            else if c = cp ',' then
              let (members, rest) ← readMembers fuel depth (skipSpace rest)
              return ((key, value) :: members, rest)
            else .error (.json .decode)

end

/-- `json.loads` with an `object_pairs_hook`. -/
def loadsWith (t : Text) : Except (LoadError ε) Json :=
  if t.head? = some (codePoint 0xfeff) then .error (.json .decode)
  else do
    let (value, rest) ← readValue decoder (2 * t.length + 2) decoder.depth (skipSpace t)
    if skipSpace rest = [] then return value else .error (.json .decode)

/-! ## Writing -/

def intText (n : Int) : Text :=
  if n < 0 then cp '-' :: decimalText n.natAbs else decimalText n.natAbs

/-- A line break and the indentation of a level. -/
def lineBreak (width level : Nat) : Text := cp '\n' :: List.replicate (width * level) (cp ' ')

mutual

/-- `json.dumps` with an indentation and `ensure_ascii=False`. -/
def write (width : Nat) : (level : Nat) → Json → Text
  | _, .null => text "null"
  | _, .bool value => text (if value then "true" else "false")
  | _, .int value => intText value
  | _, .float spelled => spelled
  | _, .str value => dumpsStr value
  | level, .array items =>
    if items.isEmpty then text "[]"
    else cp '[' :: (lineBreak width (level + 1) ++ writeItems width (level + 1) items ++
      (lineBreak width level ++ [cp ']']))
  | level, .object members =>
    if members.isEmpty then text "\x7b\x7d"
    else cp '{' :: (lineBreak width (level + 1) ++ writeMembers width (level + 1) members ++
      (lineBreak width level ++ [cp '}']))

def writeItems (width : Nat) : (level : Nat) → List Json → Text
  | _, [] => []
  | level, item :: items =>
    write width level item ++
      (if items.isEmpty then [] else
        cp ',' :: (lineBreak width level ++ writeItems width level items))

def writeMembers (width : Nat) : (level : Nat) → List (Text × Json) → Text
  | _, [] => []
  | level, (key, value) :: members =>
    dumpsStr key ++ (text ": " ++ (write width level value ++
      (if members.isEmpty then [] else
        cp ',' :: (lineBreak width level ++ writeMembers width level members))))

end

/-! ## Comparing -/

/-- How containers compare their items where a float is involved. -/
structure FloatEquality where
  float : Text → Text → Bool
  int : Text → Int → Bool

/-- The integer a number is, where `True` is one. -/
def asInt : Json → Option Int
  | .bool value => some (if value then 1 else 0)
  | .int value => some value
  | _ => none

/-- `==` of two numbers. -/
def sameNumber (floats : FloatEquality) : Json → Json → Bool
  | .float x, .float y => floats.float x y
  | .float x, other | other, .float x => other.asInt.any (floats.int x)
  | one, other => one.asInt.isSome && one.asInt = other.asInt

mutual

/-- `==` of two documents; the order of members is no matter. -/
def same (floats : FloatEquality) : Json → Json → Bool
  | .null, .null => true
  | .str s, .str t => s = t
  | .array items, .array others => sameItems floats items others
  | .object members, .object others =>
    members.length = others.length && sameMembers floats members others
  | .null, _ | .str _, _ | .array _, _ | .object _, _ => false
  | one, other => sameNumber floats one other

def sameItems (floats : FloatEquality) : List Json → List Json → Bool
  | [], [] => true
  | item :: items, other :: others => same floats item other && sameItems floats items others
  | _, _ => false

def sameMembers (floats : FloatEquality) : List (Text × Json) → List (Text × Json) → Bool
  | [], _ => true
  | (key, value) :: members, others =>
    (match Dict.get key others with
      | some other => same floats value other
      | none => false) && sameMembers floats members others

end

/-! ## What the reader returns -/

mutual

/-- How deep containers nest. -/
def nesting : Json → Nat
  | .array items => nestingItems items + 1
  | .object members => nestingMembers members + 1
  | _ => 0

def nestingItems : List Json → Nat
  | [] => 0
  | item :: items => max (nesting item) (nestingItems items)

def nestingMembers : List (Text × Json) → Nat
  | [] => 0
  | (_, value) :: members => max (nesting value) (nestingMembers members)

end

/-- What may follow a scalar in a written text. -/
def Ends (rest : Text) : Prop := ∀ c ∈ rest.head?, c = cp ',' ∨ c = cp '\n'

/-- The text spells this float. -/
def Spells (spelled : Text) : Prop :=
  ∀ rest, Ends rest → readScalar decoder (spelled ++ rest) = .ok (.float spelled, rest)

/-- `float(repr(x)) == x` for every float that a literal spells. -/
def FloatsReadBack : Prop := ∀ lexeme, Spells decoder (decoder.float lexeme)

/-- The hook lets the pairs pass that have distinct keys, and raises on others. -/
def Strict : Prop :=
  ∀ members found, decoder.pairs members = .ok found ↔
    found = members ∧ (Dict.keys members).Nodup

mutual

/-- A document of dictionaries, whose integers are short enough and whose floats are
spelled as `repr` does. -/
def Settled : Json → Prop
  | .int value => (decimalText value.natAbs).length ≤ maxStrDigits
  | .float spelled => Spells decoder spelled
  | .array items => SettledItems items
  | .object members => (Dict.keys members).Nodup ∧ SettledMembers members
  | _ => True

def SettledItems : List Json → Prop
  | [] => True
  | item :: items => Settled item ∧ SettledItems items

def SettledMembers : List (Text × Json) → Prop
  | [] => True
  | (_, value) :: members => Settled value ∧ SettledMembers members

end

variable {decoder}

theorem ok_bind {α β : Type} (value : α) (next : α → Except ε β) :
    (Except.ok value >>= next) = next value := rfl

theorem ok_of_bind {α β : Type} {first : Except ε α} {next : α → Except ε β} {result : β}
    (ran : (first >>= next) = .ok result) : ∃ value, first = .ok value ∧ next value = .ok result := by
  cases first with
  | error raised => cases ran
  | ok value => exact ⟨value, rfl, ran⟩

theorem ok_of_map {α β : Type} {first : Except ε α} {wrap : α → β} {result : β}
    (ran : first.map wrap = .ok result) : ∃ value, first = .ok value ∧ wrap value = result := by
  cases first with
  | error raised => cases ran
  | ok value => exact ⟨value, rfl, Except.ok.inj ran⟩

theorem digitsValue_lt {digits : Text} (all : ∀ c ∈ digits, isDigit c = true) :
    digitsValue digits < 10 ^ digits.length := by
  have grown : ∀ value, digits.foldl (fun value c => value * 10 + (c.val - 0x30)) value <
      (value + 1) * 10 ^ digits.length := by
    induction digits with
    | nil => simp
    | cons c digits ih =>
      intro value
      have digit := all c List.mem_cons_self
      simp only [isDigit, Bool.and_eq_true, decide_eq_true_eq] at digit
      have rest := ih (fun d mem => all d (List.mem_cons_of_mem _ mem)) (value * 10 + (c.val - 0x30))
      have carried : (value * 10 + (c.val - 0x30) + 1) * 10 ^ digits.length ≤
          (value + 1) * 10 * 10 ^ digits.length := by
        apply Nat.mul_le_mul_right
        omega
      calc _ < _ := rest
        _ ≤ _ := carried
        _ = _ := by rw [List.length_cons, Nat.pow_succ, Nat.mul_assoc, Nat.mul_comm 10]
  simpa [digitsValue] using grown 0

theorem decimalText_length (n : Nat) : (decimalText n).length = (Nat.toDigits 10 n).length := by
  unfold decimalText text
  rw [Nat.toString_eq_repr, Nat.repr_eq_ofList_toDigits, String.toList_ofList, List.length_map]

/-- A number is a float, or an integer short enough to be written. -/
theorem scanNumber_kind {t rest : Text} {value : Json} (scanned : scanNumber t = .ok (value, rest)) :
    (∃ number, value = .int number ∧ (decimalText number.natAbs).length ≤ maxStrDigits) ∨
      ∃ lexeme, value = .float lexeme := by
  unfold scanNumber at scanned
  extract_lets sign body digits rest fraction exponent last number at scanned
  have allDigits : ∀ c ∈ digits, isDigit c = true := by
    intro c mem
    unfold digits at mem
    split at mem
    next zero =>
      cases same : body with
      | nil => simp [same] at mem
      | cons head tail =>
        simp only [same, List.head?_cons, Option.some.injEq] at zero
        simp only [same, List.take_succ_cons, List.take_zero, List.mem_singleton] at mem
        rw [mem, zero]
        decide
    next => exact List.mem_takeWhile_imp mem
  split at scanned
  next => cases scanned
  next someDigits =>
    split at scanned
    next =>
      split at scanned
      next => cases scanned
      next short =>
        left
        have same := congrArg Prod.fst (Except.ok.inj scanned)
        dsimp only at same
        have size : (if sign = [] then number else -number).natAbs = digitsValue digits := by
          unfold number
          split <;> simp
        have positive := List.length_pos_iff.2 someDigits
        have fits := (Nat.length_toDigits_le_iff (by decide) positive).2 (digitsValue_lt allDigits)
        refine ⟨_, same.symm, ?_⟩
        rw [decimalText_length, size]
        omega
    next =>
      right
      exact ⟨_, (congrArg Prod.fst (Except.ok.inj scanned)).symm⟩

/-! ## What is read is settled -/

theorem scanConstant_spelled {entry : Text × Json} (mem : entry ∈ constants) (rest : Text) :
    scanConstant (entry.1 ++ rest) = some (entry.2, rest) := by
  simp only [constants, List.mem_cons, List.not_mem_nil, or_false] at mem
  rcases mem with rfl | rfl | rfl | rfl | rfl | rfl <;> rfl

theorem constant_spells {entry : Text × Json} (mem : entry ∈ constants) {lexeme : Text}
    (float : entry.2 = .float lexeme) : Spells decoder lexeme := by
  have named : entry.1 = lexeme := by
    simp only [constants, List.mem_cons, List.not_mem_nil, or_false] at mem
    rcases mem with rfl | rfl | rfl | rfl | rfl | rfl <;> simp_all
  intro rest _
  unfold readScalar
  rw [← named, scanConstant_spelled mem rest, float, named]

theorem readScalar_settled (floats : FloatsReadBack decoder) {t rest : Text} {value : Json}
    (read : readScalar decoder t = .ok (value, rest)) : Settled decoder value := by
  unfold readScalar at read
  split at read
  next found scanned =>
    cases read
    obtain ⟨entry, among, same⟩ := Option.map_eq_some_iff.1 scanned
    have listed : entry ∈ constants := List.mem_of_find?_eq_some among
    obtain ⟨rfl, -⟩ := Prod.mk.inj same
    cases kind : entry.2 with
    | float lexeme => exact constant_spells listed kind
    | null | bool | str => trivial
    | int | array | object =>
      simp only [constants, List.mem_cons, List.not_mem_nil, or_false] at listed
      rcases listed with rfl | rfl | rfl | rfl | rfl | rfl <;> simp at kind
  next =>
    split at read
    next => cases read
    next lexeme rest scanned =>
      cases read
      exact floats lexeme
    next found notFloat scanned =>
      cases read
      rcases scanNumber_kind scanned with ⟨number, rfl, short⟩ | ⟨lexeme, rfl⟩
      · exact short
      · exact absurd rfl (notFloat lexeme rest)

theorem closeObject_settled (strict : Strict decoder) {members : List (Text × Json)} {rest left : Text}
    {value : Json} (values : SettledMembers decoder members)
    (closed : closeObject decoder members rest = .ok (value, left)) : Settled decoder value := by
  unfold closeObject at closed
  split at closed
  next => cases closed
  next found passed =>
    cases closed
    obtain ⟨rfl, distinct⟩ := (strict members found).1 passed
    exact ⟨distinct, values⟩

/-- Whatever is read is settled. -/
theorem read_settled (floats : FloatsReadBack decoder) (strict : Strict decoder) (fuel : Nat) :
    (∀ depth t value rest, readValue decoder fuel depth t = .ok (value, rest) →
      Settled decoder value) ∧
    (∀ depth t items rest, readItems decoder fuel depth t = .ok (items, rest) →
      SettledItems decoder items) ∧
    (∀ depth t members rest, readMembers decoder fuel depth t = .ok (members, rest) →
      SettledMembers decoder members) := by
  induction fuel with
  | zero =>
    constructor
    · intro depth t value rest read
      cases read
    · constructor
      · intro depth t items rest read
        cases read
      · intro depth t members rest read
        cases read
  | succ fuel ih =>
    obtain ⟨values, items, members⟩ := ih
    constructor
    · intro depth t value rest read
      cases t with
      | nil => cases read
      | cons c t =>
        rw [readValue] at read
        split at read
        next =>
          obtain ⟨found, _, same⟩ := ok_of_map read
          cases same
          trivial
        split at read
        next =>
          split at read
          next => cases read
          split at read
          next => cases read
          next d after _ =>
            split at read
            next =>
              have none : SettledMembers decoder [] := trivial
              exact closeObject_settled strict none read
            next =>
              obtain ⟨found, inner, closed⟩ := ok_of_bind read
              exact closeObject_settled strict (members _ _ _ _ inner) closed
        split at read
        next =>
          split at read
          next => cases read
          split at read
          next => cases read
          next d after _ =>
            split at read
            next =>
              cases read
              trivial
            next =>
              obtain ⟨found, inner, same⟩ := ok_of_map read
              cases same
              exact items _ _ _ _ inner
        next => exact readScalar_settled floats read
    · constructor
      · intro depth t found rest read
        rw [readItems] at read
        obtain ⟨⟨value, after⟩, first, read⟩ := ok_of_bind read
        have settled := values _ _ _ _ first
        dsimp only at read
        split at read
        next => cases read
        next c left _ =>
          split at read
          next =>
            cases read
            exact ⟨settled, trivial⟩
          split at read
          next =>
            obtain ⟨⟨more, last⟩, later, same⟩ := ok_of_bind read
            cases same
            exact ⟨settled, items _ _ _ _ later⟩
          next => cases read
      · intro depth t found rest read
        cases t with
        | nil => cases read
        | cons quote t =>
          rw [readMembers] at read
          split at read
          next => cases read
          obtain ⟨⟨key, after⟩, _, read⟩ := ok_of_bind read
          dsimp only at read
          split at read
          next => cases read
          next colon left _ =>
            split at read
            next => cases read
            obtain ⟨⟨value, beyond⟩, first, read⟩ := ok_of_bind read
            have settled := values _ _ _ _ first
            dsimp only at read
            split at read
            next => cases read
            next c last _ =>
              split at read
              next =>
                cases read
                exact ⟨settled, trivial⟩
              split at read
              next =>
                obtain ⟨⟨more, left⟩, later, same⟩ := ok_of_bind read
                cases same
                exact ⟨settled, members _ _ _ _ later⟩
              next => cases read

theorem loadsWith_settled (floats : FloatsReadBack decoder) (strict : Strict decoder) {t : Text}
    {value : Json} (loaded : loadsWith decoder t = .ok value) : Settled decoder value := by
  unfold loadsWith at loaded
  split at loaded
  next => cases loaded
  obtain ⟨⟨found, rest⟩, read, loaded⟩ := ok_of_bind loaded
  dsimp only at loaded
  split at loaded
  next =>
    cases loaded
    exact (read_settled floats strict _).1 _ _ _ _ read
  next => cases loaded

/-! ## A written scalar is read back -/

theorem digitsValue_decimalText (n : Nat) : digitsValue (decimalText n) = n := by
  have values := @Nat.ofDigitChars_ten_toDigits n
  unfold digitsValue decimalText text
  rw [Nat.toString_eq_repr, Nat.repr_eq_ofList_toDigits, String.toList_ofList, List.foldl_map]
  have step : ∀ (digits : List Char) (value : Nat),
      digits.foldl (fun value c => value * 10 + ((cp c).val - 0x30)) value =
        Nat.ofDigitChars 10 digits value := by
    intro digits
    induction digits with
    | nil => intro value; rfl
    | cons c digits ih =>
      intro value
      rw [List.foldl_cons, ih, Nat.ofDigitChars_cons, Nat.mul_comm]
      rfl
  rw [step, values]

theorem decimalText_ne_nil (n : Nat) : decimalText n ≠ [] := by
  apply List.ne_nil_of_length_pos
  rw [decimalText_length]
  exact Nat.length_toDigits_pos

/-- Only zero is spelled with a leading zero: without it the digits would do. -/
theorem decimalText_zero {n : Nat} (zero : (decimalText n).head? = some (cp '0')) :
    decimalText n = [cp '0'] := by
  cases spelled : decimalText n with
  | nil => simp [spelled] at zero
  | cons c digits =>
    rw [spelled, List.head?_cons, Option.some.injEq] at zero
    subst zero
    cases digits with
    | nil => rfl
    | cons d digits =>
      have size := decimalText_length n
      have value := digitsValue_decimalText n
      rw [spelled] at size value
      have allDigits : ∀ c ∈ d :: digits, isDigit c = true := by
        intro c mem
        apply @decimalText_digits n
        rw [spelled]
        exact List.mem_cons_of_mem _ mem
      have small : n < 10 ^ (d :: digits).length := by
        rw [← value]
        exact digitsValue_lt allDigits
      have fewer := (Nat.length_toDigits_le_iff (by decide) (by simp)).2 small
      simp only [List.length_cons] at size fewer
      omega

theorem ends_head {rest : Text} (ends : Ends rest) :
    rest.takeWhile isDigit = [] ∧ scanFraction rest = [] ∧ scanExponent rest = [] := by
  cases rest with
  | nil => exact ⟨rfl, rfl, rfl⟩
  | cons c rest =>
    rcases ends c rfl with rfl | rfl
    · exact ⟨rfl, rfl, rfl⟩
    · exact ⟨rfl, rfl, rfl⟩

theorem scanNumber_intText {value : Int} (short : (decimalText value.natAbs).length ≤ maxStrDigits)
    {rest : Text} (ends : Ends rest) :
    scanNumber (intText value ++ rest) = .ok (.int value, rest) := by
  obtain ⟨noDigit, noFraction, noExponent⟩ := ends_head ends
  have all : (decimalText value.natAbs ++ rest).takeWhile isDigit = decimalText value.natAbs := by
    rw [List.takeWhile_append_of_pos fun c mem => decimalText_digits mem, noDigit, List.append_nil]
  have someDigits := decimalText_ne_nil value.natAbs
  have digits : (if (decimalText value.natAbs ++ rest).head? = some (cp '0') then
      (decimalText value.natAbs ++ rest).take 1
      else (decimalText value.natAbs ++ rest).takeWhile isDigit) = decimalText value.natAbs := by
    rw [List.head?_append_of_ne_nil _ someDigits]
    split
    next zero =>
      rw [decimalText_zero zero]
      rfl
    next => exact all
  have notLong : ¬ (decimalText value.natAbs).length > maxStrDigits := by omega
  unfold scanNumber intText
  by_cases negative : value < 0
  · have same : -(value.natAbs : Int) = value := by omega
    have minus : [cp '-'] ≠ [] := by simp
    simp only [negative, if_true, List.cons_append, List.head?_cons, List.take_succ_cons,
      List.take_zero, List.length_singleton, List.drop_succ_cons, List.drop_zero, digits,
      someDigits, if_false, List.drop_left, noFraction, noExponent, List.length_nil, and_self,
      notLong, digitsValue_decimalText, minus, same]
  · have visible : (decimalText value.natAbs ++ rest).head? ≠ some (cp '-') := by
      rw [List.head?_append_of_ne_nil _ someDigits]
      intro minus
      have digit := decimalText_digits (List.mem_of_head? minus)
      exact absurd digit (by decide)
    have same : (value.natAbs : Int) = value := by omega
    simp only [negative, if_false, visible, List.take_zero, List.length_nil, List.drop_zero,
      digits, someDigits, List.drop_left, noFraction, noExponent, and_self, if_true, notLong,
      digitsValue_decimalText, same]

theorem prefix_apart {c d : CodePoint} (apart : c ≠ d) (front t : Text) :
    List.isPrefixOf (c :: front) (d :: t) = false := by
  simp [List.isPrefixOf, apart]

theorem scanConstant_digit {c : CodePoint} (digit : isDigit c = true) (t : Text) :
    scanConstant (c :: t) = none := by
  have letter : ∀ d : CodePoint, isDigit d = false → d ≠ c := by
    rintro d notDigit rfl
    rw [digit] at notDigit
    cases notDigit
  unfold scanConstant
  rw [Option.map_eq_none_iff, List.find?_eq_none]
  intro entry mem
  rw [Bool.not_eq_true]
  simp only [constants, List.mem_cons, List.not_mem_nil, or_false] at mem
  rcases mem with rfl | rfl | rfl | rfl | rfl | rfl <;> exact prefix_apart (letter _ (by decide)) _ _

theorem scanConstant_minus {c : CodePoint} (digit : isDigit c = true) (t : Text) :
    scanConstant (cp '-' :: c :: t) = none := by
  unfold scanConstant
  rw [Option.map_eq_none_iff, List.find?_eq_none]
  intro entry mem
  rw [Bool.not_eq_true]
  simp only [constants, List.mem_cons, List.not_mem_nil, or_false] at mem
  rcases mem with rfl | rfl | rfl | rfl | rfl | rfl
  iterate 5 exact prefix_apart (by decide) _ _
  have apart : cp 'I' ≠ c := by
    rintro rfl
    exact absurd digit (by decide)
  have second := prefix_apart apart (text "nfinity") t
  rw [show text "-Infinity" = cp '-' :: cp 'I' :: text "nfinity" from rfl, List.isPrefixOf_cons_cons, second,
    Bool.and_false]

theorem readScalar_intText {value : Int} (short : (decimalText value.natAbs).length ≤ maxStrDigits)
    {rest : Text} (ends : Ends rest) :
    readScalar decoder (intText value ++ rest) = .ok (.int value, rest) := by
  have number := scanNumber_intText short ends
  have name : scanConstant (intText value ++ rest) = none := by
    cases spelled : decimalText value.natAbs with
    | nil => exact absurd spelled (decimalText_ne_nil _)
    | cons c digits =>
      have digit : isDigit c = true := by
        apply @decimalText_digits value.natAbs
        rw [spelled]
        exact List.mem_cons_self
      unfold intText
      split
      · rw [spelled]
        exact scanConstant_minus digit _
      · rw [spelled]
        exact scanConstant_digit digit _
  unfold readScalar
  simp only [name, number]

/-- No number or name begins like this. -/
theorem readScalar_head {c : CodePoint} {t : Text} {found : Json × Text}
    (read : readScalar decoder (c :: t) = .ok found) :
    (isJsonSpace c = false ∧ c ≠ codePoint 0xfeff ∧ c ≠ cp ']') ∧ c ≠ cp '"' ∧ c ≠ cp '{' ∧
      c ≠ cp '[' := by
  have refused : ∀ d ∈ [cp ' ', cp '\t', cp '\n', cp '\r', cp ']', cp '"', cp '{', cp '[',
      codePoint 0xfeff], readScalar decoder (d :: t) = .error (.json .decode) := by
    intro d mem
    simp only [List.mem_cons, List.not_mem_nil, or_false] at mem
    rcases mem with rfl | rfl | rfl | rfl | rfl | rfl | rfl | rfl | rfl <;> rfl
  have apart : ∀ d ∈ [cp ' ', cp '\t', cp '\n', cp '\r', cp ']', cp '"', cp '{', cp '[',
      codePoint 0xfeff], c ≠ d := by
    rintro d mem rfl
    rw [refused c mem] at read
    cases read
  simp only [List.mem_cons, List.not_mem_nil, or_false, forall_eq_or_imp, forall_eq] at apart
  simp [isJsonSpace, apart]

/-! ## A written document is read back -/

theorem skipSpace_lineBreak (width level : Nat) {c : CodePoint} (visible : isJsonSpace c = false)
    (rest : Text) : skipSpace (lineBreak width level ++ c :: rest) = c :: rest := by
  have spaces : ∀ d ∈ lineBreak width level, isJsonSpace d = true := by
    intro d mem
    rcases List.mem_cons.1 mem with rfl | mem
    · decide
    · rw [List.eq_of_mem_replicate mem]
      decide
  unfold skipSpace
  rw [List.dropWhile_append_of_pos spaces]
  simp [visible]

theorem spells_head {spelled : Text} (spells : Spells decoder spelled) :
    ∃ c t, spelled = c :: t ∧ isJsonSpace c = false ∧ c ≠ codePoint 0xfeff ∧ c ≠ cp ']' := by
  have read := spells [] (by simp [Ends])
  rw [List.append_nil] at read
  cases spelled with
  | nil => cases read
  | cons c t => exact ⟨c, t, rfl, (readScalar_head read).1⟩

/-- A written value starts visibly, without a byte order mark, and not like the end of an
array. -/
theorem write_head {value : Json} (settled : Settled decoder value) (width level : Nat) :
    ∃ c t, write width level value = c :: t ∧ isJsonSpace c = false ∧ c ≠ codePoint 0xfeff ∧
      c ≠ cp ']' := by
  cases value with
  | null => exact ⟨cp 'n', _, rfl, by decide, by decide, by decide⟩
  | bool value =>
    cases value with
    | false => exact ⟨cp 'f', _, rfl, by decide, by decide, by decide⟩
    | true => exact ⟨cp 't', _, rfl, by decide, by decide, by decide⟩
  | int value =>
    have read := @readScalar_intText _ decoder value settled [] (by simp [Ends])
    rw [List.append_nil] at read
    cases spelled : intText value with
    | nil =>
      rw [spelled] at read
      cases read
    | cons c t =>
      rw [spelled] at read
      exact ⟨c, t, by rw [write, spelled], (readScalar_head read).1⟩
  | float spelled =>
    exact spells_head settled
  | str value => exact ⟨cp '"', _, rfl, by decide, by decide, by decide⟩
  | array items =>
    rw [write]
    split
    · exact ⟨cp '[', _, rfl, by decide, by decide, by decide⟩
    · exact ⟨cp '[', _, rfl, by decide, by decide, by decide⟩
  | object members =>
    rw [write]
    split
    · exact ⟨cp '{', _, rfl, by decide, by decide, by decide⟩
    · exact ⟨cp '{', _, rfl, by decide, by decide, by decide⟩

/-- What reading a written value gives: the value, unless it nests too deep. -/
def readBack {α : Type} (deep depth : Nat) (value : α) (rest : Text) :
    Except (LoadError ε) (α × Text) :=
  if deep ≤ depth then .ok (value, rest) else .error (.json .recursion)

theorem skipSpace_written {value : Json} (settled : Settled decoder value) (width level : Nat)
    (rest : Text) : skipSpace (write width level value ++ rest) = write width level value ++ rest := by
  obtain ⟨c, t, same, visible, _⟩ := write_head settled width level
  rw [same, List.cons_append]
  exact skipSpace_cons visible _

theorem readString_escaped (t rest : Text) :
    (readString (t.flatMap escapeOne ++ cp '"' :: rest) : Except (LoadError ε) (Text × Text)) =
      .ok (t, rest) := by
  unfold readString
  rw [scanString_escaped]
  rfl

theorem ends_lineBreak (width level : Nat) (rest : Text) : Ends (lineBreak width level ++ rest) := by
  intro c mem
  exact .inr (Option.some.inj mem).symm

theorem ends_comma (rest : Text) : Ends (cp ',' :: rest) := by
  intro c mem
  exact .inl (Option.some.inj mem).symm

theorem readValue_scalar {t : Text} {found : Json × Text} (read : readScalar decoder t = .ok found)
    (fuel depth : Nat) : readValue decoder (fuel + 1) depth t = .ok found := by
  cases t with
  | nil => cases read
  | cons c t =>
    obtain ⟨_, notString, notObject, notArray⟩ := readScalar_head read
    rw [readValue, if_neg notString, if_neg notObject, if_neg notArray, read]

theorem readValue_dumpsStr (fuel depth : Nat) (t rest : Text) :
    readValue decoder (fuel + 1) depth (dumpsStr t ++ rest) = .ok (.str t, rest) := by
  unfold dumpsStr
  rw [List.cons_append, readValue, if_pos rfl, List.append_assoc, List.singleton_append,
    readString_escaped]
  rfl

/-- A container that fits holds values that fit. -/
theorem readBack_wrap {α β : Type} (deep depth : Nat) (value : α) (rest : Text) (wrap : α → β)
    {next : α × Text → Except (LoadError ε) (β × Text)}
    (reads : next (value, rest) = .ok (wrap value, rest)) :
    (readBack deep depth value rest >>= next) = readBack (deep + 1) (depth + 1) (wrap value) rest := by
  unfold readBack
  by_cases fits : deep ≤ depth
  · rw [if_pos fits, if_pos (Nat.succ_le_succ fits)]
    exact reads
  · rw [if_neg fits, if_neg fun all => fits (Nat.le_of_succ_le_succ all)]
    rfl

theorem readBack_more {α β : Type} (first later depth : Nat) (value : α) (values : β) {γ : Type}
    (join : α → β → γ) (middle rest : Text)
    (next : α × Text → Except (LoadError ε) (γ × Text))
    (reads : next (value, middle) = (readBack later depth values rest >>=
      fun (values, rest) => pure (join value values, rest))) :
    (readBack first depth value middle >>= next) =
      readBack (max first later) depth (join value values) rest := by
  unfold readBack at reads ⊢
  by_cases fits : first ≤ depth
  · rw [if_pos fits]
    refine reads.trans ?_
    by_cases both : later ≤ depth
    · rw [if_pos both, if_pos (Nat.max_le.2 ⟨fits, both⟩)]
      rfl
    · rw [if_neg both, if_neg fun all => both (Nat.max_le.1 all).2]
      rfl
  · rw [if_neg fits, if_neg fun all => fits (Nat.max_le.1 all).1]
    rfl

theorem closeObject_strict (strict : Strict decoder) {members : List (Text × Json)}
    (distinct : (Dict.keys members).Nodup) (rest : Text) :
    closeObject decoder members rest = .ok (.object members, rest) := by
  unfold closeObject
  rw [(strict members members).2 ⟨rfl, distinct⟩]

mutual

theorem readValue_write (strict : Strict decoder) (width : Nat) : (level : Nat) → (value : Json) → (fuel depth : Nat) → (rest : Text) →
    Settled decoder value → Ends rest → 2 * (write width level value ++ rest).length + 1 ≤ fuel →
    readValue decoder fuel depth (write width level value ++ rest) =
      readBack (nesting value) depth value rest
  | level, value, 0, depth, rest, _, _, enough => by omega
  | level, .null, fuel + 1, depth, rest, _, _, _ => rfl
  | level, .bool false, fuel + 1, depth, rest, _, _, _ => rfl
  | level, .bool true, fuel + 1, depth, rest, _, _, _ => rfl
  | level, .int value, fuel + 1, depth, rest, settled, ends, _ => by
    rw [write, readValue_scalar (readScalar_intText settled ends)]
    rfl
  | level, .float spelled, fuel + 1, depth, rest, settled, ends, _ => by
    rw [write, readValue_scalar (settled rest ends)]
    rfl
  | level, .str value, fuel + 1, depth, rest, _, _, _ => by
    rw [write, readValue_dumpsStr]
    rfl
  | level, .array [], fuel + 1, depth, rest, _, _, _ => by
    cases depth <;> rfl
  | level, .array (item :: items), fuel + 1, 0, rest, _, _, _ => rfl
  | level, .array (item :: items), fuel + 1, depth + 1, rest, settled, _, enough => by
    obtain ⟨c, t, first, visible, _, notEnd⟩ := write_head settled.1 width (level + 1)
    obtain ⟨after, inner⟩ : ∃ after, writeItems width (level + 1) (item :: items) ++
        (lineBreak width level ++ cp ']' :: rest) = c :: after := by
      rw [writeItems, first]
      exact ⟨_, rfl⟩
    have skipped := skipSpace_lineBreak width (level + 1) visible after
    rw [← inner] at skipped
    have written : write width level (.array (item :: items)) ++ rest =
        cp '[' :: (lineBreak width (level + 1) ++ (writeItems width (level + 1) (item :: items) ++
          (lineBreak width level ++ cp ']' :: rest))) := by
      rw [write, List.isEmpty_cons, if_neg (by decide)]
      simp
    rw [written, List.length_cons, List.length_append] at enough
    have items := readItems_write strict width (level + 1) (item :: items) fuel depth level rest (by simp) settled
      (by omega)
    rw [written, readValue, if_neg (by decide), if_neg (by decide), if_pos rfl,
      if_neg (Nat.succ_ne_zero _), skipped]
    rw [inner] at items ⊢
    dsimp only
    rw [if_neg notEnd, Nat.add_sub_cancel, items]
    exact readBack_wrap _ _ _ _ Json.array rfl
  | level, .object [], fuel + 1, depth, rest, _, _, _ => by
    cases depth with
    | zero => rfl
    | succ depth =>
      have distinct : (Dict.keys ([] : List (Text × Json))).Nodup := List.nodup_nil
      exact closeObject_strict strict distinct rest
  | level, .object (member :: members), fuel + 1, 0, rest, _, _, _ => rfl
  | level, .object ((key, value) :: members), fuel + 1, depth + 1, rest, settled, _, enough => by
    obtain ⟨after, inner⟩ : ∃ after, writeMembers width (level + 1) ((key, value) :: members) ++
        (lineBreak width level ++ cp '}' :: rest) = cp '"' :: after := by
      rw [writeMembers]
      exact ⟨_, rfl⟩
    have skipped := skipSpace_lineBreak width (level + 1)
      (show isJsonSpace (cp '"') = false by decide) after
    rw [← inner] at skipped
    have written : write width level (.object ((key, value) :: members)) ++ rest =
        cp '{' :: (lineBreak width (level + 1) ++
          (writeMembers width (level + 1) ((key, value) :: members) ++
            (lineBreak width level ++ cp '}' :: rest))) := by
      rw [write, List.isEmpty_cons, if_neg (by decide)]
      simp
    rw [written, List.length_cons, List.length_append] at enough
    have members := readMembers_write strict width (level + 1) ((key, value) :: members) fuel depth level rest
      (by simp) settled.2 (by omega)
    rw [written, readValue, if_neg (by decide), if_pos rfl, if_neg (Nat.succ_ne_zero _), skipped]
    rw [inner] at members ⊢
    dsimp only
    rw [if_neg (by decide), Nat.add_sub_cancel, members]
    exact readBack_wrap _ _ _ _ Json.object (closeObject_strict strict settled.1 rest)

theorem readItems_write (strict : Strict decoder) (width : Nat) : (level : Nat) → (items : List Json) → (fuel depth : Nat) →
    (outer : Nat) → (rest : Text) → items ≠ [] → SettledItems decoder items →
    2 * (writeItems width level items ++ (lineBreak width outer ++ cp ']' :: rest)).length + 2 ≤ fuel →
    readItems decoder fuel depth
      (writeItems width level items ++ (lineBreak width outer ++ cp ']' :: rest)) =
      readBack (nestingItems items) depth items rest
  | _, _, 0, _, _, _, _, _, enough => by omega
  | _, [], _ + 1, _, _, _, nonempty, _, _ => absurd rfl nonempty
  | level, [item], fuel + 1, depth, outer, rest, _, settled, enough => by
    rw [writeItems, List.isEmpty_nil, if_pos rfl, List.append_nil] at enough ⊢
    have value := readValue_write strict width level item fuel depth (lineBreak width outer ++ cp ']' :: rest)
      settled.1 (ends_lineBreak _ _ _) (by omega)
    rw [readItems, value]
    unfold nestingItems nestingItems
    apply readBack_more _ 0 _ item ([] : List Json) List.cons
    simp only [skipSpace_lineBreak width outer (show isJsonSpace (cp ']') = false by decide)]
    rfl
  | level, item :: next :: items, fuel + 1, depth, outer, rest, _, settled, enough => by
    have written : writeItems width level (item :: next :: items) ++
        (lineBreak width outer ++ cp ']' :: rest) = write width level item ++
          cp ',' :: (lineBreak width level ++ (writeItems width level (next :: items) ++
            (lineBreak width outer ++ cp ']' :: rest))) := by
      rw [writeItems, List.isEmpty_cons, if_neg (by decide)]
      simp
    obtain ⟨c, t, first, visible, _⟩ := write_head settled.2.1 width level
    obtain ⟨after, inner⟩ : ∃ after, writeItems width level (next :: items) ++
        (lineBreak width outer ++ cp ']' :: rest) = c :: after := by
      rw [writeItems, first]
      exact ⟨_, rfl⟩
    have skipped := skipSpace_lineBreak width level visible after
    rw [← inner] at skipped
    rw [written] at enough ⊢
    have value := readValue_write strict width level item fuel depth _ settled.1 (ends_comma
      (lineBreak width level ++ (writeItems width level (next :: items) ++
        (lineBreak width outer ++ cp ']' :: rest)))) (by omega)
    simp only [List.length_append, List.length_cons] at enough
    have later := readItems_write strict width level (next :: items) fuel depth outer rest (by simp) settled.2
      (by simp only [List.length_append, List.length_cons]; omega)
    rw [readItems, value]
    apply readBack_more _ _ _ item (next :: items) List.cons
    simp only [skipSpace_cons (show isJsonSpace (cp ',') = false by decide), skipped, later]
    rw [if_neg (by decide), if_pos trivial]

theorem readMembers_write (strict : Strict decoder) (width : Nat) : (level : Nat) → (members : List (Text × Json)) → (fuel depth : Nat) →
    (outer : Nat) → (rest : Text) → members ≠ [] → SettledMembers decoder members →
    2 * (writeMembers width level members ++ (lineBreak width outer ++ cp '}' :: rest)).length + 2 ≤
      fuel →
    readMembers decoder fuel depth
      (writeMembers width level members ++ (lineBreak width outer ++ cp '}' :: rest)) =
      readBack (nestingMembers members) depth members rest
  | _, _, 0, _, _, _, _, _, enough => by omega
  | _, [], _ + 1, _, _, _, nonempty, _, _ => absurd rfl nonempty
  | level, [(key, value)], fuel + 1, depth, outer, rest, _, settled, enough => by
    have written : writeMembers width level [(key, value)] ++
        (lineBreak width outer ++ cp '}' :: rest) = cp '"' :: (key.flatMap escapeOne ++
          cp '"' :: cp ':' :: cp ' ' :: (write width level value ++
            (lineBreak width outer ++ cp '}' :: rest))) := by
      rw [writeMembers, List.isEmpty_nil, if_pos rfl]
      simp [dumpsStr, text]
    rw [written] at enough ⊢
    simp only [List.length_append, List.length_cons] at enough
    have read := readValue_write strict width level value fuel depth (lineBreak width outer ++ cp '}' :: rest)
      settled.1 (ends_lineBreak _ _ _) (by simp only [List.length_append, List.length_cons]; omega)
    have blank : ∀ t, skipSpace (cp ' ' :: (write width level value ++ t)) =
        write width level value ++ t := fun t => skipSpace_written settled.1 width level t
    have colon : ∀ t, skipSpace (cp ':' :: t) = cp ':' :: t := fun _ => rfl
    rw [readMembers, if_neg (by simp), readString_escaped, ok_bind]
    dsimp only
    rw [colon]
    dsimp only
    rw [if_neg (by simp), blank, read]
    apply readBack_more _ 0 _ value ([] : List (Text × Json)) fun value members =>
      (key, value) :: members
    simp only [skipSpace_lineBreak width outer (show isJsonSpace (cp '}') = false by decide)]
    rfl
  | level, (key, value) :: (later, next) :: members, fuel + 1, depth, outer, rest, _, settled,
    enough => by
    obtain ⟨after, inner⟩ : ∃ after, writeMembers width level ((later, next) :: members) ++
        (lineBreak width outer ++ cp '}' :: rest) = cp '"' :: after := by
      rw [writeMembers]
      exact ⟨_, rfl⟩
    have skipped := skipSpace_lineBreak width level (show isJsonSpace (cp '"') = false by decide) after
    rw [← inner] at skipped
    have written : writeMembers width level ((key, value) :: (later, next) :: members) ++
        (lineBreak width outer ++ cp '}' :: rest) = cp '"' :: (key.flatMap escapeOne ++
          cp '"' :: cp ':' :: cp ' ' :: (write width level value ++
            cp ',' :: (lineBreak width level ++ (writeMembers width level ((later, next) :: members) ++
              (lineBreak width outer ++ cp '}' :: rest))))) := by
      rw [writeMembers, List.isEmpty_cons, if_neg (by decide)]
      simp [dumpsStr, text]
    rw [written] at enough ⊢
    simp only [List.length_append, List.length_cons] at enough
    have read := readValue_write strict width level value fuel depth _ settled.1 (ends_comma
      (lineBreak width level ++ (writeMembers width level ((later, next) :: members) ++
        (lineBreak width outer ++ cp '}' :: rest))))
      (by simp only [List.length_append, List.length_cons]; omega)
    have others := readMembers_write strict width level ((later, next) :: members) fuel depth outer rest (by simp)
      settled.2 (by simp only [List.length_append, List.length_cons]; omega)
    have blank : ∀ t, skipSpace (cp ' ' :: (write width level value ++ t)) =
        write width level value ++ t := fun t => skipSpace_written settled.1 width level t
    have colon : ∀ t, skipSpace (cp ':' :: t) = cp ':' :: t := fun _ => rfl
    rw [readMembers, if_neg (by simp), readString_escaped, ok_bind]
    dsimp only
    rw [colon]
    dsimp only
    rw [if_neg (by simp), blank, read]
    apply readBack_more _ _ _ value ((later, next) :: members) fun value members =>
      (key, value) :: members
    simp only [skipSpace_cons (show isJsonSpace (cp ',') = false by decide), skipped, others]
    rw [if_neg (by decide), if_pos trivial]

end

/-- A written document is read back, unless it nests too deep. -/
theorem loadsWith_write (strict : Strict decoder) {value : Json} (settled : Settled decoder value)
    (width : Nat) : loadsWith decoder (write width 0 value ++ text "\n") =
      if nesting value ≤ decoder.depth then .ok value else .error (.json .recursion) := by
  obtain ⟨c, t, first, visible, mark, _⟩ := write_head settled width 0
  have read := readValue_write strict width 0 value
    (2 * (write width 0 value ++ text "\n").length + 2) decoder.depth (text "\n") settled
    (by simp [Ends, text]) (by omega)
  have start : (write width 0 value ++ text "\n").head? ≠ some (codePoint 0xfeff) := by
    rw [first, List.cons_append, List.head?_cons, Ne, Option.some.injEq]
    exact mark
  unfold loadsWith
  rw [if_neg start, skipSpace_written settled, read]
  unfold readBack
  split
  next => rfl
  next => rfl

/-! ## Member by member -/

theorem settledMembers_iff {members : List (Text × Json)} :
    SettledMembers decoder members ↔ ∀ pair ∈ members, Settled decoder pair.2 := by
  induction members with
  | nil => simp [SettledMembers]
  | cons pair members ih => simp [SettledMembers, ih]

theorem nestingMembers_le {members : List (Text × Json)} {n : Nat} :
    nestingMembers members ≤ n ↔ ∀ pair ∈ members, nesting pair.2 ≤ n := by
  induction members with
  | nil => simp [nestingMembers]
  | cons pair members ih => simp [nestingMembers, ih]

theorem sameMembers_iff {floats : FloatEquality} {members others : List (Text × Json)} :
    sameMembers floats members others = true ↔
      ∀ pair ∈ members, ∃ other, Dict.get pair.1 others = some other ∧
        same floats pair.2 other = true := by
  induction members with
  | nil => simp [sameMembers]
  | cons pair members ih =>
    rw [sameMembers, Bool.and_eq_true, ih, List.forall_mem_cons]
    apply and_congr_left
    intro _
    cases Dict.get pair.1 others <;> simp

/-- Equal dictionaries have the same keys. -/
theorem mem_keys_of_same {floats : FloatEquality} {members others : List (Text × Json)}
    (alike : same floats (.object members) (.object others) = true) {key : Text}
    (mem : key ∈ Dict.keys members) : key ∈ Dict.keys others := by
  rw [same, Bool.and_eq_true, sameMembers_iff] at alike
  obtain ⟨pair, among, rfl⟩ := List.mem_map.1 mem
  obtain ⟨other, found, _⟩ := alike.2 pair among
  by_contra absent
  rw [Dict.get_eq_none.2 absent] at found
  cases found

theorem same_strings {floats : FloatEquality} (items : List Text) :
    sameItems floats (items.map .str) (items.map .str) = true := by
  induction items with
  | nil => rfl
  | cons item items ih => simp [sameItems, same, ih]

/-! ## The fuel is enough -/

/-- A reading that leaves less than `n` code points, or fails for a reason of the text. -/
def Consumes {α : Type} (n : Nat) : Except (LoadError ε) (α × Text) → Prop
  | .error (.json error) => error ≠ .outOfFuel
  | .error (.hook _) => True
  | .ok (_, rest) => rest.length < n

theorem Consumes.mono {α : Type} {n m : Nat} {read : Except (LoadError ε) (α × Text)}
    (consumes : Consumes n read) (less : n ≤ m) : Consumes m read := by
  cases read with
  | error error => cases error <;> exact consumes
  | ok found => exact Nat.lt_of_lt_of_le consumes less

theorem Consumes.bind {α β : Type} {n m : Nat} {read : Except (LoadError ε) (α × Text)}
    {next : α × Text → Except (LoadError ε) (β × Text)} (consumes : Consumes n read)
    (later : ∀ value rest, rest.length < n → Consumes m (next (value, rest))) :
    Consumes m (read >>= next) := by
  cases read with
  | error error => cases error <;> exact consumes
  | ok found => exact later found.1 found.2 consumes

theorem Consumes.of_spends {α : Type} {n : Nat} {scan : Except JsonError (α × Text)}
    (spends : Spends n scan) : Consumes n (scan.mapError (LoadError.json (ε := ε))) := by
  cases scan <;> exact spends

theorem closeObject_consumes {n : Nat} (members : List (Text × Json)) {rest : Text}
    (short : rest.length < n) : Consumes n (closeObject decoder members rest) := by
  unfold closeObject
  split
  · trivial
  · exact short

theorem readScalar_consumes (t : Text) : Consumes t.length (readScalar decoder t) := by
  unfold readScalar
  split
  next found scanned => exact scanConstant_length scanned
  next =>
    have spends := scanNumber_spends t
    split
    next error scanned =>
      rw [scanned] at spends
      exact spends
    next lexeme rest scanned =>
      rw [scanned] at spends
      exact spends
    next found _ scanned =>
      rw [scanned] at spends
      exact spends

theorem read_consumes (fuel : Nat) :
    (∀ depth t, 2 * t.length + 1 ≤ fuel → Consumes t.length (readValue decoder fuel depth t)) ∧
    (∀ depth t, 2 * t.length + 2 ≤ fuel → Consumes t.length (readItems decoder fuel depth t)) ∧
    (∀ depth t, 2 * t.length + 2 ≤ fuel → Consumes t.length (readMembers decoder fuel depth t)) := by
  induction fuel with
  | zero => exact ⟨fun _ _ low => by omega, fun _ _ low => by omega, fun _ _ low => by omega⟩
  | succ fuel ih =>
    obtain ⟨values, items, members⟩ := ih
    constructor
    · intro depth t enough
      cases t with
      | nil => simp [readValue, Consumes]
      | cons c t =>
        rw [List.length_cons] at enough ⊢
        rw [readValue]
        have shorter := skipSpace_length t
        split
        next =>
          apply (Consumes.of_spends (scanString_spends t)).bind
          intro value rest short
          exact Nat.lt_succ_of_lt short
        split
        next =>
          split
          next => simp [Consumes]
          split
          next => simp [Consumes]
          next d rest left =>
            rw [left, List.length_cons] at shorter
            split
            next => exact closeObject_consumes _ (by omega)
            next =>
              have inner := members (depth - 1) (d :: rest) (by simp only [List.length_cons]; omega)
              apply inner.bind
              intro found after short
              rw [List.length_cons] at short
              exact closeObject_consumes _ (by omega)
        split
        next =>
          split
          next => simp [Consumes]
          split
          next => simp [Consumes]
          next d rest left =>
            rw [left, List.length_cons] at shorter
            split
            next =>
              simp only [Consumes]
              omega
            next =>
              have inner := items (depth - 1) (d :: rest) (by simp only [List.length_cons]; omega)
              apply inner.bind
              intro found after short
              rw [List.length_cons] at short
              simp only [Consumes]
              omega
        next => exact (readScalar_consumes (c :: t)).mono (by simp)
    · constructor
      · intro depth t enough
        rw [readItems]
        apply (values depth t (by omega)).bind
        intro value rest short
        have shorter := skipSpace_length rest
        dsimp only
        split
        next => simp [Consumes]
        next c after left =>
          rw [left, List.length_cons] at shorter
          split
          next =>
            simp only [Consumes, pure, Except.pure]
            omega
          split
          next =>
            have shorter' := skipSpace_length after
            apply (items depth (skipSpace after) (by omega)).bind
            intro found last short'
            simp only [Consumes, pure, Except.pure]
            omega
          next => simp [Consumes]
      · intro depth t enough
        cases t with
        | nil => simp [readMembers, Consumes]
        | cons quote t =>
          rw [List.length_cons] at enough ⊢
          rw [readMembers]
          split
          next => simp [Consumes]
          apply (Consumes.of_spends (scanString_spends t)).bind
          intro key rest short
          have shorter := skipSpace_length rest
          dsimp only
          split
          next => simp [Consumes]
          next colon after left =>
            rw [left, List.length_cons] at shorter
            split
            next => simp [Consumes]
            have shorter' := skipSpace_length after
            apply (values depth (skipSpace after) (by omega)).bind
            intro value beyond short'
            have shorter'' := skipSpace_length beyond
            dsimp only
            split
            next => simp [Consumes]
            next c last left' =>
              rw [left', List.length_cons] at shorter''
              split
              next =>
                simp only [Consumes, pure, Except.pure]
                omega
              split
              next =>
                have shortest := skipSpace_length last
                apply (members depth (skipSpace last) (by omega)).bind
                intro found left short
                simp only [Consumes, pure, Except.pure]
                omega
              next => simp [Consumes]

/-- Reading a text never ends for want of fuel. -/
theorem loadsWith_enough (t : Text) : loadsWith decoder t ≠ .error (.json .outOfFuel) := by
  have shorter := skipSpace_length t
  have consumes := (@read_consumes _ decoder (2 * t.length + 2)).1 decoder.depth (skipSpace t)
    (by omega)
  unfold loadsWith
  split
  next => simp
  cases read : readValue decoder (2 * t.length + 2) decoder.depth (skipSpace t) with
  | error error =>
    rw [read] at consumes
    simp only [bind, Except.bind]
    intro same
    rw [Except.error.inj same] at consumes
    exact consumes rfl
  | ok found =>
    simp only [bind, Except.bind, pure, Except.pure]
    split <;> simp

/-! ## Blank texts -/

theorem readScalar_visible {c : CodePoint} {t : Text} {found : Json × Text}
    (read : readScalar decoder (c :: t) = .ok found) : isSpace c = false := by
  by_contra blank
  rw [Bool.not_eq_false] at blank
  have apart : ∀ d : CodePoint, isSpace d = false → d ≠ c := by
    rintro d visible rfl
    rw [blank] at visible
    cases visible
  have name : scanConstant (c :: t) = none := by
    unfold scanConstant
    rw [Option.map_eq_none_iff, List.find?_eq_none]
    intro entry mem
    rw [Bool.not_eq_true]
    simp only [constants, List.mem_cons, List.not_mem_nil, or_false] at mem
    rcases mem with rfl | rfl | rfl | rfl | rfl | rfl <;> exact prefix_apart (apart _ (by decide)) _ _
  have digit : isDigit c = false := by
    by_contra digit
    simp only [isDigit, isSpace, Bool.not_eq_false, Bool.and_eq_true, Bool.or_eq_true,
      decide_eq_true_eq] at digit blank
    omega
  have minus : c ≠ cp '-' := (apart _ (by decide)).symm
  have zero : c ≠ cp '0' := (apart _ (by decide)).symm
  have number : scanNumber (c :: t) = .error .decode := by
    unfold scanNumber
    simp only [List.head?_cons, Option.some.injEq, minus, if_false, List.take_zero, List.length_nil,
      List.drop_zero, zero, List.takeWhile_cons, digit, Bool.false_eq_true, if_true]
  unfold readScalar at read
  rw [name] at read
  dsimp only at read
  rw [number] at read
  cases read

theorem readValue_visible {fuel depth : Nat} {c : CodePoint} {t : Text} {found : Json × Text}
    (read : readValue decoder fuel depth (c :: t) = .ok found) : isSpace c = false := by
  cases fuel with
  | zero => cases read
  | succ fuel =>
    rw [readValue] at read
    split at read
    next quote =>
      rw [quote]
      decide
    split at read
    next brace =>
      rw [brace]
      decide
    split at read
    next bracket =>
      rw [bracket]
      decide
    next => exact readScalar_visible read

/-- What is read has something to be seen. -/
theorem strip_of_loads {t : Text} {value : Json} (loaded : loadsWith decoder t = .ok value) :
    strip t ≠ [] := by
  unfold loadsWith at loaded
  split at loaded
  next => cases loaded
  obtain ⟨found, read, _⟩ := ok_of_bind loaded
  cases first : skipSpace t with
  | nil =>
    rw [first] at read
    cases read
  | cons c rest =>
    rw [first] at read
    have mem : c ∈ t := by
      apply (List.dropWhile_suffix isJsonSpace).subset
      unfold skipSpace at first
      rw [first]
      exact List.mem_cons_self
    exact strip_ne_nil mem (readValue_visible read)

end Json

end EvoBlue.Kernel
