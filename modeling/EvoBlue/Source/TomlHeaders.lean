import EvoBlue.Source.MergeToml

/-!
# Headers that the scanner reads

A header of bare keys, and of quoted keys that hold no escape and have the next dot or
the bracket directly behind them, is read by the scanner as TOML reads it, whatever
comment stands on its line.
-/

namespace EvoBlue.Source.MergeToml

open EvoBlue.Kernel

/-- A key of a header, spelled without escapes. -/
inductive PlainKey where
  | bare (name : Text)
  | quoted (quote : CodePoint) (name : Text)

namespace PlainKey

def name : PlainKey → Text
  | bare name => name
  | quoted _ name => name

def spelled : PlainKey → Text
  | bare name => name
  | quoted quote name => quote :: (name ++ [quote])

end PlainKey

/-- A character of a bare key. -/
def isBare (c : CodePoint) : Bool :=
  isAscii c && (isDigit c || isAlpha c || c = cp '_' || c = cp '-')

/-- The key is one that TOML has: a quoted key does not hold its quotation mark. -/
def PlainKey.Formed : PlainKey → Prop
  | .bare name => name ≠ [] ∧ ∀ c ∈ name, isBare c = true
  | .quoted quote name => (quote = quoteMark ∨ quote = apostrophe) ∧
    ∀ c ∈ name, c ≠ quote ∧ (quote = quoteMark → c ≠ cp '\\') ∧ isLineEnd c = false

instance : (key : PlainKey) → Decidable key.Formed
  | .bare name => @instDecidableAnd _ _ inferInstance (List.decidableBAll _ name)
  | .quoted _ name => @instDecidableAnd _ _ inferInstance (List.decidableBAll _ name)

/-- The keys with dots between them. -/
def spelledPath : List PlainKey → Text
  | [] => []
  | [key] => key.spelled
  | key :: keys => key.spelled ++ cp '.' :: spelledPath keys

/-- The header of a table, or of an array of tables, with blanks and a comment behind it. -/
def headerText (array : Bool) (keys : List PlainKey) (trail : Text) : Text :=
  if array then cp '[' :: cp '[' :: (spelledPath keys ++ cp ']' :: cp ']' :: trail)
  else cp '[' :: (spelledPath keys ++ cp ']' :: trail)

/-- Blanks, then nothing or a comment. -/
def Trail (trail : Text) : Prop :=
  ∀ c ∈ trail.takeWhile fun c => c ≠ cp '#', c = cp ' ' ∨ c = cp '\t'

instance (trail : Text) : Decidable (Trail trail) := List.decidableBAll _ _

variable {env : TomlEnv} {line : Text}

/-! ## The path -/

theorem isBare_ne {c d : CodePoint} (bare : isBare c = true) (other : isBare d = false) : c ≠ d := by
  rintro rfl
  rw [bare] at other
  cases other

theorem isBare_space {c : CodePoint} (bare : isBare c = true) : isSpace c = false := by
  have underscore : (cp '_').val = 0x5f := rfl
  have hyphen : (cp '-').val = 0x2d := rfl
  simp only [isBare, isAscii, isDigit, isAlpha, isUpper, Bool.and_eq_true, Bool.or_eq_true,
    decide_eq_true_eq, Fin.ext_iff, underscore, hyphen] at bare
  simp only [isSpace, Bool.or_eq_false_iff, Bool.and_eq_false_iff, decide_eq_false_iff_not]
  omega

theorem isBare_segment {c : CodePoint} (bare : isBare c = true) :
    (isAlnum env c || c = cp '_' || c = cp '-') = true := by
  unfold isBare at bare
  unfold isAlnum
  rw [Bool.and_eq_true] at bare
  rw [if_pos bare.1]
  exact bare.2

/-- What separates keys, and what ends one. -/
theorem not_segment {c : CodePoint} (other : c = cp '.' ∨ c = quoteMark ∨ c = apostrophe) :
    (isAlnum env c || c = cp '_' || c = cp '-') = false := by
  rcases other with rfl | rfl | rfl <;> rfl

/-- A separator is a dot or a blank. -/
abbrev separates (c : CodePoint) : Bool := c = cp '.' || isSpace c

/-- The rest of a path behind a key. -/
def pathTail : List PlainKey → Text
  | [] => []
  | key :: keys => cp '.' :: spelledPath (key :: keys)

theorem spelledPath_cons (key : PlainKey) (keys : List PlainKey) :
    spelledPath (key :: keys) = key.spelled ++ pathTail keys := by
  cases keys with
  | nil => exact (List.append_nil _).symm
  | cons other keys => rfl

/-- A key begins and ends with something visible. -/
theorem PlainKey.Formed.spelled_ends {key : PlainKey} (formed : key.Formed) :
    (∃ first rest, key.spelled = first :: rest ∧ separates first = false ∧ first ≠ cp '[') ∧
    ∃ front last, key.spelled = front ++ [last] ∧ isSpace last = false := by
  cases key with
  | bare name =>
    obtain ⟨some, bare⟩ := formed
    constructor
    · obtain ⟨first, rest, rfl⟩ := List.exists_cons_of_ne_nil some
      have visible := bare first List.mem_cons_self
      refine ⟨first, rest, rfl, ?_, isBare_ne visible (by decide)⟩
      rw [separates, isBare_space visible, Bool.or_false]
      exact decide_eq_false (isBare_ne visible (by decide))
    · refine ⟨name.dropLast, name.getLast some, (List.dropLast_concat_getLast some).symm, ?_⟩
      exact isBare_space (bare _ (List.getLast_mem some))
  | quoted quote name =>
    rcases formed.1 with rfl | rfl
    · exact ⟨⟨quoteMark, _, rfl, by decide, by decide⟩, quoteMark :: name, quoteMark, rfl, by decide⟩
    · exact ⟨⟨apostrophe, _, rfl, by decide, by decide⟩, apostrophe :: name, apostrophe, rfl, by decide⟩

theorem takeWhile_bare {name : Text} (bare : ∀ c ∈ name, isBare c = true) (keys : List PlainKey) :
    (name ++ pathTail keys).takeWhile (fun c => isAlnum env c || c = cp '_' || c = cp '-') = name ∧
    (name ++ pathTail keys).dropWhile (fun c => isAlnum env c || c = cp '_' || c = cp '-') =
      pathTail keys := by
  have all : ∀ c ∈ name, (isAlnum env c || c = cp '_' || c = cp '-') = true :=
    fun c mem => isBare_segment (bare c mem)
  rw [List.takeWhile_append_of_pos all, List.dropWhile_append_of_pos all]
  cases keys with
  | nil => simp [pathTail]
  | cons key keys =>
    have dot := @not_segment env (cp '.') (.inl rfl)
    rw [pathTail, List.takeWhile_cons, List.dropWhile_cons, dot]
    simp

theorem pathTail_separated {keys : List PlainKey} (formed : ∀ key ∈ keys, key.Formed) :
    (pathTail keys).dropWhile separates = spelledPath keys := by
  cases keys with
  | nil => rfl
  | cons key keys =>
    obtain ⟨⟨first, rest, spelled, visible, _⟩, _⟩ := (formed key List.mem_cons_self).spelled_ends
    rw [pathTail, List.dropWhile_cons_of_pos (by decide), spelledPath_cons, spelled,
      List.cons_append, List.dropWhile_cons_of_neg (by rw [visible]; decide)]

/-- The loop reads the keys that are left, by induction on them. -/
theorem keySegments_path {keys : List PlainKey} (formed : ∀ key ∈ keys, key.Formed)
    {segments : List Text} (some : segments ++ keys.map PlainKey.name ≠ []) {fuel : Nat}
    (enough : keys.length < fuel) {rest : Text} (at_ : rest.dropWhile separates = spelledPath keys) :
    keySegments env fuel segments rest = Option.some (segments ++ keys.map PlainKey.name) := by
  induction keys generalizing segments fuel rest with
  | nil =>
    obtain ⟨fuel, rfl⟩ := Nat.exists_eq_succ_of_ne_zero (Nat.pos_iff_ne_zero.1 enough)
    rw [List.map_nil, List.append_nil] at some ⊢
    rw [keySegments, at_, spelledPath]
    exact if_neg some
  | cons key keys ih =>
    obtain ⟨fuel, rfl⟩ := Nat.exists_eq_succ_of_ne_zero (Nat.ne_zero_of_lt enough)
    have later : ∀ key ∈ keys, key.Formed := fun other mem => formed other (List.mem_cons_of_mem _ mem)
    have next (name : Text) (same : key.name = name) :
        keySegments env fuel (segments ++ [name]) (pathTail keys) =
          Option.some (segments ++ (key :: keys).map PlainKey.name) := by
      have found : keySegments env fuel (segments ++ [name]) (pathTail keys) =
          Option.some (segments ++ [name] ++ keys.map PlainKey.name) :=
        ih later (by simp) (Nat.lt_of_succ_lt_succ enough) (pathTail_separated later)
      rw [found, List.map_cons, same, List.append_assoc, List.singleton_append]
    have here := formed key List.mem_cons_self
    rw [keySegments, at_, spelledPath_cons]
    cases key with
    | bare name =>
      obtain ⟨nonempty, bare⟩ := here
      obtain ⟨first, tail, rfl⟩ := List.exists_cons_of_ne_nil nonempty
      have visible := bare first List.mem_cons_self
      have plain : ¬ (first = quoteMark ∨ first = apostrophe) := by
        rintro (rfl | rfl)
        · exact isBare_ne visible (by decide) rfl
        · exact isBare_ne visible (by decide) rfl
      have segment := @isBare_segment env first visible
      obtain ⟨taken, dropped⟩ := @takeWhile_bare env _ bare keys
      simp only [PlainKey.spelled, List.cons_append] at taken dropped ⊢
      simp only [if_neg plain, segment, Bool.true_eq_false, if_false, taken, dropped]
      exact next _ rfl
    | quoted quote name =>
      obtain ⟨mark, clean⟩ := here
      have absent : quote ∉ name := fun mem => (clean quote mem).1 rfl
      have broken : breakOn [quote] (name ++ [quote] ++ pathTail keys) =
          Option.some (name, pathTail keys) := breakOn_append absent
      have dot : ¬ (pathTail keys ≠ [] ∧ (pathTail keys).head? ≠ Option.some (cp '.')) := by
        cases keys with
        | nil => exact fun ends => ends.1 rfl
        | cons other keys => exact fun ends => ends.2 rfl
      simp only [PlainKey.spelled, List.cons_append]
      rw [if_pos mark, broken]
      simp only [if_neg dot]
      exact next _ rfl

theorem spelledPath_ends {keys : List PlainKey} (some : keys ≠ []) (formed : ∀ key ∈ keys, key.Formed) :
    (∃ first rest, spelledPath keys = first :: rest ∧ separates first = false ∧ first ≠ cp '[') ∧
    ∃ front last, spelledPath keys = front ++ [last] ∧ isSpace last = false := by
  induction keys with
  | nil => exact absurd rfl some
  | cons key keys ih =>
    obtain ⟨⟨first, rest, spelled, visible⟩, front, last, ends, shown⟩ :=
      (formed key List.mem_cons_self).spelled_ends
    rw [spelledPath_cons]
    constructor
    · exact ⟨first, rest ++ pathTail keys, by rw [spelled]; rfl, visible⟩
    · cases keys with
      | nil => exact ⟨front, last, by rw [pathTail, List.append_nil, ends], shown⟩
      | cons other keys =>
        obtain ⟨_, front, last, ends, shown⟩ := ih (List.cons_ne_nil _ _)
          fun key mem => formed key (List.mem_cons_of_mem _ mem)
        refine ⟨key.spelled ++ cp '.' :: front, last, ?_, shown⟩
        rw [pathTail, ends]
        simp

theorem keys_length {keys : List PlainKey} (formed : ∀ key ∈ keys, key.Formed) :
    keys.length ≤ (spelledPath keys).length := by
  induction keys with
  | nil => exact Nat.le_refl _
  | cons key keys ih =>
    obtain ⟨⟨first, rest, spelled, _⟩, _⟩ := (formed key List.mem_cons_self).spelled_ends
    have later := ih fun other mem => formed other (List.mem_cons_of_mem _ mem)
    rw [spelledPath_cons, spelled]
    cases keys with
    | nil => simp
    | cons other keys =>
      simp only [pathTail, List.length_append, List.length_cons] at later ⊢
      omega

/-- `_parse_key_path` reads the keys by their names. -/
theorem parseKeyPath_plain (array : Bool) {keys : List PlainKey} (some : keys ≠ [])
    (formed : ∀ key ∈ keys, key.Formed) :
    parseKeyPath env (if array then cp '[' :: (spelledPath keys ++ [cp ']']) else spelledPath keys) =
      Option.some (keys.map PlainKey.name) := by
  obtain ⟨⟨first, rest, starts, visible, other⟩, front, last, ends, shown⟩ :=
    spelledPath_ends some formed
  have stripped : strip (spelledPath keys) = spelledPath keys := by
    apply strip_eq_self
    · intro c mem
      rw [starts] at mem
      obtain rfl := Option.some.inj mem
      exact (Bool.or_eq_false_iff.1 visible).2
    · intro c mem
      rw [ends, List.getLast?_concat] at mem
      obtain rfl := Option.some.inj mem
      exact shown
  have read : keySegments env ((spelledPath keys).length + 1) [] (spelledPath keys) =
      Option.some (keys.map PlainKey.name) := by
    apply keySegments_path formed (by simpa using some) (Nat.lt_succ_of_le (keys_length formed))
    rw [starts, List.dropWhile_cons_of_neg (by rw [visible]; decide)]
  cases array with
  | false =>
    have single : ¬ ((spelledPath keys).head? = Option.some (cp '[') ∧
        (spelledPath keys).getLast? = Option.some (cp ']')) := by
      rintro ⟨opening, _⟩
      rw [starts] at opening
      exact other (Option.some.inj opening)
    unfold parseKeyPath
    simp only [Bool.false_eq_true, if_false]
    rw [stripped]
    simp only [if_neg single]
    exact read
  | true =>
    have whole : strip (cp '[' :: (spelledPath keys ++ [cp ']'])) =
        cp '[' :: (spelledPath keys ++ [cp ']']) := by
      apply strip_eq_self
      · intro c mem
        obtain rfl := Option.some.inj mem
        decide
      · intro c mem
        rw [← List.cons_append, List.getLast?_concat] at mem
        obtain rfl := Option.some.inj mem
        decide
    have double : (cp '[' :: (spelledPath keys ++ [cp ']'])).head? = Option.some (cp '[') ∧
        (cp '[' :: (spelledPath keys ++ [cp ']'])).getLast? = Option.some (cp ']') :=
      ⟨rfl, by rw [← List.cons_append, List.getLast?_concat]⟩
    unfold parseKeyPath
    simp only [if_true]
    rw [whole]
    simp only [if_pos double, List.drop_one, List.tail_cons, List.dropLast_concat]
    rw [stripped]
    exact read

/-- The keys stand on one line. -/
theorem spelledPath_single {keys : List PlainKey} (formed : ∀ key ∈ keys, key.Formed) :
    ∀ c ∈ spelledPath keys, isLineEnd c = false := by
  have spelled : ∀ key ∈ keys, ∀ c ∈ key.spelled, isLineEnd c = false := by
    intro key mem c among
    have here := formed key mem
    cases key with
    | bare name =>
      have visible := isBare_space (here.2 c among)
      simp only [isSpace, isLineEnd, Bool.or_eq_false_iff, Bool.and_eq_false_iff,
        decide_eq_false_iff_not] at visible ⊢
      omega
    | quoted quote name =>
      have mark : isLineEnd quote = false := by
        rcases here.1 with rfl | rfl <;> decide
      simp only [PlainKey.spelled, List.mem_cons, List.mem_append, List.not_mem_nil, or_false] at among
      rcases among with rfl | inside | rfl
      · exact mark
      · exact (here.2 c inside).2.2
      · exact mark
  clear formed
  induction keys with
  | nil =>
    intro c absent
    cases absent
  | cons key keys ih =>
    have later := ih fun other mem => spelled other (List.mem_cons_of_mem _ mem)
    intro c mem
    rw [spelledPath_cons] at mem
    rcases List.mem_append.1 mem with here | behind
    · exact spelled key List.mem_cons_self c here
    · cases keys with
      | nil => cases behind
      | cons other keys =>
        rcases List.mem_cons.1 behind with rfl | inside
        · decide
        · exact later c inside

/-! ## The loop -/

/-- What follows does not begin with a quotation mark. -/
def Unquoted (rest : Text) : Prop :=
  rest.head? ≠ some quoteMark ∧ rest.head? ≠ some apostrophe

/-- The loop takes the token without opening or closing anything, if what follows is such. -/
def Skips (env : TomlEnv) (follows : Text → Prop) (token : Text) : Prop :=
  ∀ line state candidateStart i rest fuel, line.drop i = token ++ rest → follows rest →
    (token ++ rest).length < fuel → ∃ less, rest.length < less ∧
      scanLoop env line fuel i state true candidateStart none =
        scanLoop env line less (i + token.length) state true candidateStart none

theorem Skips.append {follows after : Text → Prop} {front back : Text}
    (skips : Skips env follows front) (later : Skips env after back)
    (apart : ∀ rest, after rest → follows (back ++ rest)) : Skips env after (front ++ back) := by
  intro line state candidateStart i rest fuel at_ goes enough
  rw [List.append_assoc] at at_ enough
  obtain ⟨less, more, first⟩ := skips line state candidateStart i _ fuel at_ (apart rest goes) enough
  have next : line.drop (i + front.length) = back ++ rest := by
    rw [← List.drop_drop, at_, List.drop_left]
  obtain ⟨last, still, second⟩ :=
    later line state candidateStart (i + front.length) rest less next goes more
  refine ⟨last, still, ?_⟩
  rw [first, second, List.length_append, Nat.add_assoc]

/-- No string of several lines begins with another character. -/
theorem no_triple {c : CodePoint} {rest : Text} (visible : c ≠ quoteMark ∧ c ≠ apostrophe) :
    ¬ (List.replicate 3 quoteMark <+: c :: rest ∨ List.replicate 3 apostrophe <+: c :: rest) := by
  rintro (double | single)
  · exact visible.1 (List.cons_prefix_cons.1 double).1.symm
  · exact visible.2 (List.cons_prefix_cons.1 single).1.symm

/-- A character that is no mark. -/
structure Unmarked (c : CodePoint) : Prop where
  quotes : c ≠ quoteMark ∧ c ≠ apostrophe
  comment : c ≠ cp '#'
  opening : c ≠ cp '['
  closing : c ≠ cp ']'

theorem scanLoop_unmarked {i fuel : Nat} {c : CodePoint} {rest : Text} {state : ScanState}
    {seen : Bool} {candidateStart : Option Nat} {candidate : Option (List Text)}
    (unmarked : Unmarked c) (at_ : line.drop i = c :: rest)
    (stays : candidate = none ∨ isSpace c = true) :
    scanLoop env line (fuel + 1) i state seen candidateStart candidate =
      scanLoop env line fuel (i + 1) state (seen || !isSpace c) candidateStart candidate := by
  have quotes : ¬ (c = quoteMark ∨ c = apostrophe) := not_or.2 unmarked.quotes
  have kept : ¬ (candidate.isSome = true ∧ isSpace c = false) := by
    rintro ⟨held, visible⟩
    rcases stays with rfl | space
    · cases held
    · rw [space] at visible
      cases visible
  rw [scanLoop, at_]
  dsimp only
  rw [if_neg (no_triple unmarked.quotes), if_neg quotes, if_neg unmarked.comment,
    if_neg unmarked.opening, if_neg unmarked.closing, if_neg kept]

theorem skips_unmarked {c : CodePoint} (unmarked : Unmarked c) :
    Skips env (fun _ => True) [c] := by
  intro line state candidateStart i rest fuel at_ _ enough
  rw [List.singleton_append, List.length_cons] at enough
  obtain ⟨less, rfl⟩ := Nat.exists_eq_succ_of_ne_zero (Nat.ne_zero_of_lt enough)
  exact ⟨less, Nat.lt_of_succ_lt_succ enough, scanLoop_unmarked unmarked at_ (.inl rfl)⟩

theorem skips_nil {follows : Text → Prop} : Skips env follows [] := by
  intro line state candidateStart i rest fuel _ _ enough
  exact ⟨fuel, enough, rfl⟩

theorem unmarked_bare {c : CodePoint} (bare : isBare c = true) : Unmarked c where
  quotes := ⟨isBare_ne bare (by decide), isBare_ne bare (by decide)⟩
  comment := isBare_ne bare (by decide)
  opening := isBare_ne bare (by decide)
  closing := isBare_ne bare (by decide)

theorem skips_bare {name : Text} (bare : ∀ c ∈ name, isBare c = true) :
    Skips env (fun _ => True) name := by
  induction name with
  | nil => exact skips_nil
  | cons c name ih =>
    have later : ∀ d ∈ name, isBare d = true := fun d mem => bare d (List.mem_cons_of_mem _ mem)
    have first : Skips env (fun _ => True) [c] :=
      skips_unmarked (unmarked_bare (bare c List.mem_cons_self))
    exact first.append (ih later) fun _ _ => trivial

/-- A string without escapes ends at its quotation mark. -/
theorem stringSpan_plain {quote : CodePoint} {name : Text}
    (clean : ∀ c ∈ name, c ≠ quote ∧ (quote = quoteMark → c ≠ cp '\\'))
    (mark : quote = quoteMark ∨ quote = apostrophe) (rest : Text) :
    stringSpan quote (name ++ quote :: rest) = name.length + 1 := by
  induction name with
  | nil =>
    have visible : ¬ (quote = quoteMark ∧ quote = cp '\\') := by
      rintro ⟨rfl, escape⟩
      exact absurd escape (by decide)
    cases rest with
    | nil => rfl
    | cons d rest =>
      rw [List.nil_append, stringSpan, if_neg visible, if_pos rfl]
      rfl
  | cons c name ih =>
    obtain ⟨other, visible⟩ := clean c List.mem_cons_self
    have inner := ih fun d mem => clean d (List.mem_cons_of_mem _ mem)
    obtain ⟨d, more, same⟩ : ∃ d more, name ++ quote :: rest = d :: more := by
      cases name with
      | nil => exact ⟨quote, rest, rfl⟩
      | cons d name => exact ⟨d, _, rfl⟩
    rw [same] at inner
    rw [List.cons_append, same, stringSpan, if_neg (fun escape => visible escape.1 escape.2),
      if_neg other, inner, List.length_cons]
    omega

theorem skips_quoted {quote : CodePoint} {name : Text} (mark : quote = quoteMark ∨ quote = apostrophe)
    (clean : ∀ c ∈ name, c ≠ quote ∧ (quote = quoteMark → c ≠ cp '\\')) :
    Skips env Unquoted (quote :: (name ++ [quote])) := by
  intro line state candidateStart i rest fuel at_ unquoted enough
  obtain ⟨less, rfl⟩ := Nat.exists_eq_succ_of_ne_zero (Nat.ne_zero_of_lt enough)
  have whole : quote :: (name ++ [quote]) ++ rest = quote :: (name ++ quote :: rest) := by simp
  rw [whole] at at_ enough
  -- After two quotation marks of an empty key there is no third.
  have single : ¬ (List.replicate 3 quoteMark <+: quote :: (name ++ quote :: rest) ∨
      List.replicate 3 apostrophe <+: quote :: (name ++ quote :: rest)) := by
    have third {other : CodePoint} (triple : List.replicate 3 other <+: quote :: (name ++ quote :: rest)) :
        rest.head? = some other := by
      obtain ⟨rfl, pair⟩ := List.cons_prefix_cons.1 triple
      cases name with
      | nil =>
        obtain ⟨_, last⟩ := List.cons_prefix_cons.1 pair
        cases rest with
        | nil => simp at last
        | cons d rest =>
          obtain ⟨rfl, _⟩ := List.cons_prefix_cons.1 last
          rfl
      | cons c name =>
        obtain ⟨rfl, _⟩ := List.cons_prefix_cons.1 pair
        exact absurd rfl (clean _ List.mem_cons_self).1
    rintro (double | single)
    · exact unquoted.1 (third double)
    · exact unquoted.2 (third single)
  have ends : stringEnd line i = i + (quote :: (name ++ [quote])).length := by
    unfold stringEnd
    rw [at_]
    dsimp only
    rw [stringSpan_plain clean mark]
    simp only [List.length_cons, List.length_append, List.length_nil]
    omega
  refine ⟨less, ?_, ?_⟩
  · simp only [List.length_cons, List.length_append] at enough
    omega
  · rw [scanLoop, at_]
    dsimp only
    rw [if_neg single, if_pos mark, ends]

theorem skips_key {key : PlainKey} (formed : key.Formed) : Skips env Unquoted key.spelled := by
  cases key with
  | bare name =>
    intro line state candidateStart i rest fuel at_ _ enough
    exact skips_bare formed.2 line state candidateStart i rest fuel at_ trivial enough
  | quoted quote name =>
    exact skips_quoted formed.1 fun c mem => ⟨(formed.2 c mem).1, (formed.2 c mem).2.1⟩

theorem skips_path {keys : List PlainKey} (formed : ∀ key ∈ keys, key.Formed) :
    Skips env Unquoted (spelledPath keys) := by
  induction keys with
  | nil => exact skips_nil
  | cons key keys ih =>
    have here : Skips env Unquoted key.spelled := skips_key (formed key List.mem_cons_self)
    cases keys with
    | nil => exact here
    | cons other keys =>
      have dot : Skips env (fun _ => True) [cp '.'] :=
        skips_unmarked ⟨by decide, by decide, by decide, by decide⟩
      have later := ih fun other mem => formed other (List.mem_cons_of_mem _ mem)
      apply here.append (dot.append later fun _ _ => trivial)
      intro rest _
      exact ⟨fun same => absurd (Option.some.inj same) (by decide),
        fun same => absurd (Option.some.inj same) (by decide)⟩

/-! ## The header -/

theorem scanLoop_opening {i fuel depth : Nat} {rest : Text} {seen : Bool} {candidateStart : Option Nat}
    (at_ : line.drop i = cp '[' :: rest) :
    scanLoop env line (fuel + 1) i ⟨depth, none⟩ seen candidateStart none =
      scanLoop env line fuel (i + 1) ⟨depth + 1, none⟩ true
        (if depth = 0 ∧ seen = false ∧ candidateStart = none then some (i + 1) else candidateStart)
        none := by
  rw [scanLoop, at_]
  dsimp only
  rw [if_neg (no_triple ⟨by decide, by decide⟩), if_neg (by decide), if_neg (by decide), if_pos rfl]

/-- The bracket that closes a header: what stands before it is parsed. -/
theorem scanLoop_closing {i fuel depth start : Nat} {rest : Text} {path : List Text}
    (at_ : line.drop i = cp ']' :: rest)
    (read : depth = 0 → parseKeyPath env ((line.take i).drop start) = some path) :
    scanLoop env line (fuel + 1) i ⟨depth + 1, none⟩ true (some start) none =
      scanLoop env line fuel (i + 1) ⟨depth, none⟩ true (some start)
        (if depth = 0 then some path else none) := by
  rw [scanLoop, at_]
  dsimp only
  rw [if_neg (no_triple ⟨by decide, by decide⟩), if_neg (by decide), if_neg (by decide),
    if_neg (by decide), if_pos rfl, Nat.add_sub_cancel]
  split
  next last => rw [read last]
  next => rfl

/-- Behind the header there are blanks, and a comment at most. -/
theorem scanLoop_trail {i fuel : Nat} {trail : Text} {candidateStart : Option Nat}
    {path : List Text} (at_ : line.drop i = trail) (blank : Trail trail) (enough : trail.length < fuel) :
    scanLoop env line fuel i {} true candidateStart (some path) = (some path, {}) := by
  induction trail generalizing i fuel with
  | nil =>
    obtain ⟨less, rfl⟩ := Nat.exists_eq_succ_of_ne_zero (Nat.ne_zero_of_lt enough)
    rw [scanLoop, at_]
    rfl
  | cons c trail ih =>
    obtain ⟨less, rfl⟩ := Nat.exists_eq_succ_of_ne_zero (Nat.ne_zero_of_lt enough)
    by_cases comment : c = cp '#'
    · rw [scanLoop, at_, comment]
      dsimp only
      rw [if_neg (no_triple ⟨by decide, by decide⟩), if_neg (by decide), if_pos rfl]
      rfl
    · have first : c = cp ' ' ∨ c = cp '\t' := by
        apply blank
        rw [List.takeWhile_cons_of_pos (by simpa using comment)]
        exact List.mem_cons_self
      have later : Trail trail := by
        intro d mem
        apply blank
        rw [List.takeWhile_cons_of_pos (by simpa using comment)]
        exact List.mem_cons_of_mem _ mem
      have unmarked : Unmarked c := by
        rcases first with rfl | rfl <;> exact ⟨by decide, by decide, by decide, by decide⟩
      have space : isSpace c = true := by
        rcases first with rfl | rfl <;> rfl
      have next : line.drop (i + 1) = trail := by
        rw [← List.drop_drop, at_]
        rfl
      rw [scanLoop_unmarked unmarked at_ (.inr space), Bool.true_or]
      exact ih next later (Nat.lt_of_succ_lt_succ enough)

/-- The scanner reads the header, and is where it was. -/
theorem scanLine_header (array : Bool) {keys : List PlainKey} (some : keys ≠ [])
    (formed : ∀ key ∈ keys, key.Formed) {trail : Text} (blank : Trail trail) :
    scanLine env (headerText array keys trail) {} = (Option.some (keys.map PlainKey.name), {}) := by
  have parsed := @parseKeyPath_plain env array keys some formed
  have skips := @skips_path env keys formed
  have closes : Unquoted (cp ']' :: trail) :=
    ⟨fun same => absurd (Option.some.inj same) (by decide),
      fun same => absurd (Option.some.inj same) (by decide)⟩
  unfold scanLine
  dsimp only
  generalize whole : headerText array keys trail = line
  cases array with
  | false =>
    replace whole : cp '[' :: (spelledPath keys ++ cp ']' :: trail) = line := whole
    have start : line.drop 0 = cp '[' :: (spelledPath keys ++ cp ']' :: trail) := whole.symm
    have inside : line.drop 1 = spelledPath keys ++ cp ']' :: trail := by
      rw [← whole]
      rfl
    have behind : line.drop (1 + (spelledPath keys).length) = cp ']' :: trail := by
      rw [← List.drop_drop, inside, List.drop_left]
    have between : (line.take (1 + (spelledPath keys).length)).drop 1 = spelledPath keys := by
      rw [List.drop_take, Nat.add_sub_cancel_left, inside, List.take_left]
    obtain ⟨less, enough, skipped⟩ := skips line ⟨1, none⟩ (Option.some 1) 1 _ line.length inside
      closes (by rw [← inside, ← whole]; simp)
    obtain ⟨last, rfl⟩ := Nat.exists_eq_succ_of_ne_zero (Nat.ne_zero_of_lt enough)
    rw [scanLoop_opening start, if_pos ⟨rfl, rfl, rfl⟩, skipped,
      scanLoop_closing behind fun _ => between ▸ parsed, if_pos rfl]
    apply scanLoop_trail ?_ blank (Nat.lt_of_succ_lt_succ enough)
    rw [← List.drop_drop, behind]
    rfl
  | true =>
    replace whole : cp '[' :: cp '[' :: (spelledPath keys ++ cp ']' :: cp ']' :: trail) = line := whole
    have start : line.drop 0 = cp '[' :: cp '[' :: (spelledPath keys ++ cp ']' :: cp ']' :: trail) :=
      whole.symm
    have second : line.drop 1 = cp '[' :: (spelledPath keys ++ cp ']' :: cp ']' :: trail) := by
      rw [← whole]
      rfl
    have inside : line.drop 2 = spelledPath keys ++ cp ']' :: cp ']' :: trail := by
      rw [← whole]
      rfl
    have behind : line.drop (2 + (spelledPath keys).length) = cp ']' :: cp ']' :: trail := by
      rw [← List.drop_drop, inside, List.drop_left]
    have closing : line.drop (2 + (spelledPath keys).length + 1) = cp ']' :: trail := by
      rw [← List.drop_drop, behind]
      rfl
    have between : (line.take (2 + (spelledPath keys).length + 1)).drop 1 =
        cp '[' :: (spelledPath keys ++ [cp ']']) := by
      rw [List.drop_take, second, show 2 + (spelledPath keys).length + 1 - 1 =
        (spelledPath keys).length + 1 + 1 by omega, List.take_succ_cons, List.take_append,
        List.take_of_length_le (Nat.le_succ _), Nat.add_sub_cancel_left]
      rfl
    obtain ⟨size, same⟩ : ∃ size, line.length = size + 1 := ⟨_, by rw [← whole]; rfl⟩
    have room : (spelledPath keys ++ cp ']' :: cp ']' :: trail).length < size := by
      have all := congrArg List.length whole
      rw [same] at all
      simp only [List.length_cons] at all
      omega
    obtain ⟨less, enough, skipped⟩ := skips line ⟨2, none⟩ (Option.some 1) 2 _ size inside
      ⟨closes.1, closes.2⟩ room
    obtain ⟨last, rfl⟩ := Nat.exists_eq_succ_of_ne_zero (Nat.ne_zero_of_lt enough)
    replace enough := Nat.lt_of_succ_lt_succ enough
    obtain ⟨final, rfl⟩ := Nat.exists_eq_succ_of_ne_zero (Nat.ne_zero_of_lt enough)
    rw [same, scanLoop_opening start, if_pos ⟨rfl, rfl, rfl⟩, scanLoop_opening second,
      if_neg (fun first => absurd first.1 (by decide)), skipped,
      @scanLoop_closing _ _ _ _ _ _ _ [] behind (fun first => absurd first (by decide)),
      if_neg (by decide),
      scanLoop_closing closing fun _ => between ▸ parsed, if_pos rfl]
    apply scanLoop_trail ?_ blank (Nat.lt_of_succ_lt_succ enough)
    rw [← List.drop_drop, closing]
    rfl

end EvoBlue.Source.MergeToml
