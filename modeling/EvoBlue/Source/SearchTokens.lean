import EvoBlue.Source.SearchPieces

/-!
# The tokens of a search

A tokenizer that takes the runs of letters and digits finds in a normalized text what it
finds with blanks around the CJK characters. Every CJK letter is a token of its own there,
and a word is searched for by the tokens it has.
-/

namespace EvoBlue.Source

open EvoBlue.Kernel

/-- Whatever is neither a letter nor a digit ends a token. -/
def WordTable.ends (table : WordTable) (c : CodePoint) : Bool := !table.isAlnum c

/-- The runs of letters and digits. -/
def WordTable.tokens (table : WordTable) (t : Text) : List Text := runs table.ends t

variable (table : WordTable)

theorem not_ends : (fun c => !table.ends c) = table.isAlnum := by
  funext c
  rw [WordTable.ends, Bool.not_not]

theorem ends_blank {c : CodePoint} (blank : isSpace c = true) : table.ends c = true := by
  have none : table.isAlnum c = false := by
    unfold WordTable.isAlnum
    split
    · by_contra letter
      rw [Bool.not_eq_false] at letter
      simp only [isDigit, isAlpha, isUpper, isSpace, Bool.or_eq_true, Bool.and_eq_true,
        decide_eq_true_eq] at letter blank
      omega
    · exact table.blank c blank
  simp [WordTable.ends, none]

/-! ## Spaced texts -/

/-- What is no letter and no digit stands between tokens. -/
theorem tokens_spaced_gap {c : CodePoint} (ended : table.ends c = true) (front rest : Text) :
    table.tokens (spaced (front ++ c :: rest)) =
      table.tokens (spaced front) ++ table.tokens (spaced rest) := by
  have space := ends_blank table isSpace_blank
  unfold WordTable.tokens
  rw [spaced_append]
  by_cases cjk : isCjk c = true
  · rw [spaced_cjk cjk, runs_append_end _ _ space, runs_cons_end _ ended, runs_cons_end _ space]
  · rw [Bool.not_eq_true] at cjk
    rw [spaced_other cjk, runs_append_end _ _ ended]

/-- A CJK letter is a token, whatever stands around it. -/
theorem tokens_spaced_letter {c : CodePoint} (cjk : isCjk c = true) (letter : table.ends c = false)
    (front rest : Text) :
    table.tokens (spaced (front ++ c :: rest)) =
      table.tokens (spaced front) ++ [c] :: table.tokens (spaced rest) := by
  have space := ends_blank table isSpace_blank
  have alone : runs table.ends [c] = [[c]] :=
    runs_of_clean (List.cons_ne_nil c []) (by simpa using letter)
  have split := runs_append_end [c] (spaced rest) space
  rw [alone] at split
  unfold WordTable.tokens
  rw [spaced_append, spaced_cjk cjk, runs_append_end _ _ space]
  exact congrArg (table.tokens (spaced front) ++ ·) split

/-- Letters and digits with no CJK among them are one token. -/
theorem tokens_spaced_plain {front : Text} (some_ : front ≠ [])
    (plain : ∀ c ∈ front, isCjk c = false ∧ table.ends c = false) :
    table.tokens (spaced front) = [front] := by
  have same : spaced front = front := by
    clear some_
    induction front with
    | nil => rfl
    | cons c front ih =>
      rw [spaced_other (plain c List.mem_cons_self).1,
        ih fun d mem => plain d (List.mem_cons_of_mem _ mem)]
  rw [same]
  exact runs_of_clean some_ fun c mem => (plain c mem).2

/-- The tokens of a text are those of its words. -/
theorem tokens_spaced_words (t : Text) :
    table.tokens (spaced t) = (splitWords t).flatMap fun word => table.tokens (spaced word) :=
  @flatMap_runs _ isSpace _ (fun word => table.tokens (spaced word)) (runs_nil _)
    (fun front _ rest blank => tokens_spaced_gap table (ends_blank table blank) front rest) t

theorem tokens_pieces (t : Text) :
    table.tokens (spaced t) = (runs isSpace (spaced t)).flatMap table.tokens :=
  runs_finer (fun c blank => ends_blank table (c := c) blank) (spaced t)

theorem tokens_normalized (t : Text) : table.tokens (normalizeForFts t) = table.tokens (spaced t) := by
  rw [normalizeForFts_eq, tokens_pieces]
  exact runs_intercalate (ends_blank table isSpace_blank) _

theorem tokens_spaced_ne_nil {t : Text} {c : CodePoint} (mem : c ∈ t) (letter : table.ends c = false) :
    table.tokens (spaced t) ≠ [] := by
  have inside : c ∈ spaced t := by
    rw [spaced, List.mem_flatMap]
    refine ⟨c, mem, ?_⟩
    split <;> simp
  have there : [c] <:+: spaced t := by
    obtain ⟨front, rest, whole⟩ := List.append_of_mem inside
    exact ⟨front, rest, by rw [whole]; simp⟩
  obtain ⟨run, found, _⟩ := mem_runs_of_infix (List.cons_ne_nil c []) (by simpa using letter) there
  exact List.ne_nil_of_mem found

/-! ## Phrases -/

theorem hasToken_of_alnum {t : Text} (some_ : ∃ c ∈ t, table.ends c = false) : hasToken table t = true := by
  obtain ⟨c, mem, letter⟩ := some_
  rw [hasToken, List.any_eq_true]
  refine ⟨c, mem, ?_⟩
  have alnum : table.isAlnum c = true := by simpa [WordTable.ends] using letter
  simp [WordTable.isWord, alnum]

/-- A piece without a token has no run of letters and digits. -/
theorem tokens_of_not_hasToken {t : Text} (none : hasToken table t = false) : table.tokens t = [] := by
  apply runs_of_ends
  intro c mem
  by_contra letter
  rw [Bool.not_eq_true] at letter
  rw [hasToken_of_alnum table ⟨c, mem, letter⟩] at none
  cases none

/-- The phrase of a word has the tokens of the word. -/
theorem tokens_phrase (word : Text) :
    table.tokens ([cp ' '].intercalate (keptPieces table word)) = table.tokens (spaced word) := by
  have kept (pieces : List Text) :
      (pieces.filter (hasToken table)).flatMap table.tokens = pieces.flatMap table.tokens := by
    induction pieces with
    | nil => rfl
    | cons piece pieces ih =>
      cases has : hasToken table piece with
      | true => rw [List.filter_cons_of_pos has, List.flatMap_cons, List.flatMap_cons, ih]
      | false =>
        have dropped : ¬ hasToken table piece = true := by simp [has]
        rw [List.filter_cons_of_neg dropped, List.flatMap_cons, tokens_of_not_hasToken table has, ih]
        rfl
  rw [tokens_pieces table word, ← kept]
  exact runs_intercalate (ends_blank table isSpace_blank) _

/-- A word with a letter or a digit is searched for by one phrase. -/
theorem buildMatchQuery_word {word : Text} (visible : ∀ c ∈ word, isSpace c = false)
    (some_ : ∃ c ∈ word, table.ends c = false) :
    table.tokens (spaced word) ≠ [] ∧
      buildMatchQuery table word = some (quoted ([cp ' '].intercalate (keptPieces table word))) := by
  obtain ⟨c, mem, letter⟩ := some_
  have filled := tokens_spaced_ne_nil table mem letter
  have kept : keptPieces table word ≠ [] := by
    intro none
    rw [← tokens_phrase, none] at filled
    exact filled rfl
  have phrases : searchPhrases table word = [[cp ' '].intercalate (keptPieces table word)] := by
    unfold searchPhrases splitWords
    rw [runs_of_clean (List.ne_nil_of_mem mem) visible]
    simp [kept]
  refine ⟨filled, ?_⟩
  rw [buildMatchQuery_eq, phrases, if_neg (List.cons_ne_nil _ _), joined, List.map_singleton,
    List.intercalate_singleton]

/-- The query for a word matches a text that has the tokens of the word one after the other. -/
theorem columnMatches_word {word : Text} (filled : table.tokens (spaced word) ≠ []) (t : Text) :
    ColumnMatches table.tokens (quoted ([cp ' '].intercalate (keptPieces table word)))
        (normalizeForFts t) ↔
      table.tokens (spaced word) <:+: table.tokens (spaced t) := by
  rw [columnMatches_phrase, PhraseMatches, tokens_phrase, tokens_normalized]
  exact and_iff_right filled

/-! ## CJK letters -/

/-- Something that does not stand in front stands behind. -/
theorem append_after {α : Type} {x : α} {front rest before after : List α} (absent : x ∉ front)
    (whole : front ++ rest = before ++ x :: after) :
    ∃ between, before = front ++ between ∧ rest = between ++ x :: after := by
  rcases List.append_eq_append_iff.1 whole with ⟨between, rfl, split⟩ | ⟨between, rfl, split⟩
  · exact ⟨between, rfl, split⟩
  · cases between with
    | nil => exact ⟨[], by simp, split.symm⟩
    | cons y between =>
      obtain ⟨rfl, _⟩ := List.cons.inj split
      exact absurd (by simp) absent

/-- The tokens that letters and digits other than CJK make up hold no CJK letter. -/
theorem letter_not_plain {c : CodePoint} (cjk : isCjk c = true) {front : Text}
    (plain : ∀ d ∈ front, isCjk d = false ∧ table.ends d = false) :
    [c] ∉ table.tokens (spaced front) := by
  intro mem
  by_cases some_ : front = []
  · rw [some_] at mem
    cases mem
  · rw [tokens_spaced_plain table some_ plain, List.mem_singleton] at mem
    have none := (plain c (by rw [← mem]; exact List.mem_cons_self)).1
    rw [cjk] at none
    cases none

/-- A CJK letter among the tokens of a text stands in the text. -/
theorem letter_of_token {c : CodePoint} (cjk : isCjk c = true) (t : Text) :
    ∀ plain : Text, (∀ d ∈ plain, isCjk d = false ∧ table.ends d = false) →
      ∀ before after : List Text, table.tokens (spaced (plain ++ t)) = before ++ [c] :: after →
        ∃ front rest, plain ++ t = front ++ c :: rest ∧ table.tokens (spaced front) = before ∧
          table.tokens (spaced rest) = after := by
  -- `plain` is what has been read since the last character that ends a token or is one
  induction t with
  | nil =>
    intro plain clean before after found
    have absent := letter_not_plain table cjk clean
    rw [List.append_nil] at found
    rw [found] at absent
    exact absurd (List.mem_append_right before List.mem_cons_self) absent
  | cons d t ih =>
    intro plain clean before after found
    have absent := letter_not_plain table cjk clean
    have later (front rest : Text) (whole : t = front ++ c :: rest) :
        plain ++ d :: t = (plain ++ d :: front) ++ c :: rest := by
      rw [whole, List.append_assoc, List.cons_append]
    cases ended : table.ends d with
    | true =>
      rw [tokens_spaced_gap table ended] at found
      obtain ⟨between, rfl, behind⟩ := append_after absent found
      obtain ⟨front, rest, whole, rfl, rfl⟩ := ih [] (fun _ mem => nomatch mem) between after behind
      exact ⟨plain ++ d :: front, rest, later front rest whole, tokens_spaced_gap table ended _ _, rfl⟩
    | false =>
      cases other : isCjk d with
      | true =>
        rw [tokens_spaced_letter table other ended] at found
        obtain ⟨between, rfl, behind⟩ := append_after absent found
        cases between with
        | nil =>
          obtain ⟨same, rfl⟩ := List.cons.inj behind
          obtain rfl : d = c := (List.cons.inj same).1
          exact ⟨plain, t, rfl, (List.append_nil _).symm, rfl⟩
        | cons token between =>
          obtain ⟨rfl, same⟩ := List.cons.inj behind
          obtain ⟨front, rest, whole, rfl, rfl⟩ := ih [] (fun _ mem => nomatch mem) between after same
          exact ⟨plain ++ d :: front, rest, later front rest whole,
            tokens_spaced_letter table other ended _ _, rfl⟩
      | false =>
        have grown : plain ++ d :: t = (plain ++ [d]) ++ t := by simp
        rw [grown] at found ⊢
        apply ih (plain ++ [d]) _ before after found
        intro e mem
        rcases List.mem_append.1 mem with earlier | last
        · exact clean e earlier
        · rw [List.mem_singleton.1 last]
          exact ⟨other, ended⟩

/-- The letters of a word in order, with nothing between them that belongs to a token. -/
def Spells (word t : Text) : Prop :=
  ∃ part, part <:+: t ∧ part.filter table.isAlnum = word

theorem tokens_letters {word : Text} (letters : ∀ c ∈ word, isCjk c = true ∧ table.ends c = false) :
    table.tokens (spaced word) = word.map fun c => [c] := by
  induction word with
  | nil => rfl
  | cons c word ih =>
    obtain ⟨cjk, letter⟩ := letters c List.mem_cons_self
    have first := tokens_spaced_letter table cjk letter [] word
    rw [List.map_cons, ← ih fun d mem => letters d (List.mem_cons_of_mem _ mem)]
    exact first

theorem tokens_letters_front (part rest : Text)
    (letters : ∀ c ∈ part, table.ends c = false → isCjk c = true) :
    table.tokens (spaced (part ++ rest)) =
      (part.filter fun c => !table.ends c).map (fun c => [c]) ++ table.tokens (spaced rest) := by
  induction part with
  | nil => rfl
  | cons c part ih =>
    have later := ih fun d mem => letters d (List.mem_cons_of_mem _ mem)
    cases ended : table.ends c with
    | true =>
      have skipped := tokens_spaced_gap table ended [] (part ++ rest)
      rw [List.filter_cons_of_neg (by simp [ended]), ← later]
      exact skipped
    | false =>
      have first := tokens_spaced_letter table (letters c List.mem_cons_self ended) ended [] (part ++ rest)
      rw [List.filter_cons_of_pos (by simp [ended]), List.map_cons, List.cons_append, List.cons_append,
        ← later]
      exact first

/-- The tokens of a word of CJK letters stand at the start only where the word is spelled. -/
theorem spelled_of_tokens {word : Text} (letters : ∀ c ∈ word, isCjk c = true ∧ table.ends c = false)
    (t : Text) (after : List Text)
    (found : table.tokens (spaced t) = (word.map fun c => [c]) ++ after) :
    ∃ part rest, t = part ++ rest ∧ (part.filter fun c => !table.ends c) = word := by
  induction word generalizing t with
  | nil => exact ⟨[], t, rfl, rfl⟩
  | cons c word ih =>
    obtain ⟨front, rest, whole, none, later⟩ :=
      letter_of_token table (letters c List.mem_cons_self).1 t [] (fun _ mem => nomatch mem) [] _ found
    obtain ⟨part, last, split, spelled⟩ := ih (fun d mem => letters d (List.mem_cons_of_mem _ mem)) rest later
    rw [List.nil_append] at whole
    refine ⟨front ++ c :: part, last, ?_, ?_⟩
    · rw [whole, split, List.append_assoc, List.cons_append]
    · have skipped : (front.filter fun d => !table.ends d) = [] := by
        rw [List.filter_eq_nil_iff]
        intro d mem letter
        exact tokens_spaced_ne_nil table mem (by simpa using letter) none
      rw [List.filter_append, skipped, List.nil_append,
        List.filter_cons_of_pos (by simp [(letters c List.mem_cons_self).2]), spelled]

/-- The tokens of a word of CJK letters stand in a text exactly where the word is spelled. -/
theorem tokens_infix_iff {word : Text} (some_ : word ≠ [])
    (letters : ∀ c ∈ word, isCjk c = true ∧ table.ends c = false) (t : Text) :
    table.tokens (spaced word) <:+: table.tokens (spaced t) ↔ Spells table word t := by
  rw [tokens_letters table letters, Spells, ← not_ends]
  obtain ⟨c, others, rfl⟩ := List.exists_cons_of_ne_nil some_
  constructor
  · rintro ⟨before, after, found⟩
    rw [List.map_cons, List.append_assoc, List.cons_append] at found
    obtain ⟨front, rest, whole, _, later⟩ :=
      letter_of_token table (letters c List.mem_cons_self).1 t [] (fun _ mem => nomatch mem)
        before _ found.symm
    obtain ⟨part, last, split, spelled⟩ :=
      spelled_of_tokens table (fun d mem => letters d (List.mem_cons_of_mem _ mem)) rest after later
    rw [List.nil_append] at whole
    refine ⟨c :: part, ⟨front, last, by rw [whole, split]; simp⟩, ?_⟩
    rw [List.filter_cons_of_pos (by simp [(letters c List.mem_cons_self).2]), spelled]
  · rintro ⟨part, ⟨front, rest, rfl⟩, spelled⟩
    have cjk : ∀ d ∈ part, table.ends d = false → isCjk d = true := by
      intro d mem letter
      have inside : d ∈ c :: others := by
        rw [← spelled, List.mem_filter]
        exact ⟨mem, by simp [letter]⟩
      exact (letters d inside).1
    obtain ⟨d, part, rfl⟩ : ∃ d later, part = d :: later := by
      apply List.exists_cons_of_ne_nil
      rintro rfl
      cases spelled
    refine ⟨table.tokens (spaced front), table.tokens (spaced rest), ?_⟩
    rw [← spelled, List.append_assoc, ← tokens_letters_front table _ rest cjk, List.append_assoc,
      List.cons_append]
    cases ended : table.ends d with
    | true =>
      rw [tokens_spaced_gap table ended]
      exact congrArg _ (tokens_spaced_gap table ended [] _)
    | false =>
      have letter := cjk d List.mem_cons_self ended
      rw [tokens_spaced_letter table letter ended]
      exact congrArg _ (tokens_spaced_letter table letter ended [] _)

end EvoBlue.Source
