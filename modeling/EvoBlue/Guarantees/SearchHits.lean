import EvoBlue.Source.SearchTokens
import EvoBlue.Guarantees.SearchPhrases

/-!
# Searching for what was indexed

Both sides of a search go through the same normalization: a word of an indexed text is found
in it, and CJK characters are found where they stand next to each other.
-/

namespace EvoBlue.Guarantees

open EvoBlue.Kernel EvoBlue.Source

/-- A query is a conjunction of quoted phrases. A word with a letter or a digit is found in
every text it is a word of. CJK letters are found where they are spelled, with nothing
between them that belongs to a token. -/
theorem search_fits_index (table : WordTable) :
    (∀ query matchQuery, buildMatchQuery table query = some matchQuery →
      ∃ phrases, phrases ≠ [] ∧ matchQuery = joined " AND " phrases ∧
        readQuery matchQuery = some [phrases]) ∧
    (∀ t, ∀ word ∈ splitWords t, (∃ c ∈ word, table.isAlnum c = true) →
      ∃ matchQuery, buildMatchQuery table word = some matchQuery ∧
        ColumnMatches table.tokens matchQuery (normalizeForFts t)) ∧
    (∀ t word, word ≠ [] → (∀ c ∈ word, isCjk c = true ∧ table.isAlnum c = true) →
      ∃ matchQuery, buildMatchQuery table word = some matchQuery ∧
        (ColumnMatches table.tokens matchQuery (normalizeForFts t) ↔ Spells table word t)) := by
  have letter {c : CodePoint} (alnum : table.isAlnum c = true) : table.ends c = false := by
    rw [WordTable.ends, alnum]
    rfl
  refine ⟨?_, ?_, ?_⟩
  · intro query matchQuery built
    rw [buildMatchQuery_eq] at built
    split at built
    next => cases built
    next some_ =>
      obtain rfl := Option.some.inj built
      exact ⟨_, some_, rfl, readQuery_and some_⟩
  · rintro t word mem ⟨c, inside, alnum⟩
    obtain ⟨filled, built⟩ := buildMatchQuery_word table (mem_runs mem).2 ⟨c, inside, letter alnum⟩
    refine ⟨_, built, (columnMatches_word table filled t).2 ?_⟩
    obtain ⟨earlier, later, words⟩ := List.append_of_mem mem
    refine ⟨earlier.flatMap fun word => table.tokens (spaced word),
      later.flatMap fun word => table.tokens (spaced word), ?_⟩
    rw [tokens_spaced_words table t, words, List.flatMap_append, List.flatMap_cons, List.append_assoc]
  · intro t word some_ letters
    have visible : ∀ c ∈ word, isSpace c = false := fun c mem => isSpace_of_cjk (letters c mem).1
    obtain ⟨c, inside⟩ := List.exists_mem_of_ne_nil word some_
    obtain ⟨filled, built⟩ := buildMatchQuery_word table visible ⟨c, inside, letter (letters c inside).2⟩
    refine ⟨_, built, (columnMatches_word table filled t).trans ?_⟩
    exact tokens_infix_iff table some_ (fun d mem => ⟨(letters d mem).1, letter (letters d mem).2⟩) t

theorem search_fits_index_phrase :
    ∃ matchQuery, buildMatchQuery cjkTable (text "选品") = some matchQuery ∧
      ColumnMatches cjkTable.tokens matchQuery (normalizeForFts (text "a选，品b")) ∧
      ¬ ColumnMatches cjkTable.tokens matchQuery (normalizeForFts (text "选b品")) := by
  have fits := (search_fits_index cjkTable).2.2
  have some_ : text "选品" ≠ [] := by decide
  have letters : ∀ c ∈ text "选品", isCjk c = true ∧ cjkTable.isAlnum c = true := by
    have all : (text "选品").all (fun c => isCjk c && cjkTable.isAlnum c) = true := by decide +kernel
    intro c mem
    simpa using List.all_eq_true.1 all c mem
  obtain ⟨matchQuery, built, near⟩ := fits (text "a选，品b") (text "选品") some_ letters
  obtain ⟨same, again, apart⟩ := fits (text "选b品") (text "选品") some_ letters
  obtain rfl : matchQuery = same := Option.some.inj (built.symm.trans again)
  have spelled : text "选，品" <:+: text "a选，品b" := by decide +kernel
  refine ⟨matchQuery, built, near.2 ⟨_, spelled, by decide +kernel⟩, ?_⟩
  intro found
  have tokens : ¬ cjkTable.tokens (spaced (text "选品")) <:+: cjkTable.tokens (spaced (text "选b品")) := by
    decide +kernel
  apply tokens
  apply (tokens_infix_iff cjkTable some_ _ _).2 (apart.1 found)
  intro c mem
  exact ⟨(letters c mem).1, by rw [WordTable.ends, (letters c mem).2]; rfl⟩

end EvoBlue.Guarantees
