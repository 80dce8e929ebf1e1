import EvoBlue.Source.SearchPieces

/-!
# The phrases of the second expression

The expression that asks in which fields a hit matches has the phrases of the expression
that found it, unless the query holds AND between two CJK characters: that one is rewritten
as if it were the operator, inside its phrase.
-/

namespace EvoBlue.Guarantees

open EvoBlue.Kernel EvoBlue.Source

/-- A conjunction and a disjunction of the same phrases. -/
def SamePhrases (matchQuery anyQuery : Text) : Prop :=
  ∃ phrases, phrases ≠ [] ∧ matchQuery = joined " AND " phrases ∧ anyQuery = joined " OR " phrases

variable {τ : Type} [DecidableEq τ] {tokens : Text → List τ}

/-- With the same phrases, what is hit is hit in some field. -/
theorem matchedFields_ne_nil {matchQuery anyQuery : Text} (same : SamePhrases matchQuery anyQuery)
    {texts : FtsTexts} (hit : IsHit tokens matchQuery texts) :
    matchedFields tokens anyQuery texts ≠ [] := by
  obtain ⟨phrases, some_, rfl, rfl⟩ := same
  obtain ⟨query, read, conjunction, there, all⟩ := hit
  rw [readQuery_and some_] at read
  obtain rfl : [phrases] = query := Option.some.inj read
  rw [List.mem_singleton] at there
  subst there
  obtain ⟨phrase, others, rfl⟩ := List.exists_cons_of_ne_nil some_
  obtain ⟨column, field, found⟩ := all phrase List.mem_cons_self
  obtain ⟨named, mem, rfl⟩ := List.mem_map.1 field
  have matched : ColumnMatches tokens (joined " OR " (phrase :: others)) named.2 := by
    refine ⟨_, readQuery_or some_, [phrase], List.mem_cons_self, ?_⟩
    intro other only
    rw [List.mem_singleton.1 only]
    exact ⟨named.2, List.mem_singleton_self _, found⟩
  unfold matchedFields
  rw [Ne, List.map_eq_nil_iff, List.filter_eq_nil_iff]
  intro none
  exact none named mem (decide_eq_true matched)

/-- The rewritten expression has the same phrases exactly when none of them is changed. -/
theorem samePhrases_iff {phrases : List Text} (some_ : phrases ≠ []) :
    SamePhrases (joined " AND " phrases) (orQuery (joined " AND " phrases)) ↔
      ∀ phrase ∈ phrases, ¬ text " AND " <:+: phrase := by
  have short : (text " OR ").length < (text " AND ").length := by decide
  rw [orQuery_joined]
  constructor
  · rintro ⟨others, othersSome, both, any⟩
    have same := congrArg readQuery both
    have rewritten := congrArg readQuery any
    rw [readQuery_and some_, readQuery_and othersSome] at same
    obtain rfl : phrases = others := (List.cons.inj (Option.some.inj same)).1
    have mapped : phrases.map (replaceAll (text " AND ") (text " OR ")) ≠ [] := by
      rw [Ne, List.map_eq_nil_iff]
      exact some_
    rw [readQuery_or mapped, readQuery_or some_, Option.some.injEq] at rewritten
    have single : Function.Injective fun phrase : Text => [phrase] := fun one other equal =>
      (List.cons.inj equal).1
    have kept := (List.map_injective_iff.2 single) rewritten
    intro phrase mem
    apply (replaceAll_eq_self short).1
    exact List.map_inj_left.1 (kept.trans (List.map_id phrases).symm) phrase mem
  · intro clean
    refine ⟨phrases, some_, rfl, ?_⟩
    have kept : phrases.map (replaceAll (text " AND ") (text " OR ")) = phrases.map id :=
      List.map_congr_left fun phrase mem => replaceAll_of_not_infix (clean phrase mem)
    rw [kept, List.map_id]

/-- The second expression has the phrases of the first one, and every hit a field it matches
in, exactly when the query does not hold AND between two CJK characters. -/
theorem or_query_iff (tokens : Text → List τ) (table : WordTable) {query matchQuery : Text}
    (built : buildMatchQuery table query = some matchQuery) :
    (SamePhrases matchQuery (orQuery matchQuery) ∧
        ∀ texts, IsHit tokens matchQuery texts → matchedFields tokens (orQuery matchQuery) texts ≠ []) ↔
      ¬ AndBetween query := by
  rw [buildMatchQuery_eq] at built
  split at built
  next => cases built
  next some_ =>
    obtain rfl := Option.some.inj built
    rw [← phrase_and_iff table, not_exists]
    have same := samePhrases_iff some_
    constructor
    · rintro ⟨kept, _⟩ phrase ⟨mem, inside⟩
      exact same.1 kept phrase mem inside
    · intro clean
      have kept := same.2 fun phrase mem inside => clean phrase ⟨mem, inside⟩
      exact ⟨kept, fun texts hit => matchedFields_ne_nil kept hit⟩

/-! ## A word with AND between two characters -/

/-- Letters and digits of ASCII, and the CJK characters as letters. -/
def cjkTable : WordTable where
  alnum := isCjk
  blank c blank := by
    by_contra cjk
    rw [Bool.not_eq_false] at cjk
    have visible := isSpace_of_cjk cjk
    rw [blank] at visible
    cases visible

/-- Runs of letters and digits as tokens. -/
def cjkTokens (t : Text) : List Text := runs (fun c => !cjkTable.isAlnum c) t

/-- A row whose title holds the searched word. -/
def titledRow : FtsTexts where
  title := normalizeForFts (text "中AND文")
  tags := []
  author := []
  summary := []
  transcript := []
  url := []

theorem or_query_two_words :
    ∃ matchQuery, buildMatchQuery cjkTable (text "选品 foo\"bar") = some matchQuery ∧
      ((SamePhrases matchQuery (orQuery matchQuery) ∧ ∀ texts, IsHit cjkTokens matchQuery texts →
          matchedFields cjkTokens (orQuery matchQuery) texts ≠ []) ↔
        ¬ AndBetween (text "选品 foo\"bar")) := by
  have built : buildMatchQuery cjkTable (text "选品 foo\"bar") =
      some (text "\"选 品\" AND \"foo\"\"bar\"") := by decide +kernel
  exact ⟨_, built, or_query_iff cjkTokens cjkTable built⟩

/-- The word is hit, in no field: its phrase has been rewritten. -/
theorem and_phrase_rewritten :
    ∃ matchQuery, buildMatchQuery cjkTable (text "中AND文") = some matchQuery ∧
      ¬ SamePhrases matchQuery (orQuery matchQuery) ∧
      IsHit cjkTokens matchQuery titledRow ∧
      matchedFields cjkTokens (orQuery matchQuery) titledRow = [] := by
  have phrases : searchPhrases cjkTable (text "中AND文") = [text "中 AND 文"] := by decide +kernel
  have some_ : [text "中 AND 文"] ≠ [] := List.cons_ne_nil _ _
  have built := buildMatchQuery_eq cjkTable (text "中AND文")
  rw [phrases, if_neg some_] at built
  have rewritten : orQuery (joined " AND " [text "中 AND 文"]) = quoted (text "中 OR 文") := by
    have replaced : replaceAll (text " AND ") (text " OR ") (text "中 AND 文") = text "中 OR 文" := by
      decide +kernel
    rw [orQuery_joined, List.map_singleton, replaced]
    rfl
  refine ⟨_, built, ?_, ?_, ?_⟩
  · rw [samePhrases_iff some_]
    intro clean
    have inside : text " AND " <:+: text "中 AND 文" := by decide +kernel
    exact clean _ List.mem_cons_self inside
  · refine ⟨_, readQuery_and some_, _, List.mem_cons_self, ?_⟩
    intro phrase only
    rw [List.mem_singleton.1 only]
    have found : PhraseMatches cjkTokens (text "中 AND 文") titledRow.title := by decide +kernel
    exact ⟨_, List.mem_cons_self, found⟩
  · have nowhere : (ftsFields titledRow).all
        (fun field => !decide (PhraseMatches cjkTokens (text "中 OR 文") field.2)) = true := by
      decide +kernel
    rw [rewritten]
    unfold matchedFields
    rw [List.map_eq_nil_iff, List.filter_eq_nil_iff]
    intro field mem matched
    have missed := List.all_eq_true.1 nowhere field mem
    rw [decide_eq_true ((columnMatches_phrase _ _ _).1 (of_decide_eq_true matched))] at missed
    cases missed

end EvoBlue.Guarantees
