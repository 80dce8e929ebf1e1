import EvoBlue.Source.JobListing

/-!
# One filter, two lists

The unified view gives the same platform and the same query to the jobs and to the
reports. A platform with blanks around it is stripped for the jobs alone, a blank one
is no filter for the jobs alone, and the letters beyond ASCII are folded by Python
where the text beside them is folded by SQLite. The two lists answer alike for every
row exactly when none of this touches the filter.
-/

namespace EvoBlue.Guarantees

open EvoBlue.Kernel EvoBlue.Source

/-- The characters of `LIKE` have no case: no letter becomes one, and a backslash
beside one makes no difference to the letters around. None becomes the null character. -/
structure WildcardsCaseless (unicode : UnicodeData) : Prop where
  plain : ∀ before c after, isAscii c = false →
    ∀ d ∈ unicode.lowerAt before c after, isLikeSpecial d = false
  context : ∀ before c after, isAscii c = false →
    unicode.lowerAt (literalPattern before).reverse c (literalPattern after) =
      unicode.lowerAt before.reverse c after
  nulls : ∀ before c after, isAscii c = false → NullFree (unicode.lowerAt before c after)

/-! ## Escaping -/

theorem replaceAll_one (c : CodePoint) (new t : Text) :
    replaceAll [c] new t = t.flatMap fun d => if d = c then new else [d] := by
  unfold replaceAll
  induction t with
  | nil => rfl
  | cons d t ih =>
    have starts : [c] <+: d :: t ↔ d = c := by
      rw [List.cons_prefix_cons, eq_comm]
      simp
    rw [replaceFrom, List.flatMap_cons]
    by_cases same : d = c
    · rw [if_pos (starts.2 same), if_pos same]
      exact congrArg (new ++ ·) ih
    · rw [if_neg (mt starts.1 same), if_neg same, ih]
      rfl

/-- The three replacements escape the characters of `LIKE`. -/
theorem escapeLike_eq (value : Text) : escapeLike value = literalPattern value := by
  unfold escapeLike literalPattern
  rw [replaceAll_one, replaceAll_one, replaceAll_one, List.flatMap_assoc, List.flatMap_assoc]
  congr 1
  funext c
  unfold escapeOneLike isLikeSpecial
  by_cases backslash : c = cp '\\'
  · subst backslash
    decide
  · by_cases percent : c = cp '%'
    · subst percent
      decide
    · by_cases underscore : c = cp '_'
      · subst underscore
        decide
      · simp [backslash, percent, underscore]

theorem codePoint_plain {n : Nat} (letter : 0x61 ≤ n ∧ n ≤ 0x7a) :
    isLikeSpecial (codePoint n) = false := by
  have value := val_codePoint (n := n) (by omega)
  have different : ∀ c : CodePoint, c.val < 0x61 → codePoint n ≠ c := by
    intro c small same
    rw [← same, value] at small
    omega
  simp [isLikeSpecial, different (cp '\\') (by decide), different (cp '%') (by decide),
    different (cp '_') (by decide)]

theorem lowerAfter_literal {unicode : UnicodeData} (caseless : WildcardsCaseless unicode)
    (before t : Text) :
    lowerAfter unicode (literalPattern before).reverse (literalPattern t) =
      literalPattern (lowerAfter unicode before.reverse t) := by
  induction t generalizing before with
  | nil => rfl
  | cons c t ih =>
    have later := ih (before ++ [c])
    rw [literalPattern_append, List.reverse_append, List.reverse_append, List.reverse_singleton,
      List.singleton_append] at later
    rw [literalPattern_cons, lowerAfter, literalPattern_append, ← later]
    cases special : isLikeSpecial c with
    | true =>
      have ascii : isUpper c = false ∧ isAscii c = true := by
        simp only [isLikeSpecial, Bool.or_eq_true, decide_eq_true_eq] at special
        rcases special with (rfl | rfl) | rfl <;> decide
      have escaped : literalPattern [c] = [cp '\\', c] := by
        simp [literalPattern, escapeOneLike, special]
      have backslash : isUpper (cp '\\') = false ∧ isAscii (cp '\\') = true := by decide
      rw [ascii.1, ascii.2, escaped, escapeOneLike, special]
      simp only [Bool.false_eq_true, if_false, if_true]
      rw [escaped, List.cons_append, List.singleton_append, lowerAfter, lowerAfter, backslash.1,
        backslash.2, ascii.1, ascii.2]
      rfl
    | false =>
      have alone : literalPattern [c] = [c] := literalPattern_plain (by simpa using special)
      rw [alone, escapeOneLike, special, if_neg (by decide), List.singleton_append, lowerAfter]
      congr 1
      split
      next upper =>
        simp only [isUpper, Bool.and_eq_true, decide_eq_true_eq] at upper
        refine (literalPattern_plain fun d mem => ?_).symm
        rw [List.mem_singleton.1 mem]
        exact codePoint_plain (by omega)
      next =>
        split
        next => exact alone.symm
        next beyond =>
          have beyond := Bool.eq_false_iff.2 beyond
          rw [caseless.context before c t beyond]
          exact (literalPattern_plain (caseless.plain before.reverse c t beyond)).symm

/-- Escaping the query before or after it is lower-cased is the same. -/
theorem lower_escapeLike {unicode : UnicodeData} (caseless : WildcardsCaseless unicode) (t : Text) :
    lower unicode (escapeLike t) = literalPattern (lower unicode t) := by
  rw [escapeLike_eq]
  exact lowerAfter_literal caseless [] t

/-! ## The two filters -/

section

variable {unicode : UnicodeData}

theorem ilike_contains (needle subject : Text) :
    ilike (containsPattern (escapeLike needle)) subject = true ↔
      sqlLower needle <:+: sqlLower subject := by
  have shape : sqlLower (containsPattern (escapeLike needle)) =
      containsPattern (literalPattern (sqlLower needle)) := by
    rw [← sqlLower_literal, ← escapeLike_eq]
    simp [containsPattern, sqlLower, asciiLower, isUpper]
  unfold ilike
  rw [shape, like_contains, sqlLower_idem, sqlLower_idem]

theorem jobSelected_iff {platform query : Option Text} {title url platformOf : Text} :
    jobSelected unicode platform query (some title) (some url) (some platformOf) = true ↔
      (∀ p ∈ platform, strip p = [] ∨ sqlLower platformOf = lower unicode (strip p)) ∧
      ∀ q ∈ query, strip q = [] ∨ sqlLower (strip q) <:+: sqlLower title ∨
        sqlLower (strip q) <:+: sqlLower url := by
  simp only [jobSelected, Bool.and_eq_true, Option.all_eq_true, Bool.or_eq_true, decide_eq_true_eq,
    Option.any_some, ilike_contains, or_assoc, Option.mem_def]

theorem reportSelected_iff (caseless : WildcardsCaseless unicode) {platform query : Option Text}
    {title url platformOf : Text} :
    reportSelected unicode platform query title url platformOf = true ↔
      (∀ p ∈ platform, sqlLower platformOf = sqlLower p) ∧
      ∀ q ∈ query, strip q = [] ∨ sqlLower (lower unicode (strip q)) <:+: sqlLower title ∨
        sqlLower (lower unicode (strip q)) <:+: sqlLower url := by
  simp only [reportSelected, Bool.and_eq_true, Option.all_eq_true, Bool.or_eq_true,
    decide_eq_true_eq, lower_escapeLike caseless, like_contains, sqlLower_idem, or_assoc,
    Option.mem_def]

/-- The query stands in the title as it is, and the platform is this one up to ASCII case. -/
def Verbatim (platform query : Option Text) (title platformOf : Text) : Prop :=
  (∀ q ∈ query, strip q <:+: title) ∧ ∀ p ∈ platform, sqlLower platformOf = sqlLower p

/-- Both lists select the row or both reject it, and neither overlooks a verbatim match. -/
def SameVerdict (unicode : UnicodeData) (platform query : Option Text)
    (title url platformOf : Text) : Prop :=
  jobSelected unicode platform query (some title) (some url) (some platformOf) =
      reportSelected unicode platform query title url platformOf ∧
    (Verbatim platform query title platformOf →
      jobSelected unicode platform query (some title) (some url) (some platformOf) = true ∧
      reportSelected unicode platform query title url platformOf = true)

/-- The platform is not blank, and stripping and lower-casing it in Python is what
`LOWER` makes of it; lower-casing the stripped query changes letters of ASCII only. -/
def FoldsAlike (unicode : UnicodeData) (platform query : Option Text) : Prop :=
  (∀ p ∈ platform, strip p ≠ [] ∧ lower unicode (strip p) = sqlLower p) ∧
  ∀ q ∈ query, sqlLower (lower unicode (strip q)) = sqlLower (strip q)

theorem sameVerdict_of_foldsAlike (caseless : WildcardsCaseless unicode) {platform query : Option Text}
    (alike : FoldsAlike unicode platform query) (title url platformOf : Text) :
    SameVerdict unicode platform query title url platformOf := by
  obtain ⟨platforms, queries⟩ := alike
  have same : jobSelected unicode platform query (some title) (some url) (some platformOf) =
      reportSelected unicode platform query title url platformOf := by
    rw [Bool.eq_iff_iff, jobSelected_iff, reportSelected_iff caseless]
    refine and_congr (forall₂_congr fun p named => ?_) (forall₂_congr fun q asked => ?_)
    · obtain ⟨shown, folds⟩ := platforms p named
      rw [folds]
      simp [shown]
    · rw [queries q asked]
  refine ⟨same, fun verbatim => ?_⟩
  have selected : reportSelected unicode platform query title url platformOf = true := by
    refine (reportSelected_iff caseless).2 ⟨verbatim.2, fun q asked => ?_⟩
    rw [queries q asked]
    obtain ⟨front, back, whole⟩ := verbatim.1 q asked
    refine .inr (.inl ⟨sqlLower front, sqlLower back, ?_⟩)
    rw [← whole, sqlLower_append, sqlLower_append]
  exact ⟨same.trans selected, selected⟩

theorem eq_of_infix_infix {s t : Text} (first : s <:+: t) (second : t <:+: s) : s = t :=
  first.eq_of_length (Nat.le_antisymm first.length_le second.length_le)

theorem nullFree_strip {t : Text} (free : NullFree t) : NullFree (strip t) := by
  obtain ⟨before, after, whole, _⟩ := strip_split t
  intro mem
  apply free
  rw [whole]
  exact List.mem_append_right _ (List.mem_append_left _ mem)

theorem nullFree_lowerAfter (caseless : WildcardsCaseless unicode) {t : Text} (free : NullFree t)
    (before : Text) : NullFree (lowerAfter unicode before t) := by
  induction t generalizing before with
  | nil => exact free
  | cons c t ih =>
    unfold NullFree at free ih ⊢
    rw [List.mem_cons, not_or] at free
    rw [lowerAfter, List.mem_append, not_or]
    refine ⟨?_, ih free.2 _⟩
    split
    next upper =>
      simp only [isUpper, Bool.and_eq_true, decide_eq_true_eq] at upper
      rw [List.mem_singleton]
      intro same
      have values := congrArg Fin.val same
      rw [val_codePoint (by omega), val_codePoint (by omega)] at values
      omega
    next =>
      split
      next =>
        rw [List.mem_singleton]
        exact free.1
      next beyond => exact caseless.nulls before c t (Bool.eq_false_iff.2 beyond)

/-- A title both lists find by the query. -/
theorem exists_found (caseless : WildcardsCaseless unicode) (query : Option Text)
    (clean : ∀ q ∈ query, NullFree q) : ∃ title : Text, NullFree title ∧ ∀ q ∈ query,
    sqlLower (strip q) <:+: sqlLower title ∧
      sqlLower (lower unicode (strip q)) <:+: sqlLower title := by
  cases query with
  | none => exact ⟨[], List.not_mem_nil, fun q asked => by cases asked⟩
  | some query =>
    have free := nullFree_strip (clean query rfl)
    have both : NullFree (strip query ++ lower unicode (strip query)) := by
      unfold NullFree
      rw [List.mem_append, not_or]
      exact ⟨free, nullFree_lowerAfter caseless free []⟩
    refine ⟨strip query ++ lower unicode (strip query), both, fun q asked => ?_⟩
    obtain rfl := Option.some.inj asked
    rw [sqlLower_append]
    exact ⟨(List.prefix_append _ _).isInfix, (List.suffix_append _ _).isInfix⟩

/-- For every platform and every query, without the null character: the two lists answer
alike for all rows without it exactly when the filter folds alike. -/
theorem same_verdict_iff (unicode : UnicodeData) (caseless : WildcardsCaseless unicode)
    (platform query : Option Text) (named : ∀ p ∈ platform, NullFree p)
    (asked : ∀ q ∈ query, NullFree q) :
    (∀ title url platformOf, NullFree title → NullFree url → NullFree platformOf →
        SameVerdict unicode platform query title url platformOf) ↔
      FoldsAlike unicode platform query := by
  constructor
  · intro same
    have blank : NullFree [] := List.not_mem_nil
    have platforms : ∀ p ∈ platform, strip p ≠ [] ∧ lower unicode (strip p) = sqlLower p := by
      intro p here
      obtain ⟨title, free, found⟩ := exists_found caseless query asked
      have equally : ∀ platformOf, NullFree platformOf →
          ((strip p = [] ∨ sqlLower platformOf = lower unicode (strip p)) ↔
            sqlLower platformOf = sqlLower p) := by
        intro platformOf freeOf
        have verdict := (same title [] platformOf free blank freeOf).1
        rw [Bool.eq_iff_iff, jobSelected_iff, reportSelected_iff caseless] at verdict
        constructor
        · intro stripped
          refine (verdict.1 ⟨fun other also => ?_, fun q given => ?_⟩).1 p here
          · obtain rfl := Option.mem_unique here also
            exact stripped
          · exact .inr (.inl (found q given).1)
        · intro folded
          refine (verdict.2 ⟨fun other also => ?_, fun q given => ?_⟩).1 p here
          · obtain rfl := Option.mem_unique here also
            exact folded
          · exact .inr (.inl (found q given).2)
      have shown : strip p ≠ [] := by
        intro blank
        have longer : NullFree (p ++ [cp 'x']) := by
          have own := named p here
          unfold NullFree at own ⊢
          rw [List.mem_append, not_or]
          exact ⟨own, by decide⟩
        have lengths := congrArg List.length ((equally (p ++ [cp 'x']) longer).1 (.inl blank))
        simp [sqlLower] at lengths
      exact ⟨shown, (((equally p (named p here)).2 rfl).resolve_left shown).symm⟩
    refine ⟨platforms, fun q given => ?_⟩
    by_cases empty : strip q = []
    · rw [empty]
      rfl
    · obtain ⟨platformOf, freeOf, plays⟩ : ∃ platformOf : Text, NullFree platformOf ∧
          ∀ p ∈ platform, sqlLower platformOf = sqlLower p := by
        cases platform with
        | none => exact ⟨[], blank, fun p here => by cases here⟩
        | some p => exact ⟨p, named p rfl, fun other also => by rw [Option.some.inj also]⟩
      have equally : ∀ title : Text, NullFree title → (sqlLower (strip q) <:+: sqlLower title ↔
          sqlLower (lower unicode (strip q)) <:+: sqlLower title ∨
            sqlLower (lower unicode (strip q)) <:+: []) := by
        intro title free
        have verdict := (same title [] platformOf free blank freeOf).1
        rw [Bool.eq_iff_iff, jobSelected_iff, reportSelected_iff caseless] at verdict
        have nowhere : ¬ sqlLower (strip q) <:+: sqlLower [] := by
          intro within
          exact empty (List.map_eq_nil_iff.1 (List.infix_nil.1 within))
        have stripped : ∀ p ∈ platform,
            strip p = [] ∨ sqlLower platformOf = lower unicode (strip p) := by
          intro p named
          rw [(platforms p named).2]
          exact .inr (plays p named)
        constructor
        · intro within
          refine ((verdict.1 ⟨stripped, fun other also => ?_⟩).2 q given).resolve_left empty
          obtain rfl := Option.mem_unique given also
          exact .inr (.inl within)
        · intro within
          refine (((verdict.2 ⟨plays, fun other also => ?_⟩).2 q given).resolve_left
            empty).resolve_right nowhere
          obtain rfl := Option.mem_unique given also
          exact .inr within
      have kept : ¬ sqlLower (lower unicode (strip q)) <:+: [] := by
        intro vanished
        have within := (equally [] blank).2 (.inr vanished)
        exact empty (List.map_eq_nil_iff.1 (List.infix_nil.1 within))
      have free := nullFree_strip (asked q given)
      have lowered := nullFree_lowerAfter caseless free []
      refine eq_of_infix_infix ?_ ((equally (lower unicode (strip q)) lowered).2 (.inl List.infix_rfl))
      exact ((equally (strip q) free).1 List.infix_rfl).resolve_right kept
  · intro alike title url platformOf _ _ _
    exact sameVerdict_of_foldsAlike caseless alike title url platformOf

end

/-! ## A capital beyond ASCII -/

/-- The capitals of Latin-1 have small letters, 32 further on. -/
def latinOne : UnicodeData where
  lowerAt _ c _ := if 0xc0 ≤ c.val ∧ c.val ≤ 0xde ∧ c.val ≠ 0xd7 then [codePoint (c.val + 32)] else [c]
  decimal _ := none
  nfkc t := t

theorem latinOne_caseless : WildcardsCaseless latinOne where
  plain before c after beyond d mem := by
    simp only [isAscii, decide_eq_false_iff_not] at beyond
    have far : 0x80 ≤ d.val := by
      simp only [latinOne] at mem
      split at mem
      next small =>
        rw [List.mem_singleton.1 mem, val_codePoint (by omega)]
        omega
      next =>
        rw [List.mem_singleton.1 mem]
        omega
    have different : ∀ e : CodePoint, e.val < 0x80 → d ≠ e := by
      intro e small same
      rw [same] at far
      omega
    simp [isLikeSpecial, different (cp '\\') (by decide), different (cp '%') (by decide),
      different (cp '_') (by decide)]
  context _ _ _ _ := rfl
  nulls before c after beyond mem := by
    simp only [isAscii, decide_eq_false_iff_not] at beyond
    simp only [latinOne] at mem
    split at mem
    next =>
      have values := congrArg Fin.val (List.mem_singleton.1 mem)
      rw [val_codePoint (by omega), val_codePoint (by omega)] at values
      omega
    next =>
      have values := congrArg Fin.val (List.mem_singleton.1 mem)
      rw [val_codePoint (by omega)] at values
      omega

/-- In small letters the query finds the same rows in both lists, and in capitals it does not. -/
theorem same_verdict_iff_latinOne :
    (∀ title url platformOf, NullFree title → NullFree url → NullFree platformOf →
      SameVerdict latinOne (some (text "Bilibili")) (some (text " école Jazz "))
        title url platformOf) ∧
    ¬ ∀ title url platformOf, NullFree title → NullFree url → NullFree platformOf →
      SameVerdict latinOne (some (text "Bilibili")) (some (text "École")) title url platformOf := by
  have named : ∀ p ∈ some (text "Bilibili"), NullFree p := by decide
  have alike : FoldsAlike latinOne (some (text "Bilibili")) (some (text " école Jazz ")) := by
    unfold FoldsAlike
    decide +kernel
  have apart : ¬ FoldsAlike latinOne (some (text "Bilibili")) (some (text "École")) := by
    unfold FoldsAlike
    decide +kernel
  constructor
  · exact (same_verdict_iff latinOne latinOne_caseless _ _ named (by decide)).2 alike
  · exact fun same =>
      apart ((same_verdict_iff latinOne latinOne_caseless _ _ named (by decide)).1 same)

/-- The reports do not find the title by its own first word. -/
theorem capital_overlooked :
    ¬ SameVerdict latinOne (some (text "bilibili")) (some (text "École")) (text "École de jazz")
      (text "https://www.bilibili.com/video/BV1GJ411x7h7") (text "bilibili") := by
  intro verdict
  exact absurd verdict.1 (by decide +kernel)

end EvoBlue.Guarantees
