import EvoBlue.Kernel.FullText
import EvoBlue.Source.ReportIndex

/-!
# Searching the index

The query side of `storage/fts.py`, the expressions of the search endpoint and the fields
`search_reports` names for a hit. What SQLite's tokenizer makes of a text is a parameter,
and so are the letters and digits outside ASCII.
-/

namespace EvoBlue.Source

open EvoBlue.Kernel

/-- `str.isalnum` of a character that is not ASCII; no blank is a letter or a digit. -/
structure WordTable where
  alnum : CodePoint → Bool
  blank : ∀ c, isSpace c = true → alnum c = false

/-- A letter or a digit. -/
def WordTable.isAlnum (table : WordTable) (c : CodePoint) : Bool :=
  if isAscii c then isDigit c || isAlpha c else table.alnum c

/-- `\w` in a pattern. -/
def WordTable.isWord (table : WordTable) (c : CodePoint) : Bool := table.isAlnum c || c = cp '_'

/-- `_TOKEN.search`. -/
def hasToken (table : WordTable) (t : Text) : Bool := t.any fun c => table.isWord c || isCjk c

/-- `str.split()`. -/
def splitWords (t : Text) : List Text := runs isSpace t

/-- The pieces of a word that have something to search for. -/
def wordTokens (table : WordTable) (word : Text) : List Text :=
  ((normalizeForFts word).splitOn (cp ' ')).filter (hasToken table)

/-- One word as a quoted phrase. -/
def wordPhrase (table : WordTable) (word : Text) : Option Text :=
  if wordTokens table word = [] then none
  else some (cp '"' ::
    replaceAll (text "\"") (text "\"\"") ([cp ' '].intercalate (wordTokens table word)) ++ [cp '"'])

/-- `build_match_query`; `none` is its `QueryInvalidError`. -/
def buildMatchQuery (table : WordTable) (query : Text) : Option Text :=
  let phrases := (splitWords query).filterMap (wordPhrase table)
  if phrases = [] then none else some ((text " AND ").intercalate phrases)

/-- The second expression of `search`. -/
def orQuery (matchQuery : Text) : Text := replaceAll (text " AND ") (text " OR ") matchQuery

/-! ## Hits -/

/-- The columns of an index row under their names, in the order of `_FTS_FIELD_INDEX`. -/
def ftsFields (texts : FtsTexts) : List (String × Text) :=
  [("title", texts.title), ("tags", texts.tags), ("author", texts.author),
    ("summary", texts.summary), ("transcript", texts.transcript), ("url", texts.url)]

section

variable {τ : Type} [DecidableEq τ] (tokens : Text → List τ)

/-- `report_fts MATCH :match`. -/
def IsHit (matchQuery : Text) (texts : FtsTexts) : Prop :=
  RowMatches tokens matchQuery ((ftsFields texts).map (·.2))

instance (matchQuery : Text) (texts : FtsTexts) : Decidable (IsHit tokens matchQuery texts) :=
  inferInstanceAs (Decidable (RowMatches tokens matchQuery _))

/-- The fields of a row that match on their own. -/
def matchedFields (anyQuery : Text) (texts : FtsTexts) : List String :=
  ((ftsFields texts).filter fun field => ColumnMatches tokens anyQuery field.2).map (·.1)

end

/-! ## The normalized text -/

/-- Blanks around every CJK character. -/
def spaced (t : Text) : Text := t.flatMap fun c => if isCjk c then [cp ' ', c, cp ' '] else [c]

theorem isSpace_blank : isSpace (cp ' ') = true := by decide

/-- The runs of a text with single blanks between. -/
def spelledOut (t : Text) : Text := [cp ' '].intercalate (runs isSpace t)

/-- A blank that stands between two runs. -/
def gap (t : Text) : Text :=
  if (t.head?.map isSpace).getD false && !(runs isSpace t).isEmpty then [cp ' '] else []

theorem spelledOut_eq_nil {t : Text} : spelledOut t = [] ↔ runs isSpace t = [] := by
  unfold spelledOut
  cases some_ : runs isSpace t with
  | nil => simp
  | cons run others =>
    have filled : run ≠ [] := by
      apply (@mem_runs _ isSpace t run _).1
      rw [some_]
      exact List.mem_cons_self
    cases others with
    | nil => simpa using filled
    | cons next others => simp [List.intercalate_cons_cons]

theorem gap_visible {d : CodePoint} (visible : isSpace d = false) (t : Text) : gap (d :: t) = [] := by
  simp [gap, visible]

theorem gap_blank {d : CodePoint} (blank : isSpace d = true) (t : Text) :
    gap (d :: t) = if runs isSpace t = [] then [] else [cp ' '] := by
  have same := runs_cons_end t blank
  by_cases none : runs isSpace t = [] <;> simp [gap, blank, same, none]

theorem spelledOut_blank {d : CodePoint} (blank : isSpace d = true) (t : Text) :
    spelledOut (d :: t) = spelledOut t := by
  unfold spelledOut
  rw [runs_cons_end t blank]

theorem spelledOut_visible {c : CodePoint} (visible : isSpace c = false) (t : Text) :
    spelledOut (c :: t) = c :: (gap t ++ spelledOut t) := by
  have runs_ := runs_cons_clean visible t
  cases t with
  | nil =>
    unfold spelledOut
    rw [runs_]
    rfl
  | cons d t =>
    dsimp only at runs_
    cases blank : isSpace d with
    | true =>
      rw [blank, if_pos rfl, runs_cons_end t blank] at runs_
      rw [gap_blank blank, spelledOut_blank blank]
      unfold spelledOut
      rw [runs_]
      cases runs isSpace t with
      | nil => simp
      | cons run others => simp [List.intercalate_cons_cons]
    | false =>
      obtain ⟨run, others, split⟩ := runs_head blank t
      rw [blank, if_neg Bool.false_ne_true] at runs_
      rw [gap_visible blank, List.nil_append]
      unfold spelledOut
      rw [runs_, split]
      cases others with
      | nil => simp
      | cons next others => simp [List.intercalate_cons_cons]

theorem rdropWhile_cons_visible {c : CodePoint} (visible : isSpace c = false) (rest : Text) :
    (c :: rest).rdropWhile isSpace = c :: rest.rdropWhile isSpace := by
  unfold List.rdropWhile
  rw [List.reverse_cons, List.dropWhile_append]
  split
  next none =>
    rw [List.isEmpty_iff] at none
    rw [none, List.dropWhile_cons_of_neg (by simpa using visible)]
    rfl
  next => simp

theorem rdropWhile_cons_blank (rest : Text) :
    (cp ' ' :: rest).rdropWhile isSpace =
      (if (rest.rdropWhile isSpace).isEmpty then [] else [cp ' ']) ++ rest.rdropWhile isSpace := by
  unfold List.rdropWhile
  rw [List.reverse_cons, List.dropWhile_append]
  by_cases none : (rest.reverse.dropWhile isSpace).isEmpty = true
  · rw [if_pos none, if_pos (by simpa using none), List.dropWhile_cons_of_pos isSpace_blank]
    rw [List.isEmpty_iff] at none
    rw [none]
    rfl
  · rw [if_neg none, if_neg (by simpa using none)]
    simp

/-- Blanks collapsed and stripped at the end. -/
theorem collapse_spelledOut (t : Text) :
    (collapseSpace true t).rdropWhile isSpace = spelledOut t ∧
      (collapseSpace false t).rdropWhile isSpace = gap t ++ spelledOut t := by
  induction t with
  | nil => exact ⟨rfl, rfl⟩
  | cons c t ih =>
    rw [collapseSpace, collapseSpace]
    by_cases blank : isSpace c = true
    · rw [if_pos blank, if_pos rfl, if_pos blank, if_neg Bool.false_ne_true, spelledOut_blank blank,
        gap_blank blank, rdropWhile_cons_blank, ih.1]
      refine ⟨rfl, ?_⟩
      congr 1
      by_cases none : runs isSpace t = []
      · rw [if_pos none, spelledOut_eq_nil.2 none]
        rfl
      · rw [if_neg none, if_neg]
        rw [List.isEmpty_iff]
        exact mt spelledOut_eq_nil.1 none
    · have visible : isSpace c = false := Bool.not_eq_true _ ▸ blank
      rw [if_neg blank, if_neg blank, rdropWhile_cons_visible visible, ih.2, gap_visible visible,
        spelledOut_visible visible]
      exact ⟨rfl, rfl⟩

theorem dropWhile_collapse (t : Text) :
    (collapseSpace true t).dropWhile isSpace = collapseSpace true t := by
  induction t with
  | nil => rfl
  | cons c t ih =>
    rw [collapseSpace]
    by_cases blank : isSpace c = true
    · rw [if_pos blank, if_pos rfl, ih]
    · rw [if_neg blank, List.dropWhile_cons_of_neg blank]

/-- A normalized text is its runs with single blanks between. -/
theorem normalizeForFts_eq (t : Text) : normalizeForFts t = spelledOut (spaced t) := by
  show strip (collapseSpace false (spaced t)) = spelledOut (spaced t)
  unfold strip
  generalize spaced t = t
  cases t with
  | nil => rfl
  | cons c t =>
    by_cases blank : isSpace c = true
    · rw [collapseSpace, if_pos blank, if_neg Bool.false_ne_true,
        List.dropWhile_cons_of_pos isSpace_blank, spelledOut_blank blank, dropWhile_collapse,
        (collapse_spelledOut t).1]
    · have visible : isSpace c = false := Bool.not_eq_true _ ▸ blank
      have whole := (collapse_spelledOut (c :: t)).2
      rw [gap_visible visible, List.nil_append] at whole
      rw [← whole, collapseSpace, if_neg blank, List.dropWhile_cons_of_neg blank]

/-! ## Phrases -/

/-- The pieces of a word that have something to search for, before they are joined. -/
def keptPieces (table : WordTable) (word : Text) : List Text :=
  (runs isSpace (spaced word)).filter (hasToken table)

/-- The phrases of a query, one for each word that has something to search for. -/
def searchPhrases (table : WordTable) (query : Text) : List Text :=
  (splitWords query).filterMap fun word =>
    if keptPieces table word = [] then none else some ([cp ' '].intercalate (keptPieces table word))

theorem wordTokens_eq (table : WordTable) (word : Text) : wordTokens table word = keptPieces table word := by
  unfold wordTokens keptPieces
  rw [normalizeForFts_eq]
  by_cases none : runs isSpace (spaced word) = []
  · rw [spelledOut_eq_nil.2 none, none]
    rfl
  · unfold spelledOut
    rw [List.splitOn_intercalate _ _ none]
    intro piece mem inside
    have clean := (mem_runs mem).2 _ inside
    rw [isSpace_blank] at clean
    cases clean

theorem wordPhrase_eq (table : WordTable) (word : Text) :
    wordPhrase table word =
      (if keptPieces table word = [] then none
        else some ([cp ' '].intercalate (keptPieces table word))).map quoted := by
  have one : text "\"" = [cp '"'] := by decide
  have two : text "\"\"" = [cp '"', cp '"'] := by decide
  unfold wordPhrase
  rw [wordTokens_eq, one, two, replaceAll_doubled]
  split
  · rfl
  · rfl

/-- The match query is the conjunction of the phrases. -/
theorem buildMatchQuery_eq (table : WordTable) (query : Text) :
    buildMatchQuery table query =
      if searchPhrases table query = [] then none
      else some (joined " AND " (searchPhrases table query)) := by
  have phrases : (splitWords query).filterMap (wordPhrase table) =
      (searchPhrases table query).map quoted := by
    unfold searchPhrases
    rw [List.map_filterMap]
    exact List.filterMap_congr fun word _ => wordPhrase_eq table word
  unfold buildMatchQuery joined
  rw [phrases]
  simp only [List.map_eq_nil_iff]

/-- The second expression is the disjunction of the phrases, each with its own operator replaced. -/
theorem orQuery_joined (phrases : List Text) :
    orQuery (joined " AND " phrases) =
      joined " OR " (phrases.map (replaceAll (text " AND ") (text " OR "))) := by
  have some_ : text " AND " ≠ [] := by decide
  have oldFree : cp '"' ∉ text " AND " := by decide
  have newFree : cp '"' ∉ text " OR " := by decide
  have phrase (phrase rest : Text) :
      replaceAll (text " AND ") (text " OR ") (quoted phrase ++ rest) =
        quoted (replaceAll (text " AND ") (text " OR ") phrase) ++
          replaceAll (text " AND ") (text " OR ") rest := by
    have opening := @replaceAll_before _ _ (text " OR ") _ (cp '"') oldFree some_ []
      (doubled (cp '"') phrase ++ cp '"' :: rest)
    have closing := @replaceAll_before _ _ (text " OR ") _ (cp '"') oldFree some_
      (doubled (cp '"') phrase) rest
    unfold quoted
    rw [List.append_assoc, List.cons_append, List.singleton_append]
    rw [List.nil_append, closing, replaceAll_of_doubled oldFree newFree some_] at opening
    rw [opening]
    simp [replaceAll, replaceFrom]
  unfold orQuery joined
  induction phrases with
  | nil => rfl
  | cons first phrases ih =>
    cases phrases with
    | nil =>
      have alone := phrase first []
      rw [List.append_nil] at alone
      simpa [replaceAll, replaceFrom] using alone
    | cons next phrases =>
      simp only [List.map_cons, List.intercalate_cons_cons, List.append_assoc] at ih ⊢
      rw [phrase, replaceAll_start some_, ih]

end EvoBlue.Source
