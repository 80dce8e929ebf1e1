import EvoBlue.Kernel.Replacing

/-!
# Full-text queries

The fragment of a full-text query language whose expressions are quoted phrases joined by
AND and OR. A phrase matches a column when its tokens stand in the column's, one after the
other; what the tokens of a text are is a parameter.
-/

namespace EvoBlue.Kernel

/-! ## Runs -/

section

variable {α : Type} {ends finer : α → Bool}

/-- The maximal runs of elements that end no run. -/
def runs (ends : α → Bool) (whole : List α) : List (List α) :=
  (whole.splitOnP ends).filter fun run => !run.isEmpty

theorem runs_nil (ends : α → Bool) : runs ends [] = [] := rfl

theorem runs_append_end (front rest : List α) {c : α} (ended : ends c = true) :
    runs ends (front ++ c :: rest) = runs ends front ++ runs ends rest := by
  unfold runs
  rw [List.splitOnP_append_cons front rest ended, List.filter_append]

theorem runs_cons_end (rest : List α) {c : α} (ended : ends c = true) :
    runs ends (c :: rest) = runs ends rest := runs_append_end [] rest ended

theorem runs_of_clean {run : List α} (some_ : run ≠ []) (clean : ∀ c ∈ run, ends c = false) :
    runs ends run = [run] := by
  unfold runs
  rw [List.splitOnP_eq_singleton clean, List.filter_cons, if_pos (by simpa using some_)]
  rfl

theorem runs_of_ends {whole : List α} (all : ∀ c ∈ whole, ends c = true) : runs ends whole = [] := by
  induction whole with
  | nil => rfl
  | cons c rest ih =>
    rw [runs_cons_end rest (all c List.mem_cons_self)]
    exact ih fun d mem => all d (List.mem_cons_of_mem _ mem)

theorem mem_runs {whole run : List α} (mem : run ∈ runs ends whole) :
    run ≠ [] ∧ ∀ c ∈ run, ends c = false := by
  unfold runs at mem
  rw [List.mem_filter] at mem
  constructor
  · simpa using mem.2
  · have pieces := mem.1
    clear mem
    induction whole generalizing run with
    | nil =>
      rw [List.splitOnP_nil, List.mem_singleton] at pieces
      rw [pieces]
      intro c inside
      cases inside
    | cons d rest ih =>
      rw [List.splitOnP_cons_eq_if_modifyHead] at pieces
      split at pieces
      next =>
        rcases List.mem_cons.1 pieces with rfl | later
        · intro c inside
          cases inside
        · exact ih later
      next open_ =>
        obtain ⟨first, others, split⟩ : ∃ first others, rest.splitOnP ends = first :: others :=
          List.exists_cons_of_ne_nil (List.splitOnP_ne_nil _ _)
        rw [split] at ih pieces
        rcases List.mem_cons.1 pieces with rfl | later
        · intro c inside
          rcases List.mem_cons.1 inside with rfl | more
          · exact Bool.not_eq_true _ ▸ open_
          · exact ih List.mem_cons_self c more
        · exact ih (List.mem_cons_of_mem _ later)

/-- The first run begins with the first element, if that ends no run. -/
theorem runs_head {c : α} (clean : ends c = false) (rest : List α) :
    ∃ run others, runs ends (c :: rest) = (c :: run) :: others := by
  obtain ⟨first, others, split⟩ : ∃ first others, rest.splitOnP ends = first :: others :=
    List.exists_cons_of_ne_nil (List.splitOnP_ne_nil _ _)
  unfold runs
  rw [List.splitOnP_cons_eq_if_modifyHead, clean, if_neg Bool.false_ne_true, split]
  exact ⟨first, _, rfl⟩

/-- An element that ends no run begins one, or goes on with the one behind it. -/
theorem runs_cons_clean {c : α} (clean : ends c = false) (rest : List α) :
    runs ends (c :: rest) =
      match rest with
      | [] => [[c]]
      | d :: _ => if ends d then [c] :: runs ends rest else (runs ends rest).modifyHead (c :: ·) := by
  cases rest with
  | nil => exact runs_of_clean (List.cons_ne_nil c []) (by simpa using clean)
  | cons d rest =>
    dsimp only
    by_cases ended : ends d = true
    · rw [if_pos ended]
      have alone : runs ends [c] = [[c]] :=
        runs_of_clean (List.cons_ne_nil c []) (by simpa using clean)
      have split := runs_append_end [c] rest ended
      rw [alone] at split
      rw [runs_cons_end rest ended]
      exact split
    · rw [if_neg ended]
      obtain ⟨first, others, split⟩ : ∃ first others, rest.splitOnP ends = first :: others :=
        List.exists_cons_of_ne_nil (List.splitOnP_ne_nil _ _)
      unfold runs
      rw [List.splitOnP_cons_eq_if_modifyHead, List.splitOnP_cons_eq_if_modifyHead, clean,
        if_neg Bool.false_ne_true, if_neg ended, split]
      rfl

/-- The first run, and the runs behind it. -/
theorem runs_span {c : α} (clean : ends c = false) (rest : List α) :
    runs ends (c :: rest) = (c :: rest).takeWhile (fun d => !ends d) ::
      runs ends ((c :: rest).dropWhile fun d => !ends d) := by
  have whole := @List.takeWhile_append_dropWhile _ (fun d => !ends d) (c :: rest)
  have free : ∀ d ∈ (c :: rest).takeWhile (fun d => !ends d), ends d = false := by
    intro d mem
    simpa using List.mem_takeWhile_imp mem
  have some_ : (c :: rest).takeWhile (fun d => !ends d) ≠ [] := by
    rw [List.takeWhile_cons_of_pos (by simpa using clean)]
    exact List.cons_ne_nil _ _
  have first := List.head?_dropWhile_not (fun d => !ends d) (c :: rest)
  generalize (c :: rest).takeWhile (fun d => !ends d) = front at *
  generalize (c :: rest).dropWhile (fun d => !ends d) = back at *
  rw [← whole]
  cases back with
  | nil => rw [List.append_nil, runs_of_clean some_ free, runs_nil]
  | cons d back =>
    have ended : ends d = true := by simpa using first
    rw [runs_append_end _ _ ended, runs_of_clean some_ free, runs_cons_end _ ended]
    rfl

/-- A run stands in the whole. -/
theorem infix_of_mem_runs {run whole : List α} (mem : run ∈ runs ends whole) : run <:+: whole := by
  have bounded : ∀ n, ∀ whole : List α, whole.length ≤ n → ∀ run ∈ runs ends whole, run <:+: whole := by
    intro n
    induction n with
    | zero =>
      intro whole short run mem
      rw [List.length_eq_zero_iff.1 (Nat.le_zero.1 short)] at mem
      cases mem
    | succ n ih =>
      intro whole short run mem
      cases whole with
      | nil => cases mem
      | cons c rest =>
        rw [List.length_cons] at short
        cases ended : ends c with
        | true =>
          rw [runs_cons_end rest ended] at mem
          exact (ih rest (by omega) run mem).trans (List.suffix_cons c rest).isInfix
        | false =>
          rw [runs_span ended] at mem
          rcases List.mem_cons.1 mem with rfl | later
          · exact (List.takeWhile_prefix _).isInfix
          · have clean : (!ends c) = true := by rw [ended]; rfl
            have fewer : ((c :: rest).dropWhile fun d => !ends d).length ≤ n := by
              have suffix_ := (List.dropWhile_suffix fun d => !ends d : rest.dropWhile _ <:+ rest).length_le
              have same : ((c :: rest).dropWhile fun d => !ends d) = rest.dropWhile fun d => !ends d := by
                simp [clean]
              rw [same]
              omega
            exact (ih _ fewer run later).trans (List.dropWhile_suffix _).isInfix
  exact bounded whole.length whole (Nat.le_refl _) run mem

/-- What stands in the whole and ends no run stands in a run. -/
theorem mem_runs_of_infix {part whole : List α} (some_ : part ≠ [])
    (clean : ∀ c ∈ part, ends c = false) (inside : part <:+: whole) :
    ∃ run ∈ runs ends whole, part <:+: run := by
  induction whole with
  | nil => exact absurd (List.infix_nil.1 inside) some_
  | cons c rest ih =>
    rcases List.infix_cons_iff.1 inside with start | later
    · cases part with
      | nil => exact absurd rfl some_
      | cons d part =>
        obtain ⟨rfl, _⟩ := List.cons_prefix_cons.1 start
        obtain ⟨after, whole⟩ := start
        refine ⟨_, by rw [runs_span (clean d List.mem_cons_self)]; exact List.mem_cons_self, ?_⟩
        rw [← whole, List.takeWhile_append_of_pos fun e mem => by rw [clean e mem]; rfl]
        exact (List.prefix_append _ _).isInfix
    · obtain ⟨run, mem, there⟩ := ih later
      cases ended : ends c with
      | true =>
        rw [runs_cons_end rest ended]
        exact ⟨run, mem, there⟩
      | false =>
        rw [runs_cons_clean ended]
        cases rest with
        | nil => cases mem
        | cons d rest =>
          dsimp only
          split
          next => exact ⟨run, List.mem_cons_of_mem _ mem, there⟩
          next =>
            obtain ⟨first, others, split⟩ := List.exists_cons_of_ne_nil (List.ne_nil_of_mem mem)
            rw [split] at mem ⊢
            rcases List.mem_cons.1 mem with rfl | other
            · exact ⟨c :: run, List.mem_cons_self, there.trans (List.suffix_cons c run).isInfix⟩
            · exact ⟨run, List.mem_cons_of_mem _ other, there⟩

/-- What is told piece by piece is told run by run. -/
theorem flatMap_runs {β : Type} {told : List α → List β} (none : told [] = [])
    (apart : ∀ front c rest, ends c = true → told (front ++ c :: rest) = told front ++ told rest)
    (whole : List α) : told whole = (runs ends whole).flatMap told := by
  have dropped (pieces : List (List α)) :
      (pieces.filter fun run => !run.isEmpty).flatMap told = pieces.flatMap told := by
    induction pieces with
    | nil => rfl
    | cons piece pieces ih =>
      cases piece with
      | nil =>
        rw [List.flatMap_cons, none]
        exact ih
      | cons c piece =>
        have kept : ((c :: piece) :: pieces).filter (fun run => !run.isEmpty) =
            (c :: piece) :: pieces.filter fun run => !run.isEmpty := rfl
        rw [kept, List.flatMap_cons, ih, List.flatMap_cons]
  have pieces : ∀ before, (∀ c ∈ before, ends c = false) →
      told (before ++ whole) = ((whole.splitOnP ends).modifyHead (before ++ ·)).flatMap told := by
    induction whole with
    | nil =>
      intro before _
      simp [List.modifyHead]
    | cons c rest ih =>
      intro before clean
      rw [List.splitOnP_cons_eq_if_modifyHead]
      by_cases ended : ends c = true
      · have later := ih [] fun d mem => by cases mem
        have same : (rest.splitOnP ends).modifyHead (([] : List α) ++ ·) = rest.splitOnP ends := by
          obtain ⟨first, others, split⟩ : ∃ first others, rest.splitOnP ends = first :: others :=
            List.exists_cons_of_ne_nil (List.splitOnP_ne_nil _ _)
          rw [split]
          rfl
        rw [if_pos ended, apart before c rest ended]
        rw [List.nil_append, same] at later
        rw [later, List.modifyHead_cons, List.flatMap_cons, List.append_nil]
      · have later := ih (before ++ [c]) (by
          intro d mem
          rcases List.mem_append.1 mem with front | back
          · exact clean d front
          · rw [List.mem_singleton.1 back]
            exact Bool.not_eq_true _ ▸ ended)
        obtain ⟨first, others, split⟩ : ∃ first others, rest.splitOnP ends = first :: others :=
          List.exists_cons_of_ne_nil (List.splitOnP_ne_nil _ _)
        rw [if_neg ended, split]
        rw [split] at later
        simpa using later
  have all := pieces [] fun c mem => by cases mem
  have same : (whole.splitOnP ends).modifyHead (([] : List α) ++ ·) = whole.splitOnP ends := by
    obtain ⟨first, others, split⟩ : ∃ first others, whole.splitOnP ends = first :: others :=
      List.exists_cons_of_ne_nil (List.splitOnP_ne_nil _ _)
    rw [split]
    rfl
  unfold runs
  rw [dropped, ← same, ← all, List.nil_append]

/-- Runs are found within coarser ones. -/
theorem runs_finer (coarse : ∀ c, ends c = true → finer c = true) (whole : List α) :
    runs finer whole = (runs ends whole).flatMap (runs finer) :=
  flatMap_runs (runs_nil finer) (fun front c rest ended => runs_append_end front rest (coarse c ended)) whole

theorem runs_intercalate {sep : α} (ended : ends sep = true) (pieces : List (List α)) :
    runs ends ([sep].intercalate pieces) = pieces.flatMap (runs ends) := by
  induction pieces with
  | nil => rfl
  | cons piece pieces ih =>
    cases pieces with
    | nil => simp
    | cons next pieces =>
      rw [List.intercalate_cons_cons, List.append_assoc, List.singleton_append,
        runs_append_end _ _ ended, ih]
      simp

end

/-! ## Expressions -/

/-- A phrase between quotes, its own quotes doubled. -/
def quoted (phrase : Text) : Text :=
  cp '"' :: doubled (cp '"') phrase ++ [cp '"']

inductive Lexeme where
  | phrase (t : Text)
  | and
  | or
  deriving DecidableEq

/-- Where a reader stands in an expression. -/
inductive LexState where
  | between
  | word (read : Text)
  | phrase (read : Text)
  /-- A quote within a phrase: it ends it, or is doubled. -/
  | quote (read : Text)

def isQueryBlank (c : CodePoint) : Bool := c = cp ' ' || c = cp '\t' || c = cp '\n' || c = cp '\r'

def keyword (word : Text) : Option Lexeme :=
  if word = text "AND" then some .and else if word = text "OR" then some .or else none

/-- The lexemes of an expression; barewords other than the two operators are left out. -/
def lexemes : LexState → Text → Option (List Lexeme)
  | .between, [] => some []
  | .between, c :: rest =>
    if isQueryBlank c then lexemes .between rest
    else if c = cp '"' then lexemes (.phrase []) rest
    else lexemes (.word [c]) rest
  | .word word, [] => (keyword word).map fun found => [found]
  | .word word, c :: rest =>
    if isQueryBlank c then do
      let found ← keyword word
      return found :: (← lexemes .between rest)
    else if c = cp '"' then do
      let found ← keyword word
      return found :: (← lexemes (.phrase []) rest)
    else lexemes (.word (word ++ [c])) rest
  | .phrase _, [] => none
  | .phrase phrase, c :: rest =>
    if c = cp '"' then lexemes (.quote phrase) rest else lexemes (.phrase (phrase ++ [c])) rest
  | .quote phrase, [] => some [.phrase phrase]
  | .quote phrase, c :: rest =>
    if c = cp '"' then lexemes (.phrase (phrase ++ [c])) rest
    else if isQueryBlank c then (lexemes .between rest).map (.phrase phrase :: ·)
    else (lexemes (.word [c]) rest).map (.phrase phrase :: ·)

/-- A query: some conjunction of phrases is to hold. -/
abbrev Query := List (List Text)

/-- Conjunction binds tighter than disjunction. -/
def readLexemes : List Lexeme → Option Query
  | [.phrase phrase] => some [[phrase]]
  | .phrase phrase :: .and :: rest =>
    (readLexemes rest).map fun query =>
      match query with
      | [] => [[phrase]]
      | first :: others => (phrase :: first) :: others
  | .phrase phrase :: .or :: rest => (readLexemes rest).map ([phrase] :: ·)
  | _ => none

def readQuery (expression : Text) : Option Query := (lexemes .between expression).bind readLexemes

/-- Phrases joined by an operator. -/
def joined (operator : String) (phrases : List Text) : Text :=
  (text operator).intercalate (phrases.map quoted)

/-- The inside of a quoted phrase up to its closing quote. -/
theorem lexemes_inside (read phrase rest : Text) :
    lexemes (.phrase read) (doubled (cp '"') phrase ++ cp '"' :: rest) =
      lexemes (.quote (read ++ phrase)) rest := by
  unfold doubled
  induction phrase generalizing read with
  | nil => rw [List.flatMap_nil, List.nil_append, lexemes, if_pos rfl, List.append_nil]
  | cons c phrase ih =>
    have grown : read ++ c :: phrase = (read ++ [c]) ++ phrase := by simp
    by_cases quote : c = cp '"'
    · rw [List.flatMap_cons, if_pos quote, List.append_assoc, List.cons_append, lexemes, if_pos rfl,
        List.singleton_append, lexemes, if_pos rfl, ih, grown, quote]
    · rw [List.flatMap_cons, if_neg quote, List.append_assoc, List.singleton_append, lexemes,
        if_neg quote, ih, grown]

theorem lexemes_quoted (phrase rest : Text) :
    lexemes .between (quoted phrase ++ rest) = lexemes (.quote phrase) rest := by
  have opening : isQueryBlank (cp '"') = false := by decide
  unfold quoted
  rw [List.append_assoc, List.cons_append, List.singleton_append, lexemes, opening,
    if_neg Bool.false_ne_true, if_pos rfl, lexemes_inside, List.nil_append]

/-- A bareword goes on up to a blank. -/
theorem lexemes_word (read letters rest : Text)
    (plain : ∀ c ∈ letters, isQueryBlank c = false ∧ c ≠ cp '"') :
    lexemes (.word read) (letters ++ cp ' ' :: rest) =
      (keyword (read ++ letters)).bind fun found =>
        (lexemes .between rest).map fun later => found :: later := by
  have space : isQueryBlank (cp ' ') = true := by decide
  induction letters generalizing read with
  | nil =>
    rw [List.nil_append, lexemes, if_pos space, List.append_nil]
    cases keyword read with
    | none => rfl
    | some found => cases lexemes .between rest <;> rfl
  | cons c letters ih =>
    obtain ⟨blank, quote⟩ := plain c List.mem_cons_self
    rw [List.cons_append, lexemes, blank, if_neg Bool.false_ne_true, if_neg quote,
      ih (read ++ [c]) fun d mem => plain d (List.mem_cons_of_mem _ mem), List.append_assoc,
      List.singleton_append]

/-- A phrase, an operator between blanks, and what follows. -/
theorem lexemes_operator {operator : String} {c : CodePoint} {letters : Text} {found : Lexeme}
    (spelled : text operator = cp ' ' :: c :: (letters ++ [cp ' ']))
    (plain : (c :: letters).all (fun d => isQueryBlank d = false ∧ d ≠ cp '"') = true)
    (known : keyword (c :: letters) = some found) (phrase rest : Text) :
    lexemes .between (quoted phrase ++ (text operator ++ rest)) =
      (lexemes .between rest).map fun later => .phrase phrase :: found :: later := by
  have space : isQueryBlank (cp ' ') = true := by decide
  have apart : cp ' ' ≠ cp '"' := by decide
  rw [List.all_eq_true] at plain
  have clean := fun d mem => of_decide_eq_true (plain d mem)
  obtain ⟨blank, quote⟩ := clean c List.mem_cons_self
  rw [lexemes_quoted, spelled]
  simp only [List.cons_append, List.append_assoc, List.nil_append]
  rw [lexemes, if_neg apart, if_pos space, lexemes, blank, if_neg Bool.false_ne_true, if_neg quote,
    lexemes_word [c] letters rest fun d mem => clean d (List.mem_cons_of_mem _ mem),
    List.singleton_append, known, Option.bind_some, Option.map_map]
  rfl

theorem lexemes_and (phrase rest : Text) :
    lexemes .between (quoted phrase ++ (text " AND " ++ rest)) =
      (lexemes .between rest).map fun later => .phrase phrase :: .and :: later :=
  @lexemes_operator " AND " (cp 'A') [cp 'N', cp 'D'] .and (by decide) (by decide) (by decide) phrase rest

theorem lexemes_or (phrase rest : Text) :
    lexemes .between (quoted phrase ++ (text " OR " ++ rest)) =
      (lexemes .between rest).map fun later => .phrase phrase :: .or :: later :=
  @lexemes_operator " OR " (cp 'O') [cp 'R'] .or (by decide) (by decide) (by decide) phrase rest

theorem readQuery_phrase (phrase : Text) : readQuery (quoted phrase) = some [[phrase]] := by
  have read := lexemes_quoted phrase []
  rw [List.append_nil] at read
  unfold readQuery
  rw [read]
  rfl

/-- Phrases joined by AND are read as their conjunction. -/
theorem readQuery_and {phrases : List Text} (some_ : phrases ≠ []) :
    readQuery (joined " AND " phrases) = some [phrases] := by
  unfold joined
  induction phrases with
  | nil => exact absurd rfl some_
  | cons phrase phrases ih =>
    cases phrases with
    | nil =>
      rw [List.map_singleton, List.intercalate_singleton]
      exact readQuery_phrase phrase
    | cons next phrases =>
      have later := ih (List.cons_ne_nil _ _)
      unfold readQuery at later ⊢
      obtain ⟨found, lexed, read⟩ := Option.bind_eq_some_iff.1 later
      rw [List.map_cons, List.map_cons, List.intercalate_cons_cons, List.append_assoc, lexemes_and,
        ← List.map_cons, lexed, Option.map_some, Option.bind_some]
      unfold readLexemes
      rw [read]
      rfl

/-- Phrases joined by OR are read as their disjunction. -/
theorem readQuery_or {phrases : List Text} (some_ : phrases ≠ []) :
    readQuery (joined " OR " phrases) = some (phrases.map fun phrase => [phrase]) := by
  unfold joined
  induction phrases with
  | nil => exact absurd rfl some_
  | cons phrase phrases ih =>
    cases phrases with
    | nil =>
      rw [List.map_singleton, List.intercalate_singleton]
      exact readQuery_phrase phrase
    | cons next phrases =>
      have later := ih (List.cons_ne_nil _ _)
      unfold readQuery at later ⊢
      obtain ⟨found, lexed, read⟩ := Option.bind_eq_some_iff.1 later
      rw [List.map_cons, List.map_cons, List.intercalate_cons_cons, List.append_assoc, lexemes_or,
        ← List.map_cons, lexed, Option.map_some, Option.bind_some]
      unfold readLexemes
      rw [read]
      rfl

/-! ## Matches -/

section

variable {τ : Type} (tokens : Text → List τ)

/-- The tokens of the phrase stand in the column, one after the other; no tokens match nothing. -/
def PhraseMatches (phrase column : Text) : Prop :=
  tokens phrase ≠ [] ∧ tokens phrase <:+: tokens column

/-- The phrases of a conjunction may match in different columns. -/
def RowMatches (expression : Text) (columns : List Text) : Prop :=
  ∃ query ∈ readQuery expression, ∃ phrases ∈ query,
    ∀ phrase ∈ phrases, ∃ column ∈ columns, PhraseMatches tokens phrase column

/-- The expression restricted to one column. -/
def ColumnMatches (expression column : Text) : Prop := RowMatches tokens expression [column]

/-- A phrase alone. -/
theorem columnMatches_phrase (phrase column : Text) :
    ColumnMatches tokens (quoted phrase) column ↔ PhraseMatches tokens phrase column := by
  constructor
  · rintro ⟨query, mem, conjunction, there, all⟩
    rw [readQuery_phrase] at mem
    obtain rfl : [[phrase]] = query := Option.some.inj mem
    rw [List.mem_singleton] at there
    subst there
    obtain ⟨other, only, found⟩ := all phrase List.mem_cons_self
    rwa [List.mem_singleton.1 only] at found
  · intro found
    refine ⟨_, readQuery_phrase phrase, _, List.mem_cons_self, ?_⟩
    intro other only
    rw [List.mem_singleton.1 only]
    exact ⟨column, List.mem_singleton_self _, found⟩

variable [DecidableEq τ]

instance (phrase column : Text) : Decidable (PhraseMatches tokens phrase column) :=
  inferInstanceAs (Decidable (_ ∧ _))

instance (expression : Text) (columns : List Text) :
    Decidable (RowMatches tokens expression columns) := by
  unfold RowMatches
  infer_instance

instance (expression column : Text) : Decidable (ColumnMatches tokens expression column) :=
  inferInstanceAs (Decidable (RowMatches tokens expression [column]))

end

end EvoBlue.Kernel
