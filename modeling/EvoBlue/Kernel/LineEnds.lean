import EvoBlue.Kernel.Text

/-!
# Line ends and blanks

Carriage returns, alone or before a line feed, become line feeds. What that leaves of a
text between two line feeds can be told part by part. The weight of a text is what it
holds besides blanks: stripping, splitting and new line ends keep it.
-/

namespace EvoBlue.Kernel

/-! ## Line feeds alone -/

/-- Every line end of the text as a line feed. -/
def unixLines : Text → Text
  | [] => []
  | c :: rest =>
    if c = cp '\r' then
      if rest.head? = some (cp '\n') then unixLines rest else cp '\n' :: unixLines rest
    else c :: unixLines rest

/-- The same before a line feed: a carriage return at the end is a part of that. -/
def unixBlock : Text → Text
  | [] => []
  | c :: rest =>
    if c = cp '\r' then
      if rest.head? = some (cp '\n') ∨ rest = [] then unixBlock rest
      else cp '\n' :: unixBlock rest
    else c :: unixBlock rest

theorem replaceAll_unix (t : Text) :
    replaceAll (text "\r") (text "\n") (replaceAll (text "\r\n") (text "\n") t) = unixLines t := by
  have carriage : text "\r" = [cp '\r'] := by decide
  have feed : text "\n" = [cp '\n'] := by decide
  have pair : text "\r\n" = [cp '\r', cp '\n'] := by decide
  have apart : cp '\n' ≠ cp '\r' := by decide
  rw [carriage, feed, pair]
  unfold replaceAll
  induction t with
  | nil => rfl
  | cons c rest ih =>
    rw [unixLines]
    by_cases ends : c = cp '\r'
    · subst ends
      rw [if_pos rfl]
      cases rest with
      | nil => rfl
      | cons d rest =>
        by_cases both : d = cp '\n'
        · subst both
          have start : [cp '\r', cp '\n'] <+: cp '\r' :: cp '\n' :: rest := ⟨rest, rfl⟩
          have elsewhere : ¬ [cp '\r', cp '\n'] <+: cp '\n' :: rest := by
            intro here
            exact apart (List.cons_prefix_cons.1 here).1.symm
          rw [replaceFrom, if_neg elsewhere] at ih
          rw [List.head?_cons, if_pos rfl, replaceFrom, if_pos start, ← ih]
          rfl
        · have elsewhere : ¬ [cp '\r', cp '\n'] <+: cp '\r' :: d :: rest := by
            intro here
            exact both (List.cons_prefix_cons.1 (List.cons_prefix_cons.1 here).2).1.symm
          have alone : [cp '\r'] <+: cp '\r' :: replaceFrom [cp '\r', cp '\n'] [cp '\n'] 0 (d :: rest) :=
            ⟨_, rfl⟩
          have other : (d :: rest).head? ≠ some (cp '\n') := by
            rw [List.head?_cons, Ne, Option.some.injEq]
            exact both
          rw [if_neg other, replaceFrom, if_neg elsewhere, replaceFrom, if_pos alone, ← ih]
          rfl
    · have elsewhere : ¬ [cp '\r', cp '\n'] <+: c :: rest := by
        intro here
        exact ends (List.cons_prefix_cons.1 here).1.symm
      have other : ¬ [cp '\r'] <+: c :: replaceFrom [cp '\r', cp '\n'] [cp '\n'] 0 rest := by
        intro here
        exact ends (List.cons_prefix_cons.1 here).1.symm
      rw [if_neg ends, replaceFrom, if_neg elsewhere, replaceFrom, if_neg other, ih]

/-! ## Part by part -/

variable {front rest : Text}

theorem unixLines_break (front rest : Text) :
    unixLines (front ++ cp '\n' :: rest) = unixBlock front ++ cp '\n' :: unixLines rest := by
  have apart : cp '\n' ≠ cp '\r' := by decide
  induction front with
  | nil =>
    show unixLines (cp '\n' :: rest) = cp '\n' :: unixLines rest
    rw [unixLines, if_neg apart]
  | cons c front ih =>
    rw [List.cons_append, unixLines, unixBlock]
    cases front with
    | nil =>
      rw [List.nil_append] at ih ⊢
      split
      next => simpa using ih
      next =>
        rw [ih]
        rfl
    | cons d front =>
      have whole : (d :: front ++ cp '\n' :: rest).head? = some (cp '\n') ↔ d = cp '\n' := by simp
      have own : (d :: front).head? = some (cp '\n') ∨ d :: front = [] ↔ d = cp '\n' := by simp
      by_cases ends : c = cp '\r'
      · rw [if_pos ends, if_pos ends]
        by_cases both : d = cp '\n'
        · rw [if_pos (whole.2 both), if_pos (own.2 both)]
          exact ih
        · rw [if_neg (mt whole.1 both), if_neg (mt own.1 both), ih]
          rfl
      · rw [if_neg ends, if_neg ends, ih]
        rfl

theorem unixBlock_break (front rest : Text) :
    unixBlock (front ++ cp '\n' :: rest) = unixBlock front ++ cp '\n' :: unixBlock rest := by
  have apart : cp '\n' ≠ cp '\r' := by decide
  induction front with
  | nil =>
    show unixBlock (cp '\n' :: rest) = cp '\n' :: unixBlock rest
    rw [unixBlock, if_neg apart]
  | cons c front ih =>
    rw [List.cons_append, unixBlock, unixBlock]
    cases front with
    | nil =>
      rw [List.nil_append] at ih ⊢
      split
      next => simpa using ih
      next =>
        rw [ih]
        rfl
    | cons d front =>
      have whole : (d :: front ++ cp '\n' :: rest).head? = some (cp '\n') ∨
          d :: front ++ cp '\n' :: rest = [] ↔ d = cp '\n' := by simp
      have own : (d :: front).head? = some (cp '\n') ∨ d :: front = [] ↔ d = cp '\n' := by simp
      by_cases ends : c = cp '\r'
      · rw [if_pos ends, if_pos ends]
        by_cases both : d = cp '\n'
        · rw [if_pos (whole.2 both), if_pos (own.2 both)]
          exact ih
        · rw [if_neg (mt whole.1 both), if_neg (mt own.1 both), ih]
          rfl
      · rw [if_neg ends, if_neg ends, ih]
        rfl

theorem unixBlock_plain (clean : cp '\r' ∉ front) (rest : Text) :
    unixBlock (front ++ rest) = front ++ unixBlock rest := by
  induction front with
  | nil => rfl
  | cons c front ih =>
    rw [List.mem_cons, not_or] at clean
    rw [List.cons_append, unixBlock, if_neg (Ne.symm clean.1), ih clean.2, List.cons_append]

theorem unixLines_plain (clean : cp '\r' ∉ front) (rest : Text) :
    unixLines (front ++ rest) = front ++ unixLines rest := by
  induction front with
  | nil => rfl
  | cons c front ih =>
    rw [List.mem_cons, not_or] at clean
    rw [List.cons_append, unixLines, if_neg (Ne.symm clean.1), ih clean.2, List.cons_append]

/-- Both differ in a line feed at the end, if at all. -/
theorem unixLines_eq (t : Text) : unixLines t = unixBlock t ∨ unixLines t = unixBlock t ++ [cp '\n'] := by
  induction t with
  | nil => exact .inl rfl
  | cons c rest ih =>
    rw [unixLines, unixBlock]
    by_cases ends : c = cp '\r'
    · rw [if_pos ends, if_pos ends]
      by_cases both : rest.head? = some (cp '\n')
      · rw [if_pos both, if_pos (.inl both)]
        exact ih
      · cases rest with
        | nil => exact .inr rfl
        | cons d rest =>
          rw [if_neg both, if_neg (by simpa using both)]
          rcases ih with same | more
          · exact .inl (by rw [same])
          · exact .inr (by rw [more]; rfl)
    · rw [if_neg ends, if_neg ends]
      rcases ih with same | more
      · exact .inl (by rw [same])
      · exact .inr (by rw [more]; rfl)

theorem unixBlock_noCarriage (t : Text) : cp '\r' ∉ unixBlock t := by
  have apart : cp '\r' ≠ cp '\n' := by decide
  induction t with
  | nil => exact List.not_mem_nil
  | cons c rest ih =>
    rw [unixBlock]
    split
    next =>
      split
      next => exact ih
      next =>
        rw [List.mem_cons, not_or]
        exact ⟨apart, ih⟩
    next other =>
      rw [List.mem_cons, not_or]
      exact ⟨fun same => other same.symm, ih⟩

theorem unixBlock_intercalate (parts : List Text) :
    unixBlock ([cp '\n'].intercalate parts) = [cp '\n'].intercalate (parts.map unixBlock) := by
  induction parts with
  | nil => rfl
  | cons part parts ih =>
    cases parts with
    | nil => simp
    | cons next parts =>
      simp only [List.map_cons, List.intercalate_cons_cons, List.append_assoc, List.singleton_append]
        at ih ⊢
      rw [unixBlock_break, ih]

/-! ## Blanks -/

/-- A text of blanks alone. -/
def blank (t : Text) : Bool := t.all isSpace

/-- Blanks around a text are stripped with its own. -/
theorem strip_between {before after : Text} (front : blank before = true) (back : blank after = true)
    (t : Text) : strip (before ++ t ++ after) = strip t := by
  unfold blank at front back
  rw [List.all_eq_true] at front back
  unfold strip
  rw [List.append_assoc, List.dropWhile_append_of_pos front]
  by_cases empty : t.dropWhile isSpace = []
  · rw [List.dropWhile_append, empty, List.isEmpty_nil, if_pos rfl, List.dropWhile_eq_nil_iff.2 back]
  · rw [List.dropWhile_append, if_neg (by simpa using empty), List.rdropWhile, List.reverse_append,
      List.dropWhile_append_of_pos fun c mem => back c (List.mem_reverse.1 mem)]
    rfl

theorem strip_unixLines (t : Text) : strip (unixLines t) = strip (unixBlock t) := by
  have feed : blank [cp '\n'] = true := by decide
  rcases unixLines_eq t with same | more
  · rw [same]
  · rw [more]
    exact @strip_between [] _ rfl feed (unixBlock t)

/-! ## Weight -/

/-- How many code points of a text are no blanks. -/
def weight (t : Text) : Nat := t.countP fun c => !isSpace c

theorem weight_append (s t : Text) : weight (s ++ t) = weight s + weight t := List.countP_append

theorem weight_eq_zero {t : Text} : weight t = 0 ↔ blank t = true := by
  unfold weight blank
  rw [List.countP_eq_zero, List.all_eq_true]
  simp

theorem weight_strip (t : Text) : weight (strip t) = weight t := by
  obtain ⟨before, after, whole, front, back⟩ := strip_split t
  have light : weight before = 0 ∧ weight after = 0 :=
    ⟨weight_eq_zero.2 (List.all_eq_true.2 front), weight_eq_zero.2 (List.all_eq_true.2 back)⟩
  conv_rhs => rw [whole]
  rw [weight_append, weight_append, light.1, light.2]
  omega

theorem weight_cons (c : CodePoint) (t : Text) :
    weight (c :: t) = weight t + if isSpace c then 0 else 1 := by
  unfold weight
  rw [List.countP_cons]
  cases isSpace c <;> rfl

theorem weight_unixBlock (t : Text) : weight (unixBlock t) = weight t := by
  have feed : isSpace (cp '\n') = true := by decide
  have carriage : isSpace (cp '\r') = true := by decide
  induction t with
  | nil => rfl
  | cons c rest ih =>
    rw [unixBlock, weight_cons]
    split
    next ends =>
      rw [ends, carriage]
      split
      next => simpa using ih
      next =>
        rw [weight_cons, feed]
        simpa using ih
    next => rw [weight_cons, ih]

/-- The lines of a text weigh what it weighs. -/
theorem weight_intercalate (lines : List Text) :
    weight ([cp '\n'].intercalate lines) = (lines.map weight).sum := by
  have free : [cp '\n'].countP (fun c => !isSpace c) = 0 := by decide
  exact countP_intercalate free lines

theorem weight_lines (t : Text) : ((t.splitOn (cp '\n')).map weight).sum = weight t := by
  rw [← weight_intercalate, List.intercalate_splitOn]

end EvoBlue.Kernel
