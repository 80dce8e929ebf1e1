import EvoBlue.Kernel.Text

/-!
# Replacing a part of a text

An element that the replaced text does not hold keeps what stands before it apart from what
stands behind. A shorter replacement changes a text exactly when there is something to
replace.
-/

namespace EvoBlue.Kernel

section

variable {α : Type} {old new : List α}

/-- A prefix without the element ends before it. -/
theorem prefix_before {x : α} {front rest : List α} (absent : x ∉ old) :
    old <+: front ++ x :: rest ↔ old <+: front := by
  constructor
  · intro start
    induction front generalizing old with
    | nil =>
      cases old with
      | nil => exact List.nil_prefix
      | cons o old =>
        rw [List.nil_append] at start
        exact absurd (by rw [(List.cons_prefix_cons.1 start).1]; exact List.mem_cons_self) absent
    | cons c front ih =>
      cases old with
      | nil => exact List.nil_prefix
      | cons o old =>
        obtain ⟨same, later⟩ := List.cons_prefix_cons.1 start
        rw [same]
        exact (List.prefix_cons_inj c).2 (ih (fun mem => absent (List.mem_cons_of_mem _ mem)) later)
  · intro start
    exact start.trans (List.prefix_append _ _)

variable [DecidableEq α]

theorem replaceFrom_skip (front rest : List α) :
    replaceFrom old new front.length (front ++ rest) = replaceFrom old new 0 rest := by
  induction front with
  | nil => rfl
  | cons c front ih => exact ih

/-- What stands before an element that is not replaced is replaced on its own. -/
theorem replaceFrom_before {x : α} (absent : x ∉ old) (some_ : old ≠ []) {front : List α} {skip : Nat}
    (short : skip ≤ front.length) (rest : List α) :
    replaceFrom old new skip (front ++ x :: rest) =
      replaceFrom old new skip front ++ x :: replaceFrom old new 0 rest := by
  induction front generalizing skip with
  | nil =>
    obtain rfl : skip = 0 := Nat.le_zero.1 short
    have elsewhere : ¬ old <+: x :: rest := by
      intro start
      exact some_ (List.prefix_nil.1 ((@prefix_before α old x [] rest absent).1 start))
    have step : replaceFrom old new 0 (x :: rest) = x :: replaceFrom old new 0 rest := by
      rw [replaceFrom, if_neg elsewhere]
    exact step
  | cons c front ih =>
    cases skip with
    | succ skip => exact ih (Nat.le_of_succ_le_succ short)
    | zero =>
      rw [List.cons_append, replaceFrom, replaceFrom]
      have same : old <+: c :: (front ++ x :: rest) ↔ old <+: c :: front :=
        @prefix_before α old x (c :: front) rest absent
      by_cases start : old <+: c :: front
      · have fits := start.length_le
        have bound : old.length - 1 ≤ front.length := by
          rw [List.length_cons] at fits
          omega
        rw [if_pos (same.2 start), if_pos start, ih bound, List.append_assoc]
      · rw [if_neg (mt same.1 start), if_neg start, ih (Nat.zero_le _), List.cons_append]

theorem replaceAll_before {x : α} (absent : x ∉ old) (some_ : old ≠ []) (front rest : List α) :
    replaceAll old new (front ++ x :: rest) =
      replaceAll old new front ++ x :: replaceAll old new rest :=
  replaceFrom_before absent some_ (Nat.zero_le _) rest

theorem replaceAll_start (some_ : old ≠ []) (rest : List α) :
    replaceAll old new (old ++ rest) = new ++ replaceAll old new rest := by
  obtain ⟨o, others, rfl⟩ := List.exists_cons_of_ne_nil some_
  have start : o :: others <+: o :: (others ++ rest) := ⟨rest, rfl⟩
  unfold replaceAll
  rw [List.cons_append, replaceFrom, if_pos start]
  exact congrArg _ (replaceFrom_skip others rest)

/-! ## What a replacement changes -/

theorem replaceAll_of_not_infix {whole : List α} (absent : ¬ old <:+: whole) :
    replaceAll old new whole = whole := by
  unfold replaceAll
  induction whole with
  | nil => rfl
  | cons c rest ih =>
    have elsewhere : ¬ old <+: c :: rest := fun start => absent start.isInfix
    have later : ¬ old <:+: rest := fun inside => absent (inside.trans (List.suffix_cons c rest).isInfix)
    rw [replaceFrom, if_neg elsewhere, ih later]

theorem replaceFrom_length (short : new.length ≤ old.length) (some_ : old ≠ []) (skip : Nat)
    (whole : List α) : (replaceFrom old new skip whole).length + min skip whole.length ≤ whole.length := by
  have positive := List.length_pos_iff.2 some_
  induction whole generalizing skip with
  | nil => simp [replaceFrom]
  | cons c rest ih =>
    cases skip with
    | succ skip =>
      have later := ih skip
      rw [replaceFrom, List.length_cons]
      omega
    | zero =>
      rw [replaceFrom, List.length_cons]
      split
      next start =>
        have fits := start.length_le
        have later := ih (old.length - 1)
        rw [List.length_cons] at fits
        rw [List.length_append]
        omega
      next =>
        have later := ih 0
        rw [List.length_cons]
        omega

theorem replaceAll_length_lt (short : new.length < old.length) {whole : List α}
    (inside : old <:+: whole) : (replaceAll old new whole).length < whole.length := by
  have some_ : old ≠ [] := by
    rintro rfl
    exact Nat.not_lt_zero _ short
  unfold replaceAll
  induction whole with
  | nil => exact absurd (List.infix_nil.1 inside) some_
  | cons c rest ih =>
    rw [replaceFrom, List.length_cons]
    split
    next start =>
      have fits := start.length_le
      have later := replaceFrom_length (Nat.le_of_lt short) some_ (old.length - 1) rest
      rw [List.length_cons] at fits
      rw [List.length_append]
      omega
    next elsewhere =>
      have inner : old <:+: rest := by
        rcases List.infix_cons_iff.1 inside with start | inner
        · exact absurd start elsewhere
        · exact inner
      have later := ih inner
      rw [List.length_cons]
      omega

/-- A shorter replacement leaves a text alone exactly when nothing is to be replaced. -/
theorem replaceAll_eq_self (short : new.length < old.length) {whole : List α} :
    replaceAll old new whole = whole ↔ ¬ old <:+: whole := by
  constructor
  · intro same inside
    have shorter := replaceAll_length_lt short inside
    rw [same] at shorter
    exact Nat.lt_irrefl _ shorter
  · exact replaceAll_of_not_infix

/-! ## Doubled elements -/

/-- One element written twice. -/
def doubled (x : α) (whole : List α) : List α := whole.flatMap fun c => if c = x then [x, x] else [c]

theorem replaceAll_doubled (x : α) (whole : List α) :
    replaceAll [x] [x, x] whole = doubled x whole := by
  unfold replaceAll doubled
  induction whole with
  | nil => rfl
  | cons c rest ih =>
    rw [replaceFrom, List.flatMap_cons, ← ih]
    by_cases same : c = x
    · subst same
      rw [if_pos ⟨rest, rfl⟩, if_pos rfl]
      rfl
    · rw [if_neg fun start => same (List.cons_prefix_cons.1 start).1.symm, if_neg same]
      rfl

theorem doubled_of_absent {x : α} {whole : List α} (absent : x ∉ whole) : doubled x whole = whole := by
  unfold doubled
  induction whole with
  | nil => rfl
  | cons c rest ih =>
    rw [List.mem_cons, not_or] at absent
    rw [List.flatMap_cons, if_neg (Ne.symm absent.1), ih absent.2]
    rfl

theorem prefix_doubled {x : α} (absent : x ∉ old) (whole : List α) :
    old <+: doubled x whole ↔ old <+: whole := by
  induction whole generalizing old with
  | nil => exact Iff.rfl
  | cons c rest ih =>
    cases old with
    | nil => exact iff_of_true List.nil_prefix List.nil_prefix
    | cons o old =>
      rw [List.mem_cons, not_or] at absent
      unfold doubled
      rw [List.flatMap_cons]
      by_cases same : c = x
      · rw [if_pos same, same]
        exact iff_of_false (fun start => absent.1 (List.cons_prefix_cons.1 start).1.symm)
          fun start => absent.1 (List.cons_prefix_cons.1 start).1.symm
      · rw [if_neg same, List.singleton_append, List.cons_prefix_cons, List.cons_prefix_cons]
        exact and_congr_right fun _ => ih absent.2

/-- What holds no doubled element is replaced before or after doubling. -/
theorem replaceFrom_of_doubled {x : α} (oldFree : x ∉ old) (newFree : x ∉ new) (some_ : old ≠ [])
    {skip : Nat} {whole : List α} (free : x ∉ whole.take skip) :
    replaceFrom old new skip (doubled x whole) = doubled x (replaceFrom old new skip whole) := by
  induction whole generalizing skip with
  | nil => cases skip <;> rfl
  | cons c rest ih =>
    cases skip with
    | succ skip =>
      rw [List.take_succ_cons, List.mem_cons, not_or] at free
      have apart : c ≠ x := Ne.symm free.1
      have opened : doubled x (c :: rest) = c :: doubled x rest := by
        unfold doubled
        rw [List.flatMap_cons, if_neg apart]
        rfl
      rw [opened]
      exact ih free.2
    | zero =>
      have nothing : x ∉ rest.take 0 := List.not_mem_nil
      by_cases same : c = x
      · subst same
        have opened : doubled c (c :: rest) = c :: c :: doubled c rest := by
          unfold doubled
          rw [List.flatMap_cons, if_pos rfl]
          rfl
        have elsewhere (t : List α) : ¬ old <+: c :: t := by
          intro start
          exact some_ (List.prefix_nil.1 ((@prefix_before α old c [] t oldFree).1 start))
        rw [opened, replaceFrom, if_neg (elsewhere _), replaceFrom, if_neg (elsewhere _), replaceFrom,
          if_neg (elsewhere _), ih nothing]
        unfold doubled
        rw [List.flatMap_cons, if_pos rfl]
        rfl
      · have opened (t : List α) : doubled x (c :: t) = c :: doubled x t := by
          unfold doubled
          rw [List.flatMap_cons, if_neg same]
          rfl
        have prefix_ := prefix_doubled oldFree (c :: rest)
        rw [opened] at prefix_
        rw [opened, replaceFrom, replaceFrom]
        by_cases start : old <+: c :: rest
        · have free : x ∉ rest.take (old.length - 1) := by
            obtain ⟨o, others, rfl⟩ := List.exists_cons_of_ne_nil some_
            obtain ⟨after, whole⟩ := (List.cons_prefix_cons.1 start).2
            rw [← whole, List.length_cons, Nat.add_sub_cancel, List.take_left]
            exact fun mem => oldFree (List.mem_cons_of_mem _ mem)
          rw [if_pos (prefix_.2 start), if_pos start, ih free]
          have parts (front back : List α) : doubled x (front ++ back) = doubled x front ++ doubled x back :=
            List.flatMap_append
          rw [parts, doubled_of_absent newFree]
        · rw [if_neg (mt prefix_.1 start), if_neg start, ih nothing, opened]

theorem replaceAll_of_doubled {x : α} (oldFree : x ∉ old) (newFree : x ∉ new) (some_ : old ≠ [])
    (whole : List α) : replaceAll old new (doubled x whole) = doubled x (replaceAll old new whole) :=
  replaceFrom_of_doubled oldFree newFree some_ List.not_mem_nil

end

end EvoBlue.Kernel
