import EvoBlue.Kernel.Text
import Mathlib.Data.List.Infix

/-!
# LIKE

`LOWER` and `LIKE .. ESCAPE '\'` of SQLite, which fold the letters of ASCII and no
others. A pattern that escapes its needle, and has a wildcard at either end, selects
the texts that hold the needle up to the case of ASCII letters. This is what SQLite
does with texts that are `NullFree`; at a null character it ends a text.
-/

namespace EvoBlue.Kernel

def NullFree (t : Text) : Prop := codePoint 0 ∉ t

instance (t : Text) : Decidable (NullFree t) := inferInstanceAs (Decidable (_ ∉ _))

def asciiLower (c : CodePoint) : CodePoint := if isUpper c then codePoint (c.val + 32) else c

/-- `LOWER`. -/
def sqlLower (t : Text) : Text := t.map asciiLower

theorem asciiLower_idem (c : CodePoint) : asciiLower (asciiLower c) = asciiLower c := by
  by_cases upper : isUpper c = true
  · have bounds := upper
    simp only [isUpper, Bool.and_eq_true, decide_eq_true_eq] at bounds
    have value := val_codePoint (n := c.val + 32) (by omega)
    have lower : isUpper (codePoint (c.val + 32)) = false := by
      simp only [isUpper, value, Bool.and_eq_false_iff, decide_eq_false_iff_not]
      omega
    simp [asciiLower, upper, lower]
  · simp [asciiLower, upper]

theorem sqlLower_idem (t : Text) : sqlLower (sqlLower t) = sqlLower t := by
  simp only [sqlLower, List.map_map, Function.comp_def, asciiLower_idem]

@[simp] theorem sqlLower_append (s t : Text) : sqlLower (s ++ t) = sqlLower s ++ sqlLower t :=
  List.map_append

/-! ## Matching -/

/-- The first code point of the subject is met, and so is the rest. -/
def likeHead (meets : CodePoint → Bool) (matchRest : Text → Bool) : (subject : Text) → Bool
  | d :: subject => meets d && matchRest subject
  | [] => false

/-- What is left of a pattern, after its escape character or not. -/
def likeFrom : (escaped : Bool) → (pattern subject : Text) → Bool
  | escaped, [], subject => !escaped && subject.isEmpty
  | true, c :: rest, subject =>
    likeHead (fun d => asciiLower c = asciiLower d) (likeFrom false rest) subject
  | false, c :: rest, subject =>
    if c = cp '%' then subject.tails.any (likeFrom false rest)
    else if c = cp '\\' then likeFrom true rest subject
    else likeHead (fun d => c = cp '_' || asciiLower c = asciiLower d) (likeFrom false rest) subject

/-- `subject LIKE pattern ESCAPE '\'`. -/
def like (pattern subject : Text) : Bool := likeFrom false pattern subject

def isLikeSpecial (c : CodePoint) : Bool := c = cp '\\' || c = cp '%' || c = cp '_'

def escapeOneLike (c : CodePoint) : Text := if isLikeSpecial c then [cp '\\', c] else [c]

/-- The pattern that stands for a text. -/
def literalPattern (t : Text) : Text := t.flatMap escapeOneLike

theorem literalPattern_cons (c : CodePoint) (t : Text) :
    literalPattern (c :: t) = escapeOneLike c ++ literalPattern t := rfl

theorem literalPattern_append (s t : Text) :
    literalPattern (s ++ t) = literalPattern s ++ literalPattern t := List.flatMap_append

theorem literalPattern_plain {t : Text} (plain : ∀ c ∈ t, isLikeSpecial c = false) :
    literalPattern t = t := by
  induction t with
  | nil => rfl
  | cons c t ih =>
    rw [literalPattern_cons, ih fun d mem => plain d (by simp [mem]), escapeOneLike,
      plain c (by simp)]
    rfl

/-- The pattern of the texts that hold the needle. -/
def containsPattern (pattern : Text) : Text := cp '%' :: (pattern ++ [cp '%'])

theorem like_literal_cons (c : CodePoint) (rest subject : Text) :
    like (escapeOneLike c ++ rest) subject =
      likeHead (fun d => asciiLower c = asciiLower d) (like rest) subject := by
  unfold escapeOneLike like
  split
  next =>
    simp only [List.cons_append, List.nil_append]
    rw [likeFrom, if_neg (by decide), if_pos rfl, likeFrom]
  next plain =>
    simp only [isLikeSpecial, Bool.or_eq_true, decide_eq_true_eq, not_or] at plain
    obtain ⟨⟨notEscape, notMany⟩, notOne⟩ := plain
    rw [List.singleton_append, likeFrom, if_neg notMany, if_neg notEscape]
    simp [notOne]

theorem like_percent_cons (pattern subject : Text) :
    like (cp '%' :: pattern) subject = subject.tails.any (like pattern) := by
  unfold like
  rw [likeFrom, if_pos rfl]

/-- An escaped needle stands for itself, up to case. -/
theorem like_literal (needle pattern subject : Text) :
    like (literalPattern needle ++ pattern) subject = true ↔
      ∃ front rest, subject = front ++ rest ∧ sqlLower front = sqlLower needle ∧
        like pattern rest = true := by
  induction needle generalizing subject with
  | nil =>
    constructor
    · intro matched
      exact ⟨[], subject, rfl, rfl, matched⟩
    · rintro ⟨front, rest, rfl, same, matched⟩
      rw [List.map_eq_nil_iff.1 same]
      exact matched
  | cons c needle ih =>
    have shape : literalPattern (c :: needle) ++ pattern =
        escapeOneLike c ++ (literalPattern needle ++ pattern) := by
      rw [literalPattern_cons, List.append_assoc]
    rw [shape, like_literal_cons]
    cases subject with
    | nil =>
      constructor
      · intro matched
        cases matched
      · rintro ⟨front, rest, whole, same, -⟩
        obtain ⟨rfl, -⟩ := List.append_eq_nil_iff.1 whole.symm
        cases same
    | cons d subject =>
      simp only [likeHead, Bool.and_eq_true, decide_eq_true_eq, ih]
      constructor
      · rintro ⟨first, front, rest, rfl, same, matched⟩
        refine ⟨d :: front, rest, rfl, ?_, matched⟩
        simp only [sqlLower, List.map_cons] at same ⊢
        rw [first, same]
      · rintro ⟨front, rest, whole, same, matched⟩
        cases front with
        | nil => cases same
        | cons e front =>
          obtain ⟨rfl, rfl⟩ := List.cons_eq_cons.1 whole
          obtain ⟨first, others⟩ := List.cons_eq_cons.1 same
          exact ⟨first.symm, front, rest, rfl, others, matched⟩

theorem like_percent (subject : Text) : like [cp '%'] subject = true := by
  rw [like_percent_cons, List.any_eq_true]
  exact ⟨[], (List.mem_tails _ _).2 List.nil_suffix, rfl⟩

/-- The texts that hold the needle, up to case. -/
theorem like_contains (needle subject : Text) :
    like (containsPattern (literalPattern needle)) subject = true ↔
      sqlLower needle <:+: sqlLower subject := by
  unfold containsPattern
  rw [like_percent_cons, List.any_eq_true]
  constructor
  · rintro ⟨tail, memTails, matched⟩
    obtain ⟨head, rfl⟩ := (List.mem_tails _ _).1 memTails
    obtain ⟨front, rest, rfl, same, -⟩ := (like_literal needle _ tail).1 matched
    refine ⟨sqlLower head, sqlLower rest, ?_⟩
    rw [← same, sqlLower_append, sqlLower_append, List.append_assoc]
  · rintro ⟨head, rest, whole⟩
    obtain ⟨before, tail, split, _, same⟩ := List.map_eq_append_iff.1 (whole.symm.trans
      (List.append_assoc head (sqlLower needle) rest))
    obtain ⟨front, last, rfl, needled, _⟩ := List.map_eq_append_iff.1 same
    refine ⟨front ++ last, (List.mem_tails _ _).2 ⟨before, split.symm⟩, ?_⟩
    exact (like_literal needle _ _).2 ⟨front, last, rfl, needled, like_percent last⟩

/-- Lower-casing an escaped pattern is escaping the lower-cased needle. -/
theorem sqlLower_literal (needle : Text) :
    sqlLower (literalPattern needle) = literalPattern (sqlLower needle) := by
  have one : ∀ c, sqlLower (escapeOneLike c) = escapeOneLike (asciiLower c) := by
    intro c
    by_cases upper : isUpper c = true
    · have bounds := upper
      simp only [isUpper, Bool.and_eq_true, decide_eq_true_eq] at bounds
      have value := val_codePoint (n := c.val + 32) (by omega)
      have plain : ∀ d : CodePoint, (0x41 ≤ d.val ∧ d.val ≤ 0x5a ∨ 0x61 ≤ d.val ∧ d.val ≤ 0x7a) →
          isLikeSpecial d = false := by
        intro d range
        simp only [isLikeSpecial, Bool.or_eq_false_iff, decide_eq_false_iff_not]
        refine ⟨⟨?_, ?_⟩, ?_⟩ <;> intro same <;> subst same <;> revert range <;> decide
      unfold escapeOneLike asciiLower
      rw [if_pos upper, plain c (by omega), plain (codePoint (c.val + 32)) (by omega)]
      simp [sqlLower, asciiLower, upper]
    · have same : asciiLower c = c := if_neg upper
      rw [same]
      unfold escapeOneLike
      split
      · simp only [sqlLower, List.map_cons, List.map_nil, same]
        rfl
      · simp only [sqlLower, List.map_cons, List.map_nil, same]
  unfold literalPattern
  induction needle with
  | nil => rfl
  | cons c needle ih =>
    simp only [List.flatMap_cons, sqlLower_append, one, ih]
    rfl

end EvoBlue.Kernel
