import Mathlib.Algebra.GroupWithZero.Nat
import Mathlib.Data.List.DropRight
import Mathlib.Data.List.Lex
import Mathlib.Order.Fin.Basic

/-!
# Text as sequences of code points

A text is a list of code points, lone surrogates included, as in a language
whose strings are sequences of code points rather than encoded bytes. Searching,
splitting, stripping and lower-casing are list functions. Tables that only a
Unicode database holds are gathered in `UnicodeData`.
-/

namespace EvoBlue.Kernel

abbrev CodePoint := Fin 0x110000

abbrev Text := List CodePoint

instance : LawfulBEq CodePoint := inferInstance

instance : LawfulBEq Text := inferInstance

def cp (c : Char) : CodePoint :=
  ⟨c.toNat, by
    have valid := c.valid
    simp only [UInt32.isValidChar, Nat.isValidChar] at valid
    simp only [Char.toNat]
    omega⟩

@[simp] theorem cp_val (c : Char) : (cp c).val = c.toNat := rfl

/-- The code point with this value, which is below the limit. -/
def codePoint (n : Nat) : CodePoint := Fin.ofNat _ n

theorem val_codePoint {n : Nat} (small : n < 0x110000) : (codePoint n).val = n :=
  Nat.mod_eq_of_lt small

theorem codePoint_eq {n : Nat} {c : CodePoint} (same : n = c.val) : codePoint n = c := by
  apply Fin.ext
  rw [val_codePoint (by have := c.isLt; omega), same]

/-- The code points of a string literal. -/
def text (s : String) : Text := s.toList.map cp

theorem cp_injective : Function.Injective cp := by
  intro a b same
  have values : (cp a).val = (cp b).val := congrArg Fin.val same
  simp only [cp_val] at values
  exact Char.toNat_inj.1 values

theorem text_injective : Function.Injective text := by
  intro s t same
  exact String.toList_inj.1 (cp_injective.list_map same)

/-- The string of a text without surrogates. -/
def plainString (t : Text) : String := String.ofList (t.map fun c => Char.ofNat c.val)

@[simp] theorem plainString_text (s : String) : plainString (text s) = s := by
  have same : ((text s).map fun c => Char.ofNat c.val) = s.toList := by
    unfold text
    rw [List.map_map]
    conv_rhs => rw [← List.map_id s.toList]
    exact List.map_congr_left fun c _ => by simp
  unfold plainString
  rw [same, String.ofList_toList]

/-! ## Searching and splitting -/

section

variable {α : Type*} [DecidableEq α]

/-- What stands before and after the first occurrence of `sep`. -/
def breakOn (sep : List α) : List α → Option (List α × List α)
  | [] => if sep = [] then some ([], []) else none
  | c :: rest =>
    if sep <+: c :: rest then some ([], (c :: rest).drop sep.length)
    else (breakOn sep rest).map fun found => (c :: found.1, found.2)

/-- Nothing starts `sep` before its first element occurs. -/
theorem breakOn_skip {s : α} {sep before after : List α} (absent : s ∉ before) :
    breakOn (s :: sep) (before ++ after) =
      (breakOn (s :: sep) after).map fun found => (before ++ found.1, found.2) := by
  induction before with
  | nil =>
    cases found : breakOn (s :: sep) after <;> simp [found]
  | cons c before ih =>
    simp only [List.mem_cons, not_or] at absent
    have elsewhere : ¬ s :: sep <+: c :: (before ++ after) := by
      intro start
      exact absent.1 (List.cons_prefix_cons.1 start).1
    rw [List.cons_append, breakOn, if_neg elsewhere, ih absent.2, Option.map_map]
    rfl

theorem breakOn_start (sep after : List α) : breakOn sep (sep ++ after) = some ([], after) := by
  cases sep with
  | nil => cases after <;> simp [breakOn]
  | cons s sep =>
    have start : s :: sep <+: s :: (sep ++ after) := ⟨after, rfl⟩
    rw [List.cons_append, breakOn, if_pos start]
    simp

/-- The first occurrence of a separator whose first element is new. -/
theorem breakOn_append {s : α} {sep before after : List α} (absent : s ∉ before) :
    breakOn (s :: sep) (before ++ (s :: sep) ++ after) = some (before, after) := by
  rw [List.append_assoc, breakOn_skip absent, breakOn_start]
  simp

theorem takeWhile_before {nl : α} {line : List α} (clean : nl ∉ line) (after : List α) :
    (line ++ nl :: after).takeWhile (fun c => c ≠ nl) = line := by
  induction line with
  | nil => simp
  | cons c line ih =>
    simp only [List.mem_cons, not_or] at clean
    have differs : c ≠ nl := fun same => clean.1 same.symm
    rw [List.cons_append, List.takeWhile_cons_of_pos (by simpa using differs), ih clean.2]

/-- A marker line ends a block of lines none of which, after the first, is the marker. -/
theorem breakOn_lines {nl : α} {marker first rest : List α} {lines : List (List α)}
    (whole : ∀ line ∈ first :: lines, nl ∉ line) (plain : nl ∉ marker)
    (other : ∀ line ∈ lines, line ≠ marker) :
    breakOn (nl :: (marker ++ [nl])) ([nl].intercalate (first :: lines) ++
      nl :: (marker ++ nl :: rest)) = some ([nl].intercalate (first :: lines), rest) := by
  induction lines generalizing first with
  | nil =>
    have start := breakOn_start (nl :: (marker ++ [nl])) rest
    simp only [List.cons_append, List.append_assoc, List.nil_append] at start
    rw [List.intercalate_singleton, breakOn_skip (whole first (by simp)), start]
    simp
  | cons line lines ih =>
    have later := @ih line (fun other mem => whole other (by simp [List.mem_cons.1 mem]))
      fun other' mem => other other' (by simp [mem])
    have elsewhere : ¬ nl :: (marker ++ [nl]) <+: nl :: ([nl].intercalate (line :: lines) ++
        nl :: (marker ++ nl :: rest)) := by
      intro start
      obtain ⟨tail, same⟩ := (List.cons_prefix_cons.1 start).2
      have clean := whole line (by simp)
      have lineThere : ∃ after, [nl].intercalate (line :: lines) ++ nl :: (marker ++ nl :: rest) =
          line ++ nl :: after := by
        cases lines with
        | nil => exact ⟨marker ++ nl :: rest, by simp⟩
        | cons next lines =>
          exact ⟨[nl].intercalate (next :: lines) ++ nl :: (marker ++ nl :: rest), by simp⟩
      obtain ⟨after, there⟩ := lineThere
      rw [there, List.append_assoc, List.singleton_append] at same
      have fronts := congrArg (List.takeWhile fun c => c ≠ nl) same
      rw [takeWhile_before plain, takeWhile_before clean] at fronts
      exact other line (by simp) fronts.symm
    have split : [nl].intercalate (first :: line :: lines) ++ nl :: (marker ++ nl :: rest) =
        first ++ nl :: ([nl].intercalate (line :: lines) ++ nl :: (marker ++ nl :: rest)) := by
      simp
    rw [split, breakOn_skip (whole first (by simp)), breakOn, if_neg elsewhere, later]
    simp

/-- Every occurrence of `old` replaced by `new`, from the left; `skip` elements of
an occurrence are still to be passed over. -/
def replaceFrom (old new : List α) : (skip : Nat) → List α → List α
  | _, [] => []
  | skip + 1, _ :: rest => replaceFrom old new skip rest
  | 0, c :: rest =>
    if old <+: c :: rest then new ++ replaceFrom old new (old.length - 1) rest
    else c :: replaceFrom old new 0 rest

/-- `str.replace(old, new)` for a non-empty `old`. -/
def replaceAll (old new whole : List α) : List α := replaceFrom old new 0 whole

end

/-! ## Pieces -/

/-- The pieces between separators hold none. -/
theorem not_mem_of_mem_splitOn {α : Type*} [DecidableEq α] {sep : α} {whole piece : List α} (mem : piece ∈ whole.splitOn sep) :
    sep ∉ piece := by
  induction whole generalizing piece with
  | nil =>
    rw [List.splitOn_nil, List.mem_singleton] at mem
    rw [mem]
    exact List.not_mem_nil
  | cons c rest ih =>
    rw [List.splitOn_cons_eq_if_modifyHead] at mem
    split at mem
    · rcases List.mem_cons.1 mem with rfl | later
      · exact List.not_mem_nil
      · exact ih later
    next other =>
      cases pieces : rest.splitOn sep with
      | nil => exact absurd pieces (List.splitOn_ne_nil sep rest)
      | cons first others =>
        rw [pieces] at mem ih
        rcases List.mem_cons.1 mem with rfl | later
        · intro there
          rcases List.mem_cons.1 there with same | inside
          · exact other (beq_iff_eq.2 same.symm)
          · exact ih List.mem_cons_self inside
        · exact ih (List.mem_cons_of_mem _ later)

/-- What is counted and is no separator lies in the pieces. -/
theorem countP_intercalate {α : Type*} {p : α → Bool} {between : List α} (free : between.countP p = 0)
    (pieces : List (List α)) :
    (between.intercalate pieces).countP p = (pieces.map fun piece => piece.countP p).sum := by
  induction pieces with
  | nil => rfl
  | cons piece rest ih =>
    cases rest with
    | nil => simp
    | cons next rest =>
      rw [List.intercalate_cons_cons, List.countP_append, List.countP_append, free, ih]
      simp

/-! ## Whitespace -/

/-- `str.isspace` of one code point. -/
def isSpace (c : CodePoint) : Bool :=
  (0x09 ≤ c.val && c.val ≤ 0x0d) || (0x1c ≤ c.val && c.val ≤ 0x20) || c.val = 0x85 ||
    c.val = 0xa0 || c.val = 0x1680 || (0x2000 ≤ c.val && c.val ≤ 0x200a) || c.val = 0x2028 ||
    c.val = 0x2029 || c.val = 0x202f || c.val = 0x205f || c.val = 0x3000

/-- `str.strip()`. -/
def strip (t : Text) : Text := (t.dropWhile isSpace).rdropWhile isSpace

theorem strip_eq_self {t : Text} (first : ∀ c ∈ t.head?, isSpace c = false)
    (last : ∀ c ∈ t.getLast?, isSpace c = false) : strip t = t := by
  have kept : t.dropWhile isSpace = t := by
    cases t with
    | nil => rfl
    | cons c rest => simp [first c rfl]
  unfold strip
  rw [kept, List.rdropWhile_eq_self_iff]
  intro nonempty space
  rw [last _ (List.getLast?_eq_some_getLast nonempty)] at space
  cases space

theorem strip_ne_nil {t : Text} {c : CodePoint} (mem : c ∈ t) (visible : isSpace c = false) :
    strip t ≠ [] := by
  intro empty
  have spaces := List.rdropWhile_eq_nil_iff.1 empty
  have all : ∀ d ∈ t, isSpace d = true := by
    intro d memD
    rw [← List.takeWhile_append_dropWhile (p := isSpace) (l := t)] at memD
    rcases List.mem_append.1 memD with front | back
    · exact List.mem_takeWhile_imp front
    · exact spaces d back
  rw [all c mem] at visible
  cases visible

/-- Nothing but blanks is stripped. -/
theorem strip_split (t : Text) : ∃ before after, t = before ++ (strip t ++ after) ∧
    (∀ c ∈ before, isSpace c = true) ∧ ∀ c ∈ after, isSpace c = true := by
  refine ⟨t.takeWhile isSpace, (t.dropWhile isSpace).rtakeWhile isSpace, ?_, ?_, ?_⟩
  · unfold strip
    rw [List.rdropWhile_append_rtakeWhile, List.takeWhile_append_dropWhile]
  · exact fun c mem => List.mem_takeWhile_imp mem
  · exact fun c mem => List.mem_rtakeWhile_imp mem

/-- A stripped text begins and ends with no blank. -/
theorem strip_ends (t : Text) : (∀ c ∈ (strip t).head?, isSpace c = false) ∧
    ∀ c ∈ (strip t).getLast?, isSpace c = false := by
  constructor
  · intro c first
    obtain ⟨rest, same⟩ := List.head?_eq_some_iff.1 first
    obtain ⟨after, whole⟩ := List.rdropWhile_prefix isSpace (t.dropWhile isSpace)
    change strip t ++ after = _ at whole
    rw [same] at whole
    have front : (t.dropWhile isSpace).head? = some c := by
      rw [← whole]
      rfl
    have clean := List.head?_dropWhile_not isSpace t
    rw [front] at clean
    simpa using clean
  · intro c last
    have some_ : strip t ≠ [] := by
      intro empty
      rw [empty] at last
      cases last
    rw [List.getLast?_eq_some_getLast some_] at last
    cases last
    exact Bool.eq_false_iff.2 (List.rdropWhile_last_not isSpace (t.dropWhile isSpace) some_)

/-- No code point of the text is a control character. -/
def visible (t : Text) : Bool := t.all fun c => 0x20 ≤ c.val

theorem visible_append (s t : Text) : visible (s ++ t) = (visible s && visible t) := by
  simp [visible]

theorem visible_optional {p : Prop} [Decidable p] {t : Text} (clean : visible t = true) :
    visible (if p then t else []) = true := by
  split
  · exact clean
  · rfl

theorem visible_intercalate {sep : Text} {parts : List Text} (between : visible sep = true)
    (clean : ∀ part ∈ parts, visible part = true) : visible (sep.intercalate parts) = true := by
  induction parts with
  | nil => rfl
  | cons part parts ih =>
    have first := clean part (by simp)
    have later := ih fun other mem => clean other (by simp [mem])
    cases parts with
    | nil => rwa [List.intercalate_singleton]
    | cons next parts =>
      rw [List.intercalate_cons_cons, visible_append, visible_append, first, between, later]
      rfl

theorem visible_ne {t : Text} (clean : visible t = true) {c : CodePoint} (control : c.val < 0x20) :
    c ∉ t := by
  intro mem
  have bound := List.all_eq_true.1 clean c mem
  simp only [decide_eq_true_eq] at bound
  omega

/-! ## Letters and digits -/

def isAscii (c : CodePoint) : Bool := c.val < 0x80

def isDigit (c : CodePoint) : Bool := 0x30 ≤ c.val && c.val ≤ 0x39

def isUpper (c : CodePoint) : Bool := 0x41 ≤ c.val && c.val ≤ 0x5a

def isAlpha (c : CodePoint) : Bool := isUpper c || (0x61 ≤ c.val && c.val ≤ 0x7a)

/-- Small letters for the capital ones of ASCII. -/
def lowerAscii (t : Text) : Text := t.map fun c => if isUpper c then codePoint (c.val + 32) else c

/-- Value of a hexadecimal digit. -/
def hexValue (c : CodePoint) : Option Nat :=
  if 0x30 ≤ c.val ∧ c.val ≤ 0x39 then some (c.val - 0x30)
  else if 0x61 ≤ c.val ∧ c.val ≤ 0x66 then some (c.val - 0x61 + 10)
  else if 0x41 ≤ c.val ∧ c.val ≤ 0x46 then some (c.val - 0x41 + 10)
  else none

/-- What a Unicode database says beyond ASCII: the lower case of a code point,
which may depend on its surroundings, the value of a decimal digit, and
normalization form KC. -/
structure UnicodeData where
  lowerAt : (before : Text) → CodePoint → (after : Text) → Text
  decimal : CodePoint → Option Nat
  nfkc : Text → Text

/-- Lower case of `t`, which stands after `before` (reversed). -/
def lowerAfter (unicode : UnicodeData) (before : Text) : Text → Text
  | [] => []
  | c :: rest =>
    (if isUpper c then [codePoint (c.val + 32)]
      else if isAscii c then [c]
      else unicode.lowerAt before c rest) ++
        lowerAfter unicode (c :: before) rest

/-- `str.lower()`. -/
def lower (unicode : UnicodeData) (t : Text) : Text := lowerAfter unicode [] t

/-- Lower case of a text in lower-case ASCII. -/
theorem lowerAfter_plain (unicode : UnicodeData) (before : Text) {t : Text}
    (plain : ∀ c ∈ t, isAscii c = true ∧ isUpper c = false) :
    lowerAfter unicode before t = t := by
  induction t generalizing before with
  | nil => rfl
  | cons c rest ih =>
    have here := plain c (by simp)
    rw [lowerAfter, ih (c :: before) fun d mem => plain d (by simp [mem])]
    simp [here.1, here.2]

/-- A lower-case ASCII ending survives lower-casing. -/
theorem lowerAfter_append_plain (unicode : UnicodeData) (before front : Text) {ending : Text}
    (plain : ∀ c ∈ ending, isAscii c = true ∧ isUpper c = false) :
    ∃ changed, lowerAfter unicode before (front ++ ending) = changed ++ ending := by
  induction front generalizing before with
  | nil => exact ⟨[], lowerAfter_plain unicode before plain⟩
  | cons c front ih =>
    obtain ⟨changed, rest⟩ := ih (c :: before)
    rw [List.cons_append, lowerAfter, rest, ← List.append_assoc]
    exact ⟨_, rfl⟩

/-! ## Integers -/

def isAsciiSpace (c : CodePoint) : Bool := (0x09 ≤ c.val && c.val ≤ 0x0d) || c.val = 0x20

/-- The ASCII code point that stands for `c` when an integer is read. -/
def integerAscii (unicode : UnicodeData) (c : CodePoint) : CodePoint :=
  if isAscii c then c
  else if isSpace c then cp ' '
  else
    match unicode.decimal c with
    | some digit => codePoint (0x30 + digit)
    | none => cp '?'

/-- `int(t)`: blanks around, a sign, digits with single underscores between them,
at most 4300 of them. -/
def readInt (unicode : UnicodeData) (t : Text) : Option Int :=
  let trimmed := ((t.map (integerAscii unicode)).dropWhile isAsciiSpace).rdropWhile isAsciiSpace
  let signed : Bool := trimmed.head? = some (cp '-') || trimmed.head? = some (cp '+')
  let groups := (if signed then trimmed.tail else trimmed).splitOn (cp '_')
  if groups.all (fun group => group ≠ [] && group.all isDigit) ∧ groups.flatten.length ≤ 4300 then
    let value : Int := groups.flatten.foldl (fun value c => value * 10 + (c.val - 0x30)) 0
    some (if trimmed.head? = some (cp '-') then -value else value)
  else none

/-- Decimal digits of a natural number. -/
def decimalText (n : Nat) : Text := text (toString n)

theorem decimalText_digits {n : Nat} {c : CodePoint} (mem : c ∈ decimalText n) :
    isDigit c = true := by
  unfold decimalText text at mem
  rw [Nat.toString_eq_repr, Nat.repr_eq_ofList_toDigits, String.toList_ofList] at mem
  obtain ⟨digit, memDigits, rfl⟩ := List.mem_map.1 mem
  have decimal := Nat.isDigit_of_mem_toDigits (by omega) (by omega) memDigits
  simp only [Char.isDigit, Bool.and_eq_true, decide_eq_true_eq, ge_iff_le] at decimal
  have lower : 0x30 ≤ digit.toNat := UInt32.le_iff_toNat_le.1 decimal.1
  have upper : digit.toNat ≤ 0x39 := UInt32.le_iff_toNat_le.1 decimal.2
  simp [isDigit, lower, upper]

theorem decimalText_visible (n : Nat) : visible (decimalText n) = true := by
  refine List.all_eq_true.2 fun c mem => decide_eq_true ?_
  have digit := decimalText_digits mem
  simp only [isDigit, Bool.and_eq_true, decide_eq_true_eq] at digit
  omega

/-- A number is read off its digits. -/
theorem decimalText_injective : Function.Injective decimalText := by
  intro m n same
  have digits : Nat.toDigits 10 m = Nat.toDigits 10 n := by
    have lists := congrArg String.toList (text_injective same)
    simpa only [Nat.toString_eq_repr, Nat.repr_eq_ofList_toDigits, String.toList_ofList] using lists
  have values := congrArg (fun digits => Nat.ofDigitChars 10 digits 0) digits
  simpa only [Nat.ofDigitChars_ten_toDigits] using values

end EvoBlue.Kernel
