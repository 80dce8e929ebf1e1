import EvoBlue.Kernel.Text
import Mathlib.Algebra.Order.Field.Rat

/-!
# Floating-point numbers written as text

`float` of a text. A finite value is the rational number written, without rounding; what is
too large is infinite.
-/

namespace EvoBlue.Kernel

inductive FloatValue where
  | finite (value : ℚ)
  | infinite (negative : Bool)
  | nan
  deriving DecidableEq, Repr

/-- From here on a number rounds to none that a float holds: halfway between the largest float
and 2 ^ 1024. -/
def floatLimit : Nat := 2 ^ 1024 - 2 ^ 970

def FloatValue.ofRat (value : ℚ) : FloatValue :=
  if (floatLimit : ℚ) ≤ |value| then .infinite (value < 0) else .finite value

/-- Underscores are taken out where one stands alone between two digits; `none` where one
stands elsewhere. -/
def dropUnderscores (previous : Option CodePoint) : Text → Option Text
  | [] => if previous = some (cp '_') then none else some []
  | c :: rest =>
    if c = cp '_' then
      if previous.any isDigit then dropUnderscores (some c) rest else none
    else if previous = some (cp '_') ∧ isDigit c = false then none
    else (dropUnderscores (some c) rest).map (c :: ·)

/-- The digits read as one number. -/
def digitsValue (digits : Text) : Nat :=
  digits.foldl (fun value c => value * 10 + (c.val - 0x30)) 0

def isSign (c : CodePoint) : Bool := c = cp '-' || c = cp '+'

/-- The text after a sign, if it has one. -/
def unsigned (t : Text) : Text := if t.head?.any isSign then t.tail else t

def isNegative (t : Text) : Bool := t.head? = some (cp '-')

/-- An exponent: nothing, or an `e` with a sign if any and digits. -/
def readExponent : Text → Option Int
  | [] => some 0
  | c :: rest =>
    let digits := unsigned rest
    if (c = cp 'e' ∨ c = cp 'E') ∧ digits ≠ [] ∧ digits.all isDigit then
      some (if isNegative rest then -(digitsValue digits : Int) else digitsValue digits)
    else none

/-- A decimal point and the digits after it, if any, and what follows. -/
def readFraction (t : Text) : Text × Text :=
  if t.head? = some (cp '.') then (t.tail.takeWhile isDigit, t.tail.dropWhile isDigit) else ([], t)

/-- Digits with a decimal point if any and an exponent if any. -/
def readDecimal (t : Text) : Option ℚ :=
  let whole := t.takeWhile isDigit
  let fraction := readFraction (t.dropWhile isDigit)
  if whole = [] ∧ fraction.1 = [] then none
  else
    (readExponent fraction.2).map fun (exponent : Int) =>
      (digitsValue (whole ++ fraction.1) : ℚ) * (10 : ℚ) ^ (exponent - fraction.1.length)

/-- `float(t)`: blanks around, a sign, then a decimal number, an infinity or `nan`. -/
def readFloat (unicode : UnicodeData) (t : Text) : Option FloatValue :=
  let trimmed := ((t.map (integerAscii unicode)).dropWhile isAsciiSpace).rdropWhile isAsciiSpace
  (dropUnderscores none trimmed).bind fun written =>
    let word := lowerAscii (unsigned written)
    if word = text "inf" ∨ word = text "infinity" then some (.infinite (isNegative written))
    else if word = text "nan" then some .nan
    else
      (readDecimal (unsigned written)).map fun value =>
        .ofRat (if isNegative written then -value else value)

end EvoBlue.Kernel
