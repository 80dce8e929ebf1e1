import EvoBlue.Kernel.Text
import Mathlib.Algebra.Order.Field.Rat

/-!
# ISO 8601 datetimes

Dates of the proleptic Gregorian calendar from year 1 to 9999 with a time of
day to the microsecond and perhaps an offset from UTC; reading and writing them
in ISO 8601, week dates and the compact forms included when reading.
-/

namespace EvoBlue.Kernel

namespace Calendar

def isLeap (year : Nat) : Bool := year % 4 = 0 && (year % 100 ≠ 0 || year % 400 = 0)

/-- Days before 1 January of a year, counted from 1 January of year 1. -/
def daysBeforeYear (year : Nat) : Nat :=
  (year - 1) * 365 + (year - 1) / 4 - (year - 1) / 100 + (year - 1) / 400

def daysInMonth (year month : Nat) : Nat :=
  if month = 2 then if isLeap year then 29 else 28
  else if [4, 6, 9, 11].contains month then 30
  else 31

def daysBeforeMonth (year month : Nat) : Nat :=
  ((List.range month).drop 1).foldl (fun days m => days + daysInMonth year m) 0

/-- Day number of a date; 1 January of year 1 is day 1. -/
def ordinal (year month day : Nat) : Nat :=
  daysBeforeYear year + daysBeforeMonth year month + day

/-- Walk from the start of a month to the day with this offset. -/
def dayOfYear (year : Nat) : (months month offset : Nat) → Nat × Nat
  | 0, month, offset => (month, offset + 1)
  | months + 1, month, offset =>
    if offset < daysInMonth year month then (month, offset + 1)
    else dayOfYear year months (month + 1) (offset - daysInMonth year month)

/-- The date of a day number in a year or the one after it. -/
def dateNear (year number : Nat) : Nat × Nat × Nat :=
  let first := ordinal year 1 1
  if number < first then
    let (month, day) := dayOfYear (year - 1) 11 1 (number - ordinal (year - 1) 1 1)
    (year - 1, month, day)
  else
    let length := if isLeap year then 366 else 365
    if number < first + length then
      let (month, day) := dayOfYear year 11 1 (number - first)
      (year, month, day)
    else (year + 1, 1, number - first - length + 1)

/-- The Monday of the first ISO week of a year. -/
def isoWeekOneMonday (year : Nat) : Nat :=
  let first := ordinal year 1 1
  let weekday := (first + 6) % 7
  if weekday > 3 then first - weekday + 7 else first - weekday

/-- The Gregorian date of an ISO week date. -/
def ofIsoWeek (year week day : Nat) : Option (Nat × Nat × Nat) :=
  let weekday := ordinal year 1 1 % 7
  let hasWeek53 := weekday = 4 ∨ (weekday = 3 ∧ isLeap year)
  if 1 ≤ year ∧ year ≤ 9999 ∧ 1 ≤ day ∧ day ≤ 7 ∧ 1 ≤ week ∧
      (week < 53 ∨ (week = 53 ∧ hasWeek53)) then
    some (dateNear year (isoWeekOneMonday year + (week - 1) * 7 + (day - 1)))
  else none

end Calendar

/-- A datetime; the offset from UTC is in microseconds, and below a day. -/
structure DateTime where
  year : Nat
  month : Nat
  day : Nat
  hour : Nat := 0
  minute : Nat := 0
  second : Nat := 0
  microsecond : Nat := 0
  offset : Option Int := none
  inRange : 1 ≤ year ∧ year ≤ 9999 ∧ 1 ≤ month ∧ month ≤ 12 ∧ 1 ≤ day ∧
    day ≤ Calendar.daysInMonth year month ∧ hour < 24 ∧ minute < 60 ∧ second < 60 ∧
    microsecond < 1000000 ∧ ∀ o ∈ offset, o.natAbs < 86400000000
  deriving DecidableEq, Repr

namespace DateTime

/-! ## Reading -/

/-- Exactly `n` ASCII digits at the start of a text. -/
def readDigits (n : Nat) (t : Text) : Option (Nat × Text) :=
  let digits := t.take n
  if digits.length = n ∧ digits.all isDigit then
    some (digits.foldl (fun value c => value * 10 + (c.val - 0x30)) 0, t.drop n)
  else none

def at? (t : Text) (i : Nat) (c : Char) : Bool := t[i]? = some (cp c)

/-- Where the date ends: 7, 8 or 10 code points, as the form of its start says. -/
def dateLength (t : Text) : Option Nat :=
  if t.length < 7 then none
  else if t.length = 7 then some 7
  else if at? t 4 '-' then
    if at? t 5 'W' then
      if at? t 8 '-' then
        if t.length = 9 then none
        else if (t[10]?.map isDigit) = some true then some 8
        else some 10
      else some 8
    else some 10
  else if at? t 4 'W' then
    -- The digits after `YYYYWww` may be a weekday or the start of the time.
    let digits := ((t.drop 7).takeWhile isDigit).length
    if 7 + digits < 9 then some (7 + digits)
    else if (7 + digits) % 2 = 0 then some 7
    else some 8
  else some 8

/-- Skip a dash that must be there if `separated`. -/
def skipDash (separated : Bool) (t : Text) : Option Text :=
  if separated then (if t.head? = some (cp '-') then some t.tail else none) else some t

def readDate (t : Text) : Option (Nat × Nat × Nat) := do
  let (year, rest) ← readDigits 4 t
  let separated : Bool := rest.head? = some (cp '-')
  let rest := if separated then rest.tail else rest
  if rest.head? = some (cp 'W') then
    let (week, rest) ← readDigits 2 rest.tail
    if rest = [] then Calendar.ofIsoWeek year week 1
    else
      let (day, rest) ← readDigits 1 (← skipDash separated rest)
      if rest = [] then Calendar.ofIsoWeek year week day else none
  else
    let (month, rest) ← readDigits 2 rest
    let (day, rest) ← readDigits 2 (← skipDash separated rest)
    if rest = [] then some (year, month, day) else none

/-- A fraction of a second in microseconds; digits after the sixth are cut off. In
a `lenient` place anything may follow six digits. -/
def readFraction (lenient : Bool) (t : Text) : Option Nat :=
  let kept := t.take 6
  if kept = [] ∨ !kept.all isDigit ∨ (!lenient ∧ !t.all isDigit) then none
  else some (kept.foldl (fun value c => value * 10 + (c.val - 0x30)) 0 * 10 ^ (6 - kept.length))

/-- The clock ends here, or, in a `lenient` place, one ASCII code point later. -/
def clockEnds (lenient : Bool) (t : Text) : Bool :=
  t = [] || (lenient && t.length = 1 && t.all isAscii)

/-- `HH[:MM[:SS[.f]]]`, with or without the colons. -/
def readClock (lenient : Bool) (t : Text) : Option (Nat × Nat × Nat × Nat) := do
  let (hour, rest) ← readDigits 2 t
  if clockEnds lenient rest then return (hour, 0, 0, 0)
  let separated : Bool := rest.head? = some (cp ':')
  let (minute, rest) ← readDigits 2 (if separated then rest.tail else rest)
  if clockEnds lenient rest then return (hour, minute, 0, 0)
  if separated ∧ rest.head? ≠ some (cp ':') then none
  let (second, rest) ← readDigits 2 (if separated then rest.tail else rest)
  if clockEnds lenient rest then return (hour, minute, second, 0)
  if rest.head? = some (cp '.') ∨ rest.head? = some (cp ',') then
    return (hour, minute, second, ← readFraction lenient rest.tail)
  else none

/-- An offset after its sign, in microseconds. -/
def readOffset (t : Text) : Option Nat := do
  let (hour, minute, second, microsecond) ← readClock false t
  let seconds := hour * 3600 + minute * 60 + second
  -- An offset of zero seconds is UTC whatever its fraction.
  return if seconds = 0 then 0 else seconds * 1000000 + microsecond

/-- A time of day; before a zone the reader is lenient. -/
def readTime (t : Text) : Option ((Nat × Nat × Nat × Nat) × Option Int) := do
  let clock := t.takeWhile fun c => c ≠ cp '+' ∧ c ≠ cp '-' ∧ c ≠ cp 'Z'
  let zoned := t.drop clock.length
  let time ← readClock (zoned ≠ []) clock
  match zoned with
  | [] => return (time, none)
  | mark :: zone =>
    if mark = cp 'Z' then if zone = [] then return (time, some 0) else none
    else
      let offset : Int := ← readOffset zone
      return (time, some (if mark = cp '-' then -offset else offset))

/-- `datetime.fromisoformat`; any one code point may separate date and time. -/
def fromIsoformat (t : Text) : Option DateTime := do
  let length ← dateLength t
  let (year, month, day) ← readDate (t.take length)
  let ((hour, minute, second, microsecond), offset) ←
    if t.length = length then some ((0, 0, 0, 0), none) else readTime (t.drop (length + 1))
  if inRange : _ then
    return { year, month, day, hour, minute, second, microsecond, offset, inRange }
  else none

/-! ## Writing -/

/-- Decimal digits, padded with zeros to a width. -/
def padded (width n : Nat) : Text :=
  let digits := decimalText n
  List.replicate (width - digits.length) (cp '0') ++ digits

def isoOffset (offset : Int) : Text :=
  let total := offset.natAbs
  let seconds := total / 1000000
  let microsecond := total % 1000000
  [cp (if offset < 0 then '-' else '+')] ++ padded 2 (seconds / 3600) ++ text ":" ++
    padded 2 (seconds / 60 % 60) ++
    (if seconds % 60 ≠ 0 ∨ microsecond ≠ 0 then text ":" ++ padded 2 (seconds % 60) else []) ++
    (if microsecond ≠ 0 then text "." ++ padded 6 microsecond else [])

/-- `datetime.isoformat`. -/
def isoformat (d : DateTime) : Text :=
  padded 4 d.year ++ text "-" ++ padded 2 d.month ++ text "-" ++ padded 2 d.day ++ text "T" ++
    padded 2 d.hour ++ text ":" ++ padded 2 d.minute ++ text ":" ++ padded 2 d.second ++
    (if d.microsecond ≠ 0 then text "." ++ padded 6 d.microsecond else []) ++
    (match d.offset with
    | none => []
    | some offset => isoOffset offset)

theorem padded_visible (width n : Nat) : visible (padded width n) = true := by
  have zeros : ∀ k, visible (List.replicate k (cp '0')) = true := by
    intro k
    simp only [visible, List.all_replicate]
    split
    · rfl
    · decide
  unfold padded
  rw [visible_append, zeros, decimalText_visible]
  rfl

/-- A mark before padded digits. -/
theorem marked_visible {mark : Text} (clean : visible mark = true) (width n : Nat) :
    visible (mark ++ padded width n) = true := by
  rw [visible_append, clean, padded_visible]
  rfl

theorem isoOffset_visible (offset : Int) : visible (isoOffset offset) = true := by
  have sign : visible [cp (if offset < 0 then '-' else '+')] = true := by
    split <;> decide
  have colon : visible (text ":") = true := by decide
  have point : visible (text ".") = true := by decide
  unfold isoOffset
  simp only [visible_append, padded_visible, sign, colon, visible_optional (marked_visible colon _ _),
    visible_optional (marked_visible point _ _), Bool.and_true]

/-- A written datetime stays on its line. -/
theorem isoformat_visible (d : DateTime) : visible d.isoformat = true := by
  have dash : visible (text "-") = true := by decide
  have letter : visible (text "T") = true := by decide
  have colon : visible (text ":") = true := by decide
  have point : visible (text ".") = true := by decide
  have zone : visible (match d.offset with
      | none => []
      | some offset => isoOffset offset) = true := by
    split
    · rfl
    · exact isoOffset_visible _
  unfold isoformat
  simp only [visible_append, padded_visible, dash, letter, colon,
    visible_optional (marked_visible point _ _), zone, Bool.and_true]

/-- `datetime.timestamp` of a datetime with an offset, in seconds. -/
def timestamp (d : DateTime) : ℚ :=
  let days : Int := Calendar.ordinal d.year d.month d.day - 719163
  let seconds : Int := days * 86400 + d.hour * 3600 + d.minute * 60 + d.second
  let microseconds : Int := seconds * 1000000 + d.microsecond - d.offset.getD 0
  mkRat microseconds 1000000

example : (fromIsoformat (text "2024-02-29T12:30:00.5+08:00")).map timestamp =
    some (mkRat 3418362001 2) := by decide +kernel

end DateTime

end EvoBlue.Kernel
