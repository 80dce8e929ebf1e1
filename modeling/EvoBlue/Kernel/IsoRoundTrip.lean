import EvoBlue.Kernel.IsoDatetime
import EvoBlue.Kernel.JsonDocs

/-!
# A written datetime is read back

What `isoformat` writes of a datetime with an offset is read as the same datetime. An
offset of less than a second has no seconds to be read by, and is read as UTC.
-/

namespace EvoBlue.Kernel

namespace DateTime

/-! ## Padded digits -/

theorem padded_digits {width n : Nat} {c : CodePoint} (mem : c ∈ padded width n) :
    isDigit c = true := by
  rcases List.mem_append.1 mem with zero | digit
  · rw [List.eq_of_mem_replicate zero]
    decide
  · exact decimalText_digits digit

theorem padded_length {width n : Nat} (some : 0 < width) (small : n < 10 ^ width) :
    (padded width n).length = width := by
  have digits : (decimalText n).length ≤ width := by
    rw [Json.decimalText_length]
    exact (Nat.length_toDigits_le_iff (by decide) some).2 small
  unfold padded
  rw [List.length_append, List.length_replicate]
  omega

theorem padded_value (width n : Nat) : Json.digitsValue (padded width n) = n := by
  have zeros : ∀ k, (List.replicate k (cp '0')).foldl
      (fun value c => value * 10 + (c.val - 0x30)) 0 = 0 := by
    intro k
    induction k with
    | zero => rfl
    | succ k ih => simpa [List.replicate_succ] using ih
  have written := Json.digitsValue_decimalText n
  unfold Json.digitsValue at written ⊢
  unfold padded
  rw [List.foldl_append, zeros, written]

theorem readDigits_padded {width n : Nat} (some : 0 < width) (small : n < 10 ^ width) (rest : Text) :
    readDigits width (padded width n ++ rest) = .some (n, rest) := by
  have length := padded_length some small
  have front : (padded width n ++ rest).take width = padded width n := by
    rw [List.take_append_of_le_length (Nat.le_of_eq length.symm), List.take_of_length_le (Nat.le_of_eq length)]
  have back : (padded width n ++ rest).drop width = rest := by
    have left := @List.drop_left _ (padded width n) rest
    rw [length] at left
    exact left
  have digits : (padded width n).all isDigit = true := List.all_eq_true.2 fun _ mem => padded_digits mem
  have value := padded_value width n
  unfold Json.digitsValue at value
  unfold readDigits
  dsimp only
  rw [front, back, if_pos ⟨length, digits⟩, value]

theorem padded_head {width n : Nat} (some : 0 < width) (small : n < 10 ^ width) (rest : Text)
    {c : CodePoint} (notDigit : isDigit c = false) : (padded width n ++ rest).head? ≠ .some c := by
  have length := padded_length some small
  cases spelled : padded width n with
  | nil =>
    rw [spelled, List.length_nil] at length
    omega
  | cons d digits =>
    have digit : isDigit d = true := by
      apply @padded_digits width n
      rw [spelled]
      exact List.mem_cons_self
    rw [List.cons_append, List.head?_cons, Ne, Option.some.injEq]
    rintro rfl
    rw [digit] at notDigit
    cases notDigit

/-! ## The parts of a datetime -/

theorem readDate_written {year month day : Nat} (years : year ≤ 9999) (months : month ≤ 12)
    (days : day ≤ 31) :
    readDate (padded 4 year ++ text "-" ++ padded 2 month ++ text "-" ++ padded 2 day) =
      some (year, month, day) := by
  have dash : text "-" = [cp '-'] := rfl
  have week := @padded_head 2 month (by decide) (by omega) (cp '-' :: padded 2 day) (cp 'W') (by decide)
  have last := @readDigits_padded 2 day (by decide) (by omega) []
  rw [List.append_nil] at last
  unfold readDate
  rw [dash]
  simp only [List.append_assoc, List.cons_append, List.nil_append]
  rw [readDigits_padded (by decide) (by omega)]
  simp only [Option.bind_eq_bind, Option.bind_some, List.head?_cons, decide_true, if_true,
    List.tail_cons]
  rw [if_neg week, readDigits_padded (by decide) (by omega)]
  simp only [Option.bind_some, skipDash, if_true, List.head?_cons, List.tail_cons]
  rw [last]
  rfl

theorem readFraction_written {microsecond : Nat} (small : microsecond < 1000000) (lenient : Bool) :
    readFraction lenient (padded 6 microsecond) = some microsecond := by
  have length := @padded_length 6 microsecond (by decide) (by omega)
  have value := padded_value 6 microsecond
  have digits : (padded 6 microsecond).all isDigit = true :=
    List.all_eq_true.2 fun _ mem => padded_digits mem
  have written : padded 6 microsecond ≠ [] := by
    intro empty
    rw [empty] at length
    cases length
  unfold Json.digitsValue at value
  unfold readFraction
  dsimp only
  rw [List.take_of_length_le (Nat.le_of_eq length), if_neg (by simp [written, digits]), value, length]
  simp

/-- A fraction, if there is one. -/
def fraction (microsecond : Nat) : Text :=
  if microsecond ≠ 0 then text "." ++ padded 6 microsecond else []

theorem readClock_written {hour minute second microsecond : Nat} (hours : hour < 100)
    (minutes : minute < 60) (seconds : second < 60) (small : microsecond < 1000000) (lenient : Bool) :
    readClock lenient (padded 2 hour ++ text ":" ++ padded 2 minute ++ text ":" ++ padded 2 second ++
      fraction microsecond) = some (hour, minute, second, microsecond) := by
  have colon : text ":" = [cp ':'] := rfl
  have long {t : Text} (c : CodePoint) (more : t ≠ []) : clockEnds lenient (c :: t) = false := by
    simp [clockEnds, more]
  have nonempty (n : Nat) (fits : n < 60) (rest : Text) : padded 2 n ++ rest ≠ [] := by
    have length := @padded_length 2 n (by decide) (by omega)
    intro empty
    rw [(List.append_eq_nil_iff.1 empty).1] at length
    cases length
  unfold readClock
  rw [colon]
  simp only [List.append_assoc, List.cons_append, List.nil_append]
  rw [readDigits_padded (by decide) (by omega)]
  simp only [Option.bind_eq_bind, Option.bind_some, long _ (nonempty minute minutes _),
    Bool.false_eq_true, if_false, List.head?_cons, decide_true, if_true, List.tail_cons]
  rw [readDigits_padded (by decide) (by omega)]
  simp only [Option.bind_some, long _ (nonempty second seconds _), Bool.false_eq_true, if_false,
    List.head?_cons, ne_eq, not_true_eq_false, and_false, List.tail_cons]
  rw [readDigits_padded (by decide) (by omega)]
  simp only [Option.bind_some]
  unfold fraction
  by_cases zero : microsecond = 0
  · rw [if_neg (not_not.2 zero), zero]
    rfl
  · have point : text "." = [cp '.'] := rfl
    have some_ := @padded_length 6 microsecond (by decide) (by omega)
    have digits : padded 6 microsecond ≠ [] := by
      intro empty
      rw [empty] at some_
      cases some_
    rw [if_pos zero, point, List.singleton_append, long _ digits]
    simp only [Bool.false_eq_true, if_false, List.head?_cons, true_or, if_true, List.tail_cons,
      readFraction_written small, Option.bind_some]
    rfl

/-- A clock without seconds. -/
theorem readClock_short {hour minute : Nat} (hours : hour < 100) (minutes : minute < 60) :
    readClock false (padded 2 hour ++ text ":" ++ padded 2 minute) = some (hour, minute, 0, 0) := by
  have colon : text ":" = [cp ':'] := rfl
  have last := @readDigits_padded 2 minute (by decide) (by omega) []
  rw [List.append_nil] at last
  unfold readClock
  rw [colon]
  simp only [List.append_assoc, List.cons_append, List.nil_append]
  rw [readDigits_padded (by decide) (by omega)]
  simp [clockEnds, last]

/-! ## The offset -/

/-- An offset that is read: it is UTC, or at least a second away from it. -/
def Readable (offset : Int) : Prop := offset = 0 ∨ 1000000 ≤ offset.natAbs

/-- The offset without its sign. -/
def offsetClock (offset : Int) : Text :=
  let seconds := offset.natAbs / 1000000
  let microsecond := offset.natAbs % 1000000
  padded 2 (seconds / 3600) ++ text ":" ++ padded 2 (seconds / 60 % 60) ++
    (if seconds % 60 ≠ 0 ∨ microsecond ≠ 0 then text ":" ++ padded 2 (seconds % 60) else []) ++
    fraction microsecond

theorem isoOffset_eq (offset : Int) :
    isoOffset offset = cp (if offset < 0 then '-' else '+') :: offsetClock offset := by
  unfold isoOffset offsetClock fraction
  simp only [List.append_assoc, List.cons_append, List.nil_append]

theorem readClock_offset {offset : Int} (small : offset.natAbs < 86400000000) :
    readClock false (offsetClock offset) =
      some (offset.natAbs / 1000000 / 3600, offset.natAbs / 1000000 / 60 % 60,
        offset.natAbs / 1000000 % 60, offset.natAbs % 1000000) := by
  have hours : offset.natAbs / 1000000 / 3600 < 100 := by omega
  have minutes : offset.natAbs / 1000000 / 60 % 60 < 60 := by omega
  have seconds : offset.natAbs / 1000000 % 60 < 60 := by omega
  have microseconds : offset.natAbs % 1000000 < 1000000 := by omega
  unfold offsetClock
  dsimp only
  by_cases long : offset.natAbs / 1000000 % 60 ≠ 0 ∨ offset.natAbs % 1000000 ≠ 0
  · have read := readClock_written hours minutes seconds microseconds false
    rw [if_pos long]
    simp only [List.append_assoc] at read ⊢
    exact read
  · have zero : offset.natAbs / 1000000 % 60 = 0 ∧ offset.natAbs % 1000000 = 0 := by omega
    rw [if_neg long, zero.1, zero.2]
    unfold fraction
    rw [if_neg (by decide), List.append_nil, List.append_nil]
    exact readClock_short hours minutes

theorem readOffset_written {offset : Int} (small : offset.natAbs < 86400000000) :
    readOffset (offsetClock offset) =
      some (if offset.natAbs < 1000000 then 0 else offset.natAbs) := by
  have total : offset.natAbs / 1000000 / 3600 * 3600 + offset.natAbs / 1000000 / 60 % 60 * 60 +
      offset.natAbs / 1000000 % 60 = offset.natAbs / 1000000 := by omega
  unfold readOffset
  rw [readClock_offset small]
  simp only [Option.bind_eq_bind, Option.bind_some, total, pure]
  congr 1
  split
  next none => rw [if_pos (by omega)]
  next some =>
    rw [if_neg (by omega)]
    exact Nat.div_add_mod' _ _

/-! ## The datetime -/

/-- The marks that end a clock. -/
def beforeZone (c : CodePoint) : Bool := c ≠ cp '+' ∧ c ≠ cp '-' ∧ c ≠ cp 'Z'

theorem clock_beforeZone {hour minute second microsecond : Nat} :
    ∀ c ∈ padded 2 hour ++ text ":" ++ padded 2 minute ++ text ":" ++ padded 2 second ++
      fraction microsecond, beforeZone c = true := by
  have digit {width n : Nat} : ∀ c ∈ padded width n, beforeZone c = true := by
    intro c mem
    have digit := padded_digits mem
    unfold beforeZone
    rw [decide_eq_true_eq]
    constructor
    · rintro rfl
      exact absurd digit (by decide)
    constructor
    · rintro rfl
      exact absurd digit (by decide)
    · rintro rfl
      exact absurd digit (by decide)
  have colon : ∀ c ∈ text ":", beforeZone c = true := by
    intro c mem
    rw [List.mem_singleton.1 (show c ∈ [cp ':'] from mem)]
    decide
  have point : ∀ c ∈ text ".", beforeZone c = true := by
    intro c mem
    rw [List.mem_singleton.1 (show c ∈ [cp '.'] from mem)]
    decide
  intro c mem
  simp only [List.mem_append, fraction] at mem
  rcases mem with ((((mem | mem) | mem) | mem) | mem) | mem
  · exact digit c mem
  · exact colon c mem
  · exact digit c mem
  · exact colon c mem
  · exact digit c mem
  · split at mem
    · rcases List.mem_append.1 mem with mem | mem
      · exact point c mem
      · exact digit c mem
    · cases mem

theorem readTime_written {hour minute second microsecond : Nat} (hours : hour < 24)
    (minutes : minute < 60) (seconds : second < 60) (microseconds : microsecond < 1000000)
    {offset : Int} (small : offset.natAbs < 86400000000) :
    readTime (padded 2 hour ++ text ":" ++ padded 2 minute ++ text ":" ++ padded 2 second ++
      fraction microsecond ++ isoOffset offset) =
      some ((hour, minute, second, microsecond),
        some (if offset.natAbs < 1000000 then 0 else offset)) := by
  have clean := @clock_beforeZone hour minute second microsecond
  have clock := @readClock_written hour minute second microsecond (by omega) minutes seconds
    microseconds true
  generalize padded 2 hour ++ text ":" ++ padded 2 minute ++ text ":" ++ padded 2 second ++
    fraction microsecond = spelled at clean clock ⊢
  have front : (spelled ++ isoOffset offset).takeWhile
      beforeZone = spelled := by
    have mark : beforeZone (cp (if offset < 0 then '-' else '+')) = false := by
      split <;> decide
    rw [List.takeWhile_append_of_pos clean, isoOffset_eq, List.takeWhile_cons, mark]
    simp
  have zone : (spelled ++ isoOffset offset).drop spelled.length = isoOffset offset := List.drop_left
  have clock_eq : (fun c => decide (c ≠ cp '+' ∧ c ≠ cp '-' ∧ c ≠ cp 'Z')) = beforeZone := rfl
  unfold readTime
  dsimp only
  rw [clock_eq, front, zone, isoOffset_eq]
  simp only [ne_eq, reduceCtorEq, not_false_eq_true, decide_true, clock, Option.bind_eq_bind,
    Option.bind_some, readOffset_written small, pure]
  by_cases negative : offset < 0
  · rw [if_pos negative, if_neg (by decide), if_pos rfl]
    congr 3
    split
    · rfl
    · omega
  · rw [if_neg negative, if_neg (by decide), if_neg (by decide)]
    congr 3
    split
    · rfl
    · omega

theorem dateLength_written {year month : Nat} (years : year ≤ 9999) (months : month ≤ 12)
    (rest : Text) (long : 3 ≤ rest.length) :
    dateLength (padded 4 year ++ text "-" ++ padded 2 month ++ rest) = some 10 := by
  have yearLength := @padded_length 4 year (by decide) (by omega)
  have monthLength := @padded_length 2 month (by decide) (by omega)
  have dash : text "-" = [cp '-'] := rfl
  rw [dash]
  simp only [List.append_assoc, List.cons_append, List.nil_append]
  have length : (padded 4 year ++ cp '-' :: (padded 2 month ++ rest)).length = 7 + rest.length := by
    simp only [List.length_append, List.length_cons, yearLength, monthLength]
    omega
  have fourth : at? (padded 4 year ++ cp '-' :: (padded 2 month ++ rest)) 4 '-' = true := by
    unfold at?
    rw [List.getElem?_append_right (by omega), yearLength]
    rfl
  have fifth : at? (padded 4 year ++ cp '-' :: (padded 2 month ++ rest)) 5 'W' = false := by
    have head := @padded_head 2 month (by decide) (by omega) rest (cp 'W') (by decide)
    unfold at?
    rw [List.getElem?_append_right (by omega), yearLength, decide_eq_false_iff_not]
    rw [show 5 - 4 = 0 + 1 from rfl, List.getElem?_cons_succ, ← List.head?_eq_getElem?]
    exact head
  unfold dateLength
  rw [if_neg (by omega), if_neg (by omega), fourth, if_pos rfl, fifth]
  rfl

/-- The datetime as it is read again. -/
def readAgain (d : DateTime) : DateTime :=
  { d with
    offset := d.offset.map fun offset => if offset.natAbs < 1000000 then 0 else offset
    inRange := by
      obtain ⟨first, last, january, december, day, days, hour, minute, second, micro, fits⟩ := d.inRange
      refine ⟨first, last, january, december, day, days, hour, minute, second, micro, ?_⟩
      intro offset mem
      obtain ⟨old, stored, rfl⟩ := Option.mem_map.1 mem
      have small := fits old stored
      split
      · decide
      · exact small }

theorem daysInMonth_le (year month : Nat) : Calendar.daysInMonth year month ≤ 31 := by
  unfold Calendar.daysInMonth
  repeat' split
  all_goals omega

/-- A datetime with an offset is read as it was written, but for an offset below a second. -/
theorem fromIsoformat_isoformat {d : DateTime} {offset : Int} (zoned : d.offset = some offset) :
    fromIsoformat d.isoformat = some d.readAgain := by
  obtain ⟨first, last, january, december, day, days, hour, minute, second, micro, fits⟩ := d.inRange
  have small := fits offset zoned
  have short := Nat.le_trans days (daysInMonth_le d.year d.month)
  have yearLength := @padded_length 4 d.year (by decide) (by omega)
  have monthLength := @padded_length 2 d.month (by decide) (by omega)
  have dayLength := @padded_length 2 d.day (by decide) (by omega)
  have dashLength : (text "-").length = 1 := rfl
  have date := @readDate_written d.year d.month d.day last december short
  have time := @readTime_written d.hour d.minute d.second d.microsecond hour minute second micro
    offset small
  have spelled : d.isoformat = (padded 4 d.year ++ text "-" ++ padded 2 d.month ++ text "-" ++
      padded 2 d.day) ++ cp 'T' :: (padded 2 d.hour ++ text ":" ++ padded 2 d.minute ++ text ":" ++
        padded 2 d.second ++ fraction d.microsecond ++ isoOffset offset) := by
    unfold isoformat fraction
    rw [zoned]
    have mark : text "T" = [cp 'T'] := rfl
    simp only [mark, List.append_assoc, List.cons_append, List.nil_append]
  have length : dateLength d.isoformat = some 10 := by
    rw [spelled]
    simp only [List.append_assoc]
    have written := dateLength_written last december (text "-" ++ (padded 2 d.day ++ cp 'T' ::
      (padded 2 d.hour ++ (text ":" ++ (padded 2 d.minute ++ (text ":" ++
        (padded 2 d.second ++ (fraction d.microsecond ++ isoOffset offset)))))))) (by
          simp only [List.length_append, List.length_cons, dashLength, dayLength]
          omega)
    simp only [List.append_assoc] at written
    exact written
  have ten : (padded 4 d.year ++ text "-" ++ padded 2 d.month ++ text "-" ++ padded 2 d.day).length =
      10 := by
    simp only [List.length_append, yearLength, monthLength, dayLength, dashLength]
  have front : d.isoformat.take 10 =
      padded 4 d.year ++ text "-" ++ padded 2 d.month ++ text "-" ++ padded 2 d.day := by
    rw [spelled, ← ten, List.take_left]
  have back : d.isoformat.drop (10 + 1) = padded 2 d.hour ++ text ":" ++ padded 2 d.minute ++
      text ":" ++ padded 2 d.second ++ fraction d.microsecond ++ isoOffset offset := by
    rw [spelled, ← List.drop_drop, ← ten, List.drop_left]
    rfl
  have more : d.isoformat.length ≠ 10 := by
    rw [spelled, List.length_append, ten, List.length_cons]
    omega
  have range := d.readAgain.inRange
  have offsetAgain : d.readAgain.offset = some (if offset.natAbs < 1000000 then 0 else offset) := by
    show d.offset.map _ = _
    rw [zoned]
    rfl
  rw [offsetAgain] at range
  dsimp only [readAgain] at range
  obtain ⟨kept, same⟩ : ∃ kept, (if offset.natAbs < 1000000 then 0 else offset) = kept := ⟨_, rfl⟩
  rw [same] at time range
  unfold fromIsoformat
  simp only [length, Option.bind_eq_bind, Option.bind_some, front, date, if_neg more, back, time]
  split
  next inRange =>
    unfold readAgain
    simp only [zoned, Option.map_some, same]
    rfl
  next outside => exact absurd range outside

/-- It is the same datetime exactly when its offset is zero or no less than a second. -/
theorem readAgain_eq {d : DateTime} : d.readAgain = d ↔ ∀ offset ∈ d.offset, Readable offset := by
  obtain ⟨year, month, day, hour, minute, second, microsecond, zone, inRange⟩ := d
  unfold readAgain Readable
  cases zone with
  | none =>
    constructor
    · intro _ offset mem
      cases mem
    · intro _
      rfl
  | some offset =>
    simp only [Option.map_some, mk.injEq, true_and, Option.some.injEq, Option.mem_def, forall_eq']
    constructor
    · intro kept
      split at kept
      · exact .inl kept.symm
      · omega
    · intro readable
      rcases readable with zero | long
      · rw [zero]
        rfl
      · exact if_neg (by omega)

end DateTime

end EvoBlue.Kernel
