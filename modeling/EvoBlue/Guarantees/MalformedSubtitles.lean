import EvoBlue.Kernel.Attempts
import EvoBlue.Source.Subtitles

/-!
# Malformed subtitles

A subtitle file is taken apart in blocks of lines between blank lines. The first line of a
block with an arrow in it is the line of its cue, and the lines below it are the cue's text. A
parser reads the cues in file order until a timestamp cannot be read, which is a `ValueError`
and leads to transcription; but the first word behind a VTT arrow is taken without looking
whether there is one, and whole minutes can be too many for a float.
-/

namespace EvoBlue.Guarantees

open EvoBlue.Kernel EvoBlue.Source

def hasArrow (line : Text) : Bool := (breakOn (text "-->") (strip line)).isSome

/-- The cue of a block: the line with the arrow and the lines below it. -/
def blockCue (block : List Text) : Option (Text × List Text) :=
  match block.dropWhile fun line => !hasArrow line with
  | [] => none
  | line :: words => some (line, words)

def cuesOf (lines : List Text) : List (Text × List Text) :=
  (lines.splitOnP isBlankLine).filterMap blockCue

/-- What stands before and behind the arrow. -/
def cueTimes (line : Text) : Text × Text := (breakOn (text "-->") (strip line)).getD ([], [])

section

variable (env : ParserEnv)

/-- One cue as a parser reads it. -/
def cueSegment (parseEnd : Text → Except ParseError FloatValue) (cue : Text × List Text) :
    Except ParseError TimedText := do
  let start ← parseTimestamp env (cueTimes cue.1).1
  let stop ← parseEnd (cueTimes cue.1).2
  pure ⟨start, stop, cueText cue.2⟩

end

/-! ## Blocks -/

theorem cuesOf_blank {line : Text} (blank : isBlankLine line = true) (rest : List Text) :
    cuesOf (line :: rest) = cuesOf rest := by
  unfold cuesOf
  rw [List.splitOnP_cons_eq_if_modifyHead, if_pos blank]
  rfl

theorem not_hasArrow_of_blank {line : Text} (blank : isBlankLine line = true) :
    hasArrow line = false := by
  have empty : strip line = [] := by simpa [isBlankLine] using blank
  unfold hasArrow
  rw [empty]
  rfl

/-- A line without an arrow above a block does not change its cue. -/
theorem cuesOf_skip {line : Text} (plain : hasArrow line = false) (rest : List Text) :
    cuesOf (line :: rest) = cuesOf rest := by
  by_cases blank : isBlankLine line = true
  · exact cuesOf_blank blank rest
  · unfold cuesOf
    rw [List.splitOnP_cons_eq_if_modifyHead, if_neg blank]
    cases blocks : rest.splitOnP isBlankLine with
    | nil => rfl
    | cons block others =>
      have same : blockCue (line :: block) = blockCue block := by
        unfold blockCue
        rw [List.dropWhile_cons_of_pos (by simp [plain])]
      rw [List.modifyHead_cons, List.filterMap_cons, List.filterMap_cons, same]

/-- The lines up to the first blank one are the first block. -/
theorem splitOnP_blocks (lines : List Text) :
    ∃ blocks, lines.splitOnP isBlankLine =
        (lines.takeWhile fun line => !isBlankLine line) :: blocks ∧
      blocks.filterMap blockCue = cuesOf (lines.dropWhile fun line => !isBlankLine line) := by
  induction lines with
  | nil => exact ⟨[], rfl, rfl⟩
  | cons line rest ih =>
    obtain ⟨blocks, split, cues⟩ := ih
    by_cases blank : isBlankLine line = true
    · use rest.splitOnP isBlankLine
      constructor
      · rw [List.splitOnP_cons_eq_if_modifyHead, if_pos blank, List.takeWhile_cons_of_neg (by simp [blank])]
      · rw [List.dropWhile_cons_of_neg (by simp [blank]), cuesOf_blank blank]
        rfl
    · use blocks
      constructor
      · rw [List.splitOnP_cons_eq_if_modifyHead, if_neg blank, split, List.takeWhile_cons_of_pos (by simp [blank])]
        rfl
      · rw [cues, List.dropWhile_cons_of_pos (by simp [blank])]

/-- A line with an arrow takes the rest of its block. -/
theorem cuesOf_arrow {line : Text} (arrow : hasArrow line = true) (rest : List Text) :
    cuesOf (line :: rest) = (line, rest.takeWhile fun line => !isBlankLine line) ::
      cuesOf (rest.dropWhile fun line => !isBlankLine line) := by
  have visible : ¬ isBlankLine line = true := by
    intro blank
    rw [not_hasArrow_of_blank blank] at arrow
    cases arrow
  obtain ⟨blocks, split, cues⟩ := splitOnP_blocks rest
  conv => lhs; unfold cuesOf
  rw [List.splitOnP_cons_eq_if_modifyHead, if_neg visible, split, ← cues, List.modifyHead_cons,
    List.filterMap_cons]
  have found : blockCue (line :: rest.takeWhile fun line => !isBlankLine line) =
      some (line, rest.takeWhile fun line => !isBlankLine line) := by
    unfold blockCue
    rw [List.dropWhile_cons_of_neg (by simp [arrow])]
  rw [found]

/-! ## Timestamps -/

/-- What `int` and `float` read of a timestamp: whole seconds, and what is left. -/
def readTimestamp (unicode : UnicodeData) (value : Text) : Option (Int × FloatValue) :=
  match (replaceAll [cp ','] [cp '.'] (strip value)).splitOn (cp ':') with
  | [hours, minutes, seconds] => do
    let hours ← readInt unicode hours
    let minutes ← readInt unicode minutes
    let seconds ← readFloat unicode seconds
    pure (hours * 3600 + minutes * 60, seconds)
  | [minutes, seconds] => do
    let minutes ← readInt unicode minutes
    let seconds ← readFloat unicode seconds
    pure (minutes * 60, seconds)
  | _ => none

/-- A timestamp. -/
def Reads (unicode : UnicodeData) (value : Text) : Prop :=
  ∃ whole seconds, readTimestamp unicode value = some (whole, seconds) ∧ whole.natAbs < floatLimit

/-- It is read, but its whole seconds are too many for a float. -/
def TooLarge (unicode : UnicodeData) (value : Text) : Prop :=
  ∃ whole seconds, readTimestamp unicode value = some (whole, seconds) ∧ floatLimit ≤ whole.natAbs

section

variable {env : ParserEnv} {value : Text}

theorem parseInt_some {t : Text} {number : Int} (read : readInt env.unicode t = some number) :
    parseInt env t = .ok number := by
  unfold parseInt
  rw [read]

theorem parseInt_none {t : Text} (unread : readInt env.unicode t = none) :
    parseInt env t = .error (.value (env.intError t)) := by
  unfold parseInt
  rw [unread]

theorem parseFloat_some {t : Text} {number : FloatValue}
    (read : readFloat env.unicode t = some number) : parseFloat env t = .ok number := by
  unfold parseFloat
  rw [read]

theorem parseFloat_none {t : Text} (unread : readFloat env.unicode t = none) :
    parseFloat env t = .error (.value (env.floatError t)) := by
  unfold parseFloat
  rw [unread]

/-- A timestamp is read and added up, or is a `ValueError`. -/
theorem parseTimestamp_cases (env : ParserEnv) (value : Text) :
    (∃ whole seconds, readTimestamp env.unicode value = some (whole, seconds) ∧
      parseTimestamp env value = addFloat whole seconds) ∨
    (readTimestamp env.unicode value = none ∧
      ∃ message, parseTimestamp env value = .error (.value message)) := by
  unfold parseTimestamp readTimestamp
  generalize (replaceAll [cp ','] [cp '.'] (strip value)).splitOn (cp ':') = parts
  match parts with
  | [] => exact .inr ⟨rfl, _, rfl⟩
  | [_] => exact .inr ⟨rfl, _, rfl⟩
  | [minutes, seconds] =>
    dsimp only
    cases readMinutes : readInt env.unicode minutes with
    | none =>
      rw [parseInt_none readMinutes]
      exact .inr ⟨rfl, _, rfl⟩
    | some whole =>
      rw [parseInt_some readMinutes]
      cases readSeconds : readFloat env.unicode seconds with
      | none =>
        rw [parseFloat_none readSeconds]
        exact .inr ⟨rfl, _, rfl⟩
      | some rest =>
        rw [parseFloat_some readSeconds]
        exact .inl ⟨whole * 60, rest, rfl, by dsimp only [bind, Except.bind]⟩
  | [hours, minutes, seconds] =>
    dsimp only
    cases readHours : readInt env.unicode hours with
    | none =>
      rw [parseInt_none readHours]
      exact .inr ⟨rfl, _, rfl⟩
    | some most =>
      rw [parseInt_some readHours]
      cases readMinutes : readInt env.unicode minutes with
      | none =>
        rw [parseInt_none readMinutes]
        exact .inr ⟨rfl, _, rfl⟩
      | some whole =>
        rw [parseInt_some readMinutes]
        cases readSeconds : readFloat env.unicode seconds with
        | none =>
          rw [parseFloat_none readSeconds]
          exact .inr ⟨rfl, _, rfl⟩
        | some rest =>
          rw [parseFloat_some readSeconds]
          exact .inl ⟨most * 3600 + whole * 60, rest, rfl, by dsimp only [bind, Except.bind]⟩
  | _ :: _ :: _ :: _ :: _ => exact .inr ⟨rfl, _, rfl⟩

theorem addFloat_ok {whole : Int} (small : whole.natAbs < floatLimit) (seconds : FloatValue) :
    ∃ time, addFloat whole seconds = .ok time := by
  unfold addFloat
  rw [if_neg (not_le_of_gt small)]
  cases seconds with
  | finite part => exact ⟨_, rfl⟩
  | infinite negative => exact ⟨_, rfl⟩
  | nan => exact ⟨_, rfl⟩

theorem parseTimestamp_reads (reads : Reads env.unicode value) :
    ∃ time, parseTimestamp env value = .ok time := by
  obtain ⟨whole, seconds, read, small⟩ := reads
  rcases parseTimestamp_cases env value with ⟨whole', seconds', read', added⟩ | ⟨unread, -⟩
  · rw [read] at read'
    cases read'
    rw [added]
    exact addFloat_ok small seconds
  · rw [read] at unread
    cases unread

theorem parseTimestamp_tooLarge (large : TooLarge env.unicode value) :
    parseTimestamp env value = .error .overflow := by
  obtain ⟨whole, seconds, read, many⟩ := large
  rcases parseTimestamp_cases env value with ⟨whole', seconds', read', added⟩ | ⟨unread, -⟩
  · rw [read] at read'
    cases read'
    rw [added]
    unfold addFloat
    rw [if_pos many]
  · rw [read] at unread
    cases unread

/-- Something else than a `ValueError` is raised. -/
def Uncaught {α : Type} (result : Except ParseError α) : Prop :=
  ∃ error, result = .error error ∧ ∀ message, error ≠ .value message

/-- A timestamp is one of three things. -/
theorem timestamp_trichotomy (env : ParserEnv) (value : Text) :
    Reads env.unicode value ∨ TooLarge env.unicode value ∨
      ∃ message, parseTimestamp env value = .error (.value message) := by
  rcases parseTimestamp_cases env value with ⟨whole, seconds, read, -⟩ | ⟨-, failed⟩
  · by_cases small : whole.natAbs < floatLimit
    · exact .inl ⟨whole, seconds, read, small⟩
    · exact .inr (.inl ⟨whole, seconds, read, le_of_not_gt small⟩)
  · exact .inr (.inr failed)

theorem parses_iff : (∃ time, parseTimestamp env value = .ok time) ↔ Reads env.unicode value := by
  constructor
  · intro ⟨time, parsed⟩
    rcases timestamp_trichotomy env value with reads | large | ⟨message, failed⟩
    · exact reads
    · rw [parseTimestamp_tooLarge large] at parsed
      cases parsed
    · rw [failed] at parsed
      cases parsed
  · exact parseTimestamp_reads

theorem timestamp_breaks_iff :
    Uncaught (parseTimestamp env value) ↔ TooLarge env.unicode value := by
  constructor
  · intro ⟨error, failed, other⟩
    rcases timestamp_trichotomy env value with reads | large | ⟨message, valueError⟩
    · obtain ⟨time, parsed⟩ := parseTimestamp_reads reads
      rw [parsed] at failed
      cases failed
    · exact large
    · rw [valueError] at failed
      cases failed
      exact absurd rfl (other message)
  · intro large
    exact ⟨.overflow, parseTimestamp_tooLarge large, by simp⟩

end

section

variable {env : ParserEnv}

/-- The loop reads the cues, one by one, until one fails. -/
theorem parseCues_eq (parseEnd : Text → Except ParseError FloatValue) (lines : List Text) :
    parseCues env parseEnd lines = (cuesOf lines).mapM (cueSegment env parseEnd) := by
  induction lines using parseCues.induct with
  | case1 =>
    rw [parseCues]
    rfl
  | case2 line rest startStr endStr found ih =>
    have arrow : hasArrow line = true := by simp [hasArrow, found]
    have times : cueTimes line = (startStr, endStr) := by simp [cueTimes, found]
    rw [parseCues, cuesOf_arrow arrow]
    simp only [found]
    cases first : parseTimestamp env startStr with
    | error error =>
      have failed : cueSegment env parseEnd
          (line, rest.takeWhile fun line => !isBlankLine line) = .error error := by
        unfold cueSegment
        rw [times, first]
        rfl
      rw [mapM_cons_error failed]
      rfl
    | ok start =>
      cases second : parseEnd endStr with
      | error error =>
        have failed : cueSegment env parseEnd
            (line, rest.takeWhile fun line => !isBlankLine line) = .error error := by
          unfold cueSegment
          rw [times, first, second]
          rfl
        rw [mapM_cons_error failed]
        rfl
      | ok stop =>
        have read : cueSegment env parseEnd (line, rest.takeWhile fun line => !isBlankLine line) =
            .ok ⟨start, stop, cueText (rest.takeWhile fun line => !isBlankLine line)⟩ := by
          unfold cueSegment
          rw [times, first, second]
          rfl
        rw [mapM_cons_ok read, ih]
        rfl
  | case3 line rest absent ih =>
    have plain : hasArrow line = false := by simp [hasArrow, absent]
    rw [parseCues, cuesOf_skip plain]
    simp only [absent]
    exact ih

end

/-! ## One cue -/

/-- The part behind the arrow that is read as a time: for VTT its first word, if it has one. -/
def endWord (ext endStr : Text) : Option Text :=
  if ext = text "srt" then some (strip endStr) else (splitWords (strip endStr)).head?

def CueReads (unicode : UnicodeData) (ext line : Text) : Prop :=
  Reads unicode (cueTimes line).1 ∧ ∃ word, endWord ext (cueTimes line).2 = some word ∧
    Reads unicode word

/-- What the adapter does not expect: a time too large, or nothing behind a VTT arrow. -/
def CueBreaks (unicode : UnicodeData) (ext line : Text) : Prop :=
  TooLarge unicode (cueTimes line).1 ∨ (Reads unicode (cueTimes line).1 ∧
    ∀ word, endWord ext (cueTimes line).2 = some word → TooLarge unicode word)

/-- No cue breaks that is reached: all cues before it are read. -/
def Harmless (unicode : UnicodeData) (raw ext : Text) : Prop :=
  ∀ before cue after, cuesOf (textLines raw) = before ++ cue :: after →
    (∀ earlier ∈ before, CueReads unicode ext earlier.1) → ¬ CueBreaks unicode ext cue.1

section

variable {env : ParserEnv} {ext : Text}

def parseEndOf (env : ParserEnv) (ext endStr : Text) : Except ParseError FloatValue :=
  if ext = text "srt" then parseSrtEnd env endStr else parseVttEnd env endStr

theorem parseSubtitles_eq (env : ParserEnv) (raw ext : Text) :
    parseSubtitles env raw ext =
      (cuesOf (textLines raw)).mapM (cueSegment env (parseEndOf env ext)) := by
  unfold parseSubtitles
  by_cases srt : ext = text "srt"
  · have same : parseEndOf env ext = parseSrtEnd env := by
      funext endStr
      exact if_pos srt
    rw [if_pos srt, same]
    exact parseCues_eq _ _
  · have same : parseEndOf env ext = parseVttEnd env := by
      funext endStr
      exact if_neg srt
    rw [if_neg srt, same]
    exact parseCues_eq _ _

theorem parseEndOf_some {endStr word : Text} (found : endWord ext endStr = some word) :
    parseEndOf env ext endStr = parseTimestamp env word := by
  unfold endWord at found
  unfold parseEndOf
  by_cases srt : ext = text "srt"
  · rw [if_pos srt] at found ⊢
    cases found
    rfl
  · rw [if_neg srt] at found ⊢
    unfold parseVttEnd
    rw [found]

theorem parseEndOf_none {endStr : Text} (absent : endWord ext endStr = none) :
    parseEndOf env ext endStr = .error .index := by
  unfold endWord at absent
  unfold parseEndOf
  by_cases srt : ext = text "srt"
  · rw [if_pos srt] at absent
    cases absent
  · rw [if_neg srt] at absent ⊢
    unfold parseVttEnd
    rw [absent]

theorem cueSegment_error {cue : Text × List Text} {error : ParseError}
    (failed : parseTimestamp env (cueTimes cue.1).1 = .error error) :
    cueSegment env (parseEndOf env ext) cue = .error error := by
  unfold cueSegment
  rw [failed]
  rfl

theorem cueSegment_end {cue : Text × List Text} {start : FloatValue}
    (parsed : parseTimestamp env (cueTimes cue.1).1 = .ok start) :
    cueSegment env (parseEndOf env ext) cue =
      (parseEndOf env ext (cueTimes cue.1).2).map fun stop => ⟨start, stop, cueText cue.2⟩ := by
  unfold cueSegment
  rw [parsed]
  cases parseEndOf env ext (cueTimes cue.1).2 <;> rfl

theorem end_parses_iff {endStr : Text} : (∃ time, parseEndOf env ext endStr = .ok time) ↔
    ∃ word, endWord ext endStr = some word ∧ Reads env.unicode word := by
  cases found : endWord ext endStr with
  | none =>
    rw [parseEndOf_none found]
    simp
  | some word =>
    rw [parseEndOf_some found, parses_iff]
    simp

theorem end_breaks_iff {endStr : Text} : Uncaught (parseEndOf env ext endStr) ↔
    ∀ word, endWord ext endStr = some word → TooLarge env.unicode word := by
  cases found : endWord ext endStr with
  | none =>
    rw [parseEndOf_none found]
    simp [Uncaught]
  | some word =>
    rw [parseEndOf_some found, timestamp_breaks_iff]
    simp

theorem cue_parses_iff {cue : Text × List Text} :
    (∃ segment, cueSegment env (parseEndOf env ext) cue = .ok segment) ↔
      CueReads env.unicode ext cue.1 := by
  unfold CueReads
  rw [← end_parses_iff, ← parses_iff]
  cases first : parseTimestamp env (cueTimes cue.1).1 with
  | error error =>
    rw [cueSegment_error first]
    simp
  | ok start =>
    rw [cueSegment_end first]
    cases parseEndOf env ext (cueTimes cue.1).2 <;> simp [Except.map]

theorem cue_breaks_iff {cue : Text × List Text} :
    Uncaught (cueSegment env (parseEndOf env ext) cue) ↔ CueBreaks env.unicode ext cue.1 := by
  unfold CueBreaks
  rw [← end_breaks_iff, ← parses_iff, ← timestamp_breaks_iff]
  cases first : parseTimestamp env (cueTimes cue.1).1 with
  | error error =>
    rw [cueSegment_error first]
    simp [Uncaught]
  | ok start =>
    rw [cueSegment_end first]
    cases parseEndOf env ext (cueTimes cue.1).2 <;> simp [Uncaught, Except.map]

/-! ## Whole files -/

/-- A parser raises something else than a `ValueError` exactly when a cue breaks that it
reaches. -/
theorem parse_breaks_iff (env : ParserEnv) (raw ext : Text) :
    Uncaught (parseSubtitles env raw ext) ↔ ¬ Harmless env.unicode raw ext := by
  rw [parseSubtitles_eq]
  constructor
  · intro ⟨error, failed, other⟩ harmless
    obtain ⟨before, cue, after, whole, fine, here⟩ := mapM_error_iff.mp failed
    apply harmless before cue after whole
    · intro earlier mem
      exact cue_parses_iff.mp (fine earlier mem)
    · exact cue_breaks_iff.mp ⟨error, here, other⟩
  · intro harmful
    unfold Harmless at harmful
    push Not at harmful
    obtain ⟨before, cue, after, whole, fine, breaks⟩ := harmful
    obtain ⟨error, here, other⟩ := cue_breaks_iff.mpr breaks
    have failed : (cuesOf (textLines raw)).mapM (cueSegment env (parseEndOf env ext)) =
        .error error := by
      apply mapM_error_iff.mpr
      exact ⟨before, cue, after, whole,
        fun earlier mem => cue_parses_iff.mpr (fine earlier mem), here⟩
    exact ⟨error, failed, other⟩

/-- A block and the segment it became. -/
structure BecameSegment (env : ParserEnv) (ext : Text) (block : List Text) (segment : TimedText) : Prop where
  cue : ∃ before line words, block = before ++ line :: words ∧
    (∀ other ∈ before, hasArrow other = false) ∧ hasArrow line = true ∧
    parseTimestamp env (cueTimes line).1 = .ok segment.start ∧
    parseEndOf env ext (cueTimes line).2 = .ok segment.stop ∧ segment.text = cueText words

theorem blockCue_some {block : List Text} {cue : Text × List Text}
    (found : blockCue block = some cue) : ∃ before, block = before ++ cue.1 :: cue.2 ∧
      (∀ other ∈ before, hasArrow other = false) ∧ hasArrow cue.1 = true := by
  unfold blockCue at found
  have parts := List.takeWhile_append_dropWhile (p := fun line => !hasArrow line) (l := block)
  cases rest : block.dropWhile fun line => !hasArrow line with
  | nil =>
    rw [rest] at found
    cases found
  | cons line words =>
    rw [rest] at found parts
    cases found
    refine ⟨_, parts.symm, ?_, ?_⟩
    · intro other mem
      simpa using List.mem_takeWhile_imp mem
    · have stopped := List.head?_dropWhile_not (fun line => !hasArrow line) block
      rw [rest] at stopped
      simpa using stopped

theorem cueSegment_parts {cue : Text × List Text} {segment : TimedText}
    (read : cueSegment env (parseEndOf env ext) cue = .ok segment) :
    parseTimestamp env (cueTimes cue.1).1 = .ok segment.start ∧
      parseEndOf env ext (cueTimes cue.1).2 = .ok segment.stop ∧ segment.text = cueText cue.2 := by
  cases first : parseTimestamp env (cueTimes cue.1).1 with
  | error error =>
    rw [cueSegment_error first] at read
    cases read
  | ok start =>
    rw [cueSegment_end first] at read
    cases second : parseEndOf env ext (cueTimes cue.1).2 with
    | error error =>
      rw [second] at read
      cases read
    | ok stop =>
      rw [second] at read
      cases read
      exact ⟨rfl, rfl, rfl⟩

theorem tells_of_segment {block : List Text} {cue : Text × List Text} {segment : TimedText}
    (found : blockCue block = some cue)
    (read : cueSegment env (parseEndOf env ext) cue = .ok segment) : BecameSegment env ext block segment := by
  obtain ⟨before, whole, plain, arrow⟩ := blockCue_some found
  exact ⟨before, cue.1, cue.2, whole, plain, arrow, cueSegment_parts read⟩

/-- The segments come from blocks of the file, in their order. -/
theorem segments_in_order {blocks : List (List Text)} {segments : List TimedText}
    (read : List.Forall₂ (fun cue segment => cueSegment env (parseEndOf env ext) cue = .ok segment)
      (blocks.filterMap blockCue) segments) :
    ∃ told, told.Sublist blocks ∧ List.Forall₂ (BecameSegment env ext) told segments := by
  induction blocks generalizing segments with
  | nil =>
    cases read
    exact ⟨[], List.Sublist.refl _, .nil⟩
  | cons block blocks ih =>
    cases found : blockCue block with
    | none =>
      rw [List.filterMap_cons_none found] at read
      obtain ⟨told, among, tells⟩ := ih read
      exact ⟨told, among.cons block, tells⟩
    | some cue =>
      rw [List.filterMap_cons_some found] at read
      cases read with
      | cons here later =>
        obtain ⟨told, among, tells⟩ := ih later
        exact ⟨block :: told, among.cons_cons block, .cons (tells_of_segment found here) tells⟩

end

/-! ## One line -/

theorem textLines_clean {t line : Text} (mem : line ∈ textLines t) :
    ∀ c ∈ line, isLineEnd c = false := by
  obtain ⟨whole, memWhole, rfl⟩ := List.mem_map.mp mem
  exact splitLines_clean memWhole

theorem cueText_clean {words : List Text}
    (clean : ∀ word ∈ words, ∀ c ∈ word, isLineEnd c = false) :
    ∀ c ∈ cueText words, isLineEnd c = false := by
  intro c mem
  rcases mem_intercalate mem with blank | ⟨word, memWord, here⟩
  · rw [List.mem_singleton.mp blank]
    decide
  · obtain ⟨line, memLine, rfl⟩ := List.mem_map.mp memWord
    exact clean line memLine c (strip_subset here)

theorem mem_block {lines block : List Text} {line : Text}
    (among : block ∈ lines.splitOnP isBlankLine) (mem : line ∈ block) : line ∈ lines := by
  induction lines generalizing block with
  | nil =>
    rw [List.splitOnP_nil, List.mem_singleton] at among
    rw [among] at mem
    cases mem
  | cons first rest ih =>
    rw [List.splitOnP_cons_eq_if_modifyHead] at among
    by_cases blank : isBlankLine first = true
    · rw [if_pos blank] at among
      rcases List.mem_cons.mp among with same | later
      · rw [same] at mem
        cases mem
      · exact List.mem_cons_of_mem _ (ih later mem)
    · rw [if_neg blank] at among
      cases blocks : rest.splitOnP isBlankLine with
      | nil =>
        rw [blocks] at among
        cases among
      | cons head others =>
        rw [blocks, List.modifyHead_cons] at among
        rcases List.mem_cons.mp among with same | later
        · rw [same] at mem
          rcases List.mem_cons.mp mem with here | tail
          · rw [here]
            exact List.mem_cons_self
          · exact List.mem_cons_of_mem _ (ih (blocks ▸ List.mem_cons_self) tail)
        · exact List.mem_cons_of_mem _ (ih (blocks ▸ List.mem_cons_of_mem _ later) mem)

/-- The text of a segment is of one line. -/
theorem tells_one_line {env : ParserEnv} {ext raw : Text} {block : List Text} {segment : TimedText}
    (among : block ∈ (textLines raw).splitOnP isBlankLine) (tells : BecameSegment env ext block segment) :
    ∀ c ∈ segment.text, isLineEnd c = false := by
  obtain ⟨before, line, words, whole, -, -, -, -, told⟩ := tells.cue
  rw [told]
  apply cueText_clean
  intro word mem
  apply textLines_clean
  apply mem_block among
  rw [whole]
  simp [mem]

/-! ## Falling back -/

/-- A malformed file is a missing subtitle, after which the job goes on without; and what is
read of a file are texts of one line each, in file order. -/
structure FallsBack (env : ParserEnv) (raw ext : Text) : Prop where
  only_value_errors : ∀ error, parseSubtitles env raw ext = .error error →
    ∃ message, error = .value message
  subtitles_missing : ∀ error, parseSubtitles env raw ext = .error error →
    ∀ info url lang download ref, pickSubtitleUrl info = some (url, ext, lang) →
      download url = .ok raw → ∃ message, ytDlpTranscript env (.ok info) download ref =
        .adapterError ⟨⟨"SUBTITLE_MISSING", message⟩, false⟩
  goes_on : ∀ error, parseSubtitles env raw ext = .error error →
    ∀ info url lang download, pickSubtitleUrl info = some (url, ext, lang) →
      download url = .ok raw → ∀ (handlers : HandlerEnv) (job : Job) ref instant,
        handlers.detectVideo job.url = .ok ref → job.asr ≠ "disabled" →
          subtitlesFetched handlers job
              ((ytDlpTranscript env (.ok info) download ref).answer instant) =
            Stage.success .downloadingAudio none (some [(.subtitleProbe, some "none")])
  one_line : ∀ segments, parseSubtitles env raw ext = .ok segments →
    ∀ segment ∈ segments, ∀ c ∈ segment.text, isLineEnd c = false
  in_order : ∀ segments, parseSubtitles env raw ext = .ok segments →
    ∃ told, told.Sublist ((textLines raw).splitOnP isBlankLine) ∧
      List.Forall₂ (BecameSegment env ext) told segments

section

variable {env : ParserEnv} {raw ext : Text}

theorem parsed_in_order {segments : List TimedText}
    (parsed : parseSubtitles env raw ext = .ok segments) :
    ∃ told, told.Sublist ((textLines raw).splitOnP isBlankLine) ∧
      List.Forall₂ (BecameSegment env ext) told segments := by
  rw [parseSubtitles_eq] at parsed
  exact segments_in_order (mapM_ok parsed)

theorem parsed_one_line {segments : List TimedText}
    (parsed : parseSubtitles env raw ext = .ok segments) :
    ∀ segment ∈ segments, ∀ c ∈ segment.text, isLineEnd c = false := by
  intro segment mem
  obtain ⟨told, among, tells⟩ := parsed_in_order parsed
  obtain ⟨block, memBlock, here⟩ := origin_of_mem tells mem
  exact tells_one_line (among.mem memBlock) here

/-- A `ValueError` is a missing subtitle to the adapter. -/
theorem transcript_of_value_error {message : String}
    (failed : parseSubtitles env raw ext = .error (.value message)) {info : SubtitleInfo}
    {url lang : Text} (picked : pickSubtitleUrl info = some (url, ext, lang))
    {download : Text → Except StageError Text} (downloaded : download url = .ok raw)
    (ref : VideoRef) : ytDlpTranscript env (.ok info) download ref =
      .adapterError ⟨⟨"SUBTITLE_MISSING", "subtitle format invalid: " ++ message⟩, false⟩ := by
  unfold ytDlpTranscript
  simp only [picked, downloaded, failed]

/-- Without subtitles the job goes on to the audio. -/
theorem subtitles_missing_goes_on {handlers : HandlerEnv} {job : Job} {ref : VideoRef}
    (detected : handlers.detectVideo job.url = .ok ref) (transcribes : job.asr ≠ "disabled")
    (message : String) :
    subtitlesFetched handlers job (some (.error ⟨⟨"SUBTITLE_MISSING", message⟩, false⟩)) =
      Stage.success .downloadingAudio none (some [(.subtitleProbe, some "none")]) := by
  unfold subtitlesFetched fetchingSubtitlesHandler
  rw [detected]
  change subtitleFailure job _ = _
  unfold subtitleFailure
  rw [if_pos rfl, if_neg transcribes]

end

/-- A malformed subtitle file falls back exactly when no cue of it breaks. -/
theorem malformed_subtitles_fall_back (env : ParserEnv) (raw ext : Text) :
    FallsBack env raw ext ↔ Harmless env.unicode raw ext := by
  constructor
  · intro falls
    by_contra harmful
    obtain ⟨error, failed, other⟩ := (parse_breaks_iff env raw ext).mpr harmful
    obtain ⟨message, same⟩ := falls.only_value_errors error failed
    exact other message same
  · intro harmless
    have only : ∀ error, parseSubtitles env raw ext = .error error →
        ∃ message, error = .value message := by
      intro error failed
      by_contra other
      push Not at other
      exact (parse_breaks_iff env raw ext).mp ⟨error, failed, other⟩ harmless
    constructor
    · exact only
    · intro error failed info url lang download ref picked downloaded
      obtain ⟨message, rfl⟩ := only error failed
      exact ⟨_, transcript_of_value_error failed picked downloaded ref⟩
    · intro error failed info url lang download picked downloaded handlers job ref instant
        detected transcribes
      obtain ⟨message, rfl⟩ := only error failed
      rw [transcript_of_value_error failed picked downloaded ref]
      exact subtitles_missing_goes_on detected transcribes _
    · intro segments parsed
      exact parsed_one_line parsed
    · intro segments parsed
      exact parsed_in_order parsed

/-- Python without letters beyond ASCII. -/
def asciiParser : ParserEnv where
  unicode := ⟨fun _ c _ => [c], fun _ => none, id⟩
  repr t := plainString t
  intError t := "invalid literal for int() with base 10: " ++ plainString t
  floatError t := "could not convert string to float: " ++ plainString t

/-- A cue whose end is missing: nothing stands behind the arrow. -/
theorem missing_end_breaks : ¬ FallsBack asciiParser (text "00:01 -->") (text "vtt") := by
  intro falls
  have cues : cuesOf (textLines (text "00:01 -->")) = [(text "00:01 -->", [])] := by decide +kernel
  have start : Reads asciiParser.unicode (cueTimes (text "00:01 -->")).1 := by
    have read : readTimestamp asciiParser.unicode (cueTimes (text "00:01 -->")).1 =
        some (0, .finite 1) := by decide +kernel
    have small : (0 : Int).natAbs < floatLimit := by decide +kernel
    exact ⟨0, .finite 1, read, small⟩
  have nothing : endWord (text "vtt") (cueTimes (text "00:01 -->")).2 = none := by decide +kernel
  have harmful : ¬ Harmless asciiParser.unicode (text "00:01 -->") (text "vtt") := by
    intro harmless
    apply harmless [] (text "00:01 -->", []) [] cues (by simp)
    refine .inr ⟨start, ?_⟩
    intro word found
    rw [nothing] at found
    cases found
  obtain ⟨error, failed, other⟩ := (parse_breaks_iff asciiParser _ _).mpr harmful
  obtain ⟨message, same⟩ := falls.only_value_errors error failed
  exact other message same

end EvoBlue.Guarantees
