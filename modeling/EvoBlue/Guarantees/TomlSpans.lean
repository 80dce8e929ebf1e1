import EvoBlue.Source.MergeToml

/-!
# What a TOML edit keeps

An edit takes out the lines from the first header of the entry's table to the next
header outside of its subtree, as the scanner finds them, and leaves all others where
they are. What stands in between is not asked for its kind: a comment below the last
value of the entry goes with it.
-/

namespace EvoBlue.Guarantees

open EvoBlue.Kernel EvoBlue.Source MergeToml

/-- A line and the header it opens, if the scanner takes it for one. -/
abbrev ScannedLine := Text × Option (List Text)

/-- The lines of a file with what the scanner takes them for. -/
def scannedLines (env : TomlEnv) : ScanState → List Text → List ScannedLine
  | _, [] => []
  | state, line :: lines =>
    let (path, state) := scanLine env (rstripEnds line) state
    (line, if state.depth = 0 ∧ state.inMultiline = none then path else none) ::
      scannedLines env state lines

def headersAt : (offset : Nat) → List ScannedLine → List Header
  | _, [] => []
  | offset, (line, none) :: lines => headersAt (offset + line.length) lines
  | offset, (line, some path) :: lines =>
    ⟨path, offset, offset + line.length⟩ :: headersAt (offset + line.length) lines

/-- The text of some lines. -/
def spelled (lines : List ScannedLine) : Text := (lines.map Prod.fst).flatten

/-- Three parts of a file: the span of an entry, and what stands before and after it. -/
structure IsSpan (key : Text) (before span after : List ScannedLine) : Prop where
  /-- The span begins with the header of the entry, and has no other table's. -/
  own : ∃ line rest, span = (line, some [tableRoot, key]) :: rest ∧
    ∀ scanned ∈ rest, ∀ path ∈ scanned.2, ownSubtree key path
  first : ∀ scanned ∈ before, scanned.2 ≠ some [tableRoot, key]
  /-- It ends at a header of another table, or with the file. -/
  stops : ∀ scanned ∈ after.head?, ∃ path, scanned.2 = some path ∧ ¬ ownSubtree key path

/-- The span of the entry is exchanged for a block, and all other lines are kept. -/
def Exchanges (env : TomlEnv) (original key block result : Text) : Prop :=
  ∃ before span after, scannedLines env {} (splitLines original) = before ++ (span ++ after) ∧
    IsSpan key before span after ∧ result = spelled before ++ (block ++ spelled after) ∧
    ((before ++ after).map Prod.fst).Sublist (splitLines result)

/-! ## The span -/

variable {env : TomlEnv} {key : Text}

theorem headersFrom_eq (offset : Nat) (state : ScanState) (lines : List Text) :
    headersFrom env offset state lines = headersAt offset (scannedLines env state lines) := by
  induction lines generalizing offset state with
  | nil => rfl
  | cons line lines ih =>
    rw [headersFrom, scannedLines]
    generalize scanLine env (rstripEnds line) state = scanned
    obtain ⟨path, state⟩ := scanned
    dsimp only
    cases path with
    | none =>
      simp only [ite_self, headersAt]
      exact ih _ _
    | some path =>
      by_cases clean : state.depth = 0 ∧ state.inMultiline = none
      · simp only [if_pos clean, headersAt, ih]
      · simp only [if_neg clean, headersAt, ih]

theorem scannedLines_lines (state : ScanState) (lines : List Text) :
    (scannedLines env state lines).map Prod.fst = lines := by
  induction lines generalizing state with
  | nil => rfl
  | cons line lines ih =>
    rw [scannedLines]
    simp [ih]

theorem spelled_scannedLines (original : Text) :
    spelled (scannedLines env {} (splitLines original)) = original := by
  unfold spelled
  rw [scannedLines_lines, splitLines_flatten]

theorem spelled_append (front rest : List ScannedLine) :
    spelled (front ++ rest) = spelled front ++ spelled rest := by
  simp [spelled]

theorem spelled_cons (line : Text) (opened : Option (List Text)) (lines : List ScannedLine) :
    spelled ((line, opened) :: lines) = line ++ spelled lines := rfl

/-- The subtree ends before the first header that is not in it. -/
theorem subtreeEnd_split (offset : Nat) (lines : List ScannedLine) :
    ∃ rest after, lines = rest ++ after ∧
      (∀ scanned ∈ rest, ∀ path ∈ scanned.2, ownSubtree key path) ∧
      (∀ scanned ∈ after.head?, ∃ path, scanned.2 = some path ∧ ¬ ownSubtree key path) ∧
      subtreeEnd key (offset + (spelled lines).length) (headersAt offset lines) =
        offset + (spelled rest).length := by
  induction lines generalizing offset with
  | nil => exact ⟨[], [], rfl, by simp, by simp, rfl⟩
  | cons scanned lines ih =>
    obtain ⟨line, opened⟩ := scanned
    obtain ⟨rest, after, rfl, own, stops, same⟩ := ih (offset + line.length)
    have length : offset + (spelled ((line, opened) :: (rest ++ after))).length =
        offset + line.length + (spelled (rest ++ after)).length := by
      rw [spelled_cons, List.length_append]
      omega
    have taken : offset + (spelled ((line, opened) :: rest)).length =
        offset + line.length + (spelled rest).length := by
      rw [spelled_cons, List.length_append]
      omega
    cases opened with
    | none =>
      refine ⟨(line, none) :: rest, after, rfl, ?_, stops, ?_⟩
      · intro scanned mem
        rcases List.mem_cons.1 mem with rfl | later
        · simp
        · exact own scanned later
      · rw [length, taken, headersAt]
        exact same
    | some path =>
      by_cases inside : ownSubtree key path
      · refine ⟨(line, some path) :: rest, after, rfl, ?_, stops, ?_⟩
        · intro scanned mem
          rcases List.mem_cons.1 mem with rfl | later
          · simpa using inside
          · exact own scanned later
        · rw [length, taken, headersAt, subtreeEnd, if_pos inside]
          exact same
      · refine ⟨[], (line, some path) :: (rest ++ after), rfl, by simp, ?_, ?_⟩
        · intro scanned first
          obtain rfl := Option.some.inj first
          exact ⟨path, rfl, inside⟩
        · rw [headersAt, subtreeEnd, if_neg inside]
          rfl

theorem own_header {path : List Text} :
    (ownSubtree key path ∧ path.length = 2) ↔ path = [tableRoot, key] := by
  constructor
  · rintro ⟨own, two⟩
    rw [← List.take_of_length_le (Nat.le_of_eq two)]
    exact own
  · rintro rfl
    exact ⟨rfl, rfl⟩

theorem spanAmong_split (offset : Nat) (lines : List ScannedLine) {header : Header} {stop : Nat}
    (found : spanAmong key (offset + (spelled lines).length) (headersAt offset lines) =
      some (header, stop)) :
    ∃ before span after, lines = before ++ (span ++ after) ∧ IsSpan key before span after ∧
      header.lineStart = offset + (spelled before).length ∧
      stop = offset + (spelled before).length + (spelled span).length := by
  induction lines generalizing offset with
  | nil => cases found
  | cons scanned lines ih =>
    obtain ⟨line, opened⟩ := scanned
    have length : offset + (spelled ((line, opened) :: lines)).length =
        offset + line.length + (spelled lines).length := by
      rw [spelled_cons, List.length_append]
      omega
    rw [length] at found
    have later (notOwn : opened ≠ some [tableRoot, key])
        (inner : spanAmong key (offset + line.length + (spelled lines).length)
          (headersAt (offset + line.length) lines) = some (header, stop)) :
        ∃ before span after, (line, opened) :: lines = before ++ (span ++ after) ∧
          IsSpan key before span after ∧ header.lineStart = offset + (spelled before).length ∧
          stop = offset + (spelled before).length + (spelled span).length := by
      obtain ⟨before, span, after, rfl, isSpan, start, stops⟩ := ih _ inner
      refine ⟨(line, opened) :: before, span, after, rfl, ⟨isSpan.own, ?_, isSpan.stops⟩, ?_, ?_⟩
      · intro scanned mem
        rcases List.mem_cons.1 mem with rfl | old
        · exact notOwn
        · exact isSpan.first scanned old
      · rw [start, spelled_cons, List.length_append]
        omega
      · rw [stops, spelled_cons, List.length_append]
        omega
    cases opened with
    | none => exact later (by simp) found
    | some path =>
      rw [headersAt, spanAmong] at found
      split at found
      next own =>
        cases found
        obtain rfl := own_header.1 own
        obtain ⟨rest, after, rfl, inside, stops, same⟩ :=
          @subtreeEnd_split key (offset + line.length) lines
        refine ⟨[], (line, some [tableRoot, key]) :: rest, after, rfl,
          ⟨⟨line, rest, rfl, inside⟩, by simp, stops⟩, rfl, ?_⟩
        rw [same, spelled_cons, List.length_append]
        simp only [spelled, List.map_nil, List.flatten_nil, List.length_nil]
        omega
      next other =>
        apply later ?_ found
        intro same
        exact other (own_header.2 (Option.some.inj same))

/-- What `_find_span` finds are the parts of a file. -/
theorem findSpan_ok {original : Text} {header : Header} {stop : Nat}
    (found : findSpan env original key = .ok (header, stop)) :
    ∃ before span after, scannedLines env {} (splitLines original) = before ++ (span ++ after) ∧
      IsSpan key before span after ∧ original.take header.lineStart = spelled before ∧
      original.drop stop = spelled after := by
  unfold findSpan at found
  split at found
  next pair same =>
    cases found
    have length : (spelled (scannedLines env {} (splitLines original))).length = original.length := by
      rw [spelled_scannedLines]
    unfold scanHeaders at same
    rw [headersFrom_eq, ← length, ← Nat.zero_add (spelled _).length] at same
    obtain ⟨before, span, after, whole, isSpan, start, stops⟩ := spanAmong_split 0 _ same
    have text := @spelled_scannedLines env original
    rw [whole, spelled_append, spelled_append] at text
    refine ⟨before, span, after, whole, isSpan, ?_, ?_⟩
    · rw [start, Nat.zero_add, ← text, List.take_left]
    · rw [stops, Nat.zero_add, ← text, ← List.append_assoc, ← List.length_append, List.drop_left]
  next => cases found

/-! ## The lines that are kept -/

theorem scanLine_nil (state : ScanState) : (scanLine env [] state).1 = none := by
  unfold scanLine
  split
  next delimiter _ =>
    split
    next => rfl
    next => simp [scanLoop, lineResult]
  next => simp [scanLoop, lineResult]

theorem scanned_opens {state : ScanState} {lines : List Text} {scanned : ScannedLine} {path : List Text}
    (mem : scanned ∈ scannedLines env state lines) (opens : scanned.2 = some path) :
    scanned.1 ∈ lines ∧ ∃ state, (scanLine env (rstripEnds scanned.1) state).1 = some path := by
  induction lines generalizing state with
  | nil => cases mem
  | cons line lines ih =>
    rw [scannedLines] at mem
    rcases List.mem_cons.1 mem with rfl | later
    · exact ⟨List.mem_cons_self, state, (Option.ite_none_right_eq_some.1 opens).2⟩
    · obtain ⟨among, opened⟩ := ih later
      exact ⟨List.mem_cons_of_mem _ among, opened⟩

/-- No header begins with a line feed. -/
theorem header_head {original : Text} {scanned : ScannedLine} {path : List Text}
    (mem : scanned ∈ scannedLines env {} (splitLines original)) (opens : scanned.2 = some path)
    (rest : Text) : (scanned.1 ++ rest).head? ≠ some (cp '\n') := by
  obtain ⟨among, state, opened⟩ := scanned_opens mem opens
  cases line : scanned.1 with
  | nil => exact absurd line (splitLines_ne_nil among)
  | cons c tail =>
    rw [List.cons_append, List.head?_cons, Ne, Option.some.injEq]
    rintro rfl
    rw [line] at among opened
    rw [line_of_lf among, show rstripEnds [cp '\n'] = [] from rfl, scanLine_nil] at opened
    cases opened

/-- What is put in the place of a span: nothing, or lines of its own. -/
def Block (block : Text) : Prop :=
  block = [] ∨ (block.head? = some (cp '[') ∧ block.getLast? = some (cp '\n'))

theorem exchanges_of_span {original block : Text} {before span after : List ScannedLine}
    (whole : scannedLines env {} (splitLines original) = before ++ (span ++ after))
    (isSpan : IsSpan key before span after) (lines : Block block) :
    Exchanges env original key block (spelled before ++ (block ++ spelled after)) := by
  refine ⟨before, span, after, whole, isSpan, rfl, ?_⟩
  have split : splitLines original =
      before.map Prod.fst ++ (span.map Prod.fst ++ after.map Prod.fst) := by
    rw [← @scannedLines_lines env {} (splitLines original), whole]
    simp
  have someSpan : span.map Prod.fst ++ after.map Prod.fst ≠ [] := by
    obtain ⟨line, rest, rfl, _⟩ := isSpan.own
    simp
  have afterHead : (spelled after).head? ≠ some (cp '\n') := by
    cases after with
    | nil => simp [spelled]
    | cons scanned after =>
      obtain ⟨path, opens, _⟩ := isSpan.stops scanned rfl
      have mem : scanned ∈ scannedLines env {} (splitLines original) := by
        rw [whole]
        simp
      exact header_head mem opens _
  have blockHead : (block ++ spelled after).head? ≠ some (cp '\n') := by
    rcases lines with rfl | ⟨first, _⟩
    · exact afterHead
    · rw [List.head?_append, first, Option.some_or]
      decide
  have ends : EndsLine (spelled before) (block ++ spelled after) :=
    (endsLine_of_split split someSpan).other blockHead
  have blockEnds : EndsLine block (spelled after) := by
    rcases lines with rfl | ⟨_, last⟩
    · intro c last
      cases last
    · intro c mem
      rw [last] at mem
      rw [← Option.some.inj mem]
      exact cutsAfter_lf _
  have back : splitLines (spelled after) = after.map Prod.fst := by
    rw [← List.append_assoc] at split
    exact splitLines_back split
  rw [splitLines_append ends, splitLines_append blockEnds, back,
    show splitLines (spelled before) = before.map Prod.fst from splitLines_front split, List.map_append]
  exact (List.Sublist.refl _).append (List.sublist_append_right _ _)

theorem adapt_render_block (original key : Text) (payload : EntryPayload) :
    Block (adapt original (renderTomlEntry key payload)) := by
  have newline : (dominantNewline original).getLast? = some (cp '\n') := by
    unfold dominantNewline
    split <;> decide
  obtain ⟨front, rendered⟩ : ∃ front, renderTomlEntry key payload = cp '[' :: (front ++ [cp '\n']) :=
    ⟨_, rfl⟩
  right
  unfold adapt
  rw [rendered, show text "\n" = [cp '\n'] from rfl, replaceAll_singleton]
  constructor
  · rw [List.flatMap_cons, if_neg (by decide)]
    rfl
  · rw [← List.cons_append, List.flatMap_append, List.getLast?_append]
    simp [newline]

theorem appendBlock_starts (original block : Text) : original <+: appendBlock original block := by
  unfold appendBlock
  split
  next none =>
    rw [none]
    exact List.nil_prefix
  next =>
    dsimp only
    split
    next =>
      rw [List.append_assoc, List.append_assoc]
      exact List.prefix_append _ _
    next =>
      rw [List.append_assoc, List.append_assoc, List.append_assoc]
      exact List.prefix_append _ _

/-! ## The edits -/

/-- An entry that is not there is appended; one that is there is left alone, or its span is
exchanged for the new block; and a removal drops the span. -/
theorem toml_edit_keeps_lines (env : TomlEnv) (original key : Text) :
    (∀ payload force outcome, mergeToml env original key payload force = .ok outcome →
      ∃ doc, MergeToml.parse env original = .ok doc ∧
        ((entryOf doc key = none ∧
            outcome = ⟨appendBlock original (renderTomlEntry key payload), true⟩) ∨
          (entryOf doc key ≠ none ∧ (outcome = ⟨original, false⟩ ∨ (outcome.changed = true ∧
            Exchanges env original key (adapt original (renderTomlEntry key payload))
              outcome.text))))) ∧
    ∀ outcome, removeEntryToml env original key = .ok outcome →
      Exchanges env original key [] outcome.text := by
  constructor
  · intro payload force outcome merged
    unfold mergeToml at merged
    obtain ⟨doc, parsed, merged⟩ := Json.ok_of_bind merged
    refine ⟨doc, parsed, ?_⟩
    split at merged
    next absent =>
      obtain ⟨_, _, done⟩ := Json.ok_of_bind merged
      cases done
      exact .inl ⟨absent, rfl⟩
    next current stored =>
      right
      constructor
      · rw [stored]
        simp
      obtain ⟨_, _, merged⟩ := Json.ok_of_bind merged
      split at merged
      next =>
        cases merged
        exact .inl rfl
      next =>
        obtain ⟨names, _, merged⟩ := Json.ok_of_bind merged
        split at merged
        next => cases merged
        next =>
          obtain ⟨replaced, spliced, merged⟩ := Json.ok_of_bind merged
          obtain ⟨_, _, done⟩ := Json.ok_of_bind merged
          cases done
          refine .inr ⟨rfl, ?_⟩
          unfold replaceSpan at spliced
          obtain ⟨⟨header, stop⟩, found, spliced⟩ := Json.ok_of_bind spliced
          cases spliced
          obtain ⟨before, span, after, whole, isSpan, front, back⟩ := findSpan_ok found
          dsimp only
          rw [front, back, List.append_assoc]
          exact exchanges_of_span whole isSpan (adapt_render_block original key payload)
  · intro outcome removed
    unfold removeEntryToml at removed
    obtain ⟨_, _, removed⟩ := Json.ok_of_bind removed
    obtain ⟨⟨header, stop⟩, found, removed⟩ := Json.ok_of_bind removed
    obtain ⟨_, _, done⟩ := Json.ok_of_bind removed
    cases done
    obtain ⟨before, span, after, whole, isSpan, front, back⟩ := findSpan_ok found
    have empty : Block [] := .inl rfl
    have exchanged := exchanges_of_span whole isSpan empty
    rw [List.nil_append] at exchanged
    dsimp only
    rw [front, back]
    exact exchanged

end EvoBlue.Guarantees
