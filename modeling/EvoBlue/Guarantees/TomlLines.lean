import EvoBlue.Guarantees.TomlSpans
import EvoBlue.Source.TomlHeaders

/-!
# Which TOML edits keep the lines of others

TOML reads a file as statements of whole lines: headers, keys with their values, comments
and blank lines. What it takes them for is given here with the file; which header the
scanner takes a line for is computed. Where the scanner keeps step with the statements, an
edit keeps the lines that are not ours exactly if none of them stand between our header
and the next header outside of our subtree that the scanner reads.
-/

namespace EvoBlue.Guarantees

open EvoBlue.Kernel EvoBlue.Source MergeToml

/-! ## Lines -/

/-- What stands on the lines. -/
def lineContents (t : Text) : List Text := (lfLines t).map rstripEnds

theorem lineContents_append {front : Text} (ended : EndsLf front) (rest : Text) :
    lineContents (front ++ rest) = lineContents front ++ lineContents rest := by
  unfold lineContents
  rw [lfLines_append ended, List.map_append]

/-! ## Statements -/

/-- What TOML takes a statement for; a header comes with its path. -/
inductive TomlRole where
  | header (path : List Text)
  | keyValue
  /-- A comment or a blank line. -/
  | remark

/-- A statement with its lines. -/
structure TomlStatement where
  role : TomlRole
  text : Text

def fileText (file : List TomlStatement) : Text := (file.map (·.text)).flatten

/-- Every statement but the last ends a line. -/
def Lined (file : List TomlStatement) : Prop := ∀ statement ∈ file.dropLast, EndsLf statement.text

section

variable (key : Text)

/-- The statement is one of our tables, given whether the header above it is. -/
def TomlStatement.isOurs (below : Bool) (statement : TomlStatement) : Bool :=
  match statement.role with
  | .header path => ownSubtree key path
  | .keyValue => below
  | .remark => false

/-- Whether the header above what follows is one of ours. -/
def TomlStatement.under (below : Bool) (statement : TomlStatement) : Bool :=
  match statement.role with
  | .header path => ownSubtree key path
  | _ => below

def underAll (below : Bool) (file : List TomlStatement) : Bool :=
  file.foldl (TomlStatement.under key) below

/-- What stands on the lines that are not ours: those of other tables, comments and blank lines. -/
def foreignLines : (below : Bool) → List TomlStatement → List Text
  | _, [] => []
  | below, statement :: file =>
    (if statement.isOurs key below then [] else lineContents statement.text) ++
      foreignLines (statement.under key below) file

/-- The lines that are not ours are lines of the result, unchanged and in their order. -/
def KeepsForeign (file : List TomlStatement) (result : Text) : Prop :=
  (foreignLines key false file).Sublist (lineContents result)

end

/-! ## The scanner on statements -/

section

variable (env : TomlEnv)

/-- Where the scanner is after some lines. -/
def stateAfter : ScanState → List Text → ScanState
  | state, [] => state
  | state, line :: lines => stateAfter (scanLine env (rstripEnds line) state).2 lines

def TomlStatement.scanned (statement : TomlStatement) : List ScannedLine :=
  scannedLines env {} (splitLines statement.text)

/-- The header that the scanner takes the statement for. -/
def TomlStatement.opens (statement : TomlStatement) : Option (List Text) :=
  (statement.scanned env).head?.bind Prod.snd

/-- The scanner is through with the statement at its end, and takes at most its first line
for a header. -/
structure TomlStatement.InStep (statement : TomlStatement) : Prop where
  through : stateAfter env {} (splitLines statement.text) = {}
  first : ∀ scanned ∈ (statement.scanned env).tail, scanned.2 = none

/-- In step with the statements, the scanner finds the entry between two others. -/
structure Spans (key : Text) (before span after : List TomlStatement) : Prop where
  inStep : ∀ statement ∈ before ++ span, statement.InStep env
  own : ∃ header rest, span = header :: rest ∧ header.opens env = some [tableRoot, key] ∧
    ∀ statement ∈ rest, ∀ path ∈ statement.opens env, ownSubtree key path
  first : ∀ statement ∈ before, statement.opens env ≠ some [tableRoot, key]
  stops : ∀ statement ∈ after.head?, ∃ path, statement.opens env = some path ∧ ¬ ownSubtree key path

/-- Between our header and the next one that the scanner reads outside of our subtree,
there is no line of others, or the new block has it. -/
def SparesOthers (key : Text) (file : List TomlStatement) (block : Text) : Prop :=
  ∃ before span after, file = before ++ (span ++ after) ∧ Spans env key before span after ∧
    (foreignLines key (underAll key false before) span).Sublist (lineContents block)

/-- Nothing of ours stands elsewhere, and the scanner keeps step with the whole file. -/
def Legible (key : Text) (file : List TomlStatement) : Prop :=
  (∀ statement ∈ file, statement.InStep env) ∧
  ∀ before span after, file = before ++ (span ++ after) → Spans env key before span after →
    foreignLines key false before = lineContents (fileText before) ∧
    foreignLines key (underAll key false (before ++ span)) after = lineContents (fileText after)

/-- An edit that puts the block in the place of the span leaves the text outside of it, and
keeps the lines of others if it spares them, and only then. -/
structure KeptWhen (key : Text) (file : List TomlStatement) (block result : Text) : Prop where
  outside : ∀ before span after, file = before ++ (span ++ after) → Spans env key before span after →
    result = fileText before ++ (block ++ fileText after)
  enough : SparesOthers env key file block → KeepsForeign key file result
  needed : Legible env key file → KeepsForeign key file result → SparesOthers env key file block

end

/-! ## The lines of a file -/

variable {env : TomlEnv} {key : Text}

theorem fileText_cons (statement : TomlStatement) (file : List TomlStatement) :
    fileText (statement :: file) = statement.text ++ fileText file := rfl

theorem fileText_append (front rest : List TomlStatement) :
    fileText (front ++ rest) = fileText front ++ fileText rest := by
  simp [fileText]

theorem Lined.tail {statement : TomlStatement} {file : List TomlStatement} (lined : Lined (statement :: file)) :
    Lined file := by
  cases file with
  | nil => intro _ mem; cases mem
  | cons other file =>
    intro later mem
    apply lined
    rw [List.dropLast_cons_cons]
    exact List.mem_cons_of_mem _ mem

/-- What stands before other statements ends its lines. -/
theorem Lined.front {front rest : List TomlStatement} (lined : Lined (front ++ rest)) (more : rest ≠ []) :
    ∀ statement ∈ front, EndsLf statement.text := by
  intro statement mem
  apply lined
  rw [List.dropLast_append_of_ne_nil more]
  exact List.mem_append_left _ mem

theorem endsLf_fileText {file : List TomlStatement} (ended : ∀ statement ∈ file, EndsLf statement.text) :
    EndsLf (fileText file) := by
  induction file with
  | nil => intro c last; cases last
  | cons statement file ih =>
    rw [fileText_cons]
    exact (ended statement List.mem_cons_self).append
      (ih fun later mem => ended later (List.mem_cons_of_mem _ mem))

theorem Lined.ended {front rest : List TomlStatement} (lined : Lined (front ++ rest)) (more : rest ≠ []) :
    EndsLf (fileText front) :=
  endsLf_fileText (lined.front more)

theorem Lined.rest {front rest : List TomlStatement} (lined : Lined (front ++ rest)) : Lined rest := by
  induction front with
  | nil => exact lined
  | cons statement front ih => exact ih lined.tail

theorem foreignLines_append (below : Bool) (front rest : List TomlStatement) :
    foreignLines key below (front ++ rest) =
      foreignLines key below front ++ foreignLines key (underAll key below front) rest := by
  induction front generalizing below with
  | nil => rfl
  | cons statement front ih =>
    rw [List.cons_append, foreignLines, ih, ← List.append_assoc, foreignLines]
    rfl

/-- They are lines of the file. -/
theorem foreignLines_sublist {file : List TomlStatement} (lined : Lined file) (below : Bool) :
    (foreignLines key below file).Sublist (lineContents (fileText file)) := by
  induction file generalizing below with
  | nil => exact List.Sublist.refl _
  | cons statement file ih =>
    have whole : lineContents (fileText (statement :: file)) =
        lineContents statement.text ++ lineContents (fileText file) := by
      cases file with
      | nil => simp [fileText, lineContents, lfLines]
      | cons other file =>
        exact lineContents_append (lined statement List.mem_cons_self) _
    rw [whole, foreignLines]
    apply List.Sublist.append ?_ (ih lined.tail _)
    split
    · exact List.nil_sublist _
    · exact List.Sublist.refl _

/-! ## The span of statements -/

theorem scannedLines_append (state : ScanState) (front rest : List Text) :
    scannedLines env state (front ++ rest) =
      scannedLines env state front ++ scannedLines env (stateAfter env state front) rest := by
  induction front generalizing state with
  | nil => rfl
  | cons line front ih =>
    rw [List.cons_append, scannedLines, scannedLines, stateAfter]
    dsimp only
    rw [ih, List.cons_append]

/-- In step, the scanner sees one statement after the other. -/
theorem scannedLines_file {front : List TomlStatement}
    (inStep : ∀ statement ∈ front, statement.InStep env)
    (ended : ∀ statement ∈ front, EndsLf statement.text) (rest : Text) :
    scannedLines env {} (splitLines (fileText front ++ rest)) =
      front.flatMap (TomlStatement.scanned env) ++ scannedLines env {} (splitLines rest) := by
  induction front with
  | nil => rfl
  | cons statement front ih =>
    have here := ended statement List.mem_cons_self
    rw [fileText_cons, List.append_assoc, splitLines_append (here.endsLine _), scannedLines_append,
      (inStep statement List.mem_cons_self).through,
      ih (fun later mem => inStep later (List.mem_cons_of_mem _ mem))
        (fun later mem => ended later (List.mem_cons_of_mem _ mem)),
      List.flatMap_cons, List.append_assoc]
    rfl

/-- The same of a whole file, whose last line may be without its end. -/
theorem scannedLines_lined {file : List TomlStatement}
    (inStep : ∀ statement ∈ file, statement.InStep env) (lined : Lined file) :
    scannedLines env {} (splitLines (fileText file)) = file.flatMap (TomlStatement.scanned env) := by
  rcases List.eq_nil_or_concat file with rfl | ⟨front, last, rfl⟩
  · rfl
  · rw [List.concat_eq_append] at inStep lined ⊢
    rw [fileText_append, scannedLines_file
      (fun statement mem => inStep statement (List.mem_append_left _ mem))
      (lined.front (List.cons_ne_nil _ _)), List.flatMap_append]
    simp [fileText, TomlStatement.scanned]

theorem spelled_scanned (file : List TomlStatement) :
    spelled (file.flatMap (TomlStatement.scanned env)) = fileText file := by
  induction file with
  | nil => rfl
  | cons statement file ih =>
    rw [List.flatMap_cons, spelled_append, ih, fileText_cons, TomlStatement.scanned, spelled_scannedLines]

/-- In step, a line that is taken for a header opens its statement. -/
theorem TomlStatement.InStep.opens {statement : TomlStatement} (inStep : statement.InStep env)
    {scanned : ScannedLine} {path : List Text} (mem : scanned ∈ statement.scanned env)
    (taken : scanned.2 = some path) : statement.opens env = some path := by
  have rest := inStep.first
  unfold TomlStatement.opens
  cases lines : statement.scanned env with
  | nil =>
    rw [lines] at mem
    cases mem
  | cons first later =>
    rw [lines] at mem rest
    rcases List.mem_cons.1 mem with rfl | among
    · exact taken
    · rw [rest scanned among] at taken
      cases taken

/-- The span of statements is the span that the scanner finds. -/
theorem Spans.isSpan {before span after : List TomlStatement} (spans : Spans env key before span after)
    (lined : Lined (before ++ (span ++ after))) :
    IsSpan key (before.flatMap (TomlStatement.scanned env)) (span.flatMap (TomlStatement.scanned env))
      (scannedLines env {} (splitLines (fileText after))) where
  own := by
    obtain ⟨header, rest, rfl, opens, own⟩ := spans.own
    have inStep := fun statement mem => spans.inStep statement (List.mem_append_right before mem)
    unfold TomlStatement.opens at opens
    cases lines : header.scanned env with
    | nil =>
      rw [lines] at opens
      cases opens
    | cons first later =>
      rw [lines] at opens
      have none := (inStep header List.mem_cons_self).first
      rw [lines] at none
      obtain ⟨line, taken⟩ := first
      obtain rfl : taken = some [tableRoot, key] := opens
      refine ⟨line, later ++ rest.flatMap (TomlStatement.scanned env), ?_, ?_⟩
      · rw [List.flatMap_cons, lines, List.cons_append]
      · intro scanned mem path taken
        rcases List.mem_append.1 mem with here | among
        · rw [none scanned here] at taken
          cases taken
        · obtain ⟨statement, mem, among⟩ := List.mem_flatMap.1 among
          exact own statement mem path
            ((inStep statement (List.mem_cons_of_mem _ mem)).opens among taken)
  first := by
    intro scanned mem taken
    obtain ⟨statement, mem, among⟩ := List.mem_flatMap.1 mem
    exact spans.first statement mem
      ((spans.inStep statement (List.mem_append_left _ mem)).opens among taken)
  stops := by
    intro scanned first
    cases after with
    | nil => cases first
    | cons statement after =>
      obtain ⟨path, opens, foreign⟩ := spans.stops statement rfl
      refine ⟨path, ?_, foreign⟩
      have front : ∃ more, scannedLines env {} (splitLines (fileText (statement :: after))) =
          statement.scanned env ++ more := by
        cases after with
        | nil =>
          refine ⟨[], ?_⟩
          simp [fileText, TomlStatement.scanned]
        | cons other after =>
          have ended := lined.rest.rest statement List.mem_cons_self
          rw [fileText_cons, splitLines_append (ended.endsLine _), scannedLines_append]
          exact ⟨_, rfl⟩
      obtain ⟨more, front⟩ := front
      unfold TomlStatement.opens at opens
      rw [front] at first
      cases lines : statement.scanned env with
      | nil =>
        rw [lines] at opens
        cases opens
      | cons line later =>
        rw [lines] at opens first
        obtain rfl := Option.some.inj first
        exact opens

/-- The subtree ends in one place. -/
theorem stop_unique {rest after others otherAfter : List ScannedLine}
    (own : ∀ scanned ∈ rest, ∀ path ∈ scanned.2, ownSubtree key path)
    (stops : ∀ scanned ∈ after.head?, ∃ path, scanned.2 = some path ∧ ¬ ownSubtree key path)
    (ownOthers : ∀ scanned ∈ others, ∀ path ∈ scanned.2, ownSubtree key path)
    (otherStops : ∀ scanned ∈ otherAfter.head?,
      ∃ path, scanned.2 = some path ∧ ¬ ownSubtree key path)
    (same : rest ++ after = others ++ otherAfter) : rest = others ∧ after = otherAfter := by
  induction rest generalizing others with
  | nil =>
    cases others with
    | nil => exact ⟨rfl, same⟩
    | cons line others =>
      rw [List.nil_append] at same
      rw [same] at stops
      obtain ⟨path, taken, foreign⟩ := stops line rfl
      exact absurd (ownOthers line List.mem_cons_self path taken) foreign
  | cons line rest ih =>
    cases others with
    | nil =>
      rw [List.nil_append] at same
      rw [← same] at otherStops
      obtain ⟨path, taken, foreign⟩ := otherStops line rfl
      exact absurd (own line List.mem_cons_self path taken) foreign
    | cons other others =>
      obtain ⟨rfl, tails⟩ := List.cons.inj same
      obtain ⟨rfl, rfl⟩ := ih (fun scanned mem => own scanned (List.mem_cons_of_mem _ mem))
        (fun scanned mem => ownOthers scanned (List.mem_cons_of_mem _ mem)) tails
      exact ⟨rfl, rfl⟩

/-- A file has one span of the entry. -/
theorem IsSpan.unique {before span after others otherSpan otherAfter : List ScannedLine}
    (isSpan : IsSpan key before span after) (other : IsSpan key others otherSpan otherAfter)
    (same : before ++ (span ++ after) = others ++ (otherSpan ++ otherAfter)) :
    before = others ∧ span = otherSpan ∧ after = otherAfter := by
  induction before generalizing others with
  | nil =>
    obtain ⟨line, rest, rfl, own⟩ := isSpan.own
    cases others with
    | nil =>
      obtain ⟨otherLine, otherRest, rfl, ownOthers⟩ := other.own
      obtain ⟨lines, tails⟩ := List.cons.inj same
      obtain ⟨rfl, rfl⟩ := stop_unique own isSpan.stops ownOthers other.stops tails
      rw [lines]
      exact ⟨rfl, rfl, rfl⟩
    | cons first others =>
      obtain ⟨rfl, _⟩ := List.cons.inj same
      exact absurd rfl (other.first _ List.mem_cons_self)
  | cons line before ih =>
    cases others with
    | nil =>
      obtain ⟨otherLine, otherRest, rfl, _⟩ := other.own
      obtain ⟨rfl, _⟩ := List.cons.inj same
      exact absurd rfl (isSpan.first _ List.mem_cons_self)
    | cons first others =>
      obtain ⟨rfl, tails⟩ := List.cons.inj same
      have shorter : IsSpan key before span after :=
        ⟨isSpan.own, fun scanned mem => isSpan.first scanned (List.mem_cons_of_mem _ mem), isSpan.stops⟩
      have otherShorter : IsSpan key others otherSpan otherAfter :=
        ⟨other.own, fun scanned mem => other.first scanned (List.mem_cons_of_mem _ mem), other.stops⟩
      obtain ⟨rfl, rfl, rfl⟩ := ih shorter otherShorter tails
      exact ⟨rfl, rfl, rfl⟩

/-- What is exchanged is the text of the span. -/
theorem exchanged_text {before span after : List TomlStatement} {block result : Text}
    (lined : Lined (before ++ (span ++ after))) (spans : Spans env key before span after)
    (exchanges : Exchanges env (fileText (before ++ (span ++ after))) key block result) :
    result = fileText before ++ (block ++ fileText after) := by
  obtain ⟨front, middle, back, whole, isSpan, rfl, _⟩ := exchanges
  have someSpan : span ++ after ≠ [] := by
    obtain ⟨header, rest, rfl, _⟩ := spans.own
    simp
  have inStep := fun statement mem => spans.inStep statement (List.mem_append_right before mem)
  have spanned : scannedLines env {} (splitLines (fileText (span ++ after))) =
      span.flatMap (TomlStatement.scanned env) ++ scannedLines env {} (splitLines (fileText after)) := by
    cases after with
    | nil =>
      have alone := lined.rest
      rw [List.append_nil] at alone ⊢
      rw [scannedLines_lined inStep alone]
      exact (List.append_nil _).symm
    | cons statement after =>
      rw [fileText_append]
      exact scannedLines_file inStep (lined.rest.front (List.cons_ne_nil _ _)) _
  rw [fileText_append, scannedLines_file
    (fun statement mem => spans.inStep statement (List.mem_append_left _ mem))
    (lined.front someSpan), spanned] at whole
  obtain ⟨rfl, rfl, rfl⟩ := (spans.isSpan lined).unique isSpan whole
  rw [spelled_scanned, spelled_scannedLines]

/-- A file that the scanner keeps step with has the span at its statements. -/
theorem spans_of_legible {file : List TomlStatement}
    (inStep : ∀ statement ∈ file, statement.InStep env)
    (found : ∃ statement ∈ file, statement.opens env = some [tableRoot, key]) :
    ∃ before span after, file = before ++ (span ++ after) ∧ Spans env key before span after := by
  let foreign : TomlStatement → Bool := fun statement => statement.opens env ≠ some [tableRoot, key]
  let inside : TomlStatement → Bool := fun statement =>
    (statement.opens env).all fun path => ownSubtree key path
  obtain ⟨header, later, rest⟩ : ∃ header later, file.dropWhile foreign = header :: later := by
    cases tail : file.dropWhile foreign with
    | cons header later => exact ⟨header, later, rfl⟩
    | nil =>
      obtain ⟨statement, mem, opens⟩ := found
      have all := List.dropWhile_eq_nil_iff.1 tail statement mem
      exact absurd opens (of_decide_eq_true all)
  have whole : file = file.takeWhile foreign ++
      (header :: later.takeWhile inside ++ later.dropWhile inside) := by
    rw [List.cons_append, List.takeWhile_append_dropWhile, ← rest, List.takeWhile_append_dropWhile]
  refine ⟨file.takeWhile foreign, header :: later.takeWhile inside, later.dropWhile inside, whole, ?_⟩
  constructor
  · intro statement mem
    apply inStep
    rw [whole, ← List.append_assoc]
    exact List.mem_append_left _ mem
  · refine ⟨header, _, rfl, ?_, ?_⟩
    · have stopped := List.head?_dropWhile_not foreign file
      rw [rest] at stopped
      simpa [foreign] using stopped
    · intro statement mem path taken
      have kept := List.mem_takeWhile_imp mem
      simp only [inside, Option.mem_def.1 taken, Option.all_some, decide_eq_true_eq] at kept
      exact kept
  · intro statement mem
    have other : foreign statement = true := List.mem_takeWhile_imp mem
    exact of_decide_eq_true other
  · intro statement first
    have stopped := List.head?_dropWhile_not inside later
    rw [Option.mem_def.1 first] at stopped
    cases opens : statement.opens env with
    | none => simp [inside, opens] at stopped
    | some path =>
      refine ⟨path, rfl, ?_⟩
      simpa [inside, opens] using stopped


/-! ## The edits -/

/-- The lines of others are kept if the block has those of the span; where nothing of ours
stands elsewhere, only then. -/
theorem kept_of_spans {before span after : List TomlStatement} {block result : Text}
    (lined : Lined (before ++ (span ++ after))) (spans : Spans env key before span after)
    (ended : EndsLf block)
    (exchanges : Exchanges env (fileText (before ++ (span ++ after))) key block result) :
    ((foreignLines key (underAll key false before) span).Sublist (lineContents block) →
      KeepsForeign key (before ++ (span ++ after)) result) ∧
    (foreignLines key false before = lineContents (fileText before) →
      foreignLines key (underAll key false (before ++ span)) after = lineContents (fileText after) →
      KeepsForeign key (before ++ (span ++ after)) result →
      (foreignLines key (underAll key false before) span).Sublist (lineContents block)) := by
  have someSpan : span ++ after ≠ [] := by
    obtain ⟨header, rest, rfl, _⟩ := spans.own
    simp
  have parts : lineContents result =
      lineContents (fileText before) ++ (lineContents block ++ lineContents (fileText after)) := by
    rw [exchanged_text lined spans exchanges, lineContents_append (lined.ended someSpan),
      lineContents_append ended]
  have foreign : foreignLines key false (before ++ (span ++ after)) =
      foreignLines key false before ++ (foreignLines key (underAll key false before) span ++
        foreignLines key (underAll key false (before ++ span)) after) := by
    rw [foreignLines_append, foreignLines_append]
    simp only [underAll, List.foldl_append]
  have linedBefore : Lined before := by
    intro statement mem
    exact lined.front someSpan statement (List.dropLast_subset _ mem)
  unfold KeepsForeign
  rw [parts, foreign]
  constructor
  · intro spared
    exact (foreignLines_sublist linedBefore _).append
      (spared.append (foreignLines_sublist lined.rest.rest _))
  · intro sameBefore sameAfter kept
    rw [sameBefore, sameAfter, List.append_sublist_append_left, List.append_sublist_append_right]
      at kept
    exact kept

theorem keptWhen_of_exchanges {file : List TomlStatement} {block result : Text} (lined : Lined file)
    (ended : EndsLf block) (exchanges : Exchanges env (fileText file) key block result) :
    KeptWhen env key file block result := by
  constructor
  · rintro before span after rfl spans
    exact exchanged_text lined spans exchanges
  · rintro ⟨before, span, after, rfl, spans, spared⟩
    exact (kept_of_spans lined spans ended exchanges).1 spared
  · rintro ⟨inStep, together⟩ kept
    have found : ∃ statement ∈ file, statement.opens env = some [tableRoot, key] := by
      obtain ⟨front, middle, back, whole, isSpan, _⟩ := exchanges
      obtain ⟨line, rest, rfl, _⟩ := isSpan.own
      rw [scannedLines_lined inStep lined] at whole
      have mem : (line, some [tableRoot, key]) ∈ file.flatMap (TomlStatement.scanned env) := by
        rw [whole]
        simp
      obtain ⟨statement, mem, among⟩ := List.mem_flatMap.1 mem
      exact ⟨statement, mem, (inStep statement mem).opens among rfl⟩
    obtain ⟨before, span, after, rfl, spans⟩ := spans_of_legible inStep found
    obtain ⟨sameBefore, sameAfter⟩ := together before span after rfl spans
    exact ⟨before, span, after, rfl, spans,
      (kept_of_spans lined spans ended exchanges).2 sameBefore sameAfter kept⟩

theorem Block.ended {block : Text} (lines : Block block) : EndsLf block := by
  rcases lines with rfl | ⟨_, last⟩
  · intro c absent
    cases absent
  · intro c mem
    rw [last] at mem
    exact (Option.some.inj mem).symm

theorem headerText_single (array : Bool) {keys : List PlainKey} (formed : ∀ key ∈ keys, key.Formed)
    {trail : Text} (single : ∀ c ∈ trail, isLineEnd c = false) :
    ∀ c ∈ headerText array keys trail, isLineEnd c = false := by
  have bracket : isLineEnd (cp '[') = false ∧ isLineEnd (cp ']') = false := by decide
  have path := spelledPath_single formed
  intro c mem
  cases array with
  | false =>
    simp only [headerText, Bool.false_eq_true, if_false, List.mem_cons, List.mem_append] at mem
    rcases mem with rfl | inside | rfl | behind
    · exact bracket.1
    · exact path c inside
    · exact bracket.2
    · exact single c behind
  | true =>
    simp only [headerText, if_true, List.mem_cons, List.mem_append] at mem
    rcases mem with rfl | rfl | inside | rfl | rfl | behind
    · exact bracket.1
    · exact bracket.1
    · exact path c inside
    · exact bracket.2
    · exact bracket.2
    · exact single c behind

theorem rstripEnds_ended (line : Text) {newline : Text}
    (ends : ∀ c ∈ newline, (c = cp '\r' || c = cp '\n') = true) :
    rstripEnds (line ++ newline) = rstripEnds line := by
  induction newline using List.reverseRecOn with
  | nil => rw [List.append_nil]
  | append_singleton newline last ih =>
    have stripped := ends last (by simp)
    unfold rstripEnds at ih ⊢
    rw [← List.append_assoc, List.rdropWhile_concat, if_pos stripped]
    exact ih fun c mem => ends c (List.mem_append_left _ mem)

/-- An appended block leaves what stands on the lines as it is. -/
theorem appendBlock_lines (original block : Text) :
    (lineContents original).Sublist (lineContents (appendBlock original block)) := by
  have newline : dominantNewline original = text "\r\n" ∨ dominantNewline original = text "\n" := by
    unfold dominantNewline
    split
    · exact .inl rfl
    · exact .inr rfl
  have single : lfLines (dominantNewline original) = [dominantNewline original] := by
    rcases newline with same | same <;> rw [same] <;> rfl
  have ends : ∀ c ∈ dominantNewline original, (c = cp '\r' || c = cp '\n') = true := by
    rw [← List.all_eq_true]
    rcases newline with same | same <;> rw [same] <;> rfl
  unfold appendBlock
  split
  next empty =>
    rw [empty]
    exact List.nil_sublist _
  next some =>
    dsimp only
    rw [List.append_assoc, List.append_assoc]
    split
    next ended =>
      have stays : EndsLf original := by
        intro c last
        rw [ended] at last
        exact (Option.some.inj last).symm
      rw [lineContents_append stays]
      exact List.sublist_append_left _ _
    next open_ =>
      obtain ⟨front, last, lines, more⟩ := lfLines_ended some open_ single
      have stays : EndsLf (original ++ dominantNewline original) := by
        intro c last
        have same : (dominantNewline original).getLast? = Option.some (cp '\n') := by
          rcases newline with same | same <;> rw [same] <;> rfl
        rw [List.getLast?_append, same] at last
        exact (Option.some.inj last).symm
      have same : lineContents (original ++ dominantNewline original) = lineContents original := by
        unfold lineContents
        rw [lines, more, List.map_append, List.map_append, List.map_singleton, List.map_singleton,
          rstripEnds_ended last ends]
      rw [lineContents_append stays, same]
      exact List.sublist_append_left _ _

/-- A header that is spelled plainly is read by the scanner, whatever it is in step with. -/
theorem plainHeader_read (array : Bool) {keys : List PlainKey} (some : keys ≠ [])
    (formed : ∀ key ∈ keys, key.Formed) {trail ending : Text} (blank : Trail trail)
    (single : trail.any isLineEnd = false)
    (ends : ending = [] ∨ ending = text "\n" ∨ ending = text "\r\n") (role : TomlRole) :
    TomlStatement.InStep env ⟨role, headerText array keys trail ++ ending⟩ ∧
      TomlStatement.opens env ⟨role, headerText array keys trail ++ ending⟩ =
        Option.some (keys.map PlainKey.name) := by
  have clean : ∀ c ∈ headerText array keys trail, isLineEnd c = false :=
    headerText_single array formed (by simpa using single)
  have line : splitLines (headerText array keys trail ++ ending) =
      [headerText array keys trail ++ ending] := by
    apply splitLines_single clean ?_ ends
    cases array <;> exact List.cons_ne_nil _ _
  have content : rstripEnds (headerText array keys trail ++ ending) = headerText array keys trail := by
    rw [rstripEnds_ended]
    · unfold rstripEnds
      rw [List.rdropWhile_eq_self_iff]
      intro nonempty stripped
      have last := clean _ (List.getLast_mem nonempty)
      rcases Bool.or_eq_true_iff.1 stripped with same | same
      · rw [of_decide_eq_true same] at last
        exact absurd last (by decide)
      · rw [of_decide_eq_true same] at last
        exact absurd last (by decide)
    · rw [← List.all_eq_true]
      rcases ends with rfl | rfl | rfl <;> rfl
  have read := @scanLine_header env array keys some formed trail blank
  refine ⟨⟨?_, ?_⟩, ?_⟩
  · rw [line, stateAfter, content, read]
    rfl
  · unfold TomlStatement.scanned
    rw [line, scannedLines]
    intro scanned mem
    cases mem
  · unfold TomlStatement.opens TomlStatement.scanned
    dsimp only
    rw [line, scannedLines, content, read]
    rfl

/-- An edit that appends the entry, or finds it as it should be, keeps the lines of others.
One that replaces or removes it keeps them exactly when the lines between our header and
the next one that the scanner reads outside of our subtree are ours, or lines of the block. -/
theorem toml_edit_keeps_lines_iff (env : TomlEnv) (key : Text) (file : List TomlStatement)
    (lined : Lined file) :
    (∀ payload force outcome, mergeToml env (fileText file) key payload force = .ok outcome →
      ∃ doc, MergeToml.parse env (fileText file) = .ok doc ∧
        (entryOf doc key = none ∨ outcome.changed = false →
          fileText file <+: outcome.text ∧ KeepsForeign key file outcome.text) ∧
        (entryOf doc key ≠ none → outcome.changed = true →
          KeptWhen env key file (adapt (fileText file) (renderTomlEntry key payload))
            outcome.text)) ∧
    ∀ outcome, removeEntryToml env (fileText file) key = .ok outcome →
      KeptWhen env key file [] outcome.text := by
  constructor
  · intro payload force outcome merged
    obtain ⟨doc, parsed, edit⟩ := (toml_edit_keeps_lines env (fileText file) key).1 payload force
      outcome merged
    have own := @foreignLines_sublist key file lined false
    refine ⟨doc, parsed, fun quiet => ?_, fun stored changed => ?_⟩
    · rcases edit with ⟨_, rfl⟩ | ⟨stored, rfl | ⟨changed, _⟩⟩
      · exact ⟨appendBlock_starts _ _, own.trans (appendBlock_lines _ _)⟩
      · exact ⟨List.prefix_refl _, own⟩
      · rcases quiet with absent | unchanged
        · exact absurd absent stored
        · rw [changed] at unchanged
          cases unchanged
    · rcases edit with ⟨absent, _⟩ | ⟨_, rfl | ⟨_, exchanges⟩⟩
      · exact absurd absent stored
      · cases changed
      · exact keptWhen_of_exchanges lined (adapt_render_block _ key payload).ended exchanges
  · intro outcome removed
    have exchanges := (toml_edit_keeps_lines env (fileText file) key).2 outcome removed
    exact keptWhen_of_exchanges lined (fun _ absent => nomatch absent) exchanges

/-! ## A header that the scanner reads, and one that it does not -/

def videoKey : Text := text "evoblue-video"

/-- The entry of this tool, above the table of another. -/
def plainFile : List TomlStatement :=
  [⟨.header [tableRoot, videoKey], text "[mcp_servers.evoblue-video]\n"⟩,
    ⟨.keyValue, text "command = \"python\"\n"⟩,
    ⟨.keyValue, text "args = []\n"⟩,
    ⟨.header [text "a\"b"], text "['a\"b'] # theirs\n"⟩,
    ⟨.keyValue, text "x = 1\n"⟩,
    ⟨.remark, text "# my notes\n"⟩]

/-- The same with a basic string for the key, and with a subtable in front. -/
def escapedFile : List TomlStatement :=
  [⟨.header [text "a\"b", text "c"], text "[\"a\\\"b\".c]\n"⟩,
    ⟨.keyValue, text "k = 1\n"⟩,
    ⟨.header [tableRoot, videoKey], text "[mcp_servers.evoblue-video]\n"⟩,
    ⟨.keyValue, text "command = \"x\"\n"⟩,
    ⟨.header [text "a\"b"], text "[\"a\\\"b\"]\n"⟩,
    ⟨.remark, text "# keep me\n"⟩]

/-- `tomllib` on both files and on what is left of them. -/
def quotedTables : TomlEnv where
  loads t :=
    let plain := (text "a\"b", .table [(text "x", .scalar (text "1"))])
    let nested := (text "a\"b", .table [(text "c", .table [(text "k", .scalar (text "1"))])])
    if t = fileText plainFile then
      .ok [(tableRoot, .table [(videoKey,
        .table [(text "command", .str (text "python")), (text "args", .array [])])]), plain]
    else if t = fileText (plainFile.drop 3) then .ok [plain]
    else if t = fileText escapedFile then
      .ok [nested, (tableRoot, .table [(videoKey, .table [(text "command", .str (text "x"))])])]
    else if t = fileText (escapedFile.take 2) then .ok [nested]
    else .error (.decode [])
  cloneDepth := 900
  scalarEqual := fun s t => s = t
  shown _ := []
  alnum _ := false

instance (t : Text) : Decidable (EndsLf t) :=
  decidable_of_iff (t.getLast?.all fun c => c = cp '\n') (by simp [EndsLf, Option.all_eq_true])

instance (file : List TomlStatement) : Decidable (Lined file) :=
  inferInstanceAs (Decidable (∀ _ ∈ _, _))

instance (key : Text) (file : List TomlStatement) (result : Text) : Decidable (KeepsForeign key file result) :=
  inferInstanceAs (Decidable (List.Sublist _ _))

instance (env : TomlEnv) (statement : TomlStatement) : Decidable (statement.InStep env) :=
  decidable_of_iff (_ ∧ _) ⟨fun both => ⟨both.1, both.2⟩, fun inStep => ⟨inStep.through, inStep.first⟩⟩

theorem plainFile_spans :
    Spans quotedTables videoKey [] (plainFile.take 3) (plainFile.drop 3) where
  inStep := by decide +kernel
  own := ⟨_, _, rfl, by decide +kernel, by decide +kernel⟩
  first _ absent := nomatch absent
  stops := by
    intro statement first
    obtain rfl := Option.some.inj first
    refine ⟨[text "a\"b"], ?_, by decide⟩
    exact (@plainHeader_read quotedTables false [.quoted apostrophe (text "a\"b")] (by decide)
      (by decide +kernel) (text " # theirs") (text "\n") (by decide +kernel) rfl
      (.inr (.inl rfl)) _).2

/-- Removing the entry keeps the lines of the other table. -/
theorem toml_edit_keeps_lines_plain :
    KeepsForeign videoKey plainFile (text "['a\"b'] # theirs\nx = 1\n# my notes\n") :=
  ((toml_edit_keeps_lines_iff quotedTables videoKey plainFile (by decide +kernel)).2
    ⟨fileText (plainFile.drop 3), true⟩ (by decide +kernel)).enough
    ⟨[], plainFile.take 3, plainFile.drop 3, rfl, plainFile_spans, by decide +kernel⟩

/-- Removing the entry drops the header and the comment below it: the scanner does not read
a header with an escape. -/
theorem escaped_header_dropped :
    Lined escapedFile ∧
      removeEntryToml quotedTables (fileText escapedFile) videoKey =
        .ok ⟨text "[\"a\\\"b\".c]\nk = 1\n", true⟩ ∧
      text "[\"a\\\"b\"]" ∈ foreignLines videoKey false escapedFile ∧
      text "# keep me" ∈ foreignLines videoKey false escapedFile ∧
      ¬ KeepsForeign videoKey escapedFile (text "[\"a\\\"b\".c]\nk = 1\n") := by
  decide +kernel

end EvoBlue.Guarantees
