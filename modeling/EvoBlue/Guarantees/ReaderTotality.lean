import EvoBlue.Source.ReportParser

/-!
# What the report reader raises

The reader takes its checks one after the other. Each passes, or is answered with a
`MarkdownParseError`, or runs into an exception of a library function that nothing catches:
an integer in JSON that is too long to convert, JSON that nests too deep, a URL that `urlsplit`
refuses. What leaves the reader is the first that does not pass.
-/

namespace EvoBlue.Guarantees

open EvoBlue.Kernel EvoBlue.Source

/-! ## Checks in order -/

inductive Verdict where
  | fine
  /-- A `MarkdownParseError`. -/
  | rejected
  /-- Any other exception. -/
  | breaks
  deriving DecidableEq, Repr

def firstVerdict : List Verdict → Verdict
  | [] => .fine
  | .fine :: rest => firstVerdict rest
  | verdict :: _ => verdict

def verdictOf {α : Type} : Read α → Verdict
  | .ok _ => .fine
  | .error (.markdown _) => .rejected
  | .error _ => .breaks

/-- One check, and what comes after it. -/
theorem verdict_step {α β : Type} {first : Read α} {next : α → Read β} {verdict : Verdict}
    {rest : List Verdict} (one : verdictOf first = verdict)
    (goes : ∀ value, first = .ok value → verdictOf (next value) = firstVerdict rest) :
    verdictOf (first >>= next) = firstVerdict (verdict :: rest) := by
  subst one
  cases first with
  | ok value => exact goes value rfl
  | error error =>
    cases error with
    | markdown code => rfl
    | valueError => rfl
    | recursionError => rfl

def passIf (condition : Bool) : Verdict := if condition then .fine else .rejected

theorem verdict_require (condition : Bool) (code : MdCode) :
    verdictOf (require condition (.markdown code)) = passIf condition := by
  unfold require passIf
  split <;> rfl

/-! ## The checks of the reader -/

section

variable (env : ReaderEnv) (fields : Fields)

/-- JSON that is read for a value of a kind. -/
def jsonVerdict (raw : Text) (kind : Json → Bool) : Verdict :=
  match Json.loads env.jsonDepth raw with
  | .ok value => passIf (kind value)
  | .error .integerTooLong => .breaks
  | .error .recursion => .breaks
  | .error _ => .rejected

/-- A field that is absent or empty passes. -/
def fieldVerdict (key : String) (kind : Json → Bool) : Verdict :=
  match fields.get (text key) with
  | none => .fine
  | some [] => .fine
  | some raw => jsonVerdict env raw kind

def isString (value : Json) : Bool := value.asStr.isSome

def isStrings : Json → Bool
  | .array items => (items.mapM Json.asStr).isSome
  | _ => false

/-- The text of a string field. -/
def fieldText (key : String) : Text :=
  match fields.get (text key) with
  | none => []
  | some raw => ((Json.loads env.jsonDepth raw).toOption.bind Json.asStr).getD []

def urlVerdict (url : Text) : Verdict :=
  match urlsplit env.unicode url with
  | none => .breaks
  | some split => passIf split.isAbsoluteHttp

/-- An aware time, bare or quoted. -/
def isAwareTime (spelled : Text) : Bool := (DateTime.fromIsoformat spelled).any (·.offset.isSome)

/-- A field for a time: JSON that does not decode is taken as it is. -/
def timeVerdict (key : String) (required : Bool) : Verdict :=
  let raw := (fields.get (text key)).getD []
  if raw = [] ∨ raw = text "null" then passIf (!required)
  else
    match Json.loads env.jsonDepth raw with
    | .ok value => passIf (isAwareTime (value.asStr.getD raw))
    | .error .integerTooLong => .breaks
    | .error .recursion => .breaks
    | .error _ => passIf (isAwareTime raw)

/-- All checks between the frontmatter and the report, in the order they are made. -/
def readerVerdicts (body : Text) : List Verdict :=
  [passIf ((fields.get (text "schema_version")).bind (readInt env.unicode) |>.any
      knownSchemaVersions.contains),
    fieldVerdict env fields "analysis_id" isString,
    fieldVerdict env fields "source_url" isString,
    fieldVerdict env fields "platform" isString,
    fieldVerdict env fields "video_id" isString,
    fieldVerdict env fields "title" isString,
    fieldVerdict env fields "summary_mode" isString,
    fieldVerdict env fields "author" isString,
    fieldVerdict env fields "language" isString,
    fieldVerdict env fields "asr_provider" isString,
    fieldVerdict env fields "asr_model" isString,
    fieldVerdict env fields "asr_model_version" isString,
    passIf (fieldText env fields "analysis_id" ≠ [] && fieldText env fields "source_url" ≠ [] &&
      fieldText env fields "platform" ≠ [] && fieldText env fields "video_id" ≠ [] &&
      fieldText env fields "title" ≠ []),
    urlVerdict env (fieldText env fields "source_url"),
    passIf (fieldText env fields "platform" =
      lower env.unicode (fieldText env fields "platform")),
    passIf (firstBodyLine body = text "# " ++ fieldText env fields "title"),
    passIf ((parseSections body).present .link),
    passIf (fieldText env fields "summary_mode" ≠ []),
    passIf (summaryModes.contains (fieldText env fields "summary_mode")),
    fieldVerdict env fields "tags" isStrings,
    timeVerdict env fields "published_at" false,
    timeVerdict env fields "analyzed_at" true]

end

section

variable {env : ReaderEnv} {fields : Fields} {key : String}

theorem verdict_jsonStr : verdictOf (jsonStr env fields key) = fieldVerdict env fields key isString := by
  unfold jsonStr fieldVerdict
  rcases fields.get (text key) with _ | _ | ⟨char, rest⟩
  · rfl
  · rfl
  · unfold jsonVerdict loadsScalar isString
    dsimp only
    generalize char :: rest = raw
    cases Json.loads env.jsonDepth raw with
    | ok value =>
      dsimp only [bind, Except.bind, Option.bind_some]
      cases value.asStr <;> rfl
    | error error => cases error <;> rfl

theorem jsonStr_text {value : Text} (read : jsonStr env fields key = .ok value) :
    value = fieldText env fields key := by
  unfold jsonStr at read
  unfold fieldText
  split at read
  next absent =>
    rw [absent]
    exact (Except.ok.inj read).symm
  next empty =>
    rw [empty]
    cases read
    rfl
  next raw _ there =>
    rw [there]
    unfold loadsScalar at read
    cases loaded : Json.loads env.jsonDepth raw with
    | ok json =>
      rw [loaded] at read
      dsimp only [bind, Except.bind, Option.bind_some] at read
      cases spelled : json.asStr with
      | none =>
        rw [spelled] at read
        cases read
      | some other =>
        rw [spelled] at read
        cases read
        simp [Except.toOption, loaded, spelled]
    | error error =>
      rw [loaded] at read
      cases error <;> cases read

theorem verdict_jsonTags : verdictOf (jsonTags env fields) = fieldVerdict env fields "tags" isStrings := by
  unfold jsonTags fieldVerdict
  rcases fields.get (text "tags") with _ | _ | ⟨char, rest⟩
  · rfl
  · rfl
  · unfold jsonVerdict loadsScalar
    dsimp only
    generalize char :: rest = raw
    cases Json.loads env.jsonDepth raw with
    | ok value =>
      cases value with
      | array items =>
        dsimp only [bind, Except.bind, isStrings]
        cases items.mapM Json.asStr <;> rfl
      | _ => rfl
    | error error => cases error <;> rfl

theorem verdict_url (url : Text) : verdictOf (requireHttpUrl env url) = urlVerdict env url := by
  unfold requireHttpUrl urlVerdict
  cases urlsplit env.unicode url with
  | none => rfl
  | some split => exact verdict_require _ _

/-- The reading of a time once its text is known. -/
theorem verdict_spelled (spelled : Text) :
    verdictOf (match DateTime.fromIsoformat spelled with
      | none => (.error (.markdown .missingField) : Read (Option DateTime))
      | some value =>
        if value.offset.isNone then .error (.markdown .missingField) else .ok (some value)) =
      passIf (isAwareTime spelled) := by
  unfold isAwareTime
  cases DateTime.fromIsoformat spelled with
  | none => rfl
  | some value =>
    simp only [Option.any_some]
    cases value.offset <;> rfl

theorem verdict_jsonDatetime (required : Bool) :
    verdictOf (jsonDatetime env fields key required) = timeVerdict env fields key required := by
  unfold jsonDatetime timeVerdict
  simp only
  split
  · cases required <;> rfl
  · unfold loadsScalar
    cases Json.loads env.jsonDepth ((fields.get (text key)).getD []) with
    | ok value => exact verdict_spelled _
    | error error =>
      cases error with
      | decode | outOfFuel => exact verdict_spelled _
      | integerTooLong | recursion => rfl

/-- A required time is there once it has been read. -/
theorem jsonDatetime_required {value : Option DateTime}
    (read : jsonDatetime env fields key true = .ok value) : value.isSome = true := by
  unfold jsonDatetime at read
  simp only at read
  split at read
  · cases read
  · obtain ⟨loaded, _, read⟩ := bind_ok read
    split at read
    · cases read
    · split at read
      · cases read
      · cases read
        rfl

theorem verdict_version : verdictOf (parseVersion env fields) =
    passIf ((fields.get (text "schema_version")).bind (readInt env.unicode) |>.any
      knownSchemaVersions.contains) := by
  unfold parseVersion
  split
  next absent =>
    rw [absent]
    rfl
  next version there =>
    rw [there, Option.any_some]
    unfold passIf
    split <;> rfl

/-- What `parse_markdown_report` makes of its frontmatter and body. -/
theorem verdict_parse {whole block body : Text} (rulers : splitFrontmatter whole = .ok (block, body))
    (lines : parseFrontmatter block = .ok fields) :
    verdictOf (parseMarkdownReport env whole) = firstVerdict (readerVerdicts env fields body) := by
  unfold parseMarkdownReport readerVerdicts
  rw [rulers]
  change verdictOf (parseFrontmatter block >>= _) = _
  rw [lines]
  change verdictOf (parseVersion env fields >>= _) = _
  refine verdict_step verdict_version fun _ _ => ?_
  refine verdict_step verdict_jsonStr fun analysisId read => ?_
  obtain rfl := jsonStr_text read
  refine verdict_step verdict_jsonStr fun sourceUrl read => ?_
  obtain rfl := jsonStr_text read
  refine verdict_step verdict_jsonStr fun platform read => ?_
  obtain rfl := jsonStr_text read
  refine verdict_step verdict_jsonStr fun videoId read => ?_
  obtain rfl := jsonStr_text read
  refine verdict_step verdict_jsonStr fun title read => ?_
  obtain rfl := jsonStr_text read
  refine verdict_step verdict_jsonStr fun summaryMode read => ?_
  obtain rfl := jsonStr_text read
  refine verdict_step verdict_jsonStr fun _ _ => ?_
  refine verdict_step verdict_jsonStr fun _ _ => ?_
  refine verdict_step verdict_jsonStr fun _ _ => ?_
  refine verdict_step verdict_jsonStr fun _ _ => ?_
  refine verdict_step verdict_jsonStr fun _ _ => ?_
  refine verdict_step (verdict_require _ _) fun _ _ => ?_
  refine verdict_step (verdict_url _) fun _ _ => ?_
  refine verdict_step (verdict_require _ _) fun _ _ => ?_
  refine verdict_step (verdict_require _ _) fun _ _ => ?_
  refine verdict_step (verdict_require _ _) fun _ _ => ?_
  refine verdict_step (verdict_require _ _) fun _ _ => ?_
  refine verdict_step (verdict_require _ _) fun _ _ => ?_
  refine verdict_step verdict_jsonTags fun _ _ => ?_
  refine verdict_step (verdict_jsonDatetime false) fun _ _ => ?_
  refine verdict_step (verdict_jsonDatetime true) fun analyzedAt read => ?_
  obtain ⟨value, rfl⟩ := Option.isSome_iff_exists.1 (jsonDatetime_required read)
  rfl

end

/-! ## The reader -/

/-- The first check of the file that does not pass is one that nothing catches. -/
def Breaks (env : ReaderEnv) (data : Bytes) : Prop :=
  [0xef, 0xbb, 0xbf].isPrefixOf data = false ∧ ∃ decoded block body fields,
    decodeUtf8 data = some decoded ∧
    splitFrontmatter (normalizedLines decoded) = .ok (block, body) ∧
    parseFrontmatter block = .ok fields ∧
    firstVerdict (readerVerdicts env fields body) = .breaks

theorem verdict_ne_breaks {α : Type} (outcome : Read α) :
    ((∃ value, outcome = .ok value) ∨ ∃ code, outcome = .error (.markdown code)) ↔
      verdictOf outcome ≠ .breaks := by
  cases outcome with
  | ok value => simp [verdictOf]
  | error error => cases error <;> simp [verdictOf]

theorem splitFrontmatter_markdown {whole : Text} {error : ReadError}
    (raised : splitFrontmatter whole = .error error) : error = .markdown .frontmatterInvalid := by
  unfold splitFrontmatter at raised
  split at raised
  · split at raised
    · exact (Except.error.inj raised).symm
    · cases raised
  · exact (Except.error.inj raised).symm

theorem parseLine_markdown {line : Text} {error : ReadError}
    (raised : parseLine line = .error error) : error = .markdown .frontmatterInvalid := by
  unfold parseLine at raised
  split at raised
  · cases raised
  · split at raised
    · cases raised
    · split at raised
      · cases raised
      · exact (Except.error.inj raised).symm

theorem parseLines_markdown {fields : Fields} {lines : List Text} {error : ReadError}
    (raised : parseLines fields lines = .error error) : error = .markdown .frontmatterInvalid := by
  induction lines generalizing fields with
  | nil => cases raised
  | cons line lines ih =>
    unfold parseLines at raised
    cases one : parseLine line with
    | error other =>
      rw [one] at raised
      cases raised
      exact parseLine_markdown one
    | ok field =>
      rw [one] at raised
      cases field with
      | none => exact ih raised
      | some field => exact ih raised

/-- The reader returns a report or raises `MarkdownParseError`, unless the file breaks a check. -/
theorem reader_total_iff (env : ReaderEnv) (data : Bytes) :
    ((∃ parsed, decodeReportBytes env data = .ok parsed) ∨
      ∃ code, decodeReportBytes env data = .error (.markdown code)) ↔ ¬ Breaks env data := by
  rw [verdict_ne_breaks, Ne, not_iff_not]
  unfold decodeReportBytes Breaks
  cases bom : [0xef, 0xbb, 0xbf].isPrefixOf data with
  | true => simp [verdictOf]
  | false =>
    cases utf8 : decodeUtf8 data with
    | none => simp [verdictOf]
    | some decoded =>
      simp only [Bool.false_eq_true, if_false, true_and, Option.some.injEq]
      cases rulers : splitFrontmatter (normalizedLines decoded) with
      | error error =>
        have rejected : verdictOf (parseMarkdownReport env (normalizedLines decoded)) = .rejected := by
          unfold parseMarkdownReport
          rw [rulers, splitFrontmatter_markdown rulers]
          rfl
        rw [rejected]
        simp only [reduceCtorEq, false_iff]
        rintro ⟨_, block, body, fields, rfl, split, _⟩
        rw [rulers] at split
        cases split
      | ok parts =>
        obtain ⟨block, body⟩ := parts
        cases lines : parseFrontmatter block with
        | error error =>
          have rejected : verdictOf (parseMarkdownReport env (normalizedLines decoded)) =
              .rejected := by
            unfold parseMarkdownReport
            rw [rulers]
            change verdictOf (parseFrontmatter block >>= _) = _
            rw [lines, parseLines_markdown lines]
            rfl
          rw [rejected]
          simp only [reduceCtorEq, false_iff]
          rintro ⟨_, other, rest, fields, rfl, split, parsed, _⟩
          rw [rulers] at split
          cases split
          rw [lines] at parsed
          cases parsed
        | ok fields =>
          rw [verdict_parse rulers lines]
          constructor
          · exact fun broken => ⟨decoded, block, body, fields, rfl, rulers, lines, broken⟩
          · rintro ⟨_, other, rest, again, rfl, split, parsed, broken⟩
            rw [rulers] at split
            cases split
            rw [lines] at parsed
            cases parsed
            exact broken

/-- A report whose URL opens a bracket that it does not close. -/
def bracketReport : Text :=
  text "---\nschema_version: 1\nanalysis_id: \"a\"\nsource_url: \"http://[\"\n" ++
    text "platform: \"youtube\"\nvideo_id: \"v\"\ntitle: \"T\"\n---\n"

/-- Unicode tables that suffice for ASCII. -/
def asciiReader : ReaderEnv where
  unicode := ⟨fun _ c _ => [c], fun _ => none, fun t => t⟩
  jsonDepth := 1000

/-- `urlsplit` raises `ValueError`, and so does the reader. -/
theorem bracket_escapes :
    decodeReportBytes asciiReader ((encodeUtf8 bracketReport).getD []) = .error .valueError ∧
      ¬ ∀ (env : ReaderEnv) (data : Bytes),
        (∃ parsed, decodeReportBytes env data = .ok parsed) ∨
          ∃ code, decodeReportBytes env data = .error (.markdown code) := by
  have raised : decodeReportBytes asciiReader ((encodeUtf8 bracketReport).getD []) =
      .error .valueError := by
    decide +kernel
  refine ⟨raised, fun total => ?_⟩
  obtain ⟨parsed, read⟩ | ⟨code, refused⟩ :=
    total asciiReader ((encodeUtf8 bracketReport).getD [])
  · rw [raised] at read
    cases read
  · rw [raised] at refused
    cases refused

end EvoBlue.Guarantees
