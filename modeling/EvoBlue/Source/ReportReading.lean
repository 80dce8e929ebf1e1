import EvoBlue.Kernel.IsoRoundTrip
import EvoBlue.Source.ReportRenderer

/-!
# Reading a rendered frontmatter

What the accessors of the parser find in the fields of a rendered report.
-/

namespace EvoBlue.Source

open EvoBlue.Kernel

/-- The lines between the rulers of a rendered report. -/
def frontmatterBlock (doc : ReportDocument) : Text :=
  (text "\n").intercalate ((frontmatterFields doc).map fieldLine)

/-- What follows the closing ruler. -/
def renderedBody (doc : ReportDocument) : Text := text "\n" ++ renderSections doc ++ text "\n"

theorem renderMarkdown_eq (doc : ReportDocument) :
    renderMarkdown doc = renderFrontmatter doc ++ text "\n" ++ renderedBody doc := by
  have newline : text "\n\n" = text "\n" ++ text "\n" := by decide
  simp only [renderMarkdown, renderedBody, newline, List.append_assoc]

variable {env : ReaderEnv} {doc : ReportDocument}

/-! ## Fields -/

theorem Fields.get_of_mem {fields : Fields} (distinct : (fields.map (·.1)).Nodup)
    {field : Text × Text} (mem : field ∈ fields) : Fields.get fields field.1 = some field.2 := by
  induction fields with
  | nil => cases mem
  | cons first fields ih =>
    rw [List.map_cons, List.nodup_cons] at distinct
    unfold Fields.get at ih ⊢
    rw [List.find?_cons]
    rcases List.mem_cons.1 mem with rfl | later
    · simp
    · have apart : first.1 ≠ field.1 := by
        intro same
        exact distinct.1 (same ▸ List.mem_map_of_mem later)
      rw [decide_eq_false apart]
      exact ih distinct.2 later

theorem frontmatterFields_distinct (doc : ReportDocument) :
    ((frontmatterFields doc).reverse.map (·.1)).Nodup := by
  rw [List.map_reverse, List.nodup_reverse]
  simp only [frontmatterFields, List.map_cons, List.map_nil]
  decide

theorem get_rendered {key raw : Text} (mem : (key, raw) ∈ frontmatterFields doc) :
    Fields.get (frontmatterFields doc).reverse key = some raw :=
  Fields.get_of_mem (frontmatterFields_distinct doc) (List.mem_reverse.2 mem)

/-! ## Accessors -/

theorem jsonStr_rendered {key : String} {value : Text}
    (mem : (text key, yaml value) ∈ frontmatterFields doc) :
    jsonStr env (frontmatterFields doc).reverse key = .ok value := by
  obtain ⟨rest, quoted⟩ := Json.dumpsStr_cons value
  have loaded : Json.loads env.jsonDepth (cp '"' :: rest) = .ok (.str value) := by
    rw [← quoted]
    exact Json.loads_dumpsStr _ _
  have found := get_rendered mem
  unfold yaml at found
  rw [quoted] at found
  unfold jsonStr
  rw [found]
  dsimp only
  unfold loadsScalar
  rw [loaded]
  rfl

theorem parseVersion_rendered : parseVersion env (frontmatterFields doc).reverse = .ok 1 := by
  have mem : (text "schema_version", decimalText schemaVersion) ∈ frontmatterFields doc :=
    List.mem_cons_self
  have one : readInt env.unicode (decimalText schemaVersion) = some 1 := rfl
  have known : knownSchemaVersions.contains 1 = true := by decide
  unfold parseVersion
  rw [get_rendered mem, Option.bind_some, one]
  dsimp only
  rw [if_pos known]

theorem jsonTags_rendered (deep : 0 < env.jsonDepth) :
    jsonTags env (frontmatterFields doc).reverse = .ok doc.tags := by
  have mem : (text "tags", Json.dumpsStrings doc.tags) ∈ frontmatterFields doc := by
    simp [frontmatterFields]
  have strings : (doc.tags.map Json.str).mapM Json.asStr = some doc.tags := by
    induction doc.tags with
    | nil => rfl
    | cons tag tags ih =>
      rw [List.map_cons, List.mapM_cons, ih]
      rfl
  have loaded := Json.loads_dumpsStrings deep doc.tags
  have found := get_rendered mem
  obtain ⟨rest, opened⟩ : ∃ rest, Json.dumpsStrings doc.tags = cp '[' :: rest := ⟨_, rfl⟩
  rw [opened] at loaded found
  unfold jsonTags
  rw [found]
  dsimp only
  unfold loadsScalar
  rw [loaded]
  simp only [bind, Except.bind, strings]
  rfl

theorem jsonDatetime_of_get {key : String} {raw spelled : Text} {required : Bool} {d : DateTime}
    (found : Fields.get (frontmatterFields doc).reverse (text key) = some raw) (some_ : raw ≠ [])
    (notNull : raw ≠ text "null") {loaded : Option Json}
    (read : loadsScalar env raw = .ok loaded) (chosen : (loaded.bind Json.asStr).getD raw = spelled)
    (spells : spelled = d.isoformat) (zoned : d.offset.isSome = true) :
    jsonDatetime env (frontmatterFields doc).reverse key required = .ok (some d.readAgain) := by
  obtain ⟨offset, zone⟩ := Option.isSome_iff_exists.1 zoned
  have back := DateTime.fromIsoformat_isoformat zone
  have still : d.readAgain.offset.isNone = false := by
    show (d.offset.map _).isNone = false
    rw [zone]
    rfl
  unfold jsonDatetime
  rw [found]
  simp only [Option.getD_some, some_, notNull, or_self, if_false, read, bind, Except.bind, chosen,
    spells, back, still]
  rfl

/-- Digits and something behind them that is no blank and goes on no number. -/
theorem loads_digits {depth : Nat} {digits rest : Text} {c : CodePoint} (some_ : digits ≠ [])
    (short : digits.length ≤ Json.maxStrDigits) (all : ∀ d ∈ digits, isDigit d = true)
    (notDigit : isDigit c = false) (visible : Json.isJsonSpace c = false) (noPoint : c ≠ cp '.')
    (noExponent : c ≠ cp 'e' ∧ c ≠ cp 'E') :
    Json.loads depth (digits ++ c :: rest) = .error .decode := by
  obtain ⟨first, more, rfl⟩ := List.exists_cons_of_ne_nil some_
  have digit := all first List.mem_cons_self
  have apart : ∀ d, isDigit d = false → first ≠ d := by
    rintro d other rfl
    rw [digit] at other
    cases other
  have spaceless (d : CodePoint) (is : isDigit d = true) : Json.isJsonSpace d = false := by
    have notSpace : ∀ e ∈ [cp ' ', cp '\t', cp '\n', cp '\r'], d ≠ e := by
      rintro e mem rfl
      have clean : [cp ' ', cp '\t', cp '\n', cp '\r'].all (fun e => isDigit e = false) = true := by
        decide
      have no := of_decide_eq_true (List.all_eq_true.1 clean d mem)
      rw [is] at no
      cases no
    simp only [List.mem_cons, List.not_mem_nil, or_false, forall_eq_or_imp, forall_eq] at notSpace
    simp [Json.isJsonSpace, notSpace]
  have stops (d : CodePoint) (tail : Text) (point : d ≠ cp '.') (exponent : d ≠ cp 'e' ∧ d ≠ cp 'E') :
      Json.scanFraction (d :: tail) = [] ∧ Json.scanExponent (d :: tail) = [] := by
    unfold Json.scanFraction Json.scanExponent
    simp [point, exponent]
  have digitStops (d : CodePoint) (is : isDigit d = true) (tail : Text) :
      Json.scanFraction (d :: tail) = [] ∧ Json.scanExponent (d :: tail) = [] := by
    have clean : ∀ e, isDigit e = false → d ≠ e := by
      rintro e other rfl
      rw [is] at other
      cases other
    exact stops d tail (clean _ (by decide)) ⟨clean _ (by decide), clean _ (by decide)⟩
  -- the number ends before a code point that starts no fraction and no exponent
  obtain ⟨value, d, tail, number, behind⟩ : ∃ value d tail,
      Json.scanNumber (first :: more ++ c :: rest) = .ok (.int value, d :: tail) ∧
        Json.isJsonSpace d = false := by
    have noSign : (first :: more ++ c :: rest).head? ≠ some (cp '-') := by
      rw [List.cons_append, List.head?_cons, Ne, Option.some.injEq]
      exact apart _ (by decide)
    unfold Json.scanNumber
    simp only [noSign, if_false, List.take_zero, List.length_nil, List.drop_zero, List.nil_append]
    by_cases zero : first = cp '0'
    · subst zero
      simp only [List.cons_append, List.head?_cons, if_true, List.take_succ_cons, List.take_zero,
        List.cons_ne_nil, if_false, List.length_singleton, List.drop_succ_cons, List.drop_zero]
      cases more with
      | nil =>
        have ends := stops c rest noPoint noExponent
        refine ⟨Json.digitsValue [cp '0'], c, rest, ?_, visible⟩
        simp [ends, Json.maxStrDigits]
      | cons d more =>
        have digitD := all d (by simp)
        have ends := digitStops d digitD (more ++ c :: rest)
        refine ⟨Json.digitsValue [cp '0'], d, more ++ c :: rest, ?_, spaceless d digitD⟩
        simp [ends, Json.maxStrDigits]
    · have taken : (first :: more ++ c :: rest).takeWhile isDigit = first :: more := by
        rw [List.takeWhile_append_of_pos all, List.takeWhile_cons, notDigit]
        simp
      have noZero : (first :: more ++ c :: rest).head? ≠ some (cp '0') := by
        rw [List.cons_append, List.head?_cons, Ne, Option.some.injEq]
        exact zero
      have ends := stops c rest noPoint noExponent
      refine ⟨Json.digitsValue (first :: more), c, rest, ?_, visible⟩
      have fits : ¬ Json.maxStrDigits < (first :: more).length := Nat.not_lt.2 short
      simp only [noZero, if_false, taken, reduceCtorEq, List.drop_left, ends, List.length_nil,
        List.drop_zero, and_self, if_true, gt_iff_lt, fits]
  have value_ (fuel : Nat) : Json.scanValue (fuel + 1) depth (first :: (more ++ c :: rest)) =
      .ok (.int value, d :: tail) := by
    rw [Json.scanValue, if_neg (apart _ (by decide)), if_neg (apart _ (by decide)),
      if_neg (apart _ (by decide)), Json.scanConstant_digit digit]
    exact number
  have mark : (first :: (more ++ c :: rest)).head? ≠ some (codePoint 0xfeff) := by
    rw [List.head?_cons, Ne, Option.some.injEq]
    exact apart _ (by decide)
  rw [List.cons_append]
  unfold Json.loads
  rw [if_neg mark, Json.skipSpace_cons (spaceless first digit), value_]
  simp only [bind, Except.bind, Json.skipSpace_cons behind, List.cons_ne_nil, if_false]

theorem isoformat_year (d : DateTime) :
    ∃ rest, d.isoformat = DateTime.padded 4 d.year ++ cp '-' :: rest ∧
      (DateTime.padded 4 d.year).length = 4 := by
  have years : d.year ≤ 9999 := d.inRange.2.1
  have dash : text "-" = [cp '-'] := rfl
  unfold DateTime.isoformat
  simp only [dash, List.append_assoc, List.cons_append, List.nil_append]
  exact ⟨_, rfl, DateTime.padded_length (by decide) (by omega)⟩

/-- A bare datetime is no JSON. -/
theorem loadsScalar_isoformat (d : DateTime) : loadsScalar env d.isoformat = .ok none := by
  obtain ⟨rest, spelled, length⟩ := isoformat_year d
  have digits : DateTime.padded 4 d.year ≠ [] := by
    intro empty
    rw [empty] at length
    cases length
  have loaded := @loads_digits env.jsonDepth _ rest (cp '-') digits
    (by rw [length]; decide) (fun c mem => DateTime.padded_digits mem) (by decide) (by decide)
    (by decide) (by decide)
  unfold loadsScalar
  rw [spelled, loaded]

/-! ## The whole frontmatter -/

/-- The accessors give a document's frontmatter back, its datetimes as `again` tells. -/
structure ReadsBack (env : ReaderEnv) (again : DateTime → DateTime) (doc : ReportDocument)
    (fields : Fields) : Prop where
  version : parseVersion env fields = .ok schemaVersion
  analysisId : jsonStr env fields "analysis_id" = .ok doc.analysisId
  sourceUrl : jsonStr env fields "source_url" = .ok doc.sourceUrl
  platform : jsonStr env fields "platform" = .ok doc.platform
  videoId : jsonStr env fields "video_id" = .ok doc.videoId
  title : jsonStr env fields "title" = .ok doc.title
  author : jsonStr env fields "author" = .ok doc.author
  summaryMode : jsonStr env fields "summary_mode" = .ok doc.summaryMode
  language : jsonStr env fields "language" = .ok doc.language
  asrProvider : jsonStr env fields "asr_provider" = .ok doc.asrProvider
  asrModel : jsonStr env fields "asr_model" = .ok doc.asrModel
  asrModelVersion : jsonStr env fields "asr_model_version" = .ok doc.asrModelVersion
  tags : jsonTags env fields = .ok doc.tags
  publishedAt : jsonDatetime env fields "published_at" false = .ok (doc.publishedAt.map again)
  analyzedAt : jsonDatetime env fields "analyzed_at" true = .ok (some (again doc.analyzedAt))

theorem publishedAt_rendered :
    jsonDatetime env (frontmatterFields doc).reverse "published_at" false =
      .ok (doc.publishedAt.map DateTime.readAgain) := by
  have field : ∀ value, (frontmatterFields doc)[7]? = some (text "published_at", value) →
      Fields.get (frontmatterFields doc).reverse (text "published_at") = some value :=
    fun value there => get_rendered (List.mem_of_getElem? there)
  have zoned := doc.zoned.2
  cases stated : doc.publishedAt with
  | none =>
    have found := field (text "null") (by simp [frontmatterFields, stated])
    unfold jsonDatetime
    rw [found]
    rfl
  | some published =>
    have found := field published.isoformat (by simp [frontmatterFields, stated])
    obtain ⟨rest, spelled, year⟩ := isoformat_year published
    have long : 5 ≤ published.isoformat.length := by
      rw [spelled, List.length_append, List.length_cons, year]
      omega
    have written : published.isoformat ≠ [] ∧ published.isoformat ≠ text "null" := by
      constructor
      · intro empty
        rw [empty] at long
        exact absurd long (by decide)
      · intro null
        rw [null] at long
        exact absurd long (by decide)
    exact jsonDatetime_of_get found written.1 written.2 (loadsScalar_isoformat published) rfl rfl
      (zoned published stated)

theorem analyzedAt_rendered :
    jsonDatetime env (frontmatterFields doc).reverse "analyzed_at" true =
      .ok (some doc.analyzedAt.readAgain) := by
  have mem : (text "analyzed_at", yaml doc.analyzedAt.isoformat) ∈ frontmatterFields doc := by
    simp [frontmatterFields]
  obtain ⟨rest, quoted⟩ := Json.dumpsStr_cons doc.analyzedAt.isoformat
  have read : loadsScalar env (yaml doc.analyzedAt.isoformat) =
      .ok (some (.str doc.analyzedAt.isoformat)) := by
    unfold loadsScalar yaml
    rw [Json.loads_dumpsStr]
  have written : yaml doc.analyzedAt.isoformat ≠ [] ∧ yaml doc.analyzedAt.isoformat ≠ text "null" := by
    unfold yaml
    rw [quoted]
    constructor
    · exact List.cons_ne_nil _ _
    · intro null
      exact absurd (List.cons.inj null).1 (by decide)
  exact jsonDatetime_of_get (get_rendered mem) written.1 written.2 read rfl rfl doc.zoned.1

theorem readsBack_rendered (deep : 0 < env.jsonDepth) :
    ReadsBack env DateTime.readAgain doc (frontmatterFields doc).reverse where
  version := parseVersion_rendered
  analysisId := jsonStr_rendered (by simp [frontmatterFields])
  sourceUrl := jsonStr_rendered (by simp [frontmatterFields])
  platform := jsonStr_rendered (by simp [frontmatterFields])
  videoId := jsonStr_rendered (by simp [frontmatterFields])
  title := jsonStr_rendered (by simp [frontmatterFields])
  author := jsonStr_rendered (by simp [frontmatterFields])
  summaryMode := jsonStr_rendered (by simp [frontmatterFields])
  language := jsonStr_rendered (by simp [frontmatterFields])
  asrProvider := jsonStr_rendered (by simp [frontmatterFields])
  asrModel := jsonStr_rendered (by simp [frontmatterFields])
  asrModelVersion := jsonStr_rendered (by simp [frontmatterFields])
  tags := jsonTags_rendered deep
  publishedAt := publishedAt_rendered
  analyzedAt := analyzedAt_rendered

end EvoBlue.Source
