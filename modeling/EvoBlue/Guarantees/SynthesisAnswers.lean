import EvoBlue.Source.ArtifactTexts

/-!
# Answers of the model as report fields

`parse_synthesis` takes an object with the four fields of a report, alone or in a fence
with any blanks around it. What it takes is fit for a report: no field is empty and no
other key is there.
-/

namespace EvoBlue.Guarantees

open EvoBlue.Kernel EvoBlue.Source

/-- Fields that the schema takes. -/
structure Acceptable (fields : SynthesisFields) : Prop where
  coreSummary : fields.coreSummary ≠ [] ∧ Encodable fields.coreSummary
  keyTakeaways : fields.keyTakeaways ≠ []
  timelineOutline : fields.timelineOutline ≠ [] ∧ Encodable fields.timelineOutline
  contentAnalysis : fields.contentAnalysis ≠ [] ∧ Encodable fields.contentAnalysis

/-- The object the model is asked for. -/
def synthesisDocument (fields : SynthesisFields) : Json :=
  .object
    [(text "core_summary", .str fields.coreSummary),
      (text "key_takeaways", .array (fields.keyTakeaways.map .str)),
      (text "timeline_outline", .str fields.timelineOutline),
      (text "content_analysis", .str fields.contentAnalysis)]

/-- A text in a fence. -/
def fenced (tag before body after : Text) : Text :=
  text "```" ++ (tag ++ (before ++ (body ++ (after ++ text "```"))))

/-! ## Fences -/

section

variable {body before after tag : Text}

theorem unfence_plain (brace : body.head? = some (cp '{')) : unfence body = body := by
  cases body with
  | nil => cases brace
  | cons c rest =>
    cases brace
    have apart : (text "```").isPrefixOf (cp '{' :: rest) = false := rfl
    unfold unfence
    simp [apart]

/-- What is in a fence comes out with its blanks. -/
theorem unfence_fenced (brace : body.head? = some (cp '{')) (front : blank before = true)
    (known : tag = [] ∨ tag = text "json") :
    unfence (fenced tag before body after) = before ++ (body ++ after) := by
  have start : (text "```").isPrefixOf (fenced tag before body after) = true := by
    rw [List.isPrefixOf_iff_prefix]
    exact List.prefix_append _ _
  have finish : (text "```").isSuffixOf (fenced tag before body after) = true := by
    rw [List.isSuffixOf_iff_suffix]
    refine ⟨text "```" ++ (tag ++ (before ++ (body ++ after))), ?_⟩
    simp [fenced]
  have three : (text "```").length = 3 := rfl
  have long : (fenced tag before body after).length =
      (tag ++ (before ++ (body ++ after))).length + 6 := by
    simp only [fenced, List.length_append, three]
    omega
  have inner : ((fenced tag before body after).drop 3).take
      ((fenced tag before body after).length - 6) = tag ++ (before ++ (body ++ after)) := by
    have dropped : (fenced tag before body after).drop 3 =
        (tag ++ (before ++ (body ++ after))) ++ text "```" := by
      unfold fenced
      rw [List.drop_append_of_le_length (by rw [three]), ← three, List.drop_length]
      simp
    rw [dropped, long, Nat.add_sub_cancel, List.take_left]
  have sized : 6 ≤ (fenced tag before body after).length := by
    rw [long]
    omega
  unfold unfence
  simp only [start, finish, sized, and_self, if_true, inner]
  rcases known with rfl | rfl
  · -- without a tag, a blank or the brace comes first
    have plain : (text "json").isPrefixOf ([] ++ (before ++ (body ++ after))) = false := by
      cases before with
      | nil =>
        cases body with
        | nil => cases brace
        | cons c rest =>
          cases brace
          rfl
      | cons c rest =>
        have space : isSpace c = true := by
          unfold blank at front
          rw [List.all_cons, Bool.and_eq_true] at front
          exact front.1
        have apart : cp 'j' ≠ c := by
          rintro rfl
          exact absurd space (by decide)
        exact Bool.and_eq_false_iff.2 (.inl (beq_false_of_ne apart))
    rw [plain]
    rfl
  · have tagged : (text "json").isPrefixOf (text "json" ++ (before ++ (body ++ after))) = true := by
      rw [List.isPrefixOf_iff_prefix]
      exact List.prefix_append _ _
    rw [if_pos tagged]
    rfl

theorem strip_fenced : strip (fenced tag before body after) = fenced tag before body after := by
  apply strip_eq_self
  · intro c first
    have tick : c = cp '`' := by
      cases first
      rfl
    rw [tick]
    decide
  · intro c last
    have tick : (fenced tag before body after).getLast? = some (cp '`') := by
      have whole : fenced tag before body after =
          (text "```" ++ (tag ++ (before ++ (body ++ (after ++ [cp '`', cp '`']))))) ++ [cp '`'] := by
        simp [fenced, text]
      rw [whole, List.getLast?_concat]
    rw [tick] at last
    cases last
    decide

end

/-! ## The object -/

section

variable {depth : Nat} {fields : SynthesisFields}

theorem written_strings (depth : Nat) (items : List Text) :
    Json.WrittenItems depth (items.map .str) := by
  induction items with
  | nil => trivial
  | cons item items ih =>
    refine ⟨?_, ih⟩
    cases depth <;> trivial

theorem loads_synthesis (deep : 2 ≤ depth) :
    Json.loads depth (Json.dumps (synthesisDocument fields)) = .ok (synthesisDocument fields) := by
  obtain ⟨more, rfl⟩ : ∃ more, depth = more + 2 := ⟨depth - 2, by omega⟩
  apply Json.loads_dumps
  exact ⟨trivial, written_strings more _, trivial, trivial, trivial⟩

theorem mapM_asStr (items : List Text) : (items.map Json.str).mapM Json.asStr = some items := by
  induction items with
  | nil => rfl
  | cons item items ih =>
    rw [List.map_cons, List.mapM_cons, ih]
    rfl

theorem all_scalars {t : Text} (encodable : Encodable t) :
    t.all (fun c => !isSurrogate c) = true := by
  rw [List.all_eq_true]
  intro c mem
  rw [encodable c mem]
  rfl

theorem validate_document (acceptable : Acceptable fields) :
    validateSynthesis (synthesisDocument fields) = some fields := by
  have required : ∀ key value, (synthesisDocument fields).get (text key) = some (.str value) →
      value ≠ [] ∧ Encodable value → requiredText (synthesisDocument fields) key = some value := by
    intro key value found fit
    have kept : value ≠ [] ∧ value.all (fun c => !isSurrogate c) = true :=
      ⟨fit.1, all_scalars fit.2⟩
    unfold requiredText
    rw [found]
    dsimp only
    rw [if_pos kept]
  have takeaways : requiredTexts (synthesisDocument fields) "key_takeaways" =
      some fields.keyTakeaways := by
    have found : (synthesisDocument fields).get (text "key_takeaways") =
        some (.array (fields.keyTakeaways.map .str)) := rfl
    have some' : ¬ fields.keyTakeaways.map Json.str = [] := by
      simpa using acceptable.keyTakeaways
    unfold requiredTexts
    rw [found]
    dsimp only
    rw [if_neg some', mapM_asStr]
  have summary := required "core_summary" fields.coreSummary rfl acceptable.coreSummary
  have outline := required "timeline_outline" fields.timelineOutline rfl acceptable.timelineOutline
  have analysis := required "content_analysis" fields.contentAnalysis rfl acceptable.contentAnalysis
  obtain ⟨members, object⟩ : ∃ members, membersOf (synthesisDocument fields) = some members ∧
      ((members.map (·.1)).all fun key => synthesisKeys.contains key) = true := by
    refine ⟨_, rfl, ?_⟩
    have known : (synthesisKeys.all fun key => synthesisKeys.contains key) = true := by
      decide +kernel
    exact known
  unfold validateSynthesis
  simp only [object.1, object.2, summary, outline, analysis, takeaways, Option.bind_eq_bind,
    Option.bind_some, if_true]
  rfl

/-- The text the model answers, in the ways it may be wrapped. -/
inductive Wraps (body : Text) : Text → Prop
  | alone {front back : Text} (blankFront : blank front = true) (blankBack : blank back = true) :
      Wraps body (front ++ body ++ back)
  | fence {front back before after tag : Text} (blankFront : blank front = true)
      (blankBack : blank back = true) (blankBefore : blank before = true)
      (blankAfter : blank after = true) (known : tag = [] ∨ tag = text "json") :
      Wraps body (front ++ fenced tag before body after ++ back)

/-- An object is found in any wrapping. -/
theorem unwrapped {body raw : Text} (stripped : strip body = body)
    (brace : body.head? = some (cp '{')) (wraps : Wraps body raw) :
    strip (unfence (strip raw)) = body := by
  cases wraps with
  | alone front back =>
    rw [strip_between front back, stripped, unfence_plain brace, stripped]
  | fence front back before after known =>
    rw [strip_between front back, strip_fenced, unfence_fenced brace before known,
      ← List.append_assoc, strip_between before after, stripped]

theorem document_stripped (fields : SynthesisFields) :
    strip (Json.dumps (synthesisDocument fields)) = Json.dumps (synthesisDocument fields) := by
  apply strip_eq_self
  · intro c first
    cases first
    decide
  · intro c last
    have brace : (Json.dumps (synthesisDocument fields)).getLast? = some (cp '}') := by
      unfold synthesisDocument
      rw [Json.dumps, ← List.cons_append, List.getLast?_concat]
    rw [brace] at last
    cases last
    decide

theorem requiredText_some {document : Json} {key : String} {value : Text}
    (found : requiredText document key = some value) : value ≠ [] ∧ Encodable value := by
  unfold requiredText at found
  split at found
  · split at found
    next kept =>
      cases found
      refine ⟨kept.1, ?_⟩
      intro c mem
      have scalar := List.all_eq_true.1 kept.2 c mem
      simpa using scalar
    next => cases found
  · cases found

theorem requiredTexts_some {document : Json} {key : String} {values : List Text}
    (found : requiredTexts document key = some values) : values ≠ [] := by
  unfold requiredTexts at found
  split at found
  next items _ =>
    split at found
    next => cases found
    next nonempty =>
      cases items with
      | nil => exact absurd rfl nonempty
      | cons item items =>
        rw [List.mapM_cons] at found
        obtain ⟨first, _, found⟩ := Option.bind_eq_some_iff.1 found
        obtain ⟨rest, _, found⟩ := Option.bind_eq_some_iff.1 found
        cases found
        exact List.cons_ne_nil _ _
  next => cases found

/-- A member that was read is there. -/
theorem key_of_get {members : List (Text × Json)} {key : Text} {value : Json}
    (found : (Json.object members).get key = some value) : key ∈ members.map (·.1) := by
  obtain ⟨member, there, _⟩ := Option.map_eq_some_iff.1 found
  have mem := List.mem_of_find?_eq_some there
  have named := List.find?_some there
  rw [← of_decide_eq_true named]
  exact List.mem_map_of_mem (List.mem_reverse.1 mem)

/-- The object has the keys of the schema, and only these. -/
theorem validated {document : Json} (valid : validateSynthesis document = some fields) :
    Acceptable fields ∧ ∃ members, document = .object members ∧
      ∀ key, key ∈ members.map (·.1) ↔ key ∈ synthesisKeys := by
  unfold validateSynthesis at valid
  obtain ⟨members, object, valid⟩ := Option.bind_eq_some_iff.1 valid
  obtain rfl : document = .object members := by
    cases document with
    | object found =>
      cases object
      rfl
    | _ => cases object
  split at valid
  next known =>
    obtain ⟨summary, isSummary, valid⟩ := Option.bind_eq_some_iff.1 valid
    obtain ⟨takeaways, isTakeaways, valid⟩ := Option.bind_eq_some_iff.1 valid
    obtain ⟨outline, isOutline, valid⟩ := Option.bind_eq_some_iff.1 valid
    obtain ⟨analysis, isAnalysis, valid⟩ := Option.bind_eq_some_iff.1 valid
    cases valid
    refine ⟨⟨requiredText_some isSummary, requiredTexts_some isTakeaways, requiredText_some isOutline,
      requiredText_some isAnalysis⟩, members, rfl, ?_⟩
    have texts : ∀ name value, requiredText (.object members) name = some value →
        text name ∈ members.map (·.1) := by
      intro name value found
      unfold requiredText at found
      split at found
      next there => exact key_of_get there
      next => cases found
    have lists : ∀ name values, requiredTexts (.object members) name = some values →
        text name ∈ members.map (·.1) := by
      intro name values found
      unfold requiredTexts at found
      split at found
      next there => exact key_of_get there
      next => cases found
    intro key
    constructor
    · intro mem
      have listed := List.all_eq_true.1 known key mem
      simpa using listed
    · intro mem
      simp only [synthesisKeys, List.mem_cons, List.not_mem_nil, or_false] at mem
      rcases mem with rfl | rfl | rfl | rfl
      · exact texts _ _ isSummary
      · exact lists _ _ isTakeaways
      · exact texts _ _ isOutline
      · exact texts _ _ isAnalysis
  next => cases valid

/-- Acceptable fields are read from every way the model may wrap their object, and only
acceptable fields are read, from an object with exactly the keys of the schema. -/
theorem synthesis_answers_are_read (depth : Nat) (deep : 2 ≤ depth) :
    (∀ fields, Acceptable fields → ∀ raw, Wraps (Json.dumps (synthesisDocument fields)) raw →
      parseSynthesis depth raw = .ok fields) ∧
    ∀ raw fields, parseSynthesis depth raw = .ok fields → Acceptable fields ∧
      ∃ members, Json.loads depth (strip (unfence (strip raw))) = .ok (.object members) ∧
        ∀ key, key ∈ members.map (·.1) ↔ key ∈ synthesisKeys := by
  constructor
  · intro fields acceptable raw wraps
    unfold parseSynthesis
    rw [unwrapped (document_stripped fields) rfl wraps, loads_synthesis deep]
    simp only [validate_document acceptable]
  · intro raw fields parsed
    unfold parseSynthesis at parsed
    split at parsed
    next => cases parsed
    next => cases parsed
    next document loaded =>
      split at parsed
      next found valid =>
        cases parsed
        obtain ⟨acceptable, members, rfl, keys⟩ := validated valid
        exact ⟨acceptable, members, loaded, keys⟩
      next => cases parsed

/-- A short answer in a fence. -/
def sampleFields : SynthesisFields where
  coreSummary := text "S"
  keyTakeaways := [text "T"]
  timelineOutline := text "O"
  contentAnalysis := text "A"

theorem synthesis_answers_are_read_fenced :
    parseSynthesis 2 (text "\n" ++ fenced (text "json") (text "\n")
      (Json.dumps (synthesisDocument sampleFields)) (text "\n") ++ text " ") = .ok sampleFields := by
  have acceptable : Acceptable sampleFields :=
    ⟨⟨by decide, by decide⟩, by decide, ⟨by decide, by decide⟩, ⟨by decide, by decide⟩⟩
  exact (synthesis_answers_are_read 2 (by decide)).1 sampleFields acceptable _
    (.fence (by decide) (by decide) (by decide) (by decide) (.inr rfl))

end

end EvoBlue.Guarantees
