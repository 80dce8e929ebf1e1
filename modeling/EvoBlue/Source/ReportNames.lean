import EvoBlue.Kernel.Lines
import EvoBlue.Source.Rebuild

/-!
# Names of report files

The writer takes the name of a file from a title, the rescan decides by the name whether the
file is one of its own. The two agree but for titles that start with a dot.
-/

namespace EvoBlue.Source

open EvoBlue.Kernel

variable {unicode : UnicodeData} {title jobId contentHash : Text}

/-! ## The first character -/

/-- What `safe_filename` makes of a title before it looks for a substitute. -/
def cleanedTitle (title : Text) : Text :=
  rstripDots (strip (title.filter fun c => !isInvalidFilenameChar c))

/-- The cleaned title, cut to a component, starts with a dot. -/
def StartsDotted (title : Text) : Prop :=
  (rstripDots ((cleanedTitle title).take maxComponent)).head? = some (cp '.')

instance (title : Text) : Decidable (StartsDotted title) :=
  inferInstanceAs (Decidable (_ = some _))

theorem rstripDots_within (t : Text) : rstripDots t <+: t := by
  unfold rstripDots
  exact List.rdropWhile_prefix _ _

/-- A title that cleaning leaves nothing of is replaced. -/
def substitutedTitle (title jobId : Text) : Text :=
  if cleanedTitle title = [] then text "analysis-" ++ jobId else cleanedTitle title

/-- A reserved name is extended. -/
def namedTitle (unicode : UnicodeData) (title jobId : Text) : Text :=
  if windowsReserved.contains (lower unicode (substitutedTitle title jobId)) then
    substitutedTitle title jobId ++ text "-" ++ jobId
  else substitutedTitle title jobId

/-- A long name is cut. -/
def cutName (named : Text) : Text :=
  if named.length > maxComponent then rstripDots (named.take maxComponent) else named

theorem safeBase_eq : safeBase unicode title jobId = cutName (namedTitle unicode title jobId) := rfl

theorem cutName_within (named : Text) : cutName named <+: named := by
  unfold cutName
  split
  · exact (rstripDots_within _).trans (List.take_prefix _ _)
  · exact List.prefix_refl _

theorem substitutedTitle_within : substitutedTitle title jobId <+: namedTitle unicode title jobId := by
  unfold namedTitle
  split
  · rw [List.append_assoc]
    exact List.prefix_append _ _
  · exact List.prefix_refl _

/-- A prefix starts with the character of the whole, or is empty. -/
theorem head_within {α : Type*} {front whole : List α} {c : α} (within : front <+: whole)
    (starts : front.head? = some c) : whole.head? = some c := by
  obtain ⟨rest, rfl⟩ := within
  cases front with
  | nil => cases starts
  | cons first front => exact starts

theorem not_reserved_dotted (rest : Text) :
    windowsReserved.contains (lower unicode (cp '.' :: rest)) = false := by
  have letters : windowsReserved.all (fun name => name.head? ≠ some (cp '.')) = true := by decide
  rw [List.contains_eq_any_beq, List.any_eq_false]
  intro name mem same
  have first := List.all_eq_true.1 letters name mem
  rw [← eq_of_beq same] at first
  exact absurd rfl (of_decide_eq_true first)

theorem safeBase_dotted {rest : Text} (starts : cleanedTitle title = cp '.' :: rest) :
    safeBase unicode title jobId = rstripDots ((cleanedTitle title).take maxComponent) := by
  have kept : substitutedTitle title jobId = cleanedTitle title := by
    rw [substitutedTitle, if_neg (by rw [starts]; exact List.cons_ne_nil _ _)]
  have free : ¬ windowsReserved.contains (lower unicode (cleanedTitle title)) = true := by
    rw [starts, not_reserved_dotted]
    decide
  rw [safeBase_eq, namedTitle, kept, if_neg free]
  unfold cutName
  split
  · rfl
  next short =>
    rw [List.take_of_length_le (not_lt.1 short)]
    unfold cleanedTitle rstripDots
    rw [List.rdropWhile_idempotent]

/-- The base name starts with a dot exactly when the title does. -/
theorem safeBase_head : (safeBase unicode title jobId).head? = some (cp '.') ↔ StartsDotted title := by
  have whole : safeBase unicode title jobId <+: namedTitle unicode title jobId := by
    rw [safeBase_eq]
    exact cutName_within _
  have first : ∀ {c : CodePoint}, (substitutedTitle title jobId).head? = some c →
      (safeBase unicode title jobId).head? = some (cp '.') → c = cp '.' := by
    intro c named starts
    have dot := head_within whole starts
    rw [head_within substitutedTitle_within named] at dot
    exact Option.some.inj dot
  cases cleaned : cleanedTitle title with
  | nil =>
    have substitute : (substitutedTitle title jobId).head? = some (cp 'a') := by
      rw [substitutedTitle, if_pos cleaned]
      rfl
    constructor
    · intro starts
      exact absurd (first substitute starts) (by decide)
    · intro starts
      rw [StartsDotted, cleaned] at starts
      cases starts
  | cons c rest =>
    by_cases dot : c = cp '.'
    · rw [dot] at cleaned
      rw [safeBase_dotted cleaned, StartsDotted]
    · have kept : (substitutedTitle title jobId).head? = some c := by
        rw [substitutedTitle, cleaned]
        rfl
      constructor
      · intro starts
        exact absurd (first kept starts) dot
      · intro starts
        have other := head_within ((rstripDots_within _).trans (List.take_prefix _ _)) starts
        rw [cleaned] at other
        exact absurd (Option.some.inj other) dot

/-! ## Paths -/

theorem safeBase_plain (named : cp '/' ∉ jobId) : cp '/' ∉ safeBase unicode title jobId := by
  have clean : cp '/' ∉ cleanedTitle title := by
    intro mem
    have kept := strip_subset ((rstripDots_within _).subset mem)
    exact absurd (List.mem_filter.1 kept).2 (by decide)
  have substituted : cp '/' ∉ substitutedTitle title jobId := by
    unfold substitutedTitle
    split
    · simp only [List.mem_append, not_or]
      exact ⟨by decide, named⟩
    · exact clean
  have extended : cp '/' ∉ namedTitle unicode title jobId := by
    unfold namedTitle
    split
    · simp only [List.mem_append, not_or]
      exact ⟨⟨substituted, by decide⟩, named⟩
    · exact substituted
  intro mem
  rw [safeBase_eq] at mem
  exact extended ((cutName_within _).subset mem)

theorem splitOn_plain {path : Text} (free : cp '/' ∉ path) : path.splitOn (cp '/') = [path] := by
  rw [List.splitOn_eq_splitOnP]
  apply List.splitOnP_eq_singleton
  intro c mem
  rw [beq_eq_false_iff_ne]
  exact fun same => free (same ▸ mem)

/-- A name without a slash lies below the root, under itself. -/
theorem resolvePath_plain {filename : Text} (free : cp '/' ∉ filename) (long : 2 < filename.length) :
    resolvePath filename = .ok filename := by
  have first : filename.head? ≠ some (cp '/') := fun starts => free (List.mem_of_mem_head? starts)
  have parts : resolveParts [] [filename] = some [filename] := by
    have some_ : filename ≠ [] ∧ filename ≠ text "." ∧ filename ≠ text ".." := by
      refine ⟨?_, ?_, ?_⟩ <;> rintro rfl <;> simp [text] at long
    unfold resolveParts
    rw [if_neg (by simp [some_.1, some_.2.1]), if_neg some_.2.2]
    rfl
  unfold resolvePath
  rw [if_neg first, splitOn_plain free, parts]
  simp

/-- The suffix of a Markdown file. -/
theorem splitSuffix_markdown {front : Text} (named : front ≠ []) (free : cp '/' ∉ front) :
    splitSuffix (front ++ text ".md") = (front, text ".md") := by
  have extension : (front ++ text ".md").rtakeWhile (fun c => c ≠ cp '.') = text "md" := by
    have spelled : front ++ text ".md" = ((front ++ [cp '.']) ++ [cp 'm']) ++ [cp 'd'] := by
      simp [text]
    rw [spelled, List.rtakeWhile_concat_pos _ _ _ (by decide),
      List.rtakeWhile_concat_pos _ _ _ (by decide), List.rtakeWhile_concat_neg _ _ _ (by decide)]
    decide
  have dotted : (front ++ text ".md").length = front.length + 3 := List.length_append
  have cut : (front ++ text ".md").take
      ((front ++ text ".md").length - (text "md").length - 1) = front := by
    rw [dotted]
    exact List.take_left
  have last : front.getLast? ≠ some (cp '/') := fun ends => free (List.mem_of_getLast? ends)
  unfold splitSuffix
  dsimp only
  rw [extension, cut, if_neg]
  · rfl
  · simp only [not_or]
    refine ⟨?_, by decide, by decide, named, last⟩
    rw [dotted]
    exact fun same => by cases (show 2 = front.length + 3 from same)

theorem conflictPath_markdown {front suffix : Text} (named : front ≠ []) (free : cp '/' ∉ front) :
    conflictPath (front ++ text ".md") suffix =
      front ++ (text ".conflict-" ++ suffix) ++ text ".md" := by
  unfold conflictPath
  rw [splitSuffix_markdown named free]
  simp

/-- Where a write puts its report: under its own name, or next to it. -/
theorem planWrite_path {sha256 : Bytes → Text} {dir : Directory} {front content suffix : Text}
    {previousHash : Option Text} {plan : WritePlan} (named : front ≠ []) (free : cp '/' ∉ front)
    (planned : planWrite sha256 dir (front ++ text ".md") content previousHash suffix = .ok plan) :
    ∃ back, plan.result.path = front ++ back ++ text ".md" ∧
      (back = [] ∨ back = text ".conflict-" ++ suffix) := by
  have plain : cp '/' ∉ front ++ text ".md" := by
    simp only [List.mem_append, not_or]
    exact ⟨free, by decide⟩
  have long : 2 < (front ++ text ".md").length := by
    rw [List.length_append]
    exact Nat.lt_add_left _ (by decide)
  have own : front ++ text ".md" = front ++ [] ++ text ".md" := by simp
  unfold planWrite at planned
  rw [resolvePath_plain plain long] at planned
  dsimp only [bind, Except.bind] at planned
  split at planned
  next => cases planned
  next data _ =>
    split at planned
    next =>
      cases planned
      exact ⟨[], own, .inl rfl⟩
    next => cases planned
    next existing _ =>
      split at planned
      next =>
        cases planned
        exact ⟨[], own, .inl rfl⟩
      next =>
        split at planned
        next => cases planned
        next =>
          split at planned
          next =>
            cases planned
            exact ⟨[], own, .inl rfl⟩
          next =>
            cases planned
            exact ⟨_, conflictPath_markdown named free, .inr rfl⟩

/-- A Markdown file at the root is enumerated unless its name starts with a dot. -/
theorem isCollected_markdown {front : Text} (free : cp '/' ∉ front) :
    isCollected unicode (front ++ text ".md") = true ↔
      (front ++ text ".md").head? ≠ some (cp '.') := by
  have plain : cp '/' ∉ front ++ text ".md" := by
    simp only [List.mem_append, not_or]
    exact ⟨free, by decide⟩
  have lowercase : (text ".md").all (fun c => isAscii c && !isUpper c) = true := by decide
  obtain ⟨changed, lowered⟩ :=
    @lowerAfter_append_plain unicode [] front (text ".md") fun c mem => by
      simpa using List.all_eq_true.1 lowercase c mem
  have markdown : (text ".md").isSuffixOf (changed ++ text ".md") = true :=
    List.isSuffixOf_iff_suffix.2 (List.suffix_append _ _)
  have temporary : (text ".tmp").isSuffixOf (changed ++ text ".md") = false := by
    rw [Bool.eq_false_iff]
    intro ends
    obtain ⟨before, same⟩ := List.isSuffixOf_iff_suffix.1 ends
    have last := congrArg List.getLast? same
    rw [List.getLast?_append_of_ne_nil _ (by decide), List.getLast?_append_of_ne_nil _ (by decide)] at last
    exact absurd last (by decide)
  unfold isCollected
  dsimp only
  rw [splitOn_plain plain, List.getLast?_singleton, Option.getD_some, lower, lowered, markdown,
    temporary]
  simp only [List.all_cons, List.all_nil, Bool.and_true, Bool.not_false, decide_eq_true_eq]

end EvoBlue.Source
