import EvoBlue.Source.ReportBody

/-!
# Bulleted lists

A list is written with a dash before each item and nothing around it, and read from the
lines that begin with a dash, after blanks around the whole text are gone. What is read is
what was written exactly when no item goes on over a line end and the last one is not blank.
-/

namespace EvoBlue.Source

open EvoBlue.Kernel

/-- The items among the lines of a section. -/
def bullets (lines : List Text) : List Text :=
  (lines.filter fun line => (text "- ").isPrefixOf line).map fun line => strip (line.drop 2)

/-- The items, each on a line of its own. -/
def bulleted (items : List Text) : Text := [cp '\n'].intercalate (items.map fun item => text "- " ++ item)

/-- What follows the first line of a text, with the line feed before it. -/
def laterLines (t : Text) : Text := t.dropWhile fun c => c ≠ cp '\n'

def firstLine (t : Text) : Text := t.takeWhile fun c => c ≠ cp '\n'

theorem bulletItems_eq (raw : Text) : bulletItems raw = bullets (linesOf raw) := rfl

theorem dash_eq : text "- " = [cp '-', cp ' '] := by decide

theorem weight_dash (t : Text) : weight (text "- " ++ t) = weight t + 1 := by
  have dash : weight (text "- ") = 1 := by decide
  rw [weight_append, dash]
  omega

/-! ## Lines -/

theorem firstLine_append_later (t : Text) : firstLine t ++ laterLines t = t :=
  List.takeWhile_append_dropWhile

theorem linesOf_first (t : Text) :
    ∃ later, linesOf t = firstLine t :: later ∧ (later.map weight).sum = weight (laterLines t) := by
  have whole := firstLine_append_later t
  have clean : cp '\n' ∉ firstLine t := by
    intro mem
    have other := List.mem_takeWhile_imp mem
    simp at other
  cases rest : laterLines t with
  | nil =>
    rw [rest, List.append_nil] at whole
    refine ⟨[], ?_, rfl⟩
    rw [whole] at clean ⊢
    exact linesOf_plain clean
  | cons c rest' =>
    have feed : c = cp '\n' := by
      have first := List.head?_dropWhile_not (fun c => decide (c ≠ cp '\n')) t
      unfold laterLines at rest
      rw [rest] at first
      simpa using first
    subst feed
    rw [rest] at whole
    refine ⟨linesOf rest', ?_, ?_⟩
    · conv_lhs => rw [← whole]
      rw [linesOf_break, linesOf_plain clean]
      rfl
    · have feed : isSpace (cp '\n') = true := by decide
      rw [weight_cons, feed]
      exact weight_lines rest'

theorem blank_of_sum {lines : List Text} {t : Text} (sum : (lines.map weight).sum = weight t) :
    (∀ line ∈ lines, weight line = 0) ↔ blank t = true := by
  rw [← weight_eq_zero, ← sum, List.sum_eq_zero_iff_forall_eq_nat]
  constructor
  · intro light value mem
    obtain ⟨line, there, rfl⟩ := List.mem_map.1 mem
    exact light line there
  · intro light line mem
    exact light _ (List.mem_map_of_mem mem)

theorem not_dash_of_light {line : Text} (light : weight line = 0) :
    (text "- ").isPrefixOf line = false := by
  rw [Bool.eq_false_iff]
  intro starts
  obtain ⟨rest, rfl⟩ := List.isPrefixOf_iff_prefix.1 starts
  rw [weight_dash] at light
  omega

/-- The lines of one item. -/
theorem linesOf_item (item : Text) :
    ∃ later, linesOf (text "- " ++ item) = (text "- " ++ firstLine item) :: later ∧
      (later.map weight).sum = weight (laterLines item) := by
  obtain ⟨later, lines, sum⟩ := linesOf_first (text "- " ++ item)
  have dash : cp '-' ≠ cp '\n' ∧ cp ' ' ≠ cp '\n' := by decide
  have first : firstLine (text "- " ++ item) = text "- " ++ firstLine item := by
    unfold firstLine
    rw [dash_eq]
    simp [dash]
  have rest : laterLines (text "- " ++ item) = laterLines item := by
    unfold laterLines
    rw [dash_eq]
    simp [dash]
  rw [first] at lines
  rw [rest] at sum
  exact ⟨later, lines, sum⟩

/-! ## Weights -/

/-- What the items of some lines hold, and what the other lines do. -/
theorem weight_bullets (lines : List Text) :
    ((bullets lines).map weight).sum + (bullets lines).length +
      ((lines.filter fun line => !(text "- ").isPrefixOf line).map weight).sum =
        (lines.map weight).sum := by
  unfold bullets
  induction lines with
  | nil => rfl
  | cons line lines ih =>
    cases starts : (text "- ").isPrefixOf line with
    | true =>
      obtain ⟨rest, rfl⟩ := List.isPrefixOf_iff_prefix.1 starts
      have dropped : (text "- " ++ rest).drop 2 = rest := by
        rw [dash_eq]
        rfl
      have item := weight_strip rest
      simp only [List.filter_cons, starts, if_true, List.map_cons, List.sum_cons, List.length_cons,
        dropped, item, weight_dash, Bool.not_true, Bool.false_eq_true, if_false]
      omega
    | false =>
      simp only [List.filter_cons, starts, Bool.false_eq_true, if_false, Bool.not_false, if_true,
        List.map_cons, List.sum_cons]
      omega

theorem weight_bulleted (items : List Text) :
    weight (bulleted items) = (items.map weight).sum + items.length := by
  unfold bulleted
  rw [weight_intercalate, List.map_map]
  induction items with
  | nil => rfl
  | cons item items ih =>
    simp only [List.map_cons, List.sum_cons, List.length_cons, Function.comp_apply, weight_dash, ih]
    omega

/-! ## The text that is read -/

theorem rdropWhile_visible {c : CodePoint} (visible : isSpace c = false) (front t : Text) :
    (front ++ c :: t).rdropWhile isSpace = front ++ c :: t.rdropWhile isSpace := by
  unfold List.rdropWhile
  rw [List.reverse_append, List.reverse_cons, List.append_assoc, List.dropWhile_append]
  split
  next none =>
    rw [List.isEmpty_iff] at none
    rw [none, List.singleton_append, List.dropWhile_cons_of_neg (by simpa using visible)]
    simp
  next => simp

/-- All items but the last, each with its line feed. -/
def itemsBefore (items : List Text) : Text := items.flatMap fun item => text "- " ++ item ++ [cp '\n']

theorem bulleted_append (items : List Text) (last : Text) :
    bulleted (items ++ [last]) = itemsBefore items ++ (text "- " ++ last) := by
  unfold bulleted itemsBefore
  induction items with
  | nil => simp
  | cons item items ih =>
    obtain ⟨next, rest, more⟩ : ∃ next rest,
        (items ++ [last]).map (fun item => text "- " ++ item) = next :: rest :=
      List.exists_cons_of_ne_nil (by simp)
    rw [List.cons_append, List.map_cons, more, List.intercalate_cons_cons, ← more, ih,
      List.flatMap_cons]
    simp only [List.append_assoc]

theorem linesOf_itemsBefore (items : List Text) (t : Text) :
    linesOf (itemsBefore items ++ t) =
      (items.flatMap fun item => linesOf (text "- " ++ item)) ++ linesOf t := by
  unfold itemsBefore
  induction items with
  | nil => rfl
  | cons item items ih =>
    rw [List.flatMap_cons, List.flatMap_cons, List.append_assoc, List.append_assoc,
      List.singleton_append, linesOf_break, ih, List.append_assoc]

/-- Blanks are stripped behind the last item alone. -/
theorem strip_bulleted (items : List Text) (last : Text) :
    strip (bulleted (items ++ [last])) =
      itemsBefore items ++ cp '-' :: (cp ' ' :: last).rdropWhile isSpace := by
  have dash : isSpace (cp '-') = false := by decide
  have front : (bulleted (items ++ [last])).dropWhile isSpace = bulleted (items ++ [last]) := by
    rw [bulleted_append]
    cases items with
    | nil =>
      rw [dash_eq]
      exact List.dropWhile_cons_of_neg (by simpa using dash)
    | cons item items =>
      unfold itemsBefore
      rw [List.flatMap_cons, dash_eq]
      exact List.dropWhile_cons_of_neg (by simpa using dash)
  unfold strip
  rw [front, bulleted_append, dash_eq]
  exact rdropWhile_visible dash _ _

theorem rdropWhile_space_blank {last : Text} (empty : blank last = true) :
    (cp ' ' :: last).rdropWhile isSpace = [] := by
  have space : isSpace (cp ' ') = true := by decide
  unfold blank at empty
  rw [List.rdropWhile_eq_nil_iff]
  intro c mem
  rcases List.mem_cons.1 mem with rfl | later
  · exact space
  · exact List.all_eq_true.1 empty c later

theorem rdropWhile_space_some {last : Text} (some_ : blank last = false) :
    (cp ' ' :: last).rdropWhile isSpace = cp ' ' :: last.rdropWhile isSpace := by
  have left : last.rdropWhile isSpace ≠ [] := by
    intro empty
    have blanks := List.rdropWhile_eq_nil_iff.1 empty
    have all : blank last = true := List.all_eq_true.2 blanks
    rw [some_] at all
    cases all
  unfold List.rdropWhile at left ⊢
  rw [List.reverse_cons, List.dropWhile_append, if_neg (by simpa using left)]
  simp

theorem linesOf_strip_bulleted {items : List Text} {last : Text} (some_ : blank last = false) :
    linesOf (strip (bulleted (items ++ [last]))) =
      (items ++ [last.rdropWhile isSpace]).flatMap fun item => linesOf (text "- " ++ item) := by
  rw [strip_bulleted, rdropWhile_space_some some_, linesOf_itemsBefore, List.flatMap_append,
    List.flatMap_singleton, dash_eq]
  rfl

/-- Blanks at the end neither bring nor take lines that are not blank. -/
theorem later_rdropWhile (t : Text) :
    blank (laterLines (t.rdropWhile isSpace)) = true ↔ blank (laterLines t) = true := by
  have whole := @List.rdropWhile_append_rtakeWhile _ isSpace t
  have after : blank (t.rtakeWhile isSpace) = true :=
    List.all_eq_true.2 fun c mem => List.mem_rtakeWhile_imp mem
  generalize t.rdropWhile isSpace = front at whole ⊢
  generalize t.rtakeWhile isSpace = back at whole after
  subst whole
  unfold laterLines blank at *
  rw [List.dropWhile_append]
  split
  next none =>
    rw [List.isEmpty_iff] at none
    rw [none]
    constructor
    · intro _
      rw [List.all_eq_true] at after ⊢
      exact fun c mem => after c ((List.dropWhile_suffix _).subset mem)
    · intro _
      rfl
  next => rw [List.all_append, after, Bool.and_true]

theorem strip_rdropWhile (t : Text) : strip (t.rdropWhile isSpace) = strip t := by
  have whole := @List.rdropWhile_append_rtakeWhile _ isSpace t
  have after : blank (t.rtakeWhile isSpace) = true :=
    List.all_eq_true.2 fun c mem => List.mem_rtakeWhile_imp mem
  conv_rhs => rw [← whole]
  exact (@strip_between [] _ rfl after _).symm

/-! ## The items that are read -/

/-- Items that stay on their lines are read one by one. -/
theorem bullets_of_plain {items : List Text} (plain : ∀ item ∈ items, blank (laterLines item) = true) :
    bullets (items.flatMap fun item => linesOf (text "- " ++ item)) = items.map strip := by
  induction items with
  | nil => rfl
  | cons item items ih =>
    obtain ⟨later, lines, sum⟩ := linesOf_item item
    have light := (blank_of_sum sum).2 (plain item List.mem_cons_self)
    have none : later.filter (fun line => (text "- ").isPrefixOf line) = [] := by
      rw [List.filter_eq_nil_iff]
      intro line mem
      rw [not_dash_of_light (light line mem)]
      exact Bool.false_ne_true
    have starts : (text "- ").isPrefixOf (text "- " ++ firstLine item) = true :=
      List.isPrefixOf_iff_prefix.2 ⟨_, rfl⟩
    have dropped : (text "- " ++ firstLine item).drop 2 = firstLine item := by
      rw [dash_eq]
      rfl
    have same : strip (firstLine item) = strip item := by
      conv_rhs => rw [← firstLine_append_later item]
      exact (@strip_between [] _ rfl (plain item List.mem_cons_self) _).symm
    have rest := ih fun item mem => plain item (List.mem_cons_of_mem _ mem)
    unfold bullets at rest ⊢
    rw [List.flatMap_cons, lines, List.filter_append, List.map_append, rest, List.filter_cons,
      if_pos starts, none, List.map_cons, List.map_nil, dropped, same]
    rfl

/-- With as many items as were written, and nothing lost, each stays on its line. -/
theorem plain_of_bullets {items : List Text}
    (length : (bullets (items.flatMap fun item => linesOf (text "- " ++ item))).length = items.length)
    (kept : ∀ line ∈ items.flatMap fun item => linesOf (text "- " ++ item),
      (text "- ").isPrefixOf line = false → weight line = 0) :
    ∀ item ∈ items, blank (laterLines item) = true := by
  have counted (items : List Text) :
      items.length ≤ (bullets (items.flatMap fun item => linesOf (text "- " ++ item))).length := by
    unfold bullets
    rw [List.length_map]
    induction items with
    | nil => exact Nat.zero_le _
    | cons item items ih =>
      obtain ⟨later, lines, _⟩ := linesOf_item item
      have starts : (text "- ").isPrefixOf (text "- " ++ firstLine item) = true :=
        List.isPrefixOf_iff_prefix.2 ⟨_, rfl⟩
      rw [List.flatMap_cons, lines, List.filter_append, List.length_append, List.filter_cons,
        if_pos starts, List.length_cons, List.length_cons]
      omega
  induction items with
  | nil =>
    intro item mem
    cases mem
  | cons first items ih =>
    obtain ⟨later, lines, sum⟩ := linesOf_item first
    have starts : (text "- ").isPrefixOf (text "- " ++ firstLine first) = true :=
      List.isPrefixOf_iff_prefix.2 ⟨_, rfl⟩
    have more := counted items
    unfold bullets at length more ih
    rw [List.length_map] at length more
    rw [List.flatMap_cons, lines, List.filter_append, List.length_append, List.filter_cons,
      if_pos starts, List.length_cons, List.length_cons] at length
    have none : (later.filter fun line => (text "- ").isPrefixOf line).length = 0 := by omega
    rw [List.length_eq_zero_iff, List.filter_eq_nil_iff] at none
    intro item mem
    rcases List.mem_cons.1 mem with rfl | mem
    · apply (blank_of_sum sum).1
      intro line there
      apply kept line
      · rw [List.flatMap_cons, lines]
        exact List.mem_append_left _ (List.mem_cons_of_mem _ there)
      · exact Bool.not_eq_true _ ▸ none line there
    · apply ih
      · rw [List.length_map]
        omega
      · intro line there
        apply kept line
        rw [List.flatMap_cons]
        exact List.mem_append_right _ there
      · exact mem

/-- The items of a list are read back exactly when none goes on over a line end and the last
one is not blank. -/
theorem bulletItems_bulleted {items : List Text} :
    bulletItems (strip (bulleted items)) = items.map strip ↔
      (∀ item ∈ items, blank (laterLines item) = true) ∧
        ∀ last ∈ items.getLast?, blank last = false := by
  rcases List.eq_nil_or_concat items with rfl | ⟨before, last, rfl⟩
  · constructor
    · intro _
      constructor
      · intro item mem
        cases mem
      · intro item mem
        cases mem
    · intro _
      rfl
  rw [List.concat_eq_append, List.getLast?_concat, bulletItems_eq]
  have sames : (before ++ [last.rdropWhile isSpace]).map strip = (before ++ [last]).map strip := by
    rw [List.map_append, List.map_append, List.map_singleton, List.map_singleton, strip_rdropWhile]
  constructor
  · intro kept
    -- no line that is not read holds anything
    have light : ∀ line ∈ linesOf (strip (bulleted (before ++ [last]))),
        (text "- ").isPrefixOf line = false → weight line = 0 := by
      have parts := weight_bullets (linesOf (strip (bulleted (before ++ [last]))))
      have lines := weight_lines (strip (bulleted (before ++ [last])))
      have items : (((before ++ [last]).map strip).map weight).sum =
          ((before ++ [last]).map weight).sum := by
        rw [List.map_map]
        congr 1
        exact List.map_congr_left fun item _ => weight_strip item
      rw [weight_strip, weight_bulleted] at lines
      unfold linesOf at parts kept ⊢
      rw [kept, items, lines, List.length_map] at parts
      have rest : (((strip (bulleted (before ++ [last]))).splitOn (cp '\n')).filter
          (fun line => !(text "- ").isPrefixOf line) |>.map weight).sum = 0 := by omega
      rw [List.sum_eq_zero_iff_forall_eq_nat] at rest
      intro line mem other
      apply rest
      apply List.mem_map_of_mem
      rw [List.mem_filter, other]
      exact ⟨mem, rfl⟩
    have some_ : blank last = false := by
      by_contra empty
      rw [Bool.not_eq_false] at empty
      rw [strip_bulleted, rdropWhile_space_blank empty, linesOf_itemsBefore] at light
      have dash := light [cp '-'] (List.mem_append_right _ List.mem_cons_self) (by decide)
      exact absurd dash (by decide)
    rw [linesOf_strip_bulleted some_] at kept light
    constructor
    · have plain := plain_of_bullets (by rw [kept]; simp) light
      intro item mem
      rcases List.mem_append.1 mem with front | back
      · exact plain item (List.mem_append_left _ front)
      · rw [List.mem_singleton.1 back, ← later_rdropWhile]
        exact plain _ (List.mem_append_right _ List.mem_cons_self)
    · intro item mem
      rw [← Option.some.inj mem]
      exact some_
  · rintro ⟨plain, some_⟩
    rw [linesOf_strip_bulleted (some_ last rfl), bullets_of_plain, sames]
    intro item mem
    rcases List.mem_append.1 mem with front | back
    · exact plain item (List.mem_append_left _ front)
    · rw [List.mem_singleton.1 back, later_rdropWhile]
      exact plain last (List.mem_append_right _ List.mem_cons_self)

end EvoBlue.Source
