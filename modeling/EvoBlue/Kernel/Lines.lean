import EvoBlue.Kernel.Text

/-!
# Lines of a text

`str.splitlines(keepends=True)`: a line ends after a line feed, a carriage return, the
two together, or one of eight further characters. The lines are the text, cut.
-/

namespace EvoBlue.Kernel

/-- The characters at which `str.splitlines` cuts. -/
def isLineEnd (c : CodePoint) : Bool :=
  (0x0a ≤ c.val && c.val ≤ 0x0d) || (0x1c ≤ c.val && c.val ≤ 0x1e) || c.val = 0x85 ||
    c.val = 0x2028 || c.val = 0x2029

/-- A line ends here; a carriage return and a line feed end it together. -/
def cutsAfter (c : CodePoint) (rest : Text) : Bool :=
  isLineEnd c && !(c = cp '\r' && rest.head? = some (cp '\n'))

/-- `str.splitlines(keepends=True)`. -/
def splitLines : Text → List Text
  | [] => []
  | c :: rest =>
    if cutsAfter c rest then [c] :: splitLines rest
    else
      match splitLines rest with
      | [] => [[c]]
      | line :: lines => (c :: line) :: lines

theorem splitLines_flatten (t : Text) : (splitLines t).flatten = t := by
  induction t with
  | nil => rfl
  | cons c rest ih =>
    rw [splitLines]
    split
    next => simp [ih]
    next =>
      split
      next none =>
        rw [none] at ih
        simp [← ih]
      next line lines some =>
        rw [some, List.flatten_cons] at ih
        simp [← ih]

theorem splitLines_eq_nil {t : Text} : splitLines t = [] ↔ t = [] := by
  constructor
  · intro none
    rw [← splitLines_flatten t, none]
    rfl
  · rintro rfl
    rfl

/-- The text is cut after its last character, whatever follows. -/
def EndsLine (front rest : Text) : Prop := ∀ c ∈ front.getLast?, cutsAfter c rest = true

/-- Where the front ends a line, the lines of both parts are the lines of the whole. -/
theorem splitLines_append {front rest : Text} (ends : EndsLine front rest) :
    splitLines (front ++ rest) = splitLines front ++ splitLines rest := by
  induction front with
  | nil => rfl
  | cons c front ih =>
    cases front with
    | nil =>
      have cut : cutsAfter c rest = true := ends c rfl
      have alone : cutsAfter c [] = true := by
        unfold cutsAfter at cut ⊢
        simp only [Bool.and_eq_true] at cut
        simp [cut.1]
      rw [List.singleton_append, splitLines, if_pos cut, splitLines, if_pos alone]
      rfl
    | cons d front =>
      have more : EndsLine (d :: front) rest := by
        intro e last
        exact ends e (by rw [List.getLast?_cons_cons]; exact last)
      have inner := ih more
      have sameCut : cutsAfter c (d :: front ++ rest) = cutsAfter c (d :: front) := rfl
      rw [List.cons_append, splitLines, sameCut, splitLines.eq_def (c :: d :: front)]
      dsimp only
      split
      next => rw [inner, List.cons_append]
      next =>
        cases lines : splitLines (d :: front) with
        | nil => exact absurd (splitLines_eq_nil.1 lines) (by simp)
        | cons line others =>
          rw [inner, lines]
          rfl

theorem splitLines_ne_nil {t line : Text} (mem : line ∈ splitLines t) : line ≠ [] := by
  induction t generalizing line with
  | nil => cases mem
  | cons c rest ih =>
    rw [splitLines] at mem
    split at mem
    next =>
      rcases List.mem_cons.1 mem with rfl | later
      · simp
      · exact ih later
    next =>
      split at mem
      next =>
        rw [List.mem_singleton.1 mem]
        simp
      next first lines same =>
        rcases List.mem_cons.1 mem with rfl | later
        · simp
        · exact ih (same ▸ List.mem_cons_of_mem _ later)

theorem EndsLine.cons {c : CodePoint} {front rest : Text} (ends : EndsLine front rest)
    (alone : front = [] → cutsAfter c rest = true) : EndsLine (c :: front) rest := by
  cases front with
  | nil =>
    intro d last
    obtain rfl : c = d := Option.some.inj last
    exact alone rfl
  | cons d front =>
    intro e last
    rw [List.getLast?_cons_cons] at last
    exact ends e last

/-- Every line but the last is cut off from what follows. -/
theorem endsLine_of_split {t : Text} {before after : List Text} (whole : splitLines t = before ++ after)
    (more : after ≠ []) : EndsLine before.flatten after.flatten := by
  induction t generalizing before with
  | nil =>
    obtain ⟨_, rfl⟩ := List.append_eq_nil_iff.1 whole.symm
    exact absurd rfl more
  | cons c rest ih =>
    cases before with
    | nil =>
      intro d last
      cases last
    | cons first before =>
      rw [splitLines] at whole
      split at whole
      next cut =>
        obtain ⟨rfl, later⟩ := List.cons.inj whole
        apply (ih later).cons
        intro alone
        have flat := splitLines_flatten rest
        have parts : splitLines rest = before ++ after := later
        rw [parts, List.flatten_append, alone, List.nil_append] at flat
        rw [flat]
        exact cut
      next =>
        split at whole
        next none =>
          obtain ⟨_, later⟩ := List.cons.inj whole
          exact absurd (List.append_eq_nil_iff.1 later.symm).2 more
        next line lines some =>
          obtain ⟨rfl, rfl⟩ := List.cons.inj whole
          have inner : splitLines rest = (line :: before) ++ after := some
          apply (ih inner).cons
          intro alone
          rw [List.flatten_cons, List.append_eq_nil_iff] at alone
          exact absurd alone.1 (splitLines_ne_nil (some ▸ List.mem_cons_self))

/-- The rest of the lines is the lines of the rest. -/
theorem splitLines_back {t : Text} {before after : List Text} (whole : splitLines t = before ++ after) :
    splitLines after.flatten = after := by
  induction t generalizing before with
  | nil =>
    obtain ⟨_, rfl⟩ := List.append_eq_nil_iff.1 whole.symm
    rfl
  | cons c rest ih =>
    cases before with
    | nil =>
      rw [List.nil_append] at whole
      rw [← whole, splitLines_flatten]
    | cons first before =>
      rw [splitLines] at whole
      split at whole
      next => exact ih (List.cons.inj whole).2
      next =>
        split at whole
        next =>
          rw [(List.append_eq_nil_iff.1 (List.cons.inj whole).2.symm).2]
          rfl
        next line lines some =>
          have inner : splitLines rest = (line :: before) ++ after := by
            rw [some, (List.cons.inj whole).2]
            rfl
          exact ih inner

/-- The front of the lines is the lines of the front. -/
theorem splitLines_front {t : Text} {before after : List Text} (whole : splitLines t = before ++ after) :
    splitLines before.flatten = before := by
  cases after with
  | nil =>
    rw [List.append_nil] at whole
    rw [← whole, splitLines_flatten]
  | cons line after =>
    have joined := splitLines_append (endsLine_of_split whole (by simp))
    rw [← List.flatten_append, ← whole, splitLines_flatten, splitLines_back whole, whole] at joined
    exact (List.append_cancel_right joined).symm

theorem cutsAfter_lf (rest : Text) : cutsAfter (cp '\n') rest = true := by
  have carriage : cp '\n' ≠ cp '\r' := by decide
  simp [cutsAfter, carriage, show isLineEnd (cp '\n') = true by decide]

/-- What follows is no matter, as long as it does not begin with a line feed. -/
theorem EndsLine.other {front rest next : Text} (ends : EndsLine front rest)
    (visible : next.head? ≠ some (cp '\n')) : EndsLine front next := by
  intro c last
  have cut := ends c last
  unfold cutsAfter at cut ⊢
  rw [Bool.and_eq_true] at cut
  simp [cut.1, visible]

/-- A line that begins with a line feed is no more than that. -/
theorem line_of_lf {t tail : Text} (mem : cp '\n' :: tail ∈ splitLines t) : tail = [] := by
  induction t generalizing tail with
  | nil => cases mem
  | cons c rest ih =>
    rw [splitLines] at mem
    split at mem
    next =>
      rcases List.mem_cons.1 mem with first | later
      · exact (List.cons.inj first).2
      · exact ih later
    next uncut =>
      have visible : cp '\n' ≠ c := by
        rintro rfl
        exact uncut (cutsAfter_lf rest)
      split at mem
      next => exact absurd (List.cons.inj (List.mem_singleton.1 mem)).1 visible
      next line lines same =>
        rcases List.mem_cons.1 mem with first | later
        · exact absurd (List.cons.inj first).1 visible
        · exact ih (same ▸ List.mem_cons_of_mem _ later)

/-- Replacing a single character. -/
theorem replaceAll_singleton {α : Type*} [DecidableEq α] (s : α) (new t : List α) :
    replaceAll [s] new t = t.flatMap fun c => if c = s then new else [c] := by
  unfold replaceAll
  induction t with
  | nil => rfl
  | cons c t ih =>
    rw [replaceFrom, List.flatMap_cons, List.length_singleton, Nat.sub_self, ih]
    by_cases same : c = s
    · subst same
      rw [if_pos (List.cons_prefix_cons.2 ⟨rfl, List.nil_prefix⟩), if_pos rfl]
    · rw [if_neg fun start => same (List.cons_prefix_cons.1 start).1.symm, if_neg same]
      rfl

theorem mem_rdropWhile_cons {p : CodePoint → Bool} {c d : CodePoint} {line : Text}
    (mem : d ∈ (c :: line).rdropWhile p) : d = c ∨ d ∈ line.rdropWhile p := by
  induction line using List.reverseRecOn with
  | nil =>
    have here := (List.rdropWhile_prefix p [c]).mem mem
    exact .inl (by simpa using here)
  | append_singleton front last ih =>
    rw [← List.cons_append] at mem
    by_cases dropped : p last = true
    · rw [List.rdropWhile_concat_pos p _ last dropped] at mem ⊢
      exact ih mem
    · rw [List.rdropWhile_concat_neg p _ last dropped] at mem ⊢
      simpa using mem

/-- Without its end, a line holds no line end. -/
theorem splitLines_clean {t line : Text} (mem : line ∈ splitLines t) :
    ∀ c ∈ line.rdropWhile isLineEnd, isLineEnd c = false := by
  induction t generalizing line with
  | nil => cases mem
  | cons c rest ih =>
    rw [splitLines] at mem
    by_cases cut : cutsAfter c rest = true
    · rw [if_pos cut] at mem
      rcases List.mem_cons.mp mem with same | later
      · have ends : isLineEnd c = true := by
          unfold cutsAfter at cut
          exact (Bool.and_eq_true_iff.mp cut).1
        intro d memD
        rw [same] at memD
        have single : [c].rdropWhile isLineEnd = [] := by simp [List.rdropWhile, ends]
        rw [single] at memD
        cases memD
      · exact ih later
    · rw [if_neg cut] at mem
      by_cases ends : isLineEnd c = true
      · -- only a carriage return in front of a line feed ends nothing
        have pair : c = cp '\r' ∧ rest.head? = some (cp '\n') := by
          simpa [cutsAfter, ends] using cut
        obtain ⟨after, next⟩ := List.head?_eq_some_iff.mp pair.2
        have split : splitLines rest = [cp '\n'] :: splitLines after := by
          rw [next, splitLines, if_pos (cutsAfter_lf after)]
        rw [split] at mem
        rcases List.mem_cons.mp mem with same | later
        · have both : [c, cp '\n'].rdropWhile isLineEnd = [] := by
            rw [pair.1]
            decide
          intro d memD
          rw [same, both] at memD
          cases memD
        · apply ih
          rw [split]
          exact List.mem_cons_of_mem _ later
      · have plain : isLineEnd c = false := by simpa using ends
        cases split : splitLines rest with
        | nil =>
          rw [split] at mem
          intro d memD
          rw [List.mem_singleton.mp mem] at memD
          rcases mem_rdropWhile_cons memD with same | gone
          · rw [same]
            exact plain
          · cases gone
        | cons front lines =>
          rw [split] at mem
          rcases List.mem_cons.mp mem with same | later
          · intro d memD
            rw [same] at memD
            rcases mem_rdropWhile_cons memD with here | tail
            · rw [here]
              exact plain
            · exact ih (split ▸ List.mem_cons_self) d tail
          · exact ih (split ▸ List.mem_cons_of_mem _ later)

theorem strip_subset {t : Text} {c : CodePoint} (mem : c ∈ strip t) : c ∈ t := by
  obtain ⟨before, after, whole, -⟩ := strip_split t
  rw [whole]
  simp [mem]

/-- What is in a joined text is in one of the parts or between them. -/
theorem mem_intercalate {sep : Text} {parts : List Text} {c : CodePoint}
    (mem : c ∈ sep.intercalate parts) : c ∈ sep ∨ ∃ part ∈ parts, c ∈ part := by
  induction parts with
  | nil => cases mem
  | cons part rest ih =>
    cases rest with
    | nil => exact .inr ⟨part, by simp, by simpa using mem⟩
    | cons next rest =>
      rw [List.intercalate_cons_cons, List.append_assoc] at mem
      rcases List.mem_append.mp mem with here | later
      · exact .inr ⟨part, by simp, here⟩
      · rcases List.mem_append.mp later with between | others
        · exact .inl between
        · rcases ih others with between | ⟨other, among, here⟩
          · exact .inl between
          · exact .inr ⟨other, List.mem_cons_of_mem _ among, here⟩

/-! ## Lines that end at line feeds -/

/-- The lines of a text that only a line feed ends, each with its line feed. -/
def lfLines : Text → List Text
  | [] => []
  | c :: rest =>
    if c = cp '\n' then [c] :: lfLines rest
    else
      match lfLines rest with
      | [] => [[c]]
      | line :: lines => (c :: line) :: lines

/-- The text is empty or ends a line. -/
def EndsLf (t : Text) : Prop := ∀ c ∈ t.getLast?, c = cp '\n'

theorem EndsLf.tail {c d : CodePoint} {rest : Text} (ended : EndsLf (c :: d :: rest)) :
    EndsLf (d :: rest) := by
  intro e last
  apply ended e
  rw [List.getLast?_cons_cons]
  exact last

theorem lfLines_append {front : Text} (ended : EndsLf front) (rest : Text) :
    lfLines (front ++ rest) = lfLines front ++ lfLines rest := by
  induction front with
  | nil => rfl
  | cons c front ih =>
    cases front with
    | nil =>
      obtain rfl : c = cp '\n' := ended c rfl
      rfl
    | cons d front =>
      have inner := ih ended.tail
      rw [List.cons_append, lfLines, inner, lfLines.eq_def (c :: d :: front)]
      dsimp only
      split
      next => rw [List.cons_append]
      next =>
        cases lines : lfLines (d :: front) with
        | nil =>
          rw [lfLines] at lines
          split at lines
          · cases lines
          · split at lines <;> cases lines
        | cons line others => rfl

theorem EndsLf.append {front rest : Text} (ended : EndsLf front) (endedRest : EndsLf rest) :
    EndsLf (front ++ rest) := by
  intro c last
  rw [List.getLast?_append] at last
  cases ends : rest.getLast? with
  | none =>
    rw [ends] at last
    exact ended c last
  | some d =>
    rw [ends] at last
    obtain rfl : d = c := Option.some.inj last
    exact endedRest d ends

theorem EndsLf.endsLine {front : Text} (ended : EndsLf front) (rest : Text) : EndsLine front rest := by
  intro c last
  rw [ended c last]
  exact cutsAfter_lf rest

/-- A last line without an end is given one. -/
theorem lfLines_ended {t newline : Text} (some : t ≠ []) (open_ : t.getLast? ≠ .some (cp '\n'))
    (single : lfLines newline = [newline]) :
    ∃ front last, lfLines t = front ++ [last] ∧ lfLines (t ++ newline) = front ++ [last ++ newline] := by
  induction t with
  | nil => exact absurd rfl some
  | cons c rest ih =>
    cases rest with
    | nil =>
      have visible : c ≠ cp '\n' := fun same => open_ (congrArg Option.some same)
      refine ⟨[], [c], ?_, ?_⟩
      · rw [lfLines, if_neg visible]
        rfl
      · rw [List.singleton_append, lfLines, if_neg visible, single]
        rfl
    | cons d rest =>
      rw [List.getLast?_cons_cons] at open_
      obtain ⟨front, last, lines, more⟩ := ih (List.cons_ne_nil _ _) open_
      rw [List.cons_append, lfLines, lines, lfLines.eq_def (c :: (d :: rest ++ newline))]
      dsimp only
      rw [more]
      split
      next => exact ⟨[c] :: front, last, rfl, rfl⟩
      next =>
        cases front with
        | nil => exact ⟨[], c :: last, rfl, rfl⟩
        | cons first front => exact ⟨(c :: first) :: front, last, rfl, rfl⟩

/-- A line that is cut nowhere is one line. -/
theorem splitLines_single {t ending : Text} (clean : ∀ c ∈ t, isLineEnd c = false) (some : t ≠ [])
    (ends : ending = [] ∨ ending = text "\n" ∨ ending = text "\r\n") :
    splitLines (t ++ ending) = [t ++ ending] := by
  induction t with
  | nil => exact absurd rfl some
  | cons c t ih =>
    have uncut : cutsAfter c (t ++ ending) = false := by
      unfold cutsAfter
      rw [clean c List.mem_cons_self]
      rfl
    rw [List.cons_append, splitLines, uncut, if_neg Bool.false_ne_true]
    cases t with
    | nil =>
      rw [List.nil_append]
      rcases ends with rfl | rfl | rfl <;> rfl
    | cons d t =>
      rw [ih (fun e mem => clean e (List.mem_cons_of_mem _ mem)) (List.cons_ne_nil _ _)]

end EvoBlue.Kernel
