import EvoBlue.Source.Chunker

/-!
# Chunking loses nothing

A layout of chunks in a text leaves nothing but blanks between them, and parts two visible
characters only behind a chunk that is as long as allowed and has no space to be cut at.
`chunk_text` finds one for every text and every limit.
-/

namespace EvoBlue.Guarantees

open EvoBlue.Kernel EvoBlue.Source

/-- The chunks stand in the text in this order, with blanks before, between and after them.
A visible character may follow a chunk at once only where that has `limit` characters and no
space after its first one. -/
inductive LaidOut (limit : Nat) : Text → List Text → Prop
  | done {gap : Text} (blanks : blank gap = true) : LaidOut limit gap []
  | chunk {gap chunk rest : Text} {chunks : List Text} (blanks : blank gap = true)
      (cut : ∀ c ∈ rest.head?, isSpace c = false → chunk.length = limit ∧ cp ' ' ∉ chunk.tail)
      (laid : LaidOut limit rest chunks) : LaidOut limit (gap ++ (chunk ++ rest)) (chunk :: chunks)

variable {limit : Nat} {t : Text} {chunks : List Text}

theorem blank_append {front back : Text} (one : blank front = true) (other : blank back = true) :
    blank (front ++ back) = true := by
  simp only [blank, List.all_append, Bool.and_eq_true] at *
  exact ⟨one, other⟩

theorem filter_of_blank {gap : Text} (blanks : blank gap = true) :
    gap.filter (fun c => !isSpace c) = [] := by
  rw [List.filter_eq_nil_iff]
  intro c mem
  simp [List.all_eq_true.1 blanks c mem]

/-- A layout keeps every visible character, in order. -/
theorem LaidOut.visible (laid : LaidOut limit t chunks) :
    chunks.flatten.filter (fun c => !isSpace c) = t.filter (fun c => !isSpace c) := by
  induction laid with
  | done blanks => rw [filter_of_blank blanks, List.flatten_nil, List.filter_nil]
  | chunk blanks cut laid ih =>
    rw [List.flatten_cons, List.filter_append, List.filter_append, List.filter_append,
      filter_of_blank blanks, ih, List.nil_append]

theorem LaidOut.before {gap : Text} (laid : LaidOut limit t chunks) (blanks : blank gap = true) :
    LaidOut limit (gap ++ t) chunks := by
  cases laid with
  | done more => exact .done (blank_append blanks more)
  | chunk more cut laid =>
    rw [← List.append_assoc]
    exact .chunk (blank_append blanks more) cut laid

theorem LaidOut.after {gap : Text} (laid : LaidOut limit t chunks) (blanks : blank gap = true) :
    LaidOut limit (t ++ gap) chunks := by
  induction laid with
  | done more => exact .done (blank_append more blanks)
  | @chunk more chunk rest chunks front cut laid ih =>
    have cut' : ∀ c ∈ (rest ++ gap).head?, isSpace c = false →
        chunk.length = limit ∧ cp ' ' ∉ chunk.tail := by
      intro c first visible
      cases rest with
      | nil =>
        have mem : c ∈ gap := List.mem_of_mem_head? first
        rw [List.all_eq_true.1 blanks c mem] at visible
        cases visible
      | cons d rest => exact cut c first visible
    have whole : more ++ (chunk ++ rest) ++ gap = more ++ (chunk ++ (rest ++ gap)) := by
      simp only [List.append_assoc]
    rw [whole]
    exact .chunk front cut' ih

/-- A text is laid out as its stripped text is. -/
theorem LaidOut.of_strip (laid : LaidOut limit (strip t) chunks) : LaidOut limit t chunks := by
  obtain ⟨before, after, whole, front, back⟩ := strip_split t
  rw [whole]
  exact (laid.after (List.all_eq_true.2 back)).before (List.all_eq_true.2 front)

/-- A chunk that is neither empty nor too long, with visible ends. -/
structure TidyChunk (limit : Nat) (chunk : Text) : Prop where
  nonempty : chunk ≠ []
  short : chunk.length ≤ limit
  starts : ∀ c ∈ chunk.head?, isSpace c = false
  ends : ∀ c ∈ chunk.getLast?, isSpace c = false

/-- What is cut off in front, from a text with a visible start. -/
theorem tidyChunk_strip {k : Nat} {front : Text} (visible : ∃ c ∈ front, isSpace c = false)
    (short : front.length ≤ k) : TidyChunk k (strip front) := by
  obtain ⟨c, mem, seen⟩ := visible
  obtain ⟨starts, ends⟩ := strip_ends front
  exact ⟨strip_ne_nil mem seen, (length_strip_le front).trans short, starts, ends⟩

/-- One cut: the part in front as a chunk, before whatever layout of the rest. -/
theorem laidOut_cut {remaining : Text} (starts : ∀ c ∈ remaining.head?, isSpace c = false)
    (positive : 0 < limit) (long : limit < remaining.length)
    (laid : LaidOut limit (remaining.drop (splitPoint remaining limit)) chunks) :
    LaidOut limit remaining (strip (remaining.take (splitPoint remaining limit)) :: chunks) := by
  have forward := splitPoint_pos positive remaining
  have bounded := splitPoint_le remaining limit
  obtain ⟨before, after, whole, front, back⟩ :=
    strip_split (remaining.take (splitPoint remaining limit))
  have parts : remaining = before ++ (strip (remaining.take (splitPoint remaining limit)) ++
      (after ++ remaining.drop (splitPoint remaining limit))) := by
    rw [← List.append_assoc _ after, ← List.append_assoc before, ← whole, List.take_append_drop]
  have cut : ∀ c ∈ (after ++ remaining.drop (splitPoint remaining limit)).head?, isSpace c = false →
      (strip (remaining.take (splitPoint remaining limit))).length = limit ∧
        cp ' ' ∉ (strip (remaining.take (splitPoint remaining limit))).tail := by
    intro c first visible
    have noGap : after = [] := by
      cases after with
      | nil => rfl
      | cons d after =>
        cases first
        rw [back c List.mem_cons_self] at visible
        cases visible
    have noLead : before = [] := by
      cases before with
      | nil => rfl
      | cons d before =>
        have seen := starts d (by rw [parts]; rfl)
        rw [front d List.mem_cons_self] at seen
        cases seen
    have kept : strip (remaining.take (splitPoint remaining limit)) =
        remaining.take (splitPoint remaining limit) := by
      rw [noGap, noLead, List.append_nil, List.nil_append] at whole
      exact whole.symm
    rw [noGap, List.nil_append, List.head?_drop] at first
    rw [kept]
    rcases splitPoint_cases remaining limit with space | ⟨atLimit, spaceless⟩
    · rw [space] at first
      cases first
      have blank' : isSpace (cp ' ') = true := by decide
      rw [blank'] at visible
      cases visible
    · rw [atLimit]
      constructor
      · rw [List.length_take]
        omega
      · intro mem
        obtain ⟨i, inside, there⟩ := List.getElem_of_mem mem
        rw [List.length_tail, List.length_take] at inside
        apply spaceless (i + 1)
        · omega
        · omega
        · rw [List.getElem_tail, List.getElem_take] at there
          rw [← there]
          exact List.getElem?_eq_getElem _
  have rest : LaidOut limit (after ++ remaining.drop (splitPoint remaining limit)) chunks :=
    laid.before (List.all_eq_true.2 back)
  have whole' := LaidOut.chunk (List.all_eq_true.2 front) cut rest
  rwa [← parts] at whole'

/-- The chunks of a text with visible ends. -/
theorem chunkLoop_laidOut (positive : 0 < limit) (remaining : Text)
    (starts : ∀ c ∈ remaining.head?, isSpace c = false)
    (ends : ∀ c ∈ remaining.getLast?, isSpace c = false) :
    LaidOut limit remaining (chunkLoop limit positive remaining) ∧
      ∀ chunk ∈ chunkLoop limit positive remaining, TidyChunk limit chunk := by
  induction remaining using chunkLoop.induct limit positive with
  | case1 remaining long splitAt ih =>
    obtain ⟨clean, cleanEnd⟩ := strip_ends (remaining.drop splitAt)
    obtain ⟨laid, tidy⟩ := ih clean cleanEnd
    have visible : ∃ c ∈ remaining.take splitAt, isSpace c = false := by
      cases remaining with
      | nil => cases long
      | cons c remaining =>
        have forward : 0 < splitAt := splitPoint_pos positive (c :: remaining)
        obtain ⟨k, succ⟩ := Nat.exists_eq_succ_of_ne_zero (Nat.ne_of_gt forward)
        refine ⟨c, ?_, starts c rfl⟩
        rw [succ, List.take_succ_cons]
        exact List.mem_cons_self
    have short : (remaining.take splitAt).length ≤ limit :=
      (List.length_take_le _ _).trans (splitPoint_le remaining limit)
    rw [chunkLoop, if_pos long]
    constructor
    · exact laidOut_cut starts positive long laid.of_strip
    · intro chunk mem
      rcases List.mem_cons.1 mem with first | later
      · rw [first]
        exact tidyChunk_strip visible short
      · exact tidy chunk later
  | case2 short =>
    rw [chunkLoop, if_neg short, if_pos rfl]
    constructor
    · exact .done rfl
    · intro chunk none
      cases none
  | case3 remaining short some_ =>
    rw [chunkLoop, if_neg short, if_neg some_]
    constructor
    · have last : LaidOut limit [] [] := .done rfl
      have whole := @LaidOut.chunk limit [] remaining [] [] rfl (fun c none => nomatch none) last
      rwa [List.append_nil, List.nil_append] at whole
    · intro chunk mem
      rw [List.mem_singleton.1 mem]
      exact ⟨some_, Nat.le_of_not_lt short, starts, ends⟩

/-- `chunk_text` returns for every text and every positive limit: chunks that are not empty,
not too long and begin and end visibly, that hold every visible character in order, and
that part two of them only behind a chunk of full length without a space to cut at. -/
theorem chunking_loses_nothing (t : Text) (maxChars : Int) (positive : 1 ≤ maxChars) :
    ∃ chunks, chunkText t maxChars = .ok chunks ∧
      (∀ chunk ∈ chunks, TidyChunk maxChars.toNat chunk) ∧
      chunks.flatten.filter (fun c => !isSpace c) = t.filter (fun c => !isSpace c) ∧
      LaidOut maxChars.toNat t chunks := by
  obtain ⟨starts, ends⟩ := strip_ends t
  have limited : 0 < maxChars.toNat := by omega
  obtain ⟨laid, tidy⟩ := chunkLoop_laidOut limited (strip t) starts ends
  refine ⟨chunkLoop maxChars.toNat limited (strip t), ?_, tidy, laid.of_strip.visible,
    laid.of_strip⟩
  unfold chunkText
  exact dif_pos positive

theorem chunking_loses_nothing_of_words :
    ∃ chunks, chunkText (text "two words") 4 = .ok chunks ∧
      (∀ chunk ∈ chunks, TidyChunk 4 chunk) ∧
      chunks.flatten.filter (fun c => !isSpace c) =
        (text "two words").filter (fun c => !isSpace c) ∧
      LaidOut 4 (text "two words") chunks :=
  chunking_loses_nothing (text "two words") 4 (by decide)

end EvoBlue.Guarantees
