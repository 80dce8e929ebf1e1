import EvoBlue.Source.Search
import Mathlib.Data.List.Chain

/-!
# The pieces of a searched word

A word is cut around its CJK characters: every one of them is a piece, and so is what
stands between two. A piece that is the word AND between two others would be taken for the
operator when the expression is rewritten.
-/

namespace EvoBlue.Source

open EvoBlue.Kernel

/-- A CJK character on its own. -/
def CjkPiece (piece : Text) : Prop := ∃ c, isCjk c = true ∧ piece = [c]

theorem isSpace_of_cjk {c : CodePoint} (cjk : isCjk c = true) : isSpace c = false := by
  by_contra blank
  rw [Bool.not_eq_false] at blank
  simp only [isCjk, isSpace, Bool.or_eq_true, Bool.and_eq_true, decide_eq_true_eq] at cjk blank
  omega

theorem spaced_cjk {c : CodePoint} (cjk : isCjk c = true) (rest : Text) :
    spaced (c :: rest) = cp ' ' :: c :: cp ' ' :: spaced rest := by
  unfold spaced
  rw [List.flatMap_cons, if_pos cjk]
  rfl

theorem spaced_other {c : CodePoint} (other : isCjk c = false) (rest : Text) :
    spaced (c :: rest) = c :: spaced rest := by
  unfold spaced
  rw [List.flatMap_cons, other, if_neg Bool.false_ne_true]
  rfl

theorem spaced_append (front rest : Text) : spaced (front ++ rest) = spaced front ++ spaced rest :=
  List.flatMap_append

/-- The pieces of a text that begins with a CJK character. -/
theorem pieces_cjk {c : CodePoint} (cjk : isCjk c = true) (rest : Text) :
    runs isSpace (spaced (c :: rest)) = [c] :: runs isSpace (spaced rest) := by
  have visible := isSpace_of_cjk cjk
  have alone : runs isSpace [c] = [[c]] :=
    runs_of_clean (List.cons_ne_nil c []) (by simpa using visible)
  have split := runs_append_end [c] (spaced rest) isSpace_blank
  rw [alone] at split
  rw [spaced_cjk cjk, runs_cons_end _ isSpace_blank]
  exact split

/-- How the pieces of a word stand: they make it up, and of two neighbours one is a CJK character. -/
structure CutWord (word : Text) (pieces : List Text) : Prop where
  whole : pieces.flatten = word
  alternate : pieces.IsChain fun one next => CjkPiece one ∨ CjkPiece next
  first : ∀ c ∈ word.head?, ∃ piece others, pieces = (c :: piece) :: others ∧
    (isCjk c = true → piece = [])

theorem cutWord_pieces {word : Text} (visible : ∀ c ∈ word, isSpace c = false) :
    CutWord word (runs isSpace (spaced word)) := by
  induction word with
  | nil =>
    exact { whole := rfl
            alternate := List.IsChain.nil
            first := fun c mem => by cases mem }
  | cons c word ih =>
    have cut := ih fun d mem => visible d (List.mem_cons_of_mem _ mem)
    by_cases cjk : isCjk c = true
    · rw [pieces_cjk cjk]
      exact {
        whole := by rw [List.flatten_cons, cut.whole]; rfl
        alternate := by
          cases split : runs isSpace (spaced word) with
          | nil => exact List.IsChain.singleton _
          | cons next others =>
            have later := cut.alternate
            rw [split] at later
            exact List.IsChain.cons_cons (.inl ⟨c, cjk, rfl⟩) later
        first := fun d mem => by
          obtain rfl : c = d := Option.some.inj mem
          exact ⟨[], _, rfl, fun _ => rfl⟩ }
    · rw [Bool.not_eq_true] at cjk
      have clean := visible c List.mem_cons_self
      rw [spaced_other cjk, runs_cons_clean clean]
      cases word with
      | nil =>
        exact {
          whole := rfl
          alternate := List.IsChain.singleton _
          first := fun d mem => by
            obtain rfl : c = d := Option.some.inj mem
            exact ⟨[], [], rfl, fun _ => rfl⟩ }
      | cons d word =>
        obtain ⟨piece, others, split, short⟩ := cut.first d rfl
        have whole := cut.whole
        have later := cut.alternate
        rw [split] at whole later
        by_cases next : isCjk d = true
        · obtain rfl := short next
          rw [spaced_cjk next] at split ⊢
          dsimp only
          rw [if_pos isSpace_blank, split]
          exact {
            whole := by rw [List.flatten_cons, whole]; rfl
            alternate := List.IsChain.cons_cons (.inr ⟨d, next, rfl⟩) later
            first := fun e mem => by
              obtain rfl : c = e := Option.some.inj mem
              exact ⟨[], _, rfl, fun _ => rfl⟩ }
        · rw [Bool.not_eq_true] at next
          have seen := visible d (List.mem_cons_of_mem _ List.mem_cons_self)
          rw [spaced_other next] at split ⊢
          dsimp only
          rw [seen, if_neg Bool.false_ne_true, split]
          exact {
            whole := by
              rw [← whole]
              rfl
            alternate := by
              cases others with
              | nil => exact List.IsChain.singleton _
              | cons other others =>
                obtain ⟨pair, rest⟩ := List.isChain_cons_cons.1 later
                refine List.IsChain.cons_cons (.inr ?_) rest
                rcases pair with ⟨e, eCjk, same⟩ | known
                · obtain rfl : d = e := (List.cons.inj same).1
                  rw [next] at eCjk
                  cases eCjk
                · exact known
            first := fun e mem => by
              obtain rfl : c = e := Option.some.inj mem
              refine ⟨d :: piece, others, rfl, fun known => ?_⟩
              rw [cjk] at known
              cases known }

/-! ## A piece between two others -/

/-- A piece between separators, as the joined pieces have it. -/
theorem infix_joined {sep : CodePoint} {piece : Text} {pieces : List Text} (some_ : pieces ≠ [])
    (free : ∀ other ∈ pieces, sep ∉ other) (clean : sep ∉ piece) :
    (sep :: (piece ++ [sep])) <:+: [sep].intercalate pieces ↔
      ∃ front back, pieces = front ++ piece :: back ∧ front ≠ [] ∧ back ≠ [] := by
  constructor
  · rintro ⟨before, after, whole⟩
    have split : ([sep].intercalate pieces).splitOn sep = pieces := List.splitOn_intercalate _ free some_
    refine ⟨before.splitOn sep, after.splitOn sep, ?_, List.splitOn_ne_nil _ _, List.splitOn_ne_nil _ _⟩
    have parts : before ++ sep :: (piece ++ [sep]) ++ after =
        before ++ sep :: (piece ++ sep :: after) := by simp
    rw [← split, ← whole, parts, List.splitOn_append_cons_self,
      List.splitOn_append_cons_self_of_not_mem clean]
  · rintro ⟨front, back, rfl, frontSome, backSome⟩
    obtain ⟨next, others, rfl⟩ := List.exists_cons_of_ne_nil backSome
    rcases List.eq_nil_or_concat front with rfl | ⟨earlier, last, rfl⟩
    · exact absurd rfl frontSome
    have joined_ (earlier : List Text) (last : Text) (rest : List Text) (more : rest ≠ []) :
        ∃ before, [sep].intercalate (earlier ++ last :: rest) =
          before ++ sep :: [sep].intercalate rest := by
      induction earlier with
      | nil =>
        refine ⟨last, ?_⟩
        rw [List.nil_append, List.intercalate_cons_of_ne_nil more]
        simp
      | cons first earlier ih =>
        obtain ⟨before, same⟩ := ih
        refine ⟨first ++ sep :: before, ?_⟩
        rw [List.cons_append, List.intercalate_cons_of_ne_nil (by simp), same]
        simp
    obtain ⟨before, same⟩ := joined_ earlier last (piece :: next :: others) (List.cons_ne_nil _ _)
    rw [List.concat_eq_append, List.append_assoc, List.singleton_append, same,
      List.intercalate_cons_cons]
    exact ⟨before, [sep].intercalate (next :: others), by simp⟩

/-- Two CJK characters with nothing but the word AND between them. -/
def AndBetween (t : Text) : Prop :=
  ∃ c d, isCjk c = true ∧ isCjk d = true ∧ (c :: (text "AND" ++ [d])) <:+: t

theorem and_pieces (table : WordTable) {c d : CodePoint} (before : isCjk c = true)
    (after : isCjk d = true) (front back : Text) :
    keptPieces table (front ++ c :: (text "AND" ++ d :: back)) =
      keptPieces table front ++ [c] :: text "AND" :: [d] :: keptPieces table back := by
  have plain : spaced (text "AND" ++ d :: back) = text "AND" ++ spaced (d :: back) := by
    have same : spaced (text "AND") = text "AND" := by decide
    rw [spaced_append, same]
  have visible : ∀ e ∈ text "AND", isSpace e = false := by
    have all : (text "AND").all (fun e => !isSpace e) = true := by decide
    intro e mem
    simpa using List.all_eq_true.1 all e mem
  have middle : runs isSpace (text "AND" ++ spaced (d :: back)) =
      text "AND" :: runs isSpace (spaced (d :: back)) := by
    rw [spaced_cjk after, runs_append_end _ _ isSpace_blank, runs_of_clean (by decide) visible,
      runs_cons_end _ isSpace_blank]
    rfl
  have whole : runs isSpace (spaced (front ++ c :: (text "AND" ++ d :: back))) =
      runs isSpace (spaced front) ++ [c] :: text "AND" :: [d] :: runs isSpace (spaced back) := by
    rw [spaced_append, spaced_cjk before, runs_append_end _ _ isSpace_blank,
      ← runs_cons_end (c :: cp ' ' :: spaced (text "AND" ++ d :: back)) isSpace_blank,
      ← spaced_cjk before, pieces_cjk before, plain, middle, pieces_cjk after]
  have word : hasToken table (text "AND") = true := by
    have letter : table.isWord (cp 'A') = true := rfl
    have spelled : text "AND" = [cp 'A', cp 'N', cp 'D'] := by decide
    rw [spelled]
    simp [hasToken, letter]
  have kept {e : CodePoint} (cjk : isCjk e = true) : hasToken table [e] = true := by
    simp [hasToken, cjk]
  unfold keptPieces
  rw [whole, List.filter_append, List.filter_cons, if_pos (kept before), List.filter_cons, if_pos word,
    List.filter_cons, if_pos (kept after)]

/-- The pieces of a word have AND between two others exactly when the word has it between two
CJK characters. -/
theorem and_piece_iff (table : WordTable) {word : Text} (visible : ∀ c ∈ word, isSpace c = false) :
    (∃ front back, keptPieces table word = front ++ text "AND" :: back ∧ front ≠ [] ∧ back ≠ []) ↔
      AndBetween word := by
  constructor
  · rintro ⟨front, back, split, frontSome, backSome⟩
    have cut := cutWord_pieces visible
    unfold keptPieces at split
    obtain ⟨before, rest, whole, rfl, rest_⟩ := List.filter_eq_append_iff.1 split
    obtain ⟨skipped, after, rfl, _, _, rfl⟩ := List.filter_eq_cons_iff.1 rest_
    have alternate := cut.alternate
    have flat := cut.whole
    rw [whole] at alternate flat
    obtain ⟨last, lastMem⟩ : ∃ last, (before ++ skipped).getLast? = some last := by
      have some_ : before ++ skipped ≠ [] := by
        intro none
        obtain ⟨rfl, _⟩ := List.append_eq_nil_iff.1 none
        exact frontSome rfl
      exact ⟨_, List.getLast?_eq_some_getLast some_⟩
    obtain ⟨earlier, same⟩ := List.getLast?_eq_some_iff.1 lastMem
    obtain ⟨next, others, rfl⟩ : ∃ next others, after = next :: others := by
      apply List.exists_cons_of_ne_nil
      rintro rfl
      exact backSome rfl
    rw [← List.append_assoc, same, List.append_assoc] at alternate flat
    have notCjk : ¬ CjkPiece (text "AND") := by
      rintro ⟨c, _, piece⟩
      have lengths : 3 = 1 := congrArg List.length piece
      cases lengths
    have chain := (List.isChain_append.1 alternate).2.1
    obtain ⟨beforeAnd, chain⟩ := List.isChain_cons_cons.1 chain
    obtain ⟨afterAnd, _⟩ := List.isChain_cons_cons.1 chain
    obtain ⟨c, cCjk, rfl⟩ := beforeAnd.resolve_right notCjk
    obtain ⟨d, dCjk, rfl⟩ := afterAnd.resolve_left notCjk
    refine ⟨c, d, cCjk, dCjk, earlier.flatten, others.flatten, ?_⟩
    rw [← flat]
    simp
  · rintro ⟨c, d, before, after, front, back, rfl⟩
    have shape : front ++ c :: (text "AND" ++ [d]) ++ back = front ++ c :: (text "AND" ++ d :: back) := by
      simp
    rw [shape, and_pieces table before after]
    exact ⟨keptPieces table front ++ [[c]], [d] :: keptPieces table back, by simp, by simp, by simp⟩

/-- A phrase of a query holds the operator exactly when the query has AND between two CJK
characters. -/
theorem phrase_and_iff (table : WordTable) (query : Text) :
    (∃ phrase ∈ searchPhrases table query, text " AND " <:+: phrase) ↔ AndBetween query := by
  have spelled : text " AND " = cp ' ' :: (text "AND" ++ [cp ' ']) := by decide
  have clean : cp ' ' ∉ text "AND" := by decide
  have free (word : Text) : ∀ piece ∈ keptPieces table word, cp ' ' ∉ piece := by
    intro piece mem inside
    have visible := (mem_runs (List.mem_filter.1 mem).1).2 _ inside
    rw [isSpace_blank] at visible
    cases visible
  constructor
  · rintro ⟨phrase, mem, inside⟩
    obtain ⟨word, there, phrased⟩ := List.mem_filterMap.1 mem
    split at phrased
    next => cases phrased
    next some_ =>
      rw [← Option.some.inj phrased, spelled, infix_joined some_ (free word) clean] at inside
      obtain ⟨c, d, before, after, within⟩ := (and_piece_iff table (mem_runs there).2).1 inside
      exact ⟨c, d, before, after, within.trans (infix_of_mem_runs there)⟩
  · rintro ⟨c, d, before, after, inside⟩
    have visible : ∀ e ∈ c :: (text "AND" ++ [d]), isSpace e = false := by
      have all : (text "AND").all (fun e => !isSpace e) = true := by decide
      intro e mem
      rcases List.mem_cons.1 mem with rfl | mem
      · exact isSpace_of_cjk before
      rcases List.mem_append.1 mem with mem | mem
      · simpa using List.all_eq_true.1 all e mem
      · rw [List.mem_singleton.1 mem]
        exact isSpace_of_cjk after
    obtain ⟨word, there, within⟩ := mem_runs_of_infix (List.cons_ne_nil _ _) visible inside
    have pieces := (and_piece_iff table (mem_runs there).2).2 ⟨c, d, before, after, within⟩
    have some_ : keptPieces table word ≠ [] := by
      obtain ⟨front, back, split, frontSome, _⟩ := pieces
      rw [split]
      intro none
      exact frontSome (List.append_eq_nil_iff.1 none).1
    refine ⟨[cp ' '].intercalate (keptPieces table word), ?_, ?_⟩
    · apply List.mem_filterMap.2
      exact ⟨word, there, if_neg some_⟩
    · rw [spelled, infix_joined some_ (free word) clean]
      exact pieces

end EvoBlue.Source
