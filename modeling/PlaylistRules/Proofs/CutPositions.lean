/-
This file says at which positions of a text the scanner cuts: exactly at those where the
operator stands as a whole word outside every group. A position is judged by the text
alone, by what lies in front of it and behind it, while the scanner passes over the
operators that it finds. Nothing is lost on the way: an operator is surrounded by blanks
and has none itself, so no two of its occurrences overlap.
-/

import PlaylistRules.Proofs.Slices

namespace PlaylistRules

open Text

/-! ### Positions between segments -/

/-- The positions at which a text was cut into segments, the first of which starts at
`start`: every segment but the last ends in front of the word. -/
def cutPositions (word : List Char) : (start : Nat) → (segments : List (List Char)) → List Nat
  | _, [] => []
  | _, [_] => []
  | start, segment :: next :: rest =>
    (start + segment.length) ::
      cutPositions word (start + segment.length + word.length) (next :: rest)

theorem cutPositions_cons (word : List Char) (start : Nat) (segment : List Char)
    {rest : List (List Char)} (more : rest ≠ []) :
    cutPositions word start (segment :: rest) =
      (start + segment.length) ::
        cutPositions word (start + segment.length + word.length) rest := by
  obtain ⟨next, others, rfl⟩ := List.exists_cons_of_ne_nil more
  rw [cutPositions]

theorem le_of_mem_cutPositions {word : List Char} {start position : Nat}
    {segments : List (List Char)} (member : position ∈ cutPositions word start segments) :
    start ≤ position := by
  induction segments generalizing start with
  | nil => cases member
  | cons segment rest inductionHypothesis =>
    cases rest with
    | nil => cases member
    | cons next rest =>
      rw [cutPositions] at member
      rcases List.mem_cons.mp member with rfl | later
      · exact Nat.le_add_right _ _
      · have bound := inductionHypothesis later
        omega

/-- The positions are found from left to right. -/
theorem pairwise_cutPositions {word : List Char} (nonempty : word ≠ []) (start : Nat)
    (segments : List (List Char)) : (cutPositions word start segments).Pairwise (· < ·) := by
  have positive := List.length_pos_of_ne_nil nonempty
  induction segments generalizing start with
  | nil => exact .nil
  | cons segment rest inductionHypothesis =>
    cases rest with
    | nil => exact .nil
    | cons next rest =>
      refine .cons (fun position later => ?_) (inductionHypothesis _)
      have bound := le_of_mem_cutPositions later
      omega

/-! ### Where an operator can be cut at -/

variable {style : Bracketing} {operator : Operator}

/-- An operator that is cut at in front of another cut does not reach over it. -/
theorem exists_of_cut_before {depth : Nat} {edge : Bool} {before part rest after : List Char}
    (nonempty : part ≠ []) (split : part ++ (operator.word ++ rest) = operator.word ++ after)
    (cut : CutBetween style depth edge before after)
    (left : edgeAfter edge (before ++ part) = true) :
    ∃ tail, part = operator.word ++ tail ∧ CutBetween style depth edge before tail := by
  rcases List.append_eq_append_iff.mp split with ⟨tail, word, -⟩ | ⟨tail, found, behind⟩
  · -- The part would end inside the operator, but a blank stands at its end.
    have nonblank : ∀ character ∈ part, isBlank character = false := fun character member =>
      operator.word_nonblank character (word ▸ List.mem_append_left _ member)
    rw [edgeAfter_append, edgeAfter_of_trimmed (trim_of_nonblank nonblank) nonempty] at left
    cases left
  · refine ⟨tail, found, cut.outside, cut.left, ?_⟩
    cases tail with
    | nil => rfl
    | cons character tail =>
      have right := cut.right
      rwa [behind] at right

/-- Behind a cut, an operator is cut at as if the text began there, away from an edge. -/
theorem exists_of_cut_behind {depth : Nat} {edge : Bool} {segment part rest after : List Char}
    (nonempty : part ≠ []) (split : operator.word ++ rest = part ++ (operator.word ++ after))
    (outside : style.depth depth segment = 0)
    (cut : CutBetween style depth edge (segment ++ part) after) :
    ∃ before, part = operator.word ++ before ∧ CutBetween style 0 false before after := by
  have left := cut.left
  rw [edgeAfter_append] at left
  rcases List.append_eq_append_iff.mp split with ⟨before, found, -⟩ | ⟨tail, word, -⟩
  · refine ⟨before, found, ?_, ?_, cut.right⟩
    · have closed := cut.outside
      rwa [Bracketing.depth_append, outside, found, Bracketing.depth_append,
        style.depth_of_no_bracket 0 operator.word_no_bracket] at closed
    · rwa [found, edgeAfter_append, edgeAfter_word] at left
  · have nonblank : ∀ character ∈ part, isBlank character = false := fun character member =>
      operator.word_nonblank character (word ▸ List.mem_append_left _ member)
    rw [edgeAfter_of_trimmed (trim_of_nonblank nonblank) nonempty] at left
    cases left

theorem CutInto.ne_nil {depth : Nat} {edge : Bool} {segments : List (List Char)} {text : List Char}
    (cutInto : CutInto style operator depth edge segments text) : segments ≠ [] := by
  cases cutInto <;> exact List.cons_ne_nil _ _

/-- Between two segments there is a place to cut at, and there is no such place anywhere
else. -/
theorem CutInto.mem_cutPositions_iff {depth : Nat} {edge : Bool} {segments : List (List Char)}
    {text : List Char} (cutInto : CutInto style operator depth edge segments text)
    (start position : Nat) :
    position ∈ cutPositions operator.word start segments ↔
      ∃ before after, text = before ++ operator.word ++ after ∧
        start + before.length = position ∧ CutBetween style depth edge before after := by
  induction cutInto generalizing start with
  | whole uncut =>
    refine iff_of_false List.not_mem_nil ?_
    rintro ⟨before, after, split, -, cut⟩
    exact uncut before after split cut
  | @cut depth edge segment rest segments uncut between others inductionHypothesis =>
    rw [cutPositions_cons _ _ _ others.ne_nil, List.mem_cons, inductionHypothesis]
    constructor
    · rintro (rfl | ⟨before, after, rfl, rfl, cut⟩)
      · exact ⟨segment, rest, by rw [List.append_assoc], rfl, between⟩
      · refine ⟨segment ++ (operator.word ++ before), after, by simp, ?_, ?_, ?_, cut.right⟩
        · rw [List.length_append, List.length_append]
          omega
        · rw [Bracketing.depth_append, between.outside, Bracketing.depth_append,
            style.depth_of_no_bracket 0 operator.word_no_bracket, cut.outside]
        · rw [edgeAfter_append, edgeAfter_append, edgeAfter_word, cut.left]
    · rintro ⟨before, after, split, rfl, cut⟩
      rw [List.append_assoc] at split
      rcases List.append_eq_append_iff.mp split with ⟨part, found, behind⟩ | ⟨part, found, behind⟩
      · by_cases here : part = []
        · rw [here, List.append_nil] at found
          exact .inl (by rw [found])
        · obtain ⟨inside, rfl, cut⟩ :=
            exists_of_cut_behind here behind between.outside (found ▸ cut)
          refine .inr ⟨inside, after, ?_, ?_, cut⟩
          · rw [List.append_assoc, List.append_cancel_left_eq] at behind
            rw [behind, List.append_assoc]
          · rw [found, List.length_append, List.length_append]
            omega
      · by_cases here : part = []
        · rw [here, List.append_nil] at found
          exact .inl (by rw [found])
        · obtain ⟨tail, rfl, cut⟩ :=
            exists_of_cut_before here behind.symm cut (found ▸ between.left)
          exact absurd cut (uncut before tail (by rw [found, List.append_assoc]))

/-! ### Where an operator stands -/

/-- The operator stands at a position of a text as a whole word outside every group: a
blank or the edge of the text is on either side, and nothing is open in front of it. -/
structure StandsAt (style : Bracketing) (operator : Operator) (text : List Char)
    (position : Nat) : Prop where
  found : operator.word <+: text.drop position
  left : ∀ character ∈ (text.take position).getLast?, isBlank character = true
  right : ∀ character ∈ (text.drop (position + operator.word.length)).head?,
    isBlank character = true
  outside : style.depth 0 (text.take position) = 0

theorem edgeAfter_true_iff (text : List Char) :
    edgeAfter true text = true ↔ ∀ character ∈ text.getLast?, isBlank character = true := by
  induction text using List.reverseRecOn with
  | nil => simp [edgeAfter_nil]
  | append_singleton text last _ =>
    rw [edgeAfter_append, List.getLast?_concat]
    simp [edgeAfter]

theorem startsBlank_iff (text : List Char) :
    startsBlank text = true ↔ ∀ character ∈ text.head?, isBlank character = true := by
  cases text <;> simp [startsBlank]

theorem standsAt_iff (text : List Char) (position : Nat) :
    StandsAt style operator text position ↔
      ∃ before after, text = before ++ operator.word ++ after ∧ before.length = position ∧
        CutBetween style 0 true before after := by
  constructor
  · intro stands
    obtain ⟨after, split⟩ := stands.found
    have inside : position ≤ text.length := by
      by_contra beyond
      have positive := List.length_pos_of_ne_nil operator.word_ne_nil
      have nothing := congrArg List.length split
      rw [List.drop_of_length_le (by omega), List.length_append, List.length_nil] at nothing
      omega
    refine ⟨text.take position, after, ?_, List.length_take_of_le inside, stands.outside, ?_, ?_⟩
    · rw [List.append_assoc, split, List.take_append_drop]
    · exact (edgeAfter_true_iff _).mpr stands.left
    · have right := stands.right
      rw [← List.drop_drop, ← split, List.drop_left] at right
      exact (startsBlank_iff _).mpr right
  · rintro ⟨before, after, rfl, rfl, cut⟩
    rw [List.append_assoc]
    refine ⟨?_, ?_, ?_, ?_⟩
    · rw [List.drop_left]
      exact List.prefix_append _ _
    · rw [List.take_left]
      exact (edgeAfter_true_iff _).mp cut.left
    · rw [← List.drop_drop, List.drop_left, List.drop_left]
      exact (startsBlank_iff _).mp cut.right
    · rw [List.take_left]
      exact cut.outside

theorem Sliced.intercalate {word text : List Char} {segments : List (List Char)}
    (sliced : Sliced word segments text) : word.intercalate segments = text := by
  induction sliced with
  | whole text => exact List.intercalate_singleton
  | @cut segment segments rest others inductionHypothesis =>
    have more : segments ≠ [] := by cases others <;> exact List.cons_ne_nil _ _
    obtain ⟨next, later, rfl⟩ := List.exists_cons_of_ne_nil more
    rw [List.intercalate_cons_cons, inductionHypothesis, List.append_assoc]

/-- The scanner cuts once at every position where the operator stands as a whole word outside
every group, and nowhere else. What it finds between the cuts makes up the text again with the
operator in each gap, and the pieces are what is left of that after trimming. -/
theorem cuts_where_operator_stands (style : Bracketing) (operator : Operator) (text : List Char) :
    let parts := segments style operator.word 0 true 0 text
    (cutPositions operator.word 0 parts).Pairwise (· < ·) ∧
      (∀ position, position ∈ cutPositions operator.word 0 parts ↔
        StandsAt style operator text position) ∧
      operator.word.intercalate parts = text ∧
      pieces style operator.word text = (parts.map trim).filter (· ≠ []) := by
  intro parts
  have cutInto := cutInto_segments style operator 0 true text
  refine ⟨pairwise_cutPositions operator.word_ne_nil 0 parts, fun position => ?_,
    cutInto.sliced.intercalate, ?_⟩
  · rw [cutInto.mem_cutPositions_iff, standsAt_iff]
    simp only [Nat.zero_add]
  · rw [pieces]
    exact List.filter_congr fun part _ => by cases part <;> rfl

/-- Two operators in a row, one inside a group and one at the end: the surplus closer in front
leaves the depth at zero. -/
example :
    let text := ") AND AND [b AND c] AND".toList
    cutPositions ['A', 'N', 'D'] 0 (segments .clause ['A', 'N', 'D'] 0 true 0 text) = [2, 6, 20] ∧
      pieces .clause ['A', 'N', 'D'] text = [[')'], "[b AND c]".toList] := by
  decide

end PlaylistRules
