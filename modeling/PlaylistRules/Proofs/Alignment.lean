/-
This file lines up the segments of a text with the texts of a list that stands in the
same place. If each segment has no fewer landmarks than the member it is read as, then
the whole has exactly the operators that were written, and each of them stands where
it was written. So the segments are the members with a blank on either side.
-/

import PlaylistRules.Proofs.Landmarks

namespace PlaylistRules

open Text

/-! ### Places of landmarks -/

namespace Landmark

variable {landmark : Landmark}

theorem count_pos_of_isAt {first : Char} (found : landmark.isAt first = true) (rest : List Char) :
    0 < landmark.count (first :: rest) :=
  List.countP_pos_iff.mpr ⟨first, List.mem_cons_self, found⟩

/-- A text without landmarks in front of a text that begins with one is empty. -/
theorem eq_nil_of_count {part rest after : List Char} {first : Char}
    (found : landmark.isAt first = true) (same : first :: after = part ++ rest)
    (none : landmark.count part = 0) : part = [] := by
  cases part with
  | nil => rfl
  | cons other part =>
    rw [List.cons_append, List.cons.injEq] at same
    have positive := count_pos_of_isAt found part
    rw [same.1, none] at positive
    exact absurd positive (Nat.lt_irrefl 0)

/-- A place in a text at a landmark is determined by the number of landmarks before it. -/
theorem split_unique {before after otherBefore otherAfter : List Char} {first other : Char}
    (found : landmark.isAt first = true) (otherFound : landmark.isAt other = true)
    (same : before ++ first :: after = otherBefore ++ other :: otherAfter)
    (level : landmark.count before = landmark.count otherBefore) :
    before = otherBefore ∧ after = otherAfter := by
  rcases List.append_eq_append_iff.mp same with ⟨part, split, rest⟩ | ⟨part, split, rest⟩
  · rw [split, count_append] at level
    obtain rfl := eq_nil_of_count found rest (by omega)
    exact ⟨by rw [split, List.append_nil], (List.cons.inj rest).2⟩
  · rw [split, count_append] at level
    obtain rfl := eq_nil_of_count otherFound rest (by omega)
    exact ⟨by rw [split, List.append_nil], ((List.cons.inj rest).2).symm⟩

end Landmark

/-- The landmark of an operator is its first letter. -/
def Operator.landmark : Operator → Landmark
  | and => .and
  | or => .or

theorem Operator.exists_word_eq (operator : Operator) :
    ∃ first rest, operator.word = first :: rest ∧ operator.landmark.isAt first = true := by
  cases operator <;> exact ⟨_, _, rfl, rfl⟩

/-- A place of an operator in a text is determined by the number of its landmarks before
it. -/
theorem Operator.split_unique (operator : Operator)
    {before after otherBefore otherAfter : List Char}
    (same : before ++ (operator.word ++ after) = otherBefore ++ (operator.word ++ otherAfter))
    (level : operator.landmark.count before = operator.landmark.count otherBefore) :
    before = otherBefore ∧ after = otherAfter := by
  obtain ⟨first, letters, wordSplit, found⟩ := operator.exists_word_eq
  rw [wordSplit, List.cons_append, List.cons_append] at same
  obtain ⟨rfl, behind⟩ := Landmark.split_unique found found same level
  exact ⟨rfl, List.append_cancel_left behind⟩

theorem Operator.count_word (operator : Operator) :
    operator.landmark.count operator.word = 1 := by
  cases operator <;> rfl

/-! ### Segments and members -/

/-- No segment is blank, and the segments, with `front` before the first and `back` behind
the last, are the texts with a blank on either side, but with `lead` before the first and
`trail` behind the last. -/
inductive Aligned (back trail : List Char) :
    (front lead : List Char) → (segments texts : List (List Char)) → Prop where
  | last {front lead segment text : List Char} (nonblank : trim segment ≠ [])
      (same : front ++ segment ++ back = lead ++ text ++ trail) :
      Aligned back trail front lead [segment] [text]
  | cut {front lead segment text : List Char} {segments texts : List (List Char)}
      (nonblank : trim segment ≠ []) (same : front ++ segment = lead ++ text ++ [' '])
      (others : Aligned back trail [] [' '] segments texts) :
      Aligned back trail front lead (segment :: segments) (text :: texts)

/-- Segments of a text that stands in the place of a written list are aligned with the
members of the list, if none of them has fewer landmarks than its member. -/
theorem Sliced.aligned {operator : Operator} {segments texts : List (List Char)}
    {text front back lead trail : List Char} (sliced : Sliced operator.word segments text)
    (fewer : List.Forall₂
      (fun piece written => operator.landmark.count written ≤ operator.landmark.count piece)
      (segments.flatMap pieceOf) texts)
    (some : texts ≠ []) (leadNone : operator.landmark.count lead = 0)
    (trailNone : operator.landmark.count trail = 0)
    (whole : front ++ text ++ back = lead ++ Filter.joined operator.separator texts ++ trail) :
    Aligned back trail front lead segments texts := by
  induction sliced generalizing texts front lead with
  | whole text =>
    rw [List.flatMap_singleton] at fewer
    by_cases blank : trim text = []
    · rw [pieceOf, if_pos blank, List.forall₂_nil_left_iff] at fewer
      exact absurd fewer some
    · rw [pieceOf_of_nonblank blank, List.forall₂_cons_left_iff] at fewer
      obtain ⟨written, _, _, none, rfl⟩ := fewer
      rw [List.forall₂_nil_left_iff.mp none, Filter.joined_singleton] at whole
      rw [List.forall₂_nil_left_iff.mp none]
      exact .last blank whole
  | @cut segment segments rest others inductionHypothesis =>
    have word := operator.count_word
    have total := congrArg operator.landmark.count whole
    simp only [Landmark.count_append, leadNone, trailNone, word] at total
    rw [List.flatMap_cons] at fewer
    by_cases blank : trim segment = []
    · -- Without its operator the rest would have too few landmarks for the whole list.
      rw [pieceOf, if_pos blank, List.nil_append] at fewer
      have less := operator.landmark.count_joined_le others fewer
      omega
    · rw [pieceOf_of_nonblank blank, List.singleton_append, List.forall₂_cons_left_iff] at fewer
      obtain ⟨written, texts, less, remaining, rfl⟩ := fewer
      rw [Landmark.count_trim] at less
      cases texts with
      | nil =>
        rw [Filter.joined_singleton] at total
        omega
      | cons second texts =>
        have lessOthers := operator.landmark.count_joined_le others remaining
        rw [Filter.joined_cons_cons] at total whole
        simp only [Landmark.count_append, Landmark.count_separator, word] at total
        have split : (front ++ segment) ++ (operator.word ++ (rest ++ back)) =
            (lead ++ written ++ [' ']) ++ (operator.word ++
              ([' '] ++ Filter.joined operator.separator (second :: texts) ++ trail)) := by
          simpa [Operator.separator] using whole
        have level : operator.landmark.count (front ++ segment) =
            operator.landmark.count (lead ++ written ++ [' ']) := by
          have gap := operator.landmark.count_of_allBlank (show AllBlank [' '] by decide)
          simp only [Landmark.count_append, gap, leadNone]
          omega
        obtain ⟨same, behind⟩ := operator.split_unique split level
        refine .cut blank same (inductionHypothesis remaining (List.cons_ne_nil _ _) ?_ behind)
        exact operator.landmark.count_of_allBlank (by decide)

section

variable {back trail front lead : List Char} {segments texts : List (List Char)}

/-- Aligned segments have one piece each. -/
theorem Aligned.flatMap_pieceOf (aligned : Aligned back trail front lead segments texts) :
    segments.flatMap pieceOf = segments.map trim := by
  induction aligned with
  | last nonblank _ => rw [List.flatMap_singleton, pieceOf_of_nonblank nonblank, List.map_singleton]
  | cut nonblank _ _ inductionHypothesis =>
    rw [List.flatMap_cons, pieceOf_of_nonblank nonblank, List.map_cons, inductionHypothesis,
      List.singleton_append]

/-- Segments that are aligned with the texts of the whole list are these texts, blanks
aside. -/
theorem Aligned.map_trim (aligned : Aligned [] [] front lead segments texts)
    (atFront : front = []) (leadBlank : AllBlank lead)
    (trimmed : ∀ text ∈ texts, trim text = text) : segments.map trim = texts := by
  induction aligned with
  | @last front lead segment text _ same =>
    subst atFront
    rw [List.append_nil, List.append_nil, List.nil_append] at same
    rw [List.map_singleton, same, trim_append_left leadBlank, trimmed text List.mem_cons_self]
  | @cut front lead segment text segments texts _ same _ inductionHypothesis =>
    subst atFront
    rw [List.nil_append] at same
    rw [List.map_cons, same, trim_append_right _ (show AllBlank [' '] by decide),
      trim_append_left leadBlank, trimmed text List.mem_cons_self,
      inductionHypothesis rfl (by decide) fun other member =>
        trimmed other (List.mem_cons_of_mem _ member)]

end

end PlaylistRules
