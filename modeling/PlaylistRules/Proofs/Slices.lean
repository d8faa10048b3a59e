/-
This file says how the segments of a text lie in it: one behind the other with the
operator between neighbours. So each piece is a part of the text.
-/

import PlaylistRules.Proofs.Subpieces

namespace PlaylistRules

open Text

/-- A text in segments with the word between them. -/
inductive Sliced (word : List Char) : List (List Char) → List Char → Prop where
  | whole (text : List Char) : Sliced word [text] text
  | cut (segment : List Char) {segments : List (List Char)} {rest : List Char}
      (others : Sliced word segments rest) :
      Sliced word (segment :: segments) (segment ++ (word ++ rest))

theorem CutInto.sliced {style : Bracketing} {operator : Operator} {depth : Nat} {edge : Bool}
    {segments : List (List Char)} {text : List Char}
    (cutInto : CutInto style operator depth edge segments text) :
    Sliced operator.word segments text := by
  induction cutInto with
  | whole => exact .whole _
  | cut _ _ _ inductionHypothesis => exact .cut _ inductionHypothesis

/-- The scanner slices its text. -/
theorem sliced_segments (style : Bracketing) (operator : Operator) (depth : Nat) (edge : Bool)
    (text : List Char) :
    Sliced operator.word (segments style operator.word depth edge 0 text) text :=
  (cutInto_segments style operator depth edge text).sliced

theorem Sliced.isInfix {word text segment : List Char} {segments : List (List Char)}
    (sliced : Sliced word segments text) (member : segment ∈ segments) : segment <:+: text := by
  induction sliced with
  | whole text => exact (List.mem_singleton.mp member) ▸ List.infix_refl _
  | cut first others inductionHypothesis =>
    rcases List.mem_cons.mp member with rfl | inOthers
    · exact (List.prefix_append _ _).isInfix
    · refine (inductionHypothesis inOthers).trans (List.IsSuffix.isInfix ?_)
      rw [← List.append_assoc]
      exact List.suffix_append _ _

/-- A character that the word does not have is in a segment. -/
theorem Sliced.exists_mem {word text : List Char} {segments : List (List Char)}
    (sliced : Sliced word segments text) {character : Char} (member : character ∈ text)
    (absent : character ∉ word) : ∃ segment ∈ segments, character ∈ segment := by
  induction sliced with
  | whole text => exact ⟨text, List.mem_cons_self, member⟩
  | cut first others inductionHypothesis =>
    rcases List.mem_append.mp member with inFirst | later
    · exact ⟨first, List.mem_cons_self, inFirst⟩
    · have inRest := (List.mem_append.mp later).resolve_left absent
      obtain ⟨segment, inOthers, inSegment⟩ := inductionHypothesis inRest
      exact ⟨segment, List.mem_cons_of_mem _ inOthers, inSegment⟩

/-- A piece is a part of the text. -/
theorem pieces_isInfix {style : Bracketing} {operator : Operator} {text piece : List Char}
    (member : piece ∈ pieces style operator.word text) : piece <:+: text := by
  rw [pieces, List.mem_filter, List.mem_map] at member
  obtain ⟨⟨segment, inSegments, rfl⟩, _⟩ := member
  exact (trim_isInfix segment).trans
    ((sliced_segments style operator 0 true text).isInfix inSegments)

end PlaylistRules
