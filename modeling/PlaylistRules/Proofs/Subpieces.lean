/-
This file says that taking a text apart leaves less to take apart. A piece stands between
blanks and outside every group, so whatever cuts the piece would cut the text. It follows
that a piece is not cut again by the operator that cut it out, and that the other operator
takes it into no more pieces than the text it comes from.
-/

import PlaylistRules.Proofs.Cuts

namespace PlaylistRules

open Text

variable {style : Bracketing} {operator : Operator}

/-! ### Segments -/

/-- A text that is entered at a depth and an edge, as its segments: the operator cuts
none of them, and it cuts between neighbours. -/
inductive CutInto (style : Bracketing) (operator : Operator) :
    (depth : Nat) → (edge : Bool) → List (List Char) → List Char → Prop where
  | whole {depth : Nat} {edge : Bool} {text : List Char}
      (uncut : UncutFrom style operator depth edge text) :
      CutInto style operator depth edge [text] text
  | cut {depth : Nat} {edge : Bool} {segment rest : List Char} {segments : List (List Char)}
      (uncut : UncutFrom style operator depth edge segment)
      (between : CutBetween style depth edge segment rest)
      (others : CutInto style operator 0 false segments rest) :
      CutInto style operator depth edge (segment :: segments) (segment ++ (operator.word ++ rest))

/-- A text is cut nowhere if it is not cut at its start and the rest is cut nowhere. -/
theorem UncutFrom.cons {depth : Nat} {edge : Bool} {character : Char} {rest : List Char}
    (uncut : UncutFrom style operator (style.depthAfter depth character) (isBlank character) rest)
    (start : ∀ after, character :: rest = operator.word ++ after →
      ¬ CutBetween style depth edge [] after) :
    UncutFrom style operator depth edge (character :: rest) := by
  intro before after split cut
  cases before with
  | nil => exact start after split cut
  | cons first before =>
    rw [List.cons_append, List.cons_append] at split
    obtain ⟨rfl, rfl⟩ := List.cons.inj split
    exact uncut before after rfl ⟨cut.outside, cut.left, cut.right⟩

/-- The operator leaves no edge behind it. -/
theorem edgeAfter_word (edge : Bool) : edgeAfter edge operator.word = false :=
  edgeAfter_of_trimmed (trim_of_nonblank operator.word_nonblank) operator.word_ne_nil edge

theorem CutInto.consFirst {depth : Nat} {edge : Bool} {character : Char} {rest : List Char}
    {segments : List (List Char)}
    (cutInto : CutInto style operator (style.depthAfter depth character) (isBlank character)
      segments rest)
    (here : cutsHere operator depth edge (character :: rest) = false) :
    CutInto style operator depth edge (consFirst character segments) (character :: rest) := by
  have notHere (after : List Char) (found : character :: rest = operator.word ++ after)
      (left : edge = true) (outside : depth = 0) : ¬ startsBlank after = true := by
    intro right
    have cuts := (cutsHere_iff operator depth edge _).mpr ⟨outside, left, after, found, right⟩
    rw [here] at cuts
    cases cuts
  cases cutInto with
  | whole uncut =>
    exact .whole (uncut.cons fun after split cut =>
      notHere after split cut.left cut.outside cut.right)
  | @cut _ _ segment others _ uncut between cutOthers =>
    refine .cut (uncut.cons fun after split cut => ?_)
      ⟨between.outside, between.left, between.right⟩ cutOthers
    cases after with
    | nil =>
      -- An operator right in front of the cut would leave no blank there.
      rw [List.append_nil] at split
      have left : edgeAfter edge (character :: segment) = true := between.left
      rw [split, edgeAfter_word] at left
      cases left
    | cons next after =>
      exact notHere (next :: after ++ (operator.word ++ others))
        (by rw [← List.cons_append, split, List.append_assoc]) cut.left cut.outside cut.right

/-- The scanner finds the segments of its text. -/
theorem cutInto_segments (style : Bracketing) (operator : Operator) (depth : Nat) (edge : Bool)
    (text : List Char) :
    CutInto style operator depth edge (segments style operator.word depth edge 0 text) text := by
  induction size : text.length using Nat.strong_induction_on generalizing depth edge text with
  | _ size inductionHypothesis =>
    cases text with
    | nil =>
      rw [segments_nil]
      exact .whole (uncutFrom_of_allBlank style operator allBlank_nil depth edge)
    | cons character rest =>
      cases here : cutsHere operator depth edge (character :: rest) with
      | false =>
        rw [segments_cons_of_not_cutsHere style operator here]
        exact (inductionHypothesis rest.length (by simp [← size]) _ _ rest rfl).consFirst here
      | true =>
        obtain ⟨outside, left, after, found, blank⟩ := (cutsHere_iff operator _ _ _).mp here
        rw [outside, left, found, segments_word style operator blank]
        have positive := List.length_pos_of_ne_nil operator.word_ne_nil
        have shorter := congrArg List.length found
        rw [size, List.length_append] at shorter
        have atStart : UncutFrom style operator 0 true [] :=
          uncutFrom_of_allBlank style operator allBlank_nil 0 true
        exact .cut atStart ⟨rfl, rfl, blank⟩
          (inductionHypothesis after.length (by omega) _ _ after rfl)

/-! ### Where a piece stands -/

/-- In front of a text that starts with a blank it does not matter whether it is entered
at an edge. -/
theorem uncut_of_uncutFrom {edge : Bool} {segment : List Char}
    (uncut : UncutFrom style operator 0 edge segment)
    (fits : edge = true ∨ startsBlank segment = true) : Uncut style operator segment := by
  intro before after split cut
  by_cases atStart : before = []
  · rcases fits with rfl | blank
    · exact uncut before after split cut
    · have cuts := (cutsHere_iff operator 0 true segment).mpr
        ⟨rfl, rfl, after, by rw [split, atStart, List.nil_append], cut.right⟩
      rw [not_cutsHere_of_startsBlank operator 0 true blank] at cuts
      cases cuts
  · exact uncut before after split
      ⟨cut.outside, edgeAfter_of_ne_nil edge true atStart ▸ cut.left, cut.right⟩

theorem startsBlank_of_append {segment rest : List Char}
    (blank : startsBlank (segment ++ rest) = true) : startsBlank segment = true := by
  cases segment with
  | nil => rfl
  | cons character after => exact blank

theorem CutInto.uncut_of_mem {depth : Nat} {edge : Bool} {segments : List (List Char)}
    {text segment : List Char} (cutInto : CutInto style operator depth edge segments text)
    (outside : depth = 0) (fits : edge = true ∨ startsBlank text = true)
    (member : segment ∈ segments) : Uncut style operator segment := by
  induction cutInto with
  | whole uncut =>
    obtain rfl := List.mem_singleton.mp member
    exact uncut_of_uncutFrom (outside ▸ uncut) fits
  | cut uncut between others inductionHypothesis =>
    rcases List.mem_cons.mp member with rfl | inOthers
    · exact uncut_of_uncutFrom (outside ▸ uncut) (fits.imp_right startsBlank_of_append)
    · exact inductionHypothesis rfl (.inr between.right) inOthers

/-- What is left of the first segment stands where the operator could be cut at. -/
theorem exists_between_of_segment (style : Bracketing) {edge : Bool} {segment rest : List Char}
    (fits : edge = true ∨ startsBlank (segment ++ rest) = true)
    (ends : edgeAfter edge segment = true ∨ startsBlank rest = true)
    (nonblank : trim segment ≠ []) :
    ∃ before after, segment ++ rest = before ++ trim segment ++ after ∧
      CutBetween style 0 edge before after := by
  obtain ⟨lead, trail, split, leadBlank, trailBlank⟩ := exists_eq_trim segment
  have first : startsBlank (trim segment) = false := by
    cases found : trim segment with
    | nil => exact absurd found nonblank
    | cons character after =>
      exact ((trim_eq_self_iff _).mp (trim_trim segment)).1 character (by rw [found]; rfl)
  refine ⟨lead, trail ++ rest, by rw [← List.append_assoc, ← split], ?_, ?_, ?_⟩
  · exact style.depth_of_no_bracket 0 fun character member =>
      isBracket_of_isBlank (leadBlank character member)
  · by_cases atStart : lead = []
    · rw [split, atStart, List.nil_append, List.append_assoc, startsBlank_append nonblank,
        first] at fits
      rw [atStart]
      exact fits.resolve_right Bool.false_ne_true
    · exact edgeAfter_of_allBlank leadBlank atStart edge
  · by_cases atEnd : trail = []
    · rw [split, atEnd, List.append_nil, edgeAfter_append,
        edgeAfter_of_trimmed (trim_trim segment) nonblank] at ends
      rw [atEnd]
      exact ends.resolve_left Bool.false_ne_true
    · rw [startsBlank_append atEnd]
      exact startsBlank_of_allBlank trailBlank

/-- What is left of a segment stands where the operator could be cut at. -/
theorem CutInto.exists_between {depth : Nat} {edge : Bool} {segments : List (List Char)}
    {text segment : List Char} (cutInto : CutInto style operator depth edge segments text)
    (outside : depth = 0) (fits : edge = true ∨ startsBlank text = true)
    (member : segment ∈ segments) (nonblank : trim segment ≠ []) :
    ∃ before after, text = before ++ trim segment ++ after ∧
      CutBetween style 0 edge before after := by
  induction cutInto with
  | @whole depth edge text uncut =>
    obtain rfl := List.mem_singleton.mp member
    rw [← List.append_nil segment] at fits
    have found := exists_between_of_segment style fits (.inr rfl) nonblank
    rwa [List.append_nil] at found
  | @cut depth edge first rest segments uncut between others inductionHypothesis =>
    rcases List.mem_cons.mp member with rfl | inOthers
    · exact exists_between_of_segment style fits (.inl between.left) nonblank
    · obtain ⟨before, after, rfl, around⟩ := inductionHypothesis rfl (.inr between.right) inOthers
      have nonempty : before ≠ [] := by
        rintro rfl
        cases around.left
      refine ⟨first ++ (operator.word ++ before), after, by simp, ?_, ?_, around.right⟩
      · have firstOutside := between.outside
        rw [outside] at firstOutside
        rw [Bracketing.depth_append, Bracketing.depth_append, firstOutside,
          style.depth_of_no_bracket 0 operator.word_no_bracket, around.outside]
      · rw [edgeAfter_append, edgeAfter_append, edgeAfter_of_ne_nil _ false nonempty, around.left]

/-! ### Counting pieces -/

/-- The pieces of a text that is entered at a depth and an edge. -/
def piecesFrom (style : Bracketing) (operator : Operator) (depth : Nat) (edge : Bool)
    (text : List Char) : List (List Char) :=
  (segments style operator.word depth edge 0 text).flatMap pieceOf

/-- A segment is nothing but blanks only if each of its parts is. -/
theorem length_pieceOf_le {part segment : List Char} (inside : part <:+: segment) :
    (pieceOf part).length ≤ (pieceOf segment).length := by
  rw [pieceOf, pieceOf]
  by_cases blank : trim segment = []
  · have partBlank : AllBlank part := fun character member =>
      (trim_eq_nil_iff segment).mp blank character (inside.subset member)
    rw [if_pos blank, if_pos ((trim_eq_nil_iff part).mpr partBlank)]
  · rw [if_neg blank]
    split <;> simp

theorem length_flatMap_consFirst (character : Char) (segments : List (List Char)) :
    (segments.flatMap pieceOf).length ≤
      ((consFirst character segments).flatMap pieceOf).length := by
  cases segments with
  | nil => exact Nat.zero_le _
  | cons segment others =>
    rw [consFirst, List.flatMap_cons, List.flatMap_cons, List.length_append, List.length_append]
    exact Nat.add_le_add_right (length_pieceOf_le (List.suffix_cons _ _).isInfix) _

/-- The pieces behind a place where the operator could be cut at are pieces of the whole. -/
theorem length_piecesFrom_append_left {depth : Nat} {edge : Bool} {before : List Char}
    (outside : style.depth depth before = 0) (left : edgeAfter edge before = true)
    (rest : List Char) :
    (piecesFrom style operator 0 true rest).length ≤
      (piecesFrom style operator depth edge (before ++ rest)).length := by
  induction size : before.length using Nat.strong_induction_on generalizing depth edge before with
  | _ size inductionHypothesis =>
    cases before with
    | nil =>
      have start : depth = 0 ∧ edge = true := ⟨outside, left⟩
      rw [start.1, start.2, List.nil_append]
    | cons character later =>
      rw [List.cons_append]
      cases here : cutsHere operator depth edge (character :: (later ++ rest)) with
      | false =>
        have fewer : (piecesFrom style operator 0 true rest).length ≤
            (piecesFrom style operator (style.depthAfter depth character) (isBlank character)
              (later ++ rest)).length :=
          inductionHypothesis later.length (by simp [← size]) outside left rfl
        refine fewer.trans ?_
        rw [piecesFrom, piecesFrom, segments_cons_of_not_cutsHere style operator here]
        exact length_flatMap_consFirst character _
      | true =>
        obtain ⟨rfl, rfl, after, found, right⟩ := (cutsHere_iff operator _ _ _).mp here
        rw [← List.cons_append] at found
        rcases List.append_eq_append_iff.mp found with ⟨tail, split, _⟩ | ⟨tail, split, rfl⟩
        · -- The last character in front of the rest is blank, so it is not in the operator.
          have last : isBlank ((character :: later).getLast (List.cons_ne_nil _ _)) = true := by
            rwa [← List.dropLast_concat_getLast (List.cons_ne_nil character later),
              edgeAfter_append] at left
          rw [operator.word_nonblank _
            (split ▸ List.mem_append_left _ (List.getLast_mem _))] at last
          cases last
        · rw [split, Bracketing.depth_append, style.depth_of_no_bracket 0 operator.word_no_bracket]
            at outside
          rw [split, edgeAfter_append, edgeAfter_word] at left
          have shorter := congrArg List.length split
          have positive := List.length_pos_of_ne_nil operator.word_ne_nil
          rw [size, List.length_append] at shorter
          rw [← List.cons_append, found, piecesFrom, piecesFrom, segments_word style operator right]
          exact inductionHypothesis tail.length (by omega) outside left rfl

/-- In front of a blank, a text has its segments also where it goes on: all but the last
are the same, and the last one goes on too. -/
theorem exists_segments_append (style : Bracketing) (operator : Operator) {rest : List Char}
    (blank : startsBlank rest = true) (depth : Nat) (edge : Bool) (text : List Char) :
    ∃ init last more others,
      segments style operator.word depth edge 0 text = init ++ [last] ∧
        segments style operator.word depth edge 0 (text ++ rest) =
          init ++ (last ++ more) :: others := by
  induction size : text.length using Nat.strong_induction_on generalizing depth edge text with
  | _ size inductionHypothesis =>
    cases text with
    | nil =>
      obtain ⟨more, others, split⟩ := List.exists_cons_of_ne_nil
        (segments_ne_nil style operator.word depth edge 0 rest)
      exact ⟨[], [], more, others, segments_nil style operator depth edge 0, split⟩
    | cons character later =>
      have same := cutsHere_append_blank operator blank depth edge (character :: later)
      cases here : cutsHere operator depth edge (character :: later) with
      | false =>
        rw [here, List.cons_append] at same
        obtain ⟨init, last, more, others, single, longer⟩ := inductionHypothesis later.length
          (by simp [← size]) (style.depthAfter depth character) (isBlank character) later rfl
        rw [List.cons_append, segments_cons_of_not_cutsHere style operator here,
          segments_cons_of_not_cutsHere style operator same, single, longer]
        cases init with
        | nil => exact ⟨[], character :: last, more, others, rfl, rfl⟩
        | cons first init => exact ⟨(character :: first) :: init, last, more, others, rfl, rfl⟩
      | true =>
        obtain ⟨rfl, rfl, after, found, right⟩ := (cutsHere_iff operator _ _ _).mp here
        have shorter := congrArg List.length found
        have positive := List.length_pos_of_ne_nil operator.word_ne_nil
        rw [size, List.length_append] at shorter
        obtain ⟨init, last, more, others, single, longer⟩ :=
          inductionHypothesis after.length (by omega) 0 false after rfl
        rw [found, List.append_assoc, segments_word style operator right, segments_word style
          operator ((startsBlank_append_blank blank after).trans right), single, longer]
        exact ⟨[] :: init, last, more, others, rfl, rfl⟩

/-- The pieces in front of a blank are pieces of the whole, or parts of them. -/
theorem length_piecesFrom_append_right {rest : List Char} (blank : startsBlank rest = true)
    (depth : Nat) (edge : Bool) (text : List Char) :
    (piecesFrom style operator depth edge text).length ≤
      (piecesFrom style operator depth edge (text ++ rest)).length := by
  obtain ⟨init, last, more, others, single, longer⟩ :=
    exists_segments_append style operator blank depth edge text
  have goesOn := length_pieceOf_le (List.prefix_append last more).isInfix
  rw [piecesFrom, piecesFrom, single, longer, List.flatMap_append, List.flatMap_append,
    List.flatMap_singleton, List.flatMap_cons]
  simp only [List.length_append]
  omega

/-! ### Pieces of pieces -/

/-- Where an operator could be cut at, a text has no more pieces than what is around it. -/
theorem length_pieces_le_of_between {before text after : List Char}
    (between : CutBetween style 0 true before after) :
    (pieces style operator.word text).length ≤
      (pieces style operator.word (before ++ text ++ after)).length := by
  rw [pieces_eq_flatMap, pieces_eq_flatMap, List.append_assoc]
  exact (length_piecesFrom_append_right between.right 0 true text).trans
    (length_piecesFrom_append_left between.outside between.left (text ++ after))

/-- A piece is not cut again by the operator that cut it out, and by either operator it is
cut into no more pieces than the text. -/
theorem length_pieces_of_mem_pieces {text piece : List Char}
    (member : piece ∈ pieces style operator.word text) :
    (pieces style operator.word piece).length < 2 ∧
      ∀ other : Operator, (pieces style other.word piece).length ≤
        (pieces style other.word text).length := by
  rw [pieces, List.mem_filter, List.mem_map] at member
  obtain ⟨⟨segment, inSegments, rfl⟩, nonempty⟩ := member
  have nonblank : trim segment ≠ [] := by simpa using nonempty
  have cutInto := cutInto_segments style operator 0 true text
  constructor
  · rw [pieces_trim]
    exact length_pieces_of_uncut style operator (cutInto.uncut_of_mem rfl (.inl rfl) inSegments)
  · intro other
    obtain ⟨before, after, split, between⟩ :=
      cutInto.exists_between rfl (.inl rfl) inSegments nonblank
    rw [split]
    exact length_pieces_le_of_between between

end PlaylistRules
