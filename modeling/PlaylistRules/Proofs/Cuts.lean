/-
This file says where a text is cut at an operator: where the operator stands as a
whole word outside every group. The scanner that cuts carries the depth of nesting
and whether the last character was blank. Both are determined by the text already
passed, so a cut depends on what lies before and behind it and on nothing else.

From that come the rules that later files use. A text without a cut stays whole, a
cut separates what comes before from what comes after, and every cut is surrounded
by blanks or the edge of the text.
-/

import Mathlib.Data.List.Forall2
import PlaylistRules.Proofs.Blank
import PlaylistRules.Filter.Grouping

namespace PlaylistRules

open Text

/-! ### Operators -/

/-- The two operators at which a text is cut. -/
inductive Operator where
  | and
  | or
deriving DecidableEq

/-- The operator as it is written. -/
def Operator.word : Operator → List Char
  | and => ['A', 'N', 'D']
  | or => ['O', 'R']

/-- Whether a character is a bracket of either shape. -/
def isBracket (character : Char) : Bool :=
  character == '[' || character == ']' || character == '(' || character == ')'

theorem Operator.word_ne_nil (operator : Operator) : operator.word ≠ [] := by
  cases operator <;> decide

theorem Operator.word_nonblank (operator : Operator) :
    ∀ character ∈ operator.word, isBlank character = false := by
  cases operator <;> decide

theorem Operator.word_no_bracket (operator : Operator) :
    ∀ character ∈ operator.word, isBracket character = false := by
  cases operator <;> decide

theorem Operator.not_mem_word (operator : Operator) {bracket : Char}
    (shape : isBracket bracket = true) : bracket ∉ operator.word := by
  intro member
  rw [operator.word_no_bracket bracket member] at shape
  cases shape

/-- A text that starts with a bracket does not start with an operator. -/
theorem Operator.head?_word_append (operator : Operator) {bracket : Char}
    (shape : isBracket bracket = true) (rest : List Char) :
    (operator.word ++ rest).head? ≠ some bracket := by
  intro head
  rw [List.head?_append_of_ne_nil _ operator.word_ne_nil] at head
  exact operator.not_mem_word shape (List.mem_of_mem_head? head)

theorem Bracketing.opens_of_no_bracket (style : Bracketing) {character : Char}
    (plain : isBracket character = false) : style.opens character = false := by
  simp only [isBracket, Bool.or_eq_false_iff] at plain
  cases style <;> simp [opens, plain]

theorem Bracketing.closes_of_no_bracket (style : Bracketing) {character : Char}
    (plain : isBracket character = false) : style.closes character = false := by
  simp only [isBracket, Bool.or_eq_false_iff] at plain
  cases style <;> simp [closes, plain]

/-! ### What the scanner carries -/

namespace Bracketing

/-- The depth of nesting after a text that is entered at the given depth. -/
def depth (style : Bracketing) (start : Nat) (text : List Char) : Nat :=
  text.foldl style.depthAfter start

@[simp]
theorem depth_nil (style : Bracketing) (start : Nat) : style.depth start [] = start := rfl

@[simp]
theorem depth_cons (style : Bracketing) (start : Nat) (character : Char) (rest : List Char) :
    style.depth start (character :: rest) = style.depth (style.depthAfter start character) rest :=
  rfl

theorem depth_append (style : Bracketing) (start : Nat) (first second : List Char) :
    style.depth start (first ++ second) = style.depth (style.depth start first) second :=
  List.foldl_append

theorem depth_of_no_bracket (style : Bracketing) (start : Nat) {text : List Char}
    (plain : ∀ character ∈ text, isBracket character = false) : style.depth start text = start := by
  induction text with
  | nil => rfl
  | cons character rest inductionHypothesis =>
    have head := plain character List.mem_cons_self
    rw [depth_cons, depthAfter, style.opens_of_no_bracket head, style.closes_of_no_bracket head]
    exact inductionHypothesis fun other member => plain other (List.mem_cons_of_mem _ member)

end Bracketing

/-- Whether a text that is entered at an edge, or not, is left at an edge: at its
own end that means behind a blank. -/
def edgeAfter (edge : Bool) (text : List Char) : Bool :=
  text.foldl (fun _ character => isBlank character) edge

theorem edgeAfter_nil (edge : Bool) : edgeAfter edge [] = edge := rfl

theorem edgeAfter_append (edge : Bool) (first second : List Char) :
    edgeAfter edge (first ++ second) = edgeAfter (edgeAfter edge first) second :=
  List.foldl_append

/-- Behind a nonempty text it does not matter how the text was entered. -/
theorem edgeAfter_of_ne_nil (edge other : Bool) {text : List Char} (nonempty : text ≠ []) :
    edgeAfter edge text = edgeAfter other text := by
  cases text with
  | nil => exact absurd rfl nonempty
  | cons character rest => rfl

theorem edgeAfter_of_allBlank {text : List Char} (blank : AllBlank text) (nonempty : text ≠ [])
    (edge : Bool) : edgeAfter edge text = true := by
  rw [← List.dropLast_concat_getLast nonempty, edgeAfter_append]
  exact blank _ (List.getLast_mem nonempty)

/-- A trimmed text that is not empty ends away from an edge. -/
theorem edgeAfter_of_trimmed {text : List Char} (trimmed : trim text = text) (nonempty : text ≠ [])
    (edge : Bool) : edgeAfter edge text = false := by
  have last := ((trim_eq_self_iff text).mp trimmed).2 _ (List.getLast?_eq_some_getLast nonempty)
  rw [← List.dropLast_concat_getLast nonempty, edgeAfter_append]
  exact last

theorem startsBlank_append {text : List Char} (nonempty : text ≠ []) (rest : List Char) :
    startsBlank (text ++ rest) = startsBlank text := by
  cases text with
  | nil => exact absurd rfl nonempty
  | cons character after => rfl

theorem startsBlank_of_allBlank {text : List Char} (blank : AllBlank text) :
    startsBlank text = true := by
  cases text with
  | nil => rfl
  | cons character rest => exact blank character List.mem_cons_self

/-! ### Cuts -/

/-- Between the two texts an operator is cut at: nothing is open there, and a blank
or the edge stands on either side. The text before is entered at a depth and, if
`edge` says so, at an edge. -/
structure CutBetween (style : Bracketing) (depth : Nat) (edge : Bool)
    (before after : List Char) : Prop where
  outside : style.depth depth before = 0
  left : edgeAfter edge before = true
  right : startsBlank after = true

instance (style : Bracketing) (depth : Nat) (edge : Bool) (before after : List Char) :
    Decidable (CutBetween style depth edge before after) :=
  decidable_of_iff (style.depth depth before = 0 ∧ edgeAfter edge before = true ∧
      startsBlank after = true)
    ⟨fun ⟨outside, left, right⟩ => ⟨outside, left, right⟩,
      fun cut => ⟨cut.outside, cut.left, cut.right⟩⟩

/-- A text that the operator cuts nowhere, when it is entered at a depth and an
edge. -/
def UncutFrom (style : Bracketing) (operator : Operator) (depth : Nat) (edge : Bool)
    (text : List Char) : Prop :=
  ∀ before after, text = before ++ operator.word ++ after →
    ¬ CutBetween style depth edge before after

/-- A text that the operator cuts nowhere. -/
def Uncut (style : Bracketing) (operator : Operator) (text : List Char) : Prop :=
  UncutFrom style operator 0 true text

theorem afterPrefix?_eq_some_iff (lead text rest : List Char) :
    afterPrefix? lead text = some rest ↔ text = lead ++ rest := by
  induction lead generalizing text with
  | nil => simp [afterPrefix?, eq_comm]
  | cons first lead inductionHypothesis =>
    cases text with
    | nil => simp [afterPrefix?]
    | cons character after =>
      by_cases same : first = character
      · simp [afterPrefix?, same, inductionHypothesis]
      · simp [afterPrefix?, same, Ne.symm same]

theorem startsWithWord_iff (word text : List Char) :
    startsWithWord word text = true ↔ ∃ rest, text = word ++ rest ∧ startsBlank rest = true := by
  cases found : afterPrefix? word text with
  | none =>
    simp only [startsWithWord, found, Bool.false_eq_true, false_iff]
    rintro ⟨rest, split, _⟩
    rw [(afterPrefix?_eq_some_iff word text rest).mpr split] at found
    cases found
  | some rest =>
    have split := (afterPrefix?_eq_some_iff word text rest).mp found
    simp only [startsWithWord, found]
    constructor
    · exact fun blank => ⟨rest, split, blank⟩
    · rintro ⟨other, otherSplit, blank⟩
      rwa [List.append_cancel_left (split.symm.trans otherSplit)]

/-! ### The scanner step by step -/

/-- Whether the scanner cuts before the text, in the given state. -/
def cutsHere (operator : Operator) (depth : Nat) (edge : Bool) (text : List Char) : Bool :=
  depth == 0 && edge && startsWithWord operator.word text

variable (style : Bracketing) (operator : Operator)

theorem segments_nil (depth : Nat) (edge : Bool) (skipped : Nat) :
    segments style operator.word depth edge skipped [] = [[]] := by
  rw [segments]

/-- A character at which nothing is cut joins the first segment of the rest. -/
theorem segments_cons_of_not_cutsHere {depth : Nat} {edge : Bool} {character : Char}
    {rest : List Char} (uncut : cutsHere operator depth edge (character :: rest) = false) :
    segments style operator.word depth edge 0 (character :: rest) =
      consFirst character (segments style operator.word (style.depthAfter depth character)
        (isBlank character) 0 rest) := by
  rw [segments, if_neg]
  simp only [cutsHere, Bool.and_assoc] at uncut
  simp [Bool.and_assoc, uncut]

/-- At a cut a new segment begins behind the operator, away from an edge. -/
theorem segments_word {rest : List Char} (blank : startsBlank rest = true) :
    segments style operator.word 0 true 0 (operator.word ++ rest) =
      [] :: segments style operator.word 0 false 0 rest := by
  have starts : startsWithWord operator.word (operator.word ++ rest) = true :=
    (startsWithWord_iff _ _).mpr ⟨rest, rfl, blank⟩
  cases operator <;> cases style <;>
    simp_all [segments, Operator.word, Bracketing.opens, Bracketing.closes]

theorem segments_ne_nil (word : List Char) (depth : Nat) (edge : Bool) (skipped : Nat)
    (text : List Char) : segments style word depth edge skipped text ≠ [] := by
  induction text generalizing depth edge skipped with
  | nil => simp [segments]
  | cons character rest inductionHypothesis =>
    cases skipped with
    | succ skipped =>
      rw [segments]
      exact inductionHypothesis _ _ _
    | zero =>
      rw [segments]
      split
      · exact List.cons_ne_nil _ _
      · unfold consFirst
        split <;> exact List.cons_ne_nil _ _

theorem consFirst_eq_modifyHead (character : Char) {parts : List (List Char)}
    (nonempty : parts ≠ []) : consFirst character parts = parts.modifyHead (character :: ·) := by
  cases parts with
  | nil => exact absurd rfl nonempty
  | cons part rest => rfl

/-- The scanner passes over a text in which it cuts nowhere, and goes on behind it
in the state that the text leaves. -/
theorem segments_append {depth : Nat} {edge : Bool} {lead rest : List Char}
    (uncut : ∀ before after, lead = before ++ after → after ≠ [] →
      cutsHere operator (style.depth depth before) (edgeAfter edge before)
        (after ++ rest) = false) :
    segments style operator.word depth edge 0 (lead ++ rest) =
      (segments style operator.word (style.depth depth lead) (edgeAfter edge lead) 0
        rest).modifyHead (lead ++ ·) := by
  induction lead generalizing depth edge with
  | nil =>
    obtain ⟨part, parts, split⟩ := List.exists_cons_of_ne_nil
      (segments_ne_nil style operator.word depth edge 0 rest)
    simp [split, edgeAfter_nil]
  | cons character lead inductionHypothesis =>
    have here : cutsHere operator depth edge (character :: (lead ++ rest)) = false :=
      uncut [] (character :: lead) rfl (List.cons_ne_nil _ _)
    rw [List.cons_append, segments_cons_of_not_cutsHere style operator here, inductionHypothesis,
      consFirst_eq_modifyHead, List.modifyHead_modifyHead]
    · rfl
    · exact fun empty => segments_ne_nil style operator.word _ _ 0 rest
        (List.modifyHead_eq_nil_iff.mp empty)
    · intro before after split nonempty
      exact uncut (character :: before) after (by rw [split, List.cons_append]) nonempty

/-! ### Texts without a cut -/

theorem cutsHere_iff (depth : Nat) (edge : Bool) (text : List Char) :
    cutsHere operator depth edge text = true ↔
      depth = 0 ∧ edge = true ∧
        ∃ rest, text = operator.word ++ rest ∧ startsBlank rest = true := by
  simp only [cutsHere, Bool.and_eq_true, beq_iff_eq, startsWithWord_iff, and_assoc]

/-- A word that begins inside a text and has no blanks ends inside it too, if the text
goes on with a blank. -/
theorem prefix_of_startsBlank {word text rest after : List Char}
    (nonblank : ∀ character ∈ word, isBlank character = false)
    (blank : startsBlank rest = true) (split : text ++ rest = word ++ after) :
    ∃ tail, text = word ++ tail ∧ after = tail ++ rest := by
  rcases List.append_eq_append_iff.mp split with ⟨tail, wordSplit, restSplit⟩ | found
  · cases tail with
    | nil =>
      rw [List.append_nil] at wordSplit
      exact ⟨[], by rw [List.append_nil, wordSplit], restSplit.symm⟩
    | cons first tail =>
      have member : first ∈ word := by
        rw [wordSplit]
        exact List.mem_append_right _ List.mem_cons_self
      rw [restSplit, List.cons_append] at blank
      rw [startsBlank, nonblank first member] at blank
      cases blank
  · exact found

/-- In front of a blank or the edge, a text without a cut is passed over whole. -/
theorem segments_append_of_uncut {depth : Nat} {edge : Bool} {lead rest : List Char}
    (uncut : UncutFrom style operator depth edge lead) (blank : startsBlank rest = true) :
    segments style operator.word depth edge 0 (lead ++ rest) =
      (segments style operator.word (style.depth depth lead) (edgeAfter edge lead) 0
        rest).modifyHead (lead ++ ·) := by
  refine segments_append style operator fun before after split _ => ?_
  by_contra cut
  obtain ⟨outside, left, other, found, right⟩ :=
    (cutsHere_iff operator _ _ _).mp (Bool.not_eq_false _ ▸ cut)
  obtain ⟨tail, afterSplit, otherSplit⟩ :=
    prefix_of_startsBlank operator.word_nonblank blank found
  refine uncut before tail (by rw [split, afterSplit, List.append_assoc]) ⟨outside, left, ?_⟩
  cases tail with
  | nil => rfl
  | cons character tail =>
    rw [otherSplit] at right
    exact right

/-- The scanner finds a single segment exactly when there is no cut. -/
theorem segments_eq_singleton_iff (depth : Nat) (edge : Bool) (text : List Char) :
    segments style operator.word depth edge 0 text = [text] ↔
      UncutFrom style operator depth edge text := by
  constructor
  · intro single before after split cut
    -- The first cut of the text ends its first segment, so there are two of them.
    induction before generalizing depth edge text with
    | nil =>
      have stop : depth = 0 ∧ edge = true := ⟨cut.outside, cut.left⟩
      rw [stop.1, stop.2, split, List.nil_append, segments_word style operator cut.right] at single
      obtain ⟨empty, none⟩ := List.cons.inj single
      exact segments_ne_nil style operator.word 0 false 0 after none
    | cons character before inductionHypothesis =>
      subst split
      cases here : cutsHere operator depth edge (character :: before ++ operator.word ++ after) with
      | true =>
        obtain ⟨outside, left, rest, found, blank⟩ := (cutsHere_iff operator _ _ _).mp here
        rw [outside, left, found, segments_word style operator blank] at single
        obtain ⟨empty, none⟩ := List.cons.inj single
        exact segments_ne_nil style operator.word 0 false 0 rest none
      | false =>
        rw [List.cons_append, List.cons_append] at single here
        rw [segments_cons_of_not_cutsHere style operator here, consFirst_eq_modifyHead _
          (segments_ne_nil style operator.word _ _ 0 _)] at single
        refine inductionHypothesis (style.depthAfter depth character) (isBlank character)
          (before ++ operator.word ++ after) ?_ rfl ⟨cut.outside, cut.left, cut.right⟩
        obtain ⟨part, parts, found⟩ := List.exists_cons_of_ne_nil (segments_ne_nil style
          operator.word (style.depthAfter depth character) (isBlank character) 0
          (before ++ operator.word ++ after))
        rw [found, List.modifyHead_cons, List.cons.injEq, List.cons.injEq] at single
        rw [found, single.1.2, single.2]
  · intro uncut
    have whole := segments_append_of_uncut style operator uncut
      (show startsBlank [] = true from rfl)
    rw [List.append_nil, segments_nil] at whole
    rw [whole, List.modifyHead_cons, List.append_nil]

instance (depth : Nat) (edge : Bool) (text : List Char) :
    Decidable (UncutFrom style operator depth edge text) :=
  decidable_of_iff _ (segments_eq_singleton_iff style operator depth edge text)

instance (text : List Char) : Decidable (Uncut style operator text) :=
  inferInstanceAs (Decidable (UncutFrom style operator 0 true text))

/-- A text without blanks is cut only if it is the operator itself. -/
theorem uncut_of_nonblank {text : List Char}
    (nonblank : ∀ character ∈ text, isBlank character = false)
    (different : text ≠ operator.word) : Uncut style operator text := by
  intro before after split cut
  have atStart : before = [] := by
    by_contra nonempty
    have last : isBlank (before.getLast nonempty) = true := by
      have left := cut.left
      rwa [← List.dropLast_concat_getLast nonempty, edgeAfter_append] at left
    rw [nonblank _ (by simp [split, List.getLast_mem])] at last
    cases last
  have atEnd : after = [] := by
    have right := cut.right
    cases after with
    | nil => rfl
    | cons character rest =>
      rw [startsBlank, nonblank character (by simp [split])] at right
      cases right
  exact different (by rw [split, atStart, atEnd, List.append_nil, List.nil_append])

/-! ### Pieces -/

/-- What is left of a segment: nothing if it is blank. -/
def pieceOf (segment : List Char) : List (List Char) :=
  if trim segment = [] then [] else [trim segment]

theorem pieces_eq_flatMap (word text : List Char) :
    pieces style word text = (segments style word 0 true 0 text).flatMap pieceOf := by
  rw [pieces]
  induction segments style word 0 true 0 text with
  | nil => rfl
  | cons segment rest inductionHypothesis =>
    rw [List.map_cons, List.flatMap_cons, ← inductionHypothesis, pieceOf]
    by_cases blank : trim segment = []
    · rw [if_pos blank, List.filter_cons_of_neg (by simp [blank]), List.nil_append]
    · rw [if_neg blank, List.filter_cons_of_pos (by simp [blank]), List.singleton_append]

theorem pieceOf_of_nonblank {segment : List Char} (nonblank : trim segment ≠ []) :
    pieceOf segment = [trim segment] :=
  if_neg nonblank

theorem pieces_of_uncut {text : List Char} (uncut : Uncut style operator text) :
    pieces style operator.word text = pieceOf text := by
  rw [pieces_eq_flatMap, (segments_eq_singleton_iff style operator 0 true text).mpr uncut,
    List.flatMap_singleton]

/-- Text without a cut has fewer than two pieces. -/
theorem length_pieces_of_uncut {text : List Char} (uncut : Uncut style operator text) :
    (pieces style operator.word text).length < 2 := by
  rw [pieces_of_uncut style operator uncut, pieceOf]
  split <;> simp

/-! ### Blanks around a cut -/

theorem isBracket_of_isBlank {character : Char} (blank : isBlank character = true) :
    isBracket character = false := by
  by_contra bracket
  rw [Bool.not_eq_false] at bracket
  simp only [isBracket, Bool.or_eq_true, beq_iff_eq] at bracket
  rcases bracket with ((rfl | rfl) | rfl) | rfl <;> exact absurd blank (by decide)

/-- No operator begins with a blank. -/
theorem not_cutsHere_of_startsBlank (depth : Nat) (edge : Bool) {text : List Char}
    (blank : startsBlank text = true) :
    cutsHere operator depth edge text = false := by
  by_contra cut
  obtain ⟨_, _, tail, found, _⟩ := (cutsHere_iff operator _ _ _).mp (Bool.not_eq_false _ ▸ cut)
  obtain ⟨first, word, split⟩ := List.exists_cons_of_ne_nil operator.word_ne_nil
  have nonblank := operator.word_nonblank first (by rw [split]; exact List.mem_cons_self)
  rw [found, split, List.cons_append, startsBlank, nonblank] at blank
  cases blank

/-- Blanks are passed over, and behind them the scanner is at an edge. -/
theorem segments_append_of_allBlank {gap : List Char} (blank : AllBlank gap) (nonempty : gap ≠ [])
    (depth : Nat) (edge : Bool) (rest : List Char) :
    segments style operator.word depth edge 0 (gap ++ rest) =
      (segments style operator.word depth true 0 rest).modifyHead (gap ++ ·) := by
  rw [segments_append, edgeAfter_of_allBlank blank nonempty, style.depth_of_no_bracket]
  · exact fun character member => isBracket_of_isBlank (blank character member)
  · intro before after split afterNonempty
    refine not_cutsHere_of_startsBlank operator _ _ ?_
    rw [startsBlank_append afterNonempty]
    refine startsBlank_of_allBlank fun character member => blank character ?_
    rw [split]
    exact List.mem_append_right _ member

theorem pieceOf_append_left {gap : List Char} (blank : AllBlank gap) (segment : List Char) :
    pieceOf (gap ++ segment) = pieceOf segment := by
  rw [pieceOf, pieceOf, trim_append_left blank]

theorem pieceOf_append_right (segment : List Char) {gap : List Char} (blank : AllBlank gap) :
    pieceOf (segment ++ gap) = pieceOf segment := by
  rw [pieceOf, pieceOf, trim_append_right segment blank]

/-- Blanks in front of a text are no part of its pieces, whether or not the scanner
enters them at an edge. -/
theorem flatMap_pieceOf_append_left {gap : List Char} (blank : AllBlank gap) (nonempty : gap ≠ [])
    (edge : Bool) (text : List Char) :
    (segments style operator.word 0 edge 0 (gap ++ text)).flatMap pieceOf =
      pieces style operator.word text := by
  obtain ⟨part, parts, found⟩ :=
    List.exists_cons_of_ne_nil (segments_ne_nil style operator.word 0 true 0 text)
  rw [segments_append_of_allBlank style operator blank nonempty, pieces_eq_flatMap, found,
    List.modifyHead_cons, List.flatMap_cons, List.flatMap_cons, pieceOf_append_left blank]

/-- A text without a cut that leaves nothing open is the first segment in front of the
operator between blanks. -/
theorem segments_append_word {clause before after : List Char} (uncut : Uncut style operator clause)
    (closed : style.depth 0 clause = 0) (beforeBlank : AllBlank before)
    (beforeNonempty : before ≠ []) (afterBlank : AllBlank after) (afterNonempty : after ≠ [])
    (rest : List Char) :
    segments style operator.word 0 true 0
        (clause ++ (before ++ (operator.word ++ (after ++ rest)))) =
      (clause ++ before) ::
        (segments style operator.word 0 true 0 rest).modifyHead (after ++ ·) := by
  have goesOn : startsBlank (before ++ (operator.word ++ (after ++ rest))) = true := by
    rw [startsBlank_append beforeNonempty]
    exact startsBlank_of_allBlank beforeBlank
  have behind : startsBlank (after ++ rest) = true := by
    rw [startsBlank_append afterNonempty]
    exact startsBlank_of_allBlank afterBlank
  rw [segments_append_of_uncut style operator uncut goesOn, closed,
    segments_append_of_allBlank style operator beforeBlank beforeNonempty,
    segments_word style operator behind, List.modifyHead_cons, List.modifyHead_cons,
    List.append_nil, segments_append_of_allBlank style operator afterBlank afterNonempty]

/-- In the same place it is the first piece. -/
theorem pieces_append_word {clause before after : List Char} (uncut : Uncut style operator clause)
    (closed : style.depth 0 clause = 0) (beforeBlank : AllBlank before)
    (beforeNonempty : before ≠ []) (afterBlank : AllBlank after) (afterNonempty : after ≠ [])
    (rest : List Char) :
    pieces style operator.word (clause ++ (before ++ (operator.word ++ (after ++ rest)))) =
      pieceOf clause ++ pieces style operator.word rest := by
  rw [pieces_eq_flatMap, segments_append_word style operator uncut closed beforeBlank
    beforeNonempty afterBlank afterNonempty, List.flatMap_cons, pieceOf_append_right clause
    beforeBlank, ← segments_append_of_allBlank style operator afterBlank afterNonempty 0 true,
    flatMap_pieceOf_append_left style operator afterBlank afterNonempty]

/-- A text without a cut that leaves nothing open stays with what follows it behind blanks. -/
theorem segments_append_gap {clause gap : List Char} (uncut : Uncut style operator clause)
    (closed : style.depth 0 clause = 0) (blank : AllBlank gap) (nonempty : gap ≠ [])
    (rest : List Char) :
    segments style operator.word 0 true 0 (clause ++ gap ++ rest) =
      (segments style operator.word 0 true 0 rest).modifyHead (clause ++ gap ++ ·) := by
  have goesOn : startsBlank (gap ++ rest) = true := by
    rw [startsBlank_append nonempty]
    exact startsBlank_of_allBlank blank
  rw [List.append_assoc, segments_append_of_uncut style operator uncut goesOn, closed,
    segments_append_of_allBlank style operator blank nonempty, List.modifyHead_modifyHead]
  congr 1
  funext part
  simp

theorem uncutFrom_of_allBlank {text : List Char} (blank : AllBlank text) (depth : Nat)
    (edge : Bool) : UncutFrom style operator depth edge text := by
  intro before after split _
  obtain ⟨first, word, found⟩ := List.exists_cons_of_ne_nil operator.word_ne_nil
  have inWord : first ∈ operator.word := found ▸ List.mem_cons_self
  have isBlankFirst := blank first (by simp [split, inWord])
  rw [operator.word_nonblank first inWord] at isBlankFirst
  cases isBlankFirst

theorem startsBlank_append_blank {trail : List Char} (blank : startsBlank trail = true)
    (text : List Char) : startsBlank (text ++ trail) = startsBlank text := by
  cases text with
  | nil => exact blank
  | cons character rest => rfl

/-- Where the scanner cuts, blanks behind the text do not matter. -/
theorem cutsHere_append_blank {trail : List Char} (blank : startsBlank trail = true) (depth : Nat)
    (edge : Bool) (text : List Char) :
    cutsHere operator depth edge (text ++ trail) = cutsHere operator depth edge text := by
  rw [Bool.eq_iff_iff, cutsHere_iff, cutsHere_iff]
  refine and_congr_right fun _ => and_congr_right fun _ => ⟨?_, ?_⟩
  · rintro ⟨rest, split, right⟩
    obtain ⟨tail, textSplit, rfl⟩ := prefix_of_startsBlank operator.word_nonblank blank split
    exact ⟨tail, textSplit, startsBlank_append_blank blank tail ▸ right⟩
  · rintro ⟨rest, rfl, right⟩
    exact ⟨rest ++ trail, List.append_assoc .., (startsBlank_append_blank blank rest).trans right⟩

/-- Two texts without a cut have none with blanks between them either. -/
theorem uncut_append_gap {clause gap rest : List Char} (uncut : Uncut style operator clause)
    (closed : style.depth 0 clause = 0) (blank : AllBlank gap) (nonempty : gap ≠ [])
    (restUncut : Uncut style operator rest) : Uncut style operator (clause ++ gap ++ rest) := by
  refine (segments_eq_singleton_iff style operator 0 true _).mp ?_
  rw [segments_append_gap style operator uncut closed blank nonempty,
    (segments_eq_singleton_iff style operator 0 true rest).mpr restUncut, List.modifyHead_cons]

/-- A word in front of a text, without a blank between them, does not let an operator
cut the text. -/
theorem uncut_append_of_nonblank {lead rest : List Char}
    (plain : ∀ character ∈ lead, isBlank character = false ∧ isBracket character = false)
    (nonempty : lead ≠ []) (other : lead.head? ≠ operator.word.head?)
    (uncut : Uncut style operator rest) : Uncut style operator (lead ++ rest) := by
  intro before after split cut
  by_cases atStart : before = []
  · subst atStart
    apply other
    rw [← List.head?_append_of_ne_nil lead nonempty, split, List.nil_append,
      List.head?_append_of_ne_nil _ operator.word_ne_nil]
  · have left := cut.left
    rw [List.append_assoc] at split
    rcases List.append_eq_append_iff.mp split with ⟨part, found, restSplit⟩ | ⟨part, found, _⟩
    · by_cases none : part = []
      · rw [found, none, List.append_nil] at left
        rw [edgeAfter_of_trimmed ((trim_eq_self_iff lead).mpr
          ⟨fun character first => (plain character (List.mem_of_mem_head? first)).1,
          fun character last => (plain character (List.mem_of_mem_getLast? last)).1⟩)
          nonempty] at left
        cases left
      · refine uncut part after (by rw [restSplit, List.append_assoc]) ⟨?_, ?_, cut.right⟩
        · have outside := cut.outside
          rwa [found, Bracketing.depth_append, style.depth_of_no_bracket 0
            fun character member => (plain character member).2] at outside
        · rwa [found, edgeAfter_append, edgeAfter_of_ne_nil _ true none] at left
    · have inLead : before.getLast atStart ∈ lead := by
        rw [found]
        exact List.mem_append_left _ (List.getLast_mem atStart)
      have last : isBlank (before.getLast atStart) = true := by
        rwa [← List.dropLast_concat_getLast atStart, edgeAfter_append] at left
      rw [(plain _ inLead).1] at last
      cases last

/-- The text with blanks behind it. -/
def WithBlanks (longer text : List Char) : Prop :=
  ∃ blanks, AllBlank blanks ∧ longer = text ++ blanks

theorem WithBlanks.consFirst {longer parts : List (List Char)} (character : Char)
    (each : List.Forall₂ WithBlanks longer parts) :
    List.Forall₂ WithBlanks (consFirst character longer) (consFirst character parts) := by
  cases each with
  | nil => exact .cons ⟨[], allBlank_nil, rfl⟩ .nil
  | cons first others =>
    obtain ⟨blanks, blank, rfl⟩ := first
    exact .cons ⟨blanks, blank, rfl⟩ others

/-- Blanks behind a text end up in its last segment. -/
theorem segments_append_trail {trail : List Char} (blank : AllBlank trail) (depth : Nat)
    (edge : Bool) (text : List Char) :
    List.Forall₂ WithBlanks (segments style operator.word depth edge 0 (text ++ trail))
      (segments style operator.word depth edge 0 text) := by
  induction size : text.length using Nat.strong_induction_on generalizing depth edge text with
  | _ size inductionHypothesis =>
    cases text with
    | nil =>
      rw [List.nil_append, segments_nil, (segments_eq_singleton_iff style operator depth edge
        trail).mpr (uncutFrom_of_allBlank style operator blank depth edge)]
      exact .cons ⟨trail, blank, rfl⟩ .nil
    | cons character rest =>
      have same := cutsHere_append_blank operator (startsBlank_of_allBlank blank) depth edge
        (character :: rest)
      cases here : cutsHere operator depth edge (character :: rest) with
      | true =>
        obtain ⟨rfl, rfl, after, found, right⟩ := (cutsHere_iff operator _ _ _).mp here
        rw [found, List.append_assoc, segments_word style operator right,
          segments_word style operator
          ((startsBlank_append_blank (startsBlank_of_allBlank blank) after).trans right)]
        refine .cons ⟨[], allBlank_nil, rfl⟩ (inductionHypothesis after.length ?_ _ _ after rfl)
        have positive := List.length_pos_of_ne_nil operator.word_ne_nil
        rw [← size, found, List.length_append]
        omega
      | false =>
        rw [here, List.cons_append] at same
        rw [segments_cons_of_not_cutsHere style operator here, List.cons_append,
          segments_cons_of_not_cutsHere style operator same]
        exact WithBlanks.consFirst character
          (inductionHypothesis rest.length (by simp [← size]) _ _ rest rfl)

/-- Blanks around a text are no part of its pieces. -/
theorem pieces_trim (text : List Char) :
    pieces style operator.word (trim text) = pieces style operator.word text := by
  obtain ⟨lead, trail, split, leadBlank, trailBlank⟩ := exists_eq_trim text
  have withoutTrail : pieces style operator.word (lead ++ trim text ++ trail) =
      pieces style operator.word (lead ++ trim text) := by
    rw [pieces_eq_flatMap, pieces_eq_flatMap]
    have same := segments_append_trail style operator trailBlank 0 true (lead ++ trim text)
    revert same
    generalize segments style operator.word 0 true 0 (lead ++ trim text ++ trail) = longer
    generalize segments style operator.word 0 true 0 (lead ++ trim text) = shorter
    intro same
    induction same with
    | nil => rfl
    | cons first _ inductionHypothesis =>
      obtain ⟨blanks, blank, rfl⟩ := first
      rw [List.flatMap_cons, List.flatMap_cons, pieceOf_append_right _ blank, inductionHypothesis]
  conv_rhs => rw [split, withoutTrail]
  by_cases empty : lead = []
  · rw [empty, List.nil_append]
  · rw [pieces_eq_flatMap _ _ (lead ++ trim text),
      flatMap_pieceOf_append_left style operator leadBlank empty]

end PlaylistRules
