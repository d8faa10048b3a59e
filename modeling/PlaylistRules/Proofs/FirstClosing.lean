/-
This file compares how delimiters come off with where the first of them is closed: at the
first position up to which the text has as many closers as openers. They come off if that
is the end of the text, and stay on if it lies before the end. If there is no such
position, because more is opened than closed, they come off too, although the last
delimiter then closes a later one. The inside is balanced in the first of the three cases
only.
-/

import Mathlib.Data.List.Count
import PlaylistRules.Proofs.Balance

namespace PlaylistRules

open Text

/-! ### Where the first delimiter is closed -/

/-- Whether the text up to a position, that position included, has as many closers as
openers. -/
def EvenAt (style : Bracketing) (text : List Char) (position : Nat) : Prop :=
  (text.take (position + 1)).count style.opener = (text.take (position + 1)).count style.closer

instance (style : Bracketing) (text : List Char) (position : Nat) :
    Decidable (EvenAt style text position) :=
  inferInstanceAs (Decidable (_ = _))

/-- The first position at which openers and closers balance. In a text that starts with an
opener, that opener is closed there. -/
def firstClosing? (style : Bracketing) (text : List Char) : Option Nat :=
  (List.range text.length).find? (EvenAt style text ·)

theorem firstClosing?_eq_some_iff (style : Bracketing) (text : List Char) (position : Nat) :
    firstClosing? style text = some position ↔
      position < text.length ∧ EvenAt style text position ∧
        ∀ earlier < position, ¬ EvenAt style text earlier := by
  rw [firstClosing?, List.find?_range_eq_some]
  simp only [decide_eq_true_eq, List.mem_range, Bool.not_eq_true', decide_eq_false_iff_not]
  tauto

theorem firstClosing?_eq_none_iff (style : Bracketing) (text : List Char) :
    firstClosing? style text = none ↔ ∀ position < text.length, ¬ EvenAt style text position := by
  rw [firstClosing?, List.find?_range_eq_none]
  simp only [Bool.not_eq_true', decide_eq_false_iff_not]

/-! ### Delimiters around a text -/

variable {style : Bracketing} {body : List Char}

/-- The text of a body in delimiters. -/
def Bracketing.enclose (style : Bracketing) (body : List Char) : List Char :=
  style.opener :: body ++ [style.closer]

@[simp]
theorem Bracketing.length_enclose (style : Bracketing) (body : List Char) :
    (style.enclose body).length = body.length + 2 := by
  simp [enclose]

/-- Inside, openers and closers balance where the body has closed one more than it has
opened. -/
theorem evenAt_enclose_iff {position : Nat} (inside : position ≤ body.length) :
    EvenAt style (style.enclose body) position ↔
      (body.take position).count style.closer = (body.take position).count style.opener + 1 := by
  have front : (style.enclose body).take (position + 1) = style.opener :: body.take position := by
    rw [Bracketing.enclose, List.cons_append, List.take_succ_cons,
      List.take_append_of_le_length inside]
  rw [EvenAt, front, List.count_cons_self, List.count_cons_of_ne style.opener_ne_closer]
  exact eq_comm

/-- At the end they balance if they do in the body. -/
theorem evenAt_enclose_end_iff :
    EvenAt style (style.enclose body) (body.length + 1) ↔
      body.count style.closer = body.count style.opener := by
  have whole : (style.enclose body).take (body.length + 1 + 1) = style.enclose body :=
    List.take_of_length_le (by simp)
  rw [EvenAt, whole, Bracketing.enclose, List.count_append, List.count_append,
    List.count_cons_self, List.count_cons_of_ne style.opener_ne_closer, List.count_singleton_self,
    List.count_singleton, if_neg (by simp [Ne.symm style.opener_ne_closer])]
  omega

/-- Before a text closes more than it opens, it closes just one more. -/
theorem exists_prefix_of_surplus {opener closer : Char} {text : List Char}
    (surplus : text.count opener < text.count closer) :
    ∃ before, before <+: text ∧ before.count closer = before.count opener + 1 := by
  induction text using List.reverseRecOn with
  | nil => cases surplus
  | append_singleton text last inductionHypothesis =>
    by_cases already : text.count opener < text.count closer
    · obtain ⟨before, lead, one⟩ := inductionHypothesis already
      exact ⟨before, lead.trans (List.prefix_append _ _), one⟩
    · refine ⟨text ++ [last], List.prefix_refl _, ?_⟩
      have step : [last].count closer ≤ 1 := List.count_le_length
      rw [List.count_append, List.count_append] at surplus ⊢
      omega

/-- The first delimiter stays open up to the last one exactly if it is closed there or
nowhere. -/
theorem staysOpen_iff_firstClosing? :
    staysOpen style.opener style.closer 1 body = true ↔
      ∀ position ∈ firstClosing? style (style.enclose body), position = body.length + 1 := by
  refine (staysOpen_iff style.opener_ne_closer 0 body).trans ?_
  constructor
  · intro covered position found
    obtain ⟨within, even, -⟩ := (firstClosing?_eq_some_iff _ _ _).mp found
    rw [Bracketing.length_enclose] at within
    by_contra early
    have one := (evenAt_enclose_iff (by omega)).mp even
    have bound := covered _ (List.take_prefix position body)
    simp only [List.count] at one
    omega
  · intro late before lead
    rw [Nat.zero_add]
    by_contra surplus
    obtain ⟨part, inPart, one⟩ := exists_prefix_of_surplus (Nat.lt_of_not_le surplus)
    obtain ⟨rest, split⟩ := inPart.trans lead
    have short : part.length ≤ body.length := by simp [← split]
    have even : EvenAt style (style.enclose body) part.length := by
      rw [evenAt_enclose_iff short, ← split, List.take_left, one]
    cases found : firstClosing? style (style.enclose body) with
    | none =>
      rw [firstClosing?_eq_none_iff, Bracketing.length_enclose] at found
      exact found part.length (by omega) even
    | some position =>
      obtain ⟨-, -, first⟩ := (firstClosing?_eq_some_iff _ _ _).mp found
      have last := late position found
      exact first part.length (by omega) even

/-- A text is unwrapped if it stands in delimiters and the first of them is not closed before
the end. -/
theorem unwrap?_iff_firstClosing? (text inner : List Char) :
    unwrap? style text = some inner ↔
      ∃ body, text = style.enclose body ∧ trim body = inner ∧
        ∀ position ∈ firstClosing? style text, position = body.length + 1 := by
  rw [unwrap?_eq_some_iff]
  constructor
  · rintro ⟨body, rfl, stays, rfl⟩
    exact ⟨body, rfl, rfl, staysOpen_iff_firstClosing?.mp stays⟩
  · rintro ⟨body, rfl, rfl, late⟩
    exact ⟨body, rfl, staysOpen_iff_firstClosing?.mpr late, rfl⟩

/-! ### What is inside -/

/-- The delimiters of a group are no blanks, so trimming does not change whether a text is
balanced in them. -/
theorem groupBalanced_trim_iff :
    style.GroupBalanced (trim body) ↔ style.GroupBalanced body := by
  obtain ⟨before, after, split, beforeBlank, afterBlank⟩ := exists_eq_trim body
  have plain {gap : List Char} (blank : AllBlank gap) :
      ∀ character ∈ gap, isBracket character = false :=
    fun character member => isBracket_of_isBlank (blank character member)
  have around := plain (beforeBlank.append afterBlank)
  constructor
  · intro balanced
    rw [split]
    exact (((BothBalanced.of_no_bracket (plain beforeBlank)).group style).append balanced).append
      ((BothBalanced.of_no_bracket (plain afterBlank)).group style)
  · intro balanced
    exact (split ▸ balanced).of_between (beq_bracket_of_plain around style.isBracket_opener)
      (beq_bracket_of_plain around style.isBracket_closer)

/-- A body whose delimiters come off never closes more than it has opened, and is balanced if the
first delimiter is closed at all. -/
theorem inside_of_firstClosing?
    (late : ∀ position ∈ firstClosing? style (style.enclose body), position = body.length + 1) :
    (∀ before, before <+: body → before.count style.closer ≤ before.count style.opener) ∧
      (style.GroupBalanced (trim body) ↔
        firstClosing? style (style.enclose body) = some (body.length + 1)) := by
  have covered := (staysOpen_iff style.opener_ne_closer 0 body).mp
    (staysOpen_iff_firstClosing?.mpr late)
  simp only [Nat.zero_add] at covered
  refine ⟨covered, groupBalanced_trim_iff.trans ⟨fun balanced => ?_, fun closed => ?_⟩⟩
  · cases found : firstClosing? style (style.enclose body) with
    | some position => rw [late position found]
    | none =>
      rw [firstClosing?_eq_none_iff, Bracketing.length_enclose] at found
      exact absurd (evenAt_enclose_end_iff.mpr balanced.even) (found _ (Nat.lt_succ_self _))
  · have even := ((firstClosing?_eq_some_iff _ _ _).mp closed).2.1
    exact ⟨covered, evenAt_enclose_end_iff.mp even⟩

/-! ### Where the first delimiter is closed by the last -/

/-- A text in a pair of delimiters: the first one is closed by the last. -/
structure WrappedIn (style : Bracketing) (text body : List Char) : Prop where
  split : text = style.enclose body
  closed : firstClosing? style text = some (text.length - 1)

/-- A text that starts and ends with delimiters, the first of which is never closed. -/
structure LeftOpen (style : Bracketing) (text body : List Char) : Prop where
  split : text = style.enclose body
  unclosed : firstClosing? style text = none

/-- The delimiters around a text come off exactly if the first is not closed before the end, that
is if it is closed by the last one or never. So they come off just where they form a pair, except
in a text whose first delimiter is never closed. What was inside never closes more than it opened;
it is balanced if the delimiters form a pair, and not otherwise. -/
theorem unwraps_wrapped_iff (style : Bracketing) (text : List Char) :
    (∀ inner, unwrap? style text = some inner ↔
      ∃ body, (WrappedIn style text body ∨ LeftOpen style text body) ∧ trim body = inner) ∧
    ((∀ inner, unwrap? style text = some inner ↔
        ∃ body, WrappedIn style text body ∧ trim body = inner) ↔
      ¬ ∃ body, LeftOpen style text body) ∧
    ∀ inner, unwrap? style text = some inner →
      ∃ body, text = style.enclose body ∧ trim body = inner ∧
        (∀ before, before <+: body → before.count style.closer ≤ before.count style.opener) ∧
        (style.GroupBalanced inner ↔ WrappedIn style text body) := by
  have cases_iff (body : List Char) (split : text = style.enclose body) :
      (∀ position ∈ firstClosing? style text, position = body.length + 1) ↔
        WrappedIn style text body ∨ LeftOpen style text body := by
    have last : text.length - 1 = body.length + 1 := by rw [split, Bracketing.length_enclose]; rfl
    constructor
    · intro late
      cases found : firstClosing? style text with
      | none => exact .inr ⟨split, found⟩
      | some position => exact .inl ⟨split, by rw [found, late position found, last]⟩
    · rintro (wrapped | leftOpen) position found
      · rw [wrapped.closed, last] at found
        exact (Option.some.inj found).symm
      · rw [leftOpen.unclosed] at found
        cases found
  have unwraps (inner : List Char) : unwrap? style text = some inner ↔
      ∃ body, (WrappedIn style text body ∨ LeftOpen style text body) ∧ trim body = inner := by
    rw [unwrap?_iff_firstClosing?]
    constructor
    · rintro ⟨body, split, trimmed, late⟩
      exact ⟨body, (cases_iff body split).mp late, trimmed⟩
    · rintro ⟨body, either, trimmed⟩
      have split := either.elim WrappedIn.split LeftOpen.split
      exact ⟨body, split, trimmed, (cases_iff body split).mpr either⟩
  refine ⟨unwraps, ⟨?_, ?_⟩, fun inner unwrapped => ?_⟩
  · rintro asWrapped ⟨body, leftOpen⟩
    obtain ⟨other, wrapped, -⟩ :=
      (asWrapped (trim body)).mp ((unwraps _).mpr ⟨body, .inr leftOpen, rfl⟩)
    have closed := wrapped.closed
    rw [leftOpen.unclosed] at closed
    cases closed
  · intro never inner
    rw [unwraps]
    refine exists_congr fun body => and_congr_left fun _ => or_iff_left fun leftOpen => ?_
    exact never ⟨body, leftOpen⟩
  · obtain ⟨body, split, trimmed, late⟩ := (unwrap?_iff_firstClosing? text inner).mp unwrapped
    subst split trimmed
    obtain ⟨covered, balanced⟩ := inside_of_firstClosing? late
    refine ⟨body, rfl, rfl, covered, balanced.trans ⟨fun closed => ⟨rfl, ?_⟩, fun wrapped => ?_⟩⟩
    · rw [closed, Bracketing.length_enclose]
      rfl
    · rw [wrapped.closed, Bracketing.length_enclose]
      rfl

/-- Two groups side by side in a pair of brackets that comes off, with a stray parenthesis that
does not count. -/
theorem unwraps_wrapped_iff_adjacent :
    let text := "[ [a) ] AND [b] ]".toList
    let inner := "[a) ] AND [b]".toList
    unwrap? .clause text = some inner ∧ firstClosing? .clause text = some 16 ∧
      Bracketing.clause.GroupBalanced inner := by
  intro text inner
  have unwrapped : unwrap? .clause text = some inner := by decide
  obtain ⟨body, split, trimmed, -, balanced⟩ :=
    (unwraps_wrapped_iff .clause text).2.2 inner unwrapped
  have closed : firstClosing? .clause text = some 16 := by decide
  exact ⟨unwrapped, closed, balanced.mpr ⟨split, closed⟩⟩

/-- With one opener too many the last delimiter closes the second one. The first comes off all
the same, and what is left is not balanced. -/
theorem not_unwraps_wrapped_left_open :
    (¬ ∀ (style : Bracketing) (text inner : List Char), unwrap? style text = some inner ↔
      ∃ body, WrappedIn style text body ∧ trim body = inner) ∧
    unwrap? (.value .genre) "((a)".toList = some "(a".toList ∧
    firstClosing? (.value .genre) "((a)".toList = none ∧
    ¬ (Bracketing.value .genre).GroupBalanced "(a".toList := by
  have unwrapped : unwrap? (.value .genre) "((a)".toList = some "(a".toList := by decide
  have unclosed : firstClosing? (.value .genre) "((a)".toList = none := by decide
  refine ⟨fun asWrapped => ?_, unwrapped, unclosed, by decide⟩
  obtain ⟨body, wrapped, -⟩ := (asWrapped _ _ _).mp unwrapped
  have closed := wrapped.closed
  rw [unclosed] at closed
  cases closed

end PlaylistRules
