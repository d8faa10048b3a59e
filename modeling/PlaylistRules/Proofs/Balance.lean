/-
This file proves how nesting behaves in balanced texts, where every closing bracket
has an opening one before it and none is left open. A balanced text leaves the depth
as it found it and never goes below it, and one pair of delimiters around it is taken
off again as a whole.
-/

import PlaylistRules.Proofs.Cuts

namespace PlaylistRules

open Text

/-! ### Beginnings of a text -/

theorem prefix_append_cases {first second before : List Char} (lead : before <+: first ++ second) :
    before <+: first ∨ ∃ part, before = first ++ part ∧ part <+: second := by
  obtain ⟨rest, split⟩ := lead
  rcases List.append_eq_append_iff.mp split with ⟨part, firstSplit, _⟩ | ⟨part, beforeSplit, found⟩
  · exact Or.inl ⟨part, firstSplit.symm⟩
  · exact Or.inr ⟨part, beforeSplit, ⟨rest, found.symm⟩⟩

theorem forall_prefix_cons {property : List Char → Prop} (first : Char) (rest : List Char) :
    (∀ before, before <+: first :: rest → property before) ↔
      property [] ∧ ∀ before, before <+: rest → property (first :: before) := by
  constructor
  · exact fun each => ⟨each [] List.nil_prefix,
      fun before lead => each _ (List.cons_prefix_cons.mpr ⟨rfl, lead⟩)⟩
  · rintro ⟨empty, each⟩ before lead
    rcases List.prefix_cons_iff.mp lead with rfl | ⟨part, rfl, partLead⟩
    · exact empty
    · exact each part partLead

/-! ### Balanced texts -/

/-- No beginning of the text closes more than it opens, and the whole closes as much
as it opens. -/
structure Balanced (opens closes : Char → Bool) (text : List Char) : Prop where
  covered : ∀ before, before <+: text → before.countP closes ≤ before.countP opens
  even : text.countP closes = text.countP opens

/-- Balanced in parentheses. -/
abbrev RoundBalanced (text : List Char) : Prop :=
  Balanced (· == '(') (· == ')') text

/-- Balanced in square brackets. -/
abbrev SquareBalanced (text : List Char) : Prop :=
  Balanced (· == '[') (· == ']') text

section

variable {opens closes : Char → Bool}

instance (text : List Char) : Decidable (Balanced opens closes text) :=
  decidable_of_iff ((∀ before ∈ text.inits, before.countP closes ≤ before.countP opens) ∧
      text.countP closes = text.countP opens)
    ⟨fun ⟨covered, even⟩ =>
        ⟨fun before lead => covered before ((List.mem_inits _ _).mpr lead), even⟩,
      fun balanced =>
        ⟨fun before member => balanced.covered before ((List.mem_inits _ _).mp member),
        balanced.even⟩⟩

theorem Balanced.append {first second : List Char} (firstBalanced : Balanced opens closes first)
    (secondBalanced : Balanced opens closes second) : Balanced opens closes (first ++ second) := by
  constructor
  · intro before lead
    rcases prefix_append_cases lead with inFirst | ⟨part, rfl, inSecond⟩
    · exact firstBalanced.covered before inFirst
    · rw [List.countP_append, List.countP_append, firstBalanced.even]
      exact Nat.add_le_add_left (secondBalanced.covered part inSecond) _
  · rw [List.countP_append, List.countP_append, firstBalanced.even, secondBalanced.even]

theorem balanced_of_none {text : List Char} (noOpens : ∀ character ∈ text, opens character = false)
    (noCloses : ∀ character ∈ text, closes character = false) : Balanced opens closes text := by
  have none {part : List Char} (lead : part <+: text) :
      part.countP closes = 0 ∧ part.countP opens = 0 := by
    refine ⟨List.countP_eq_zero.mpr fun character member => ?_,
      List.countP_eq_zero.mpr fun character member => ?_⟩
    · simp [noCloses character (lead.subset member)]
    · simp [noOpens character (lead.subset member)]
  constructor
  · intro before lead
    rw [(none lead).1]
    exact Nat.zero_le _
  · rw [(none (List.prefix_refl text)).1, (none (List.prefix_refl text)).2]

/-- A balanced text stays balanced without ends that open and close nothing. -/
theorem Balanced.of_between {before text after : List Char}
    (balanced : Balanced opens closes (before ++ text ++ after))
    (noOpens : ∀ character ∈ before ++ after, opens character = false)
    (noCloses : ∀ character ∈ before ++ after, closes character = false) :
    Balanced opens closes text := by
  have none {gap : List Char} (inside : gap ⊆ before ++ after) :
      gap.countP opens = 0 ∧ gap.countP closes = 0 := by
    refine ⟨List.countP_eq_zero.mpr fun character member => ?_,
      List.countP_eq_zero.mpr fun character member => ?_⟩
    · simp [noOpens character (inside member)]
    · simp [noCloses character (inside member)]
  have noneBefore := none (List.subset_append_left before after)
  have noneAfter := none (List.subset_append_right before after)
  constructor
  · intro lead inText
    have count := balanced.covered (before ++ lead)
      (((List.prefix_append_right_inj before).mpr inText).trans (List.prefix_append _ _))
    rwa [List.countP_append, List.countP_append, noneBefore.1, noneBefore.2, Nat.zero_add,
      Nat.zero_add] at count
  · have even := balanced.even
    simpa only [List.countP_append, noneBefore, noneAfter, Nat.zero_add, Nat.add_zero] using even

/-- A pair of delimiters around a balanced text gives a balanced text. -/
theorem Balanced.enclose {text : List Char} (balanced : Balanced opens closes text)
    {opener closer : Char} (isOpener : opens opener = true) (openerOnly : closes opener = false)
    (isCloser : closes closer = true) (closerOnly : opens closer = false) :
    Balanced opens closes (opener :: text ++ [closer]) := by
  constructor
  · intro before lead
    cases before with
    | nil => exact Nat.le_refl 0
    | cons first before =>
      rw [List.cons_append, List.cons_prefix_cons] at lead
      obtain ⟨rfl, lead⟩ := lead
      rw [List.countP_cons_of_pos isOpener, List.countP_cons_of_neg (by simp [openerOnly])]
      rcases prefix_append_cases lead with inText | ⟨part, rfl, atEnd⟩
      · exact (balanced.covered before inText).trans (Nat.le_succ _)
      · have short := (atEnd.sublist.countP_le (p := closes))
        rw [List.countP_append, List.countP_append, balanced.even]
        rw [List.countP_singleton, if_pos isCloser] at short
        omega
  · rw [List.countP_append, List.countP_append, List.countP_cons_of_pos isOpener,
      List.countP_cons_of_neg (by simp [openerOnly]), List.countP_singleton, List.countP_singleton,
      if_pos isCloser, if_neg (by simp [closerOnly]), balanced.even]

end

/-! ### The depth in a balanced text -/

namespace Bracketing

variable (style : Bracketing)

theorem closes_of_opens {character : Char} (opening : style.opens character = true) :
    style.closes character = false := by
  cases style with
  | clause =>
    simp only [opens, Bool.or_eq_true, beq_iff_eq] at opening
    rcases opening with rfl | rfl <;> decide
  | value field =>
    simp only [opens, beq_iff_eq] at opening
    subst opening
    rfl

/-- As long as nothing is closed that was not opened, the depth counts exactly. -/
theorem depth_add_countP (start : Nat) (text : List Char)
    (covered : ∀ before, before <+: text →
      before.countP style.closes ≤ start + before.countP style.opens) :
    style.depth start text + text.countP style.closes = start + text.countP style.opens := by
  induction text using List.reverseRecOn with
  | nil => rfl
  | append_singleton text character inductionHypothesis =>
    have whole := covered _ (List.prefix_refl _)
    have before := inductionHypothesis fun before lead =>
      covered before (lead.trans (List.prefix_append _ _))
    rw [List.countP_append, List.countP_append, List.countP_singleton, List.countP_singleton]
      at whole ⊢
    rw [depth_append, depth_cons, depth_nil, depthAfter]
    by_cases opening : style.opens character = true
    · have notClosing := style.closes_of_opens opening
      simp only [opening, notClosing, if_true, Bool.false_eq_true, if_false] at whole ⊢
      omega
    · by_cases closing : style.closes character = true
      · simp only [opening, closing, if_true, Bool.false_eq_true, if_false] at whole ⊢
        omega
      · simp only [opening, closing, if_false, Bool.false_eq_true] at whole ⊢
        omega

variable {style} {text : List Char}

/-- A balanced text leaves the depth as it found it. -/
theorem depth_of_balanced (balanced : Balanced style.opens style.closes text) (start : Nat) :
    style.depth start text = start := by
  have count := style.depth_add_countP start text fun before lead =>
    (balanced.covered before lead).trans (Nat.le_add_left _ _)
  rw [balanced.even] at count
  exact Nat.add_right_cancel count

/-- A text that closes nothing but what it opened nowhere goes below the depth at which it
is entered. -/
theorem le_depth_of_covered
    (covered : ∀ before, before <+: text → before.countP style.closes ≤ before.countP style.opens)
    (start : Nat) {before : List Char} (lead : before <+: text) :
    start ≤ style.depth start before := by
  have count := style.depth_add_countP start before fun part partLead =>
    (covered part (partLead.trans lead)).trans (Nat.le_add_left _ _)
  have less := covered before lead
  omega

theorem depthAfter_opener (style : Bracketing) (start : Nat) :
    style.depthAfter start style.opener = start + 1 := by
  cases style <;> rfl

theorem opener_nonblank (style : Bracketing) : isBlank style.opener = false := by
  cases style <;> rfl

theorem closer_nonblank (style : Bracketing) : isBlank style.closer = false := by
  cases style <;> rfl

theorem isBracket_opener (style : Bracketing) : isBracket style.opener = true := by
  cases style <;> rfl

theorem isBracket_closer (style : Bracketing) : isBracket style.closer = true := by
  cases style <;> rfl

theorem opener_ne_closer (style : Bracketing) : style.opener ≠ style.closer := by
  cases style <;> exact fun same => absurd same (by simp [opener, closer])

end Bracketing

/-! ### Texts balanced in both shapes of brackets -/

theorem beq_bracket_of_plain {text : List Char}
    (plain : ∀ character ∈ text, isBracket character = false) {bracket : Char}
    (shape : isBracket bracket = true) : ∀ character ∈ text, (character == bracket) = false := by
  intro character member
  rw [beq_eq_false_iff_ne]
  rintro rfl
  rw [plain character member] at shape
  cases shape

/-- Balanced in parentheses and in square brackets. -/
structure BothBalanced (text : List Char) : Prop where
  round : RoundBalanced text
  square : SquareBalanced text

theorem Bracketing.countP_opens_clause (text : List Char) :
    text.countP Bracketing.clause.opens = text.countP (· == '[') + text.countP (· == '(') := by
  induction text with
  | nil => rfl
  | cons character rest inductionHypothesis =>
    rw [List.countP_cons, List.countP_cons, List.countP_cons, inductionHypothesis, opens]
    by_cases isSquare : character = '['
    · simp [isSquare]
      omega
    · by_cases isRound : character = '('
      · simp [isRound]
        omega
      · simp [isSquare, isRound]

theorem Bracketing.countP_closes_clause (text : List Char) :
    text.countP Bracketing.clause.closes = text.countP (· == ']') + text.countP (· == ')') := by
  induction text with
  | nil => rfl
  | cons character rest inductionHypothesis =>
    rw [List.countP_cons, List.countP_cons, List.countP_cons, inductionHypothesis, closes]
    by_cases isSquare : character = ']'
    · simp [isSquare]
      omega
    · by_cases isRound : character = ')'
      · simp [isRound]
        omega
      · simp [isSquare, isRound]

namespace BothBalanced

theorem append {first second : List Char} (firstBalanced : BothBalanced first)
    (secondBalanced : BothBalanced second) : BothBalanced (first ++ second) :=
  ⟨firstBalanced.round.append secondBalanced.round,
    firstBalanced.square.append secondBalanced.square⟩

theorem of_no_bracket {text : List Char}
    (plain : ∀ character ∈ text, isBracket character = false) : BothBalanced text :=
  ⟨balanced_of_none (beq_bracket_of_plain plain rfl) (beq_bracket_of_plain plain rfl),
    balanced_of_none (beq_bracket_of_plain plain rfl) (beq_bracket_of_plain plain rfl)⟩

/-- Blanks around a balanced text leave it balanced. -/
theorem between_blanks {before text after : List Char} (balanced : BothBalanced text)
    (beforeBlank : AllBlank before) (afterBlank : AllBlank after) :
    BothBalanced (before ++ text ++ after) := by
  have ofBlank {gap : List Char} (blank : AllBlank gap) : BothBalanced gap :=
    of_no_bracket fun character member => isBracket_of_isBlank (blank character member)
  exact ((ofBlank beforeBlank).append balanced).append (ofBlank afterBlank)

theorem trim {text : List Char} (balanced : BothBalanced text) : BothBalanced (trim text) := by
  obtain ⟨before, after, split, beforeBlank, afterBlank⟩ := exists_eq_trim text
  have plain : ∀ character ∈ before ++ after, isBracket character = false :=
    fun character member => isBracket_of_isBlank (beforeBlank.append afterBlank character member)
  rw [split] at balanced
  exact ⟨balanced.round.of_between (beq_bracket_of_plain plain rfl)
      (beq_bracket_of_plain plain rfl),
    balanced.square.of_between (beq_bracket_of_plain plain rfl) (beq_bracket_of_plain plain rfl)⟩

theorem enclose {text : List Char} (balanced : BothBalanced text) (style : Bracketing) :
    BothBalanced (style.opener :: text ++ [style.closer]) := by
  cases style with
  | clause =>
    have opener : RoundBalanced ['['] := balanced_of_none (by decide) (by decide)
    have closer : RoundBalanced [']'] := balanced_of_none (by decide) (by decide)
    exact ⟨(opener.append balanced.round).append closer, balanced.square.enclose rfl rfl rfl rfl⟩
  | value field =>
    have opener : SquareBalanced ['('] := balanced_of_none (by decide) (by decide)
    have closer : SquareBalanced [')'] := balanced_of_none (by decide) (by decide)
    exact ⟨balanced.round.enclose rfl rfl rfl rfl, (opener.append balanced.square).append closer⟩

variable {text : List Char} (balanced : BothBalanced text)

include balanced

/-- Balanced in the brackets that count for the kind of text. -/
theorem ofStyle (style : Bracketing) : Balanced style.opens style.closes text := by
  cases style with
  | clause =>
    constructor
    · intro before lead
      rw [Bracketing.countP_opens_clause, Bracketing.countP_closes_clause]
      exact Nat.add_le_add (balanced.square.covered before lead)
        (balanced.round.covered before lead)
    · rw [Bracketing.countP_opens_clause, Bracketing.countP_closes_clause, balanced.square.even,
        balanced.round.even]
  | value field => exact balanced.round

theorem closed (style : Bracketing) : style.depth 0 text = 0 :=
  Bracketing.depth_of_balanced (balanced.ofStyle style) 0

/-- What is outside all brackets is outside the parentheses. -/
theorem depth_value {before : List Char} (lead : before <+: text) (field : Field)
    (outside : Bracketing.clause.depth 0 before = 0) :
    (Bracketing.value field).depth 0 before = 0 := by
  have clauseCount := Bracketing.clause.depth_add_countP 0 before fun part partLead => by
    rw [Nat.zero_add]
    exact (balanced.ofStyle .clause).covered part (partLead.trans lead)
  have valueCount := (Bracketing.value field).depth_add_countP 0 before fun part partLead => by
    rw [Nat.zero_add]
    exact balanced.round.covered part (partLead.trans lead)
  have squareCovered := balanced.square.covered before lead
  have roundOpens : before.countP (Bracketing.value field).opens = before.countP (· == '(') := rfl
  have roundCloses : before.countP (Bracketing.value field).closes = before.countP (· == ')') := rfl
  rw [Bracketing.countP_opens_clause, Bracketing.countP_closes_clause, outside] at clauseCount
  omega

/-- Without a cut outside the parentheses there is none outside all brackets. -/
theorem uncut_clause {field : Field} {operator : Operator}
    (uncut : Uncut (.value field) operator text) : Uncut .clause operator text := by
  intro before after split cut
  refine uncut before after split ⟨?_, cut.left, cut.right⟩
  refine balanced.depth_value ⟨operator.word ++ after, ?_⟩ field cut.outside
  rw [split, List.append_assoc]

end BothBalanced

/-! ### Enclosing delimiters -/

/-- The delimiters of a group, counted on their own. -/
abbrev Bracketing.GroupBalanced (style : Bracketing) (text : List Char) : Prop :=
  Balanced (· == style.opener) (· == style.closer) text

theorem BothBalanced.group {text : List Char} (balanced : BothBalanced text)
    (style : Bracketing) : style.GroupBalanced text := by
  cases style with
  | clause => exact balanced.square
  | value field => exact balanced.round

theorem staysOpen_iff {opener closer : Char} (different : opener ≠ closer) (depth : Nat)
    (text : List Char) :
    staysOpen opener closer (depth + 1) text = true ↔
      ∀ before, before <+: text →
        before.countP (· == closer) ≤ depth + before.countP (· == opener) := by
  induction text generalizing depth with
  | nil => simp [staysOpen]
  | cons character rest inductionHypothesis =>
    rw [staysOpen, forall_prefix_cons]
    by_cases opening : character = opener
    · subst opening
      rw [if_pos rfl, inductionHypothesis]
      simp [different, Nat.add_assoc, Nat.add_comm 1]
    · rw [if_neg opening]
      by_cases closing : character = closer
      · subst closing
        rw [if_pos rfl]
        cases depth with
        | zero =>
          refine iff_of_false (by simp) fun each => ?_
          simpa [opening] using each.2 [] List.nil_prefix
        | succ depth =>
          rw [if_neg (by omega), Nat.add_sub_cancel, inductionHypothesis]
          simp [opening, Nat.add_right_comm depth 1]
      · rw [if_neg closing, inductionHypothesis]
        simp [opening, closing]

/-- A text is unwrapped when it stands in a pair of delimiters and the first is not
closed before the last. -/
theorem unwrap?_eq_some_iff (style : Bracketing) (text inner : List Char) :
    unwrap? style text = some inner ↔
      ∃ body, text = style.opener :: body ++ [style.closer] ∧
        staysOpen style.opener style.closer 1 body = true ∧ trim body = inner := by
  cases text with
  | nil => simp [unwrap?]
  | cons first rest =>
    rw [unwrap?]
    constructor
    · intro unwrapped
      split at unwrapped
      · rename_i found
        simp only [Bool.and_eq_true, decide_eq_true_eq, beq_iff_eq] at found
        obtain ⟨⟨rfl, last⟩, stays⟩ := found
        refine ⟨rest.dropLast, ?_, stays, Option.some.inj unwrapped⟩
        rw [List.cons_append, List.dropLast_append_getLast? _ last]
      · cases unwrapped
    · rintro ⟨body, split, stays, rfl⟩
      rw [List.cons_append] at split
      obtain ⟨rfl, rfl⟩ := List.cons.inj split
      rw [List.dropLast_concat, if_pos]
      simp [stays]

theorem unwrap?_isInfix {style : Bracketing} {text inner : List Char}
    (wrapped : unwrap? style text = some inner) : inner <:+: text := by
  obtain ⟨body, rfl, _, rfl⟩ := (unwrap?_eq_some_iff style text inner).mp wrapped
  exact (trim_isInfix body).trans ⟨[style.opener], [style.closer], rfl⟩

/-- A pair of delimiters around a text that is balanced in them is taken off again, with
the blanks inside. -/
theorem unwrap?_of_balanced {style : Bracketing} {text : List Char}
    (balanced : style.GroupBalanced text) :
    unwrap? style (style.opener :: text ++ [style.closer]) = some (trim text) := by
  refine (unwrap?_eq_some_iff _ _ _).mpr ⟨text, rfl, ?_, rfl⟩
  refine (staysOpen_iff style.opener_ne_closer 0 text).mpr fun before lead => ?_
  rw [Nat.zero_add]
  exact balanced.covered before lead

theorem unwrap?_enclosed {style : Bracketing} {text : List Char}
    (balanced : style.GroupBalanced text) (trimmed : trim text = text) :
    unwrap? style (style.opener :: text ++ [style.closer]) = some text := by
  rw [unwrap?_of_balanced balanced, trimmed]

/-- What stands inside the delimiters of a balanced text is balanced, if the first
delimiter stays open to the end. -/
theorem BothBalanced.inside {style : Bracketing} {body : List Char}
    (balanced : BothBalanced (style.opener :: body ++ [style.closer]))
    (stays : staysOpen style.opener style.closer 1 body = true) : BothBalanced body := by
  have covered := (staysOpen_iff style.opener_ne_closer 0 body).mp stays
  have lead {before : List Char} (inBody : before <+: body) :
      style.opener :: before <+: style.opener :: body ++ [style.closer] :=
    List.cons_prefix_cons.mpr ⟨rfl, inBody.trans (List.prefix_append _ _)⟩
  have round := balanced.round.even
  have square := balanced.square.even
  cases style with
  | clause =>
    refine ⟨⟨fun before inBody => ?_, ?_⟩, ⟨fun before inBody => ?_, ?_⟩⟩
    · simpa [Bracketing.opener] using balanced.round.covered _ (lead inBody)
    · simpa [Bracketing.opener, Bracketing.closer] using round
    · simpa [Bracketing.opener, Bracketing.closer] using covered before inBody
    · simpa [Bracketing.opener, Bracketing.closer] using square
  | value field =>
    refine ⟨⟨fun before inBody => ?_, ?_⟩, ⟨fun before inBody => ?_, ?_⟩⟩
    · simpa [Bracketing.opener, Bracketing.closer] using covered before inBody
    · simpa [Bracketing.opener, Bracketing.closer] using round
    · simpa [Bracketing.opener] using balanced.square.covered _ (lead inBody)
    · simpa [Bracketing.opener, Bracketing.closer] using square

/-- A text whose first delimiter is closed before the end is not unwrapped. -/
theorem unwrap?_eq_none_of_closed {style : Bracketing} {group rest : List Char}
    (balanced : style.GroupBalanced group) (nonempty : rest ≠ []) :
    unwrap? style (style.opener :: group ++ [style.closer] ++ rest) = none := by
  rw [Option.eq_none_iff_forall_ne_some]
  intro inner unwrapped
  obtain ⟨body, split, stays, _⟩ := (unwrap?_eq_some_iff _ _ _).mp unwrapped
  have lead : group ++ [style.closer] <+: body := by
    rw [List.cons_append, List.cons_append, List.cons_append] at split
    rw [← List.dropLast_concat_getLast nonempty, ← List.append_assoc] at split
    exact ⟨rest.dropLast, (List.append_inj' (List.cons.inj split).2 rfl).1⟩
  have bound := (staysOpen_iff style.opener_ne_closer 0 body).mp stays _ lead
  rw [List.countP_append, List.countP_append, balanced.even, List.countP_singleton,
    List.countP_singleton, if_pos (beq_self_eq_true _),
    if_neg (by simp [Ne.symm style.opener_ne_closer])] at bound
  omega

/-- Inside delimiters nothing is cut, as long as the text closes nothing but what it
opened. -/
theorem uncut_enclosed {style : Bracketing} {text : List Char}
    (covered : ∀ before, before <+: text → before.countP style.closes ≤ before.countP style.opens)
    (operator : Operator) :
    Uncut style operator (style.opener :: text ++ [style.closer]) := by
  intro before after split cut
  cases before with
  | nil =>
    exact operator.head?_word_append style.isBracket_opener after (congrArg List.head? split).symm
  | cons first before =>
    obtain ⟨rfl, inside⟩ : style.opener = first ∧
        text ++ [style.closer] = before ++ operator.word ++ after := List.cons.inj split
    have lead : before <+: text := by
      refine List.prefix_of_prefix_length_le ⟨operator.word ++ after, ?_⟩
        (List.prefix_append text [style.closer]) ?_
      · rw [inside, List.append_assoc]
      · have long := congrArg List.length inside
        have positive := List.length_pos_of_ne_nil operator.word_ne_nil
        simp only [List.length_append, List.length_singleton] at long
        omega
    have bound := Bracketing.le_depth_of_covered covered 1 lead
    have outside := cut.outside
    rw [Bracketing.depth_cons, style.depthAfter_opener, Nat.zero_add] at outside
    omega

end PlaylistRules
