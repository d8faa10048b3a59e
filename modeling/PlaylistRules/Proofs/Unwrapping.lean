/-
This file compares the two counts of brackets. A pair of delimiters around the whole comes
off by a count of its own shape of brackets, while an operator cuts by one count for both
shapes. In the value of a field both count parentheses, so nothing inside an outer pair is
cut. In a clause a parenthesis that closes nothing uses up a level of a square bracket: then
an operator may cut inside the outer brackets, and it cuts before they can come off.
-/

import PlaylistRules.Proofs.Nesting
import PlaylistRules.Proofs.Slices

namespace PlaylistRules

open Number Text

/-! ### Operators inside delimiters -/

theorem pieceOf_of_mem {segment : List Char} {character : Char} (member : character ∈ segment)
    (nonblank : isBlank character = false) : pieceOf segment = [trim segment] := by
  refine pieceOf_of_nonblank fun blank => ?_
  rw [(trim_eq_nil_iff segment).mp blank character member] at nonblank
  cases nonblank

/-- A cut inside delimiters leaves a piece on either side: the opener is in the first one
and the closer in a later one. -/
theorem uncut_of_length_pieces {style : Bracketing} {operator : Operator} {body : List Char}
    (few : (pieces style operator.word (style.opener :: body ++ [style.closer])).length < 2) :
    Uncut style operator (style.opener :: body ++ [style.closer]) := by
  have cutInto := cutInto_segments style operator 0 true (style.opener :: body ++ [style.closer])
  rw [pieces_eq_flatMap] at few
  revert few cutInto
  generalize segments style operator.word 0 true 0 _ = parts
  generalize whole : style.opener :: body ++ [style.closer] = text
  intro few cutInto
  cases cutInto with
  | whole uncut => exact uncut
  | @cut _ _ segment rest segments _ _ others =>
    have inFirst : style.opener ∈ segment := by
      have head : (segment ++ (operator.word ++ rest)).head? = some style.opener := by
        rw [← whole]
        rfl
      cases segment with
      | nil => exact absurd head (operator.head?_word_append style.isBracket_opener rest)
      | cons first segment => exact Option.some.inj head ▸ List.mem_cons_self
    have inRest : style.closer ∈ rest := by
      have last : (segment ++ (operator.word ++ rest)).getLast? = some style.closer := by
        rw [← whole, List.getLast?_concat]
      rw [← List.append_assoc] at last
      cases rest with
      | nil =>
        rw [List.append_nil, List.getLast?_append_of_ne_nil _ operator.word_ne_nil] at last
        exact absurd (List.mem_of_mem_getLast? last) (operator.not_mem_word style.isBracket_closer)
      | cons first rest =>
        rw [List.getLast?_append_of_ne_nil _ (List.cons_ne_nil first rest)] at last
        exact List.mem_of_mem_getLast? last
    obtain ⟨later, inOthers, inLater⟩ :=
      others.sliced.exists_mem inRest (operator.not_mem_word style.isBracket_closer)
    have laterPiece : trim later ∈ segments.flatMap pieceOf := by
      refine List.mem_flatMap.mpr ⟨later, inOthers, ?_⟩
      rw [pieceOf_of_mem inLater style.closer_nonblank]
      exact List.mem_cons_self
    have positive := List.length_pos_of_mem laterPiece
    rw [List.flatMap_cons, pieceOf_of_mem inFirst style.opener_nonblank, List.length_append,
      List.length_singleton] at few
    omega

namespace Filter

/-- Outer delimiters come off exactly where no operator cuts. -/
theorem undivided_iff_of_unwrap? {style : Bracketing} {text inner : List Char}
    (wrapped : unwrap? style text = some inner) :
    Undivided style text ↔ ∀ operator, Uncut style operator text := by
  refine ⟨fun undivided operator => ?_, undivided_of_uncut⟩
  obtain ⟨body, rfl, _, _⟩ := (unwrap?_eq_some_iff style text inner).mp wrapped
  cases operator with
  | and => exact uncut_of_length_pieces undivided.and
  | or => exact uncut_of_length_pieces undivided.or

/-- In the value of a field both counts are the same. -/
theorem uncut_of_unwrap?_value {field : Field} {text inner : List Char}
    (wrapped : unwrap? (.value field) text = some inner) (operator : Operator) :
    Uncut (.value field) operator text := by
  obtain ⟨body, rfl, stays, _⟩ := (unwrap?_eq_some_iff _ _ _).mp wrapped
  refine uncut_enclosed (fun before lead => ?_) operator
  have covered := (staysOpen_iff (Bracketing.value field).opener_ne_closer 0 body).mp stays
  exact (covered before lead).trans_eq (Nat.zero_add _)

/-- In a clause both counts agree as long as no parenthesis is closed that was not opened. -/
theorem uncut_of_unwrap?_clause {text inner : List Char}
    (wrapped : unwrap? .clause text = some inner)
    (covered : ∀ before, before <+: text → before.countP (· == ')') ≤ before.countP (· == '('))
    (operator : Operator) : Uncut .clause operator text := by
  obtain ⟨body, rfl, stays, _⟩ := (unwrap?_eq_some_iff _ _ _).mp wrapped
  refine uncut_enclosed (fun before lead => ?_) operator
  have square := (staysOpen_iff Bracketing.clause.opener_ne_closer 0 body).mp stays before lead
  have round := covered ('[' :: before)
    (List.cons_prefix_cons.mpr ⟨rfl, lead.trans (List.prefix_append _ _)⟩)
  rw [Nat.zero_add] at square
  rw [Bracketing.countP_opens_clause, Bracketing.countP_closes_clause]
  exact Nat.add_le_add square (by simpa using round)

/-! ### Reading with and without the outer delimiters -/

/-- A clause that takes its brackets off by one count is cut nowhere by the other count, and
so is read like its inside one level deeper, exactly if no operator stands as a whole word
where the count of both shapes is zero. That is so if no parenthesis is closed before it is
opened, and always in the value of a field. An expression, whose brackets come off first, is
then read as its clause is, or the clause is too deep. -/
theorem counts_agree_iff (text : List Char) :
    (∀ inner, unwrap? .clause text = some inner →
      (Undivided .clause text ∧ parse (String.ofList text) = readBelow 1 .clause inner ↔
        ∀ operator, Uncut .clause operator text)) ∧
    (∀ inner, unwrap? .clause text = some inner →
      (∀ before, before <+: text → before.countP (· == ')') ≤ before.countP (· == '(')) →
        ∀ operator, Uncut .clause operator text) ∧
    (∀ field inner, unwrap? (.value field) text = some inner →
      Undivided (.value field) text ∧
        parseValue field (String.ofList text) = readBelow 1 (.value field) inner) ∧
    ∀ sortKey digits, '|' ∉ text → '|' ∉ sortKey → isNatural digits = true →
      naturalOfDigits digits < 2 ^ 64 →
      (unwrap? .clause (trim text) = none ∨ ∀ operator, Uncut .clause operator (trim text)) →
        (∀ filter, parse (String.ofList text) = .ok filter →
          Expression.parse (Expression.enclosing text sortKey digits) =
            .ok ⟨filter, String.ofList (trim sortKey), naturalOfDigits digits⟩) ∧
        ∀ expression,
          Expression.parse (Expression.enclosing text sortKey digits) = .ok expression →
            parse (String.ofList text) = .ok expression.filter ∨
              parse (String.ofList text) = .error (.tooDeep nestingLimit) := by
  refine ⟨fun inner wrapped => ⟨?_, fun uncut => ?_⟩, fun inner => uncut_of_unwrap?_clause,
    fun field inner wrapped => ?_, ?_⟩
  · exact fun agree => (undivided_iff_of_unwrap? wrapped).mp agree.1
  · have undivided := undivided_of_uncut uncut
    rw [parse, String.toList_ofList]
    exact ⟨undivided, read_unwrapped undivided wrapped nestingLimit⟩
  · have undivided := undivided_of_uncut (uncut_of_unwrap?_value wrapped)
    rw [parseValue, String.toList_ofList]
    exact ⟨undivided, read_unwrapped undivided wrapped nestingLimit⟩
  · intro sortKey digits textFree sortKeyFree natural bounded whole
    have undivided (wraps : unwrap? .clause (trim text) ≠ none) : Undivided .clause (trim text) :=
      undivided_of_uncut (whole.resolve_left wraps)
    have limited := read_isLimited_clauseOf undivided (nestingLimit + 1)
    rw [parse, String.toList_ofList,
      Expression.parse_enclosing textFree sortKeyFree natural bounded]
    constructor
    · intro filter success
      have within : Filter.read (nestingLimit + 1) .clause text ≠ .error (.tooDeep nestingLimit) :=
        by simp [success]
      rw [← limited.eq_of_ne within, success]
      rfl
    · intro expression success
      obtain ⟨filter, inside, rfl⟩ := (map_eq_ok_iff _ _ _).mp success
      exact limited.imp_left (·.trans inside)

/-- A square bracket that stays open in a term keeps the operator inside, and the pair around
the whole comes off. -/
theorem counts_agree_iff_open_bracket :
    let text := "[genre:(a [b) AND type:c]".toList
    let inner := "genre:(a [b) AND type:c".toList
    let filter : Filter := .group .genre (.all [.term .genre "a [b", .term .genre "type:c"])
    unwrap? .clause text = some inner ∧ (∀ operator, Uncut .clause operator text) ∧
      parse "[genre:(a [b) AND type:c]" = readBelow 1 .clause inner ∧
      parse "[genre:(a [b) AND type:c]" = .ok filter ∧
      Expression.parse "\x7b[genre:(a [b) AND type:c] | rating | 5\x7d" =
        .ok ⟨filter, "rating", 5⟩ ∧
      parseValue .genre "(a] OR [b)" = readBelow 1 (.value .genre) "a] OR [b".toList := by
  intro text inner filter
  have wrapped : unwrap? .clause text = some inner := by decide
  have round : RoundBalanced text := by decide
  have success : parse "[genre:(a [b) AND type:c]" = .ok filter := rfl
  obtain ⟨exactly, enough, -, expressions⟩ := counts_agree_iff text
  have uncut := enough inner wrapped round.covered
  have enclosed := (expressions "rating".toList "5".toList (by decide) (by decide) (by decide)
    (by decide) (.inr uncut)).1 filter success
  have value := (counts_agree_iff "(a] OR [b)".toList).2.2.1 .genre "a] OR [b".toList (by decide)
  exact ⟨wrapped, uncut, ((exactly inner wrapped).mpr uncut).2, success, enclosed, value.2⟩

/-- A parenthesis in a term that is closed without being opened lets an operator cut inside
the brackets around the whole. The clause is then refused, and the expression is not. -/
theorem not_counts_agree_stray_parenthesis :
    (¬ ∀ text inner : List Char, unwrap? .clause text = some inner →
      Undivided .clause text ∧ parse (String.ofList text) = readBelow 1 .clause inner) ∧
    ¬ ∀ (text : List Char) (expression : Expression), '|' ∉ text →
      Expression.parse (Expression.enclosing text "rating".toList "5".toList) = .ok expression →
        parse (String.ofList text) = .ok expression.filter ∨
          parse (String.ofList text) = .error (.tooDeep nestingLimit) := by
  have refused : parse (String.ofList "[genre:a) AND genre:b]".toList) =
      .error (.unknownKind "[genre" (some "genre")) := rfl
  constructor
  · intro agree
    have undivided := (agree "[genre:a) AND genre:b]".toList "genre:a) AND genre:b".toList
      (by decide)).1
    exact absurd undivided (by decide)
  · intro agree
    let inside : Filter :=
      .all [.group .genre (.term .genre "a)"), .group .genre (.term .genre "b")]
    have accepted : Expression.parse (Expression.enclosing "[genre:a) AND genre:b]".toList
        "rating".toList "5".toList) = .ok ⟨inside, "rating", 5⟩ := rfl
    rcases agree _ _ (by decide) accepted with same | tooDeep
    · exact absurd (refused.symm.trans same) (by simp)
    · exact absurd (refused.symm.trans tooDeep) (by simp)

end Filter

end PlaylistRules
