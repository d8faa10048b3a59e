/-
This file proves that rendering and reading are inverse to each other on clean
filters: brackets within terms are balanced, and no term holds an operator or
begins like a negation. Then every bracket in the text belongs to a pair, no operator
of the writer lies in a group of its own, and the text is legible.
-/

import PlaylistRules.Proofs.Envelope
import PlaylistRules.Proofs.Legible

namespace PlaylistRules

open Number Text

namespace Filter

/-! ### Clean terms -/

/-- A term that stands for itself wherever the value of its field may hold one. -/
structure CleanTerm (field : Field) (term : String) : Prop where
  nonempty : term ≠ ""
  trimmed : trimmed term = term
  pipeFree : '|' ∉ term.toList
  round : RoundBalanced term.toList
  square : SquareBalanced term.toList
  notEnclosed : ∀ inner, RoundBalanced inner → term.toList ≠ '(' :: inner ++ [')']
  notNegated : ∀ word blank rest, word.map Char.toLower = ['n', 'o', 't'] → isBlank blank = true →
    term.toList ≠ word ++ blank :: rest
  uncut : ∀ operator, Uncut (.value field) operator term.toList

/-- A finite rating that is not negative zero either. -/
structure CleanRating (value : Binary64) : Prop where
  unsigned : value.negative = false
  finite : value.isFinite = true

/-- A clean term is read as itself. -/
theorem CleanTerm.bareTerm {field : Field} {term : String} (clean : CleanTerm field term) :
    BareTerm field term.toList := by
  refine ⟨?_, ?_, undivided_of_uncut clean.uncut, ?_, ?_⟩
  · intro empty
    exact clean.nonempty (String.toList_eq_nil_iff.mp empty)
  · have same := congrArg String.toList clean.trimmed
    rwa [Text.trimmed, String.toList_ofList] at same
  · refine (afterNot?_eq_none_iff _).mpr fun word blank rest split letters => ?_
    by_contra isBlank
    exact clean.notNegated word blank rest letters (by simpa using isBlank) split
  · rw [Option.eq_none_iff_forall_ne_some]
    intro inner unwrapped
    obtain ⟨body, split, stays, _⟩ := (unwrap?_eq_some_iff _ _ _).mp unwrapped
    refine clean.notEnclosed body ⟨fun before lead => ?_, ?_⟩ split
    · have bound := (staysOpen_iff (Bracketing.opener_ne_closer (.value field)) 0 body).mp stays
        before lead
      rwa [Nat.zero_add] at bound
    · have even := clean.round.even
      rw [split] at even
      simpa [Bracketing.opener, Bracketing.closer] using even

theorem CleanRating.readRating {value : Binary64} (clean : CleanRating value) : ReadRating value :=
  ⟨clean.unsigned, Nat.le_of_lt (of_decide_eq_true clean.finite)⟩

/-- A filter with clean terms and ratings. -/
abbrev Clean (style : Bracketing) (filter : Filter) : Prop :=
  filter.Shaped CleanTerm CleanRating style

theorem Clean.readShape {style : Bracketing} {filter : Filter} (clean : Clean style filter) :
    ReadShape style filter :=
  clean.mono (fun _ _ term => term.bareTerm) fun _ rating => rating.readRating

/-! ### Tidy texts -/

theorem balanced_joined {separator : List Char}
    (plain : ∀ character ∈ separator, isBracket character = false) {texts : List (List Char)}
    (each : ∀ text ∈ texts, BothBalanced text) : BothBalanced (joined separator texts) := by
  induction texts with
  | nil => exact .of_no_bracket fun _ member => absurd member List.not_mem_nil
  | cons first rest inductionHypothesis =>
    have firstBalanced := each first List.mem_cons_self
    cases rest with
    | nil =>
      rw [joined_singleton]
      exact firstBalanced
    | cons second rest =>
      rw [joined_cons_cons]
      exact firstBalanced.append ((BothBalanced.of_no_bracket plain).append
        (inductionHypothesis fun text member => each text (List.mem_cons_of_mem _ member)))

/-- A text that may stand as a member of a list: its brackets are balanced, it has no
blanks around it, and neither operator cuts it. -/
structure Tidy (style : Bracketing) (text : List Char) : Prop where
  solid : Solid text
  balanced : BothBalanced text
  uncut : ∀ operator, Uncut style operator text

/-- A balanced text in delimiters is tidy. -/
theorem tidy_enclosed {text : List Char} (balanced : BothBalanced text) (style : Bracketing) :
    Tidy style (style.opener :: text ++ [style.closer]) :=
  ⟨Solid.enclose style text, balanced.enclose style,
    uncut_enclosed (balanced.ofStyle style).covered⟩

theorem Tidy.negated {style : Bracketing} {text : List Char} (tidy : Tidy style text) :
    Tidy style ("NOT ".toList ++ text) := by
  refine ⟨tidy.solid.negated, (BothBalanced.of_no_bracket (by decide)).append tidy.balanced,
    fun operator => ?_⟩
  have word : Uncut style operator "NOT".toList :=
    uncut_of_nonblank style operator (by decide) (by cases operator <;> decide)
  have closed : style.depth 0 "NOT".toList = 0 := style.depth_of_no_bracket 0 (by decide)
  have uncut : Uncut style operator ("NOT".toList ++ [' '] ++ text) :=
    uncut_append_gap style operator word closed (by decide) (by decide) (tidy.uncut operator)
  exact uncut

/-- The group of a field stays whole in a clause if its value does within the group. -/
theorem Tidy.grouped {field : Field} {text : List Char} (tidy : Tidy (.value field) text) :
    Tidy .clause (field.keyword.toList ++ ':' :: text) := by
  have plain : ∀ character ∈ field.keyword.toList ++ [':'],
      isBlank character = false ∧ isBracket character = false := by
    cases field <;> decide
  refine ⟨tidy.solid.grouped field, ?_, fun operator => ?_⟩
  · rw [← List.singleton_append, ← List.append_assoc]
    exact (BothBalanced.of_no_bracket fun character member =>
      (plain character member).2).append tidy.balanced
  · rw [← List.singleton_append, ← List.append_assoc]
    refine uncut_append_of_nonblank .clause operator plain (by simp) ?_
      (tidy.balanced.uncut_clause (tidy.uncut operator))
    cases field <;> cases operator <;> decide

section

variable {style : Bracketing} {operator : Operator} {texts : List (List Char)}

/-- Tidy texts with an operator between them are the pieces at this operator. -/
theorem pieces_joined (each : ∀ text ∈ texts, Tidy style text) :
    pieces style operator.word (joined operator.separator texts) = texts := by
  induction texts with
  | nil => rfl
  | cons first rest inductionHypothesis =>
    have tidy := each first List.mem_cons_self
    have nonblank : trim first ≠ [] := by
      rw [tidy.solid.trimmed]
      exact tidy.solid.nonempty
    have firstPiece : pieceOf first = [first] := by
      rw [pieceOf_of_nonblank nonblank, tidy.solid.trimmed]
    cases rest with
    | nil => rw [joined_singleton, pieces_of_uncut style operator (tidy.uncut operator), firstPiece]
    | cons second rest =>
      have split : joined operator.separator (first :: second :: rest) =
          first ++ ([' '] ++ (operator.word ++ ([' '] ++
            joined operator.separator (second :: rest)))) := by
        rw [joined_cons_cons]
        simp [Operator.separator]
      rw [split, pieces_append_word style operator (tidy.uncut operator)
        (tidy.balanced.closed style)
        (by decide) (by decide) (by decide) (by decide), firstPiece,
        inductionHypothesis fun text member => each text (List.mem_cons_of_mem _ member)]
      rfl

/-- The other operator does not cut them. -/
theorem uncut_joined (nonempty : texts ≠ []) (each : ∀ text ∈ texts, Tidy style text)
    {other : Operator} (different : operator.word ≠ other.word) :
    Uncut style other (joined operator.separator texts) := by
  induction texts with
  | nil => exact absurd rfl nonempty
  | cons first rest inductionHypothesis =>
    have tidy := each first List.mem_cons_self
    cases rest with
    | nil =>
      rw [joined_singleton]
      exact tidy.uncut other
    | cons second rest =>
      have split : joined operator.separator (first :: second :: rest) =
          first ++ [' '] ++ (operator.word ++ [' '] ++
            joined operator.separator (second :: rest)) := by
        rw [joined_cons_cons]
        simp [Operator.separator]
      have word : Uncut style other operator.word :=
        uncut_of_nonblank style other operator.word_nonblank different
      rw [split]
      refine uncut_append_gap style other (tidy.uncut other) (tidy.balanced.closed style)
        (by decide) (by decide) (uncut_append_gap style other word
        (style.depth_of_no_bracket 0 operator.word_no_bracket) (by decide) (by decide) ?_)
      exact inductionHypothesis (List.cons_ne_nil _ _)
        fun text member => each text (List.mem_cons_of_mem _ member)

end

/-- What the text of a clean filter has to satisfy for the text around it. -/
structure TidyWritten (style : Bracketing) (filter : Filter) : Prop where
  solid : Solid (write style filter)
  balanced : BothBalanced (write style filter)
  uncut : filter.isCompound = false → ∀ operator, Uncut style operator (write style filter)

/-- As a member of a list, a filter is tidy in any case. -/
theorem TidyWritten.inside {style : Bracketing} {filter : Filter}
    (tidy : TidyWritten style filter) : Tidy style (writeInside style filter) := by
  unfold writeInside
  cases compound : filter.isCompound with
  | false => exact ⟨tidy.solid, tidy.balanced, tidy.uncut compound⟩
  | true => exact tidy_enclosed tidy.balanced style

theorem tidy_of_members {style : Bracketing} {children : List Filter}
    (each : ∀ child ∈ children, TidyWritten style child) :
    ∀ text ∈ children.map (writeInside style), Tidy style text := by
  intro text member
  obtain ⟨child, inChildren, rfl⟩ := List.mem_map.mp member
  exact (each child inChildren).inside

theorem tidyWritten_plainLeaf {filter : Filter} (shape : ReadShape .clause filter)
    (plainLeaf : filter.isPlainLeaf = true) : TidyWritten .clause filter := by
  have leafChars := isLeafChar_of_mem_write shape plainLeaf .clause
  refine ⟨shape.solid, BothBalanced.of_no_bracket fun character member =>
    isBracket_of_isLeafChar (leafChars character member), fun _ operator => ?_⟩
  refine uncut_of_nonblank .clause operator
    (fun character member => isBlank_of_isLeafChar (leafChars character member)) ?_
  intro same
  rw [same] at leafChars
  cases operator <;> exact absurd leafChars (by decide)

/-- The text of a clean filter is tidy. -/
theorem Clean.tidyWritten {style : Bracketing} {filter : Filter} (clean : Clean style filter) :
    TidyWritten style filter := by
  induction clean with
  | @all style children two each inductionHypothesis =>
    refine ⟨(Clean.readShape (.all two each)).solid, ?_, fun single => by cases single⟩
    rw [write_all]
    exact balanced_joined Operator.and.separator_no_bracket fun text member =>
      (tidy_of_members inductionHypothesis text member).balanced
  | @any style children two each inductionHypothesis =>
    refine ⟨(Clean.readShape (.any two each)).solid, ?_, fun single => by cases single⟩
    rw [write_any]
    exact balanced_joined Operator.or.separator_no_bracket fun text member =>
      (tidy_of_members inductionHypothesis text member).balanced
  | not _ inductionHypothesis =>
    have tidy := inductionHypothesis.inside.negated
    exact ⟨tidy.solid, tidy.balanced, fun _ => tidy.uncut⟩
  | group _ inductionHypothesis =>
    have tidy := inductionHypothesis.inside.grouped
    exact ⟨tidy.solid, tidy.balanced, fun _ => tidy.uncut⟩
  | term allowed =>
    exact ⟨⟨allowed.bareTerm.nonempty, allowed.bareTerm.trimmed⟩, ⟨allowed.round, allowed.square⟩,
      fun _ => allowed.uncut⟩
  | runtime nonnegative bounded => exact tidyWritten_plainLeaf (.runtime nonnegative bounded) rfl
  | released nonnegative bounded => exact tidyWritten_plainLeaf (.released nonnegative bounded) rfl
  | rating allowed => exact tidyWritten_plainLeaf (.rating allowed.readRating) rfl
  | watched => exact tidyWritten_plainLeaf .watched rfl

/-- The delimiters around a clean list come off again. -/
theorem TidyWritten.unwraps {style : Bracketing} {filter : Filter}
    (tidy : TidyWritten style filter) : Unwraps style filter :=
  ⟨undivided_of_uncut (uncut_enclosed (tidy.balanced.ofStyle style).covered),
    unwrap?_enclosed (tidy.balanced.group style) tidy.solid.trimmed⟩

/-- A clean filter is written legibly. -/
theorem Clean.legible {style : Bracketing} {filter : Filter} (clean : Clean style filter) :
    filter.Legible style := by
  induction clean with
  | @all style children two each inductionHypothesis =>
    have tidy := tidy_of_members fun child member => Clean.tidyWritten (each child member)
    refine (legible_all style children).mpr ⟨?_, fun child member =>
      ⟨fun _ => (Clean.tidyWritten (each child member)).unwraps, inductionHypothesis child member⟩⟩
    rw [write_all, pieces_joined tidy]
  | @any style children two each inductionHypothesis =>
    have tidy := tidy_of_members fun child member => Clean.tidyWritten (each child member)
    have nonempty : children.map (writeInside style) ≠ [] := by
      rw [ne_eq, List.map_eq_nil_iff]
      rintro rfl
      exact absurd two (by decide)
    refine (legible_any style children).mpr ⟨?_, ?_, fun child member =>
      ⟨fun _ => (Clean.tidyWritten (each child member)).unwraps, inductionHypothesis child member⟩⟩
    · rw [write_any]
      exact length_pieces_of_uncut style .and (uncut_joined nonempty tidy (by decide))
    · rw [write_any, pieces_joined tidy]
  | not innerClean inductionHypothesis =>
    exact ⟨undivided_of_uncut ((Clean.tidyWritten (.not innerClean)).uncut rfl),
      fun _ => (Clean.tidyWritten innerClean).unwraps, inductionHypothesis⟩
  | group valueClean inductionHypothesis =>
    exact ⟨undivided_of_uncut ((Clean.tidyWritten (.group valueClean)).uncut rfl),
      fun _ => (Clean.tidyWritten valueClean).unwraps, inductionHypothesis⟩
  | term => trivial
  | runtime => trivial
  | released => trivial
  | rating allowed => exact allowed.finite
  | watched => trivial

/-! ### Rendering and reading -/

/-- Only a list that begins with a list begins with a bracket. -/
theorem head?_write_ne {filter : Filter} (shape : ReadShape .clause filter)
    (single : filter.isCompound = false) : (write .clause filter).head? ≠ some '[' := by
  have leaf {leafFilter : Filter} (leafShape : ReadShape .clause leafFilter)
      (plainLeaf : leafFilter.isPlainLeaf = true) :
      (write .clause leafFilter).head? ≠ some '[' := by
    intro head
    have leafChar := isLeafChar_of_mem_write leafShape plainLeaf .clause '['
      (List.mem_of_mem_head? head)
    cases leafChar
  cases shape with
  | all => cases single
  | any => cases single
  | @not _ inner =>
    have first : ("NOT ".toList ++ writeInside .clause inner).head? = some 'N' := rfl
    rw [write_not, first]
    decide
  | @group field value =>
    intro head
    obtain ⟨first, found, _, noBracket⟩ :=
      head?_keyword field (':' :: writeInside (.value field) value)
    rw [write_group, found, Option.some.injEq] at head
    rw [head] at noBracket
    cases noBracket
  | runtime nonnegative bounded => exact leaf (.runtime nonnegative bounded) rfl
  | released nonnegative bounded => exact leaf (.released nonnegative bounded) rfl
  | rating allowed => exact leaf (.rating allowed) rfl
  | watched => exact leaf .watched rfl

theorem unwrap?_joined {operator : Operator} {children : List Filter} (two : 2 ≤ children.length)
    (clean : ∀ child ∈ children, Clean .clause child) :
    unwrap? .clause (joined operator.separator (children.map (writeInside .clause))) = none := by
  obtain ⟨first, second, rest, rfl⟩ : ∃ first second rest, children = first :: second :: rest := by
    match children, two with
    | first :: second :: rest, _ => exact ⟨first, second, rest, rfl⟩
  have firstClean := clean first List.mem_cons_self
  rw [List.map_cons, List.map_cons, joined_cons_cons]
  unfold writeInside
  cases compound : first.isCompound with
  | true =>
    exact unwrap?_eq_none_of_closed (firstClean.tidyWritten.balanced.group .clause)
      (List.cons_ne_nil _ _)
  | false =>
    refine unwrap?_eq_none_of_head ?_
    rw [delimited, if_neg Bool.false_ne_true,
      List.head?_append_of_ne_nil _ firstClean.readShape.solid.nonempty]
    exact head?_write_ne firstClean.readShape compound

/-- The text of a clean filter does not stand in brackets as a whole. -/
theorem Clean.unwrap?_write {filter : Filter} (clean : Clean .clause filter) :
    unwrap? .clause (write .clause filter) = none := by
  cases compound : filter.isCompound with
  | false => exact unwrap?_eq_none_of_head (head?_write_ne clean.readShape compound)
  | true =>
    cases clean with
    | all two each =>
      rw [write_all]
      exact unwrap?_joined two each
    | any two each =>
      rw [write_any]
      exact unwrap?_joined two each
    | not => cases compound
    | group => cases compound
    | runtime => cases compound
    | released => cases compound
    | rating => cases compound
    | watched => cases compound

end Filter

/-- A clean filter is read back from its text, on its own and in an expression with a
sort key and a count, exactly when its text takes no more levels than there are. -/
theorem parse_rendered {filter : Filter} (clean : filter.Clean .clause) :
    Filter.parse filter.text =
        (if filter.cost ≤ Filter.nestingLimit then .ok filter
        else .error (.tooDeep Filter.nestingLimit)) ∧
      ∀ (sortKey : String) (count : Nat), trimmed sortKey = sortKey → '|' ∉ sortKey.toList →
        count < 2 ^ 64 →
        Expression.parse (Expression.text ⟨filter, sortKey, count⟩) =
          if filter.cost ≤ Filter.nestingLimit then .ok ⟨filter, sortKey, count⟩
          else .error (.tooDeep Filter.nestingLimit) := by
  have outcome := Filter.read_write clean.readShape clean.legible (Filter.nestingLimit + 1)
  have bound : filter.cost < Filter.nestingLimit + 1 ↔ filter.cost ≤ Filter.nestingLimit :=
    Nat.lt_succ_iff
  constructor
  · rw [Filter.parse, Filter.text, String.toList_ofList, outcome]
    by_cases enough : filter.cost ≤ Filter.nestingLimit
    · rw [if_pos enough, Filter.withinLevels_of_lt (bound.mpr enough)]
    · rw [if_neg enough, Filter.withinLevels_of_not_lt (bound.not.mpr enough)]
  · intro sortKey count sortKeyTrimmed sortKeyFree bounded
    have shaped : filter.Shaped Filter.CleanTerm Filter.ReadRating .clause :=
      clean.mono (fun _ _ term => term) fun _ rating => rating.readRating
    have filterFree := Filter.pipe_not_mem_write (fun _ _ term => term.pipeFree) shaped
    rw [Expression.parse_text ⟨filter, sortKey, count⟩ filterFree clean.readShape.solid.trimmed
      sortKeyFree sortKeyTrimmed bounded]
    dsimp only
    rw [clean.unwrap?_write, Option.getD_none, outcome]
    by_cases enough : filter.cost ≤ Filter.nestingLimit
    · rw [if_pos enough, Filter.withinLevels_of_lt (bound.mpr enough)]
      rfl
    · rw [if_neg enough, Filter.withinLevels_of_not_lt (bound.not.mpr enough)]
      rfl

/-- A list with a group of several terms, one of them with brackets of both shapes. -/
theorem parse_rendered_brackets :
    let filter : Filter := .all [.group .genre (.any [.term .genre "a (b) [c]", .term .genre "d"]),
      .not (.watched true)]
    filter.Clean .clause ∧
      filter.text = "genre:(a (b) [c] OR d) AND NOT watchstatus:true" ∧
      Filter.parse "genre:(a (b) [c] OR d) AND NOT watchstatus:true" = .ok filter ∧
      Expression.parse "\x7bgenre:(a (b) [c] OR d) AND NOT watchstatus:true | added | 7\x7d" =
        .ok ⟨filter, "added", 7⟩ := by
  intro filter
  have cleanTerm {text : String} (nonempty : text ≠ "") (edges : trimmed text = text)
      (pipeFree : '|' ∉ text.toList) (round : RoundBalanced text.toList)
      (square : SquareBalanced text.toList) (head : text.toList.head? ≠ some '(')
      (plain : afterNot? text.toList = none)
      (uncut : ∀ operator, Uncut (.value .genre) operator text.toList) :
      Filter.CleanTerm .genre text := by
    refine ⟨nonempty, edges, pipeFree, round, square, fun inner _ split => ?_,
      fun word blank rest letters isBlank split => ?_, uncut⟩
    · exact head (by rw [split]; rfl)
    · rw [(afterNot?_eq_none_iff _).mp plain word blank rest split letters] at isBlank
      cases isBlank
  have clean : filter.Clean .clause := by
    refine .all (by decide) fun child member => ?_
    rcases List.mem_pair.mp member with rfl | rfl
    · refine .group (.any (by decide) fun term inTerms => ?_)
      rcases List.mem_pair.mp inTerms with rfl | rfl
      all_goals
        exact .term (cleanTerm (by decide) rfl (by decide) (by decide) (by decide) (by decide) rfl
          fun operator => by cases operator <;> decide)
    · exact .not .watched
  have text : filter.text = "genre:(a (b) [c] OR d) AND NOT watchstatus:true" := rfl
  have low : filter.cost ≤ Filter.nestingLimit := by decide
  refine ⟨clean, text, ?_, ?_⟩
  · rw [← text]
    exact (parse_rendered clean).1.trans (if_pos low)
  · have inExpression : Expression.text ⟨filter, "added", 7⟩ =
        "\x7bgenre:(a (b) [c] OR d) AND NOT watchstatus:true | added | 7\x7d" := by
      rw [Expression.text, text]
      dsimp only
      decide
    rw [← inExpression]
    exact ((parse_rendered clean).2 "added" 7 rfl (by decide) (by decide)).trans (if_pos low)

end PlaylistRules
