/-
This file proves that every filter that is read is well formed. Each way of reading
hands on parts of its text only, so a term is a part of the text; and a term is kept
only where no way of taking it apart applies, so it is read as itself again. The
levels of the reader bound the height of the filter.
-/

import PlaylistRules.Proofs.Digits
import PlaylistRules.Proofs.Envelope
import PlaylistRules.Proofs.Shape
import PlaylistRules.Proofs.Slices

namespace PlaylistRules

open Number Text

namespace Filter

/-! ### Bare terms -/

/-- A text that is a term of the field as it stands. -/
structure BareTerm (field : Field) (text : List Char) : Prop where
  nonempty : text ≠ []
  trimmed : trim text = text
  undivided : Undivided (.value field) text
  plain : afterNot? text = none
  bare : unwrap? (.value field) text = none

theorem read_of_bareTerm {field : Field} {text : List Char} (bareTerm : BareTerm field text)
    (levels : Nat) :
    read (levels + 1) (.value field) text = .ok (.term field (String.ofList text)) := by
  rw [read_succ, bareTerm.trimmed]
  exact readStep_of_term bareTerm.nonempty bareTerm.undivided bareTerm.plain bareTerm.bare

/-! ### Parts that are read -/

theorem splitColon?_isInfix {text before after : List Char}
    (colon : splitColon? text = some (before, after)) : trim after <:+: text := by
  obtain ⟨rfl, _⟩ := (splitColon?_eq_some_iff text before after).mp colon
  refine (trim_isInfix after).trans (List.IsSuffix.isInfix ⟨before ++ [':'], ?_⟩)
  rw [List.append_assoc, List.singleton_append]

theorem comparison?_eq_some_iff {Quantity : Type} (number? : List Char → Option Quantity)
    (value : List Char) (comparison : Comparison) (quantity : Quantity) :
    comparison? number? value = some (comparison, quantity) ↔
      Comparison.ofSymbol? (value.takeWhile isOperatorChar) = some comparison ∧
        number? (value.dropWhile isOperatorChar) = some quantity := by
  simp [comparison?, Option.bind_eq_some_iff]

/-- A rating that is read is a number without a sign, and at most infinite. -/
structure ReadRating (value : Binary64) : Prop where
  unsigned : value.negative = false
  bounded : value.code ≤ Binary64.infinityCode

theorem rating?_eq_some {text : List Char} {value : Binary64} (found : rating? text = some value) :
    ReadRating value := by
  have decimal (whole fraction : List Char) : ReadRating (Binary64.ofDecimal whole fraction) :=
    ⟨rfl, Nat.min_le_right _ _⟩
  unfold rating? at found
  dsimp only at found
  split at found
  · split at found
    · cases found
    · exact Option.some.inj found ▸ decimal _ _
  · split at found
    · exact Option.some.inj found ▸ decimal _ _
    · cases found
  · cases found

/-! ### Every filter that is read -/

/-- The terms that a text can hold. -/
def BareTermOf (text : List Char) (field : Field) (term : String) : Prop :=
  BareTerm field term.toList ∧ term.toList <:+: text

theorem Shaped.of_isInfix {style : Bracketing} {part text : List Char} {filter : Filter}
    (shaped : filter.Shaped (BareTermOf part) ReadRating style) (inside : part <:+: text) :
    filter.Shaped (BareTermOf text) ReadRating style :=
  shaped.mono (fun _ _ term => ⟨term.1, term.2.trans inside⟩) fun _ rating => rating

/-- What every text that is read in this way stands for: a filter of its shape, lower
than the number of levels. -/
def ReadsShaped (levels : Nat) (next : Bracketing → List Char → Except FormatError Filter) : Prop :=
  ∀ {style : Bracketing} {text : List Char} {filter : Filter}, next style text = .ok filter →
    filter.Shaped (BareTermOf text) ReadRating style ∧ filter.height < levels

section

variable {next : Bracketing → List Char → Except FormatError Filter} {levels : Nat}

/-- The pieces at an operator are read as the children of a list. -/
theorem shaped_of_pieces (shaped : ReadsShaped levels next) {style : Bracketing}
    {operator : Operator} {text : List Char} {children : List Filter}
    (two : 2 ≤ (pieces style operator.word text).length)
    (each : List.Forall₂ (fun piece child => next style piece = .ok child)
      (pieces style operator.word text) children) :
    2 ≤ children.length ∧
      (∀ child ∈ children, child.Shaped (BareTermOf text) ReadRating style) ∧
      nestingEach 0 children < levels := by
  have same := each.length_eq
  have fromPiece (child : Filter) (member : child ∈ children) :
      child.Shaped (BareTermOf text) ReadRating style ∧ child.height < levels := by
    obtain ⟨piece, inPieces, parsed⟩ := exists_input_of_mem each member
    obtain ⟨ofPiece, low⟩ := shaped parsed
    exact ⟨ofPiece.of_isInfix (pieces_isInfix inPieces), low⟩
  refine ⟨same ▸ two, fun child member => (fromPiece child member).1, ?_⟩
  refine (nestingEach_lt_iff 0 levels ?_).mpr fun child member => ?_
  · rintro rfl
    simp [same] at two
  · rw [wrappedNesting_zero]
    exact (fromPiece child member).2

/-- One step of reading keeps to the shape, and takes one level. -/
theorem Reading.shaped (shaped : ReadsShaped levels next) {style : Bracketing}
    {text : List Char} {filter : Filter} (nonempty : text ≠ []) (trimmed : trim text = text)
    (reading : Reading next style text filter) :
    filter.Shaped (BareTermOf text) ReadRating style ∧ filter.height < levels + 1 := by
  cases reading with
  | all two each =>
    obtain ⟨twoChildren, eachShaped, low⟩ := shaped_of_pieces shaped two each
    exact ⟨.all twoChildren eachShaped, by rw [height, nesting]; omega⟩
  | any _ two each =>
    obtain ⟨twoChildren, eachShaped, low⟩ := shaped_of_pieces shaped two each
    exact ⟨.any twoChildren eachShaped, by rw [height, nesting]; omega⟩
  | not _ negated inside =>
    obtain ⟨inner, low⟩ := shaped inside
    refine ⟨.not (inner.of_isInfix (afterNot?_isInfix negated)), ?_⟩
    rw [height, nesting_not, wrappedNesting_zero]
    exact Nat.succ_lt_succ low
  | unwrapped _ _ wrapped inside =>
    obtain ⟨inner, low⟩ := shaped inside
    exact ⟨inner.of_isInfix (unwrap?_isInfix wrapped), Nat.lt_succ_of_lt low⟩
  | term undivided plain bare =>
    refine ⟨.term ⟨?_, ?_⟩, Nat.succ_pos levels⟩
    · rw [String.toList_ofList]
      exact ⟨nonempty, trimmed, undivided, plain, bare⟩
    · rw [String.toList_ofList]
  | leaf _ _ _ inside =>
    cases inside with
    | group colon _ inside =>
      obtain ⟨value, low⟩ := shaped inside
      refine ⟨.group (value.of_isInfix (splitColon?_isInfix colon)), ?_⟩
      rw [height, nesting_group, wrappedNesting_zero]
      exact Nat.succ_lt_succ low
    | runtime _ _ found =>
      obtain ⟨nonnegative, bounded⟩ :=
        minutes_bounds ((comparison?_eq_some_iff _ _ _ _).mp found).2
      exact ⟨.runtime nonnegative bounded, Nat.succ_pos levels⟩
    | released _ _ found =>
      obtain ⟨nonnegative, bounded⟩ := year_bounds ((comparison?_eq_some_iff _ _ _ _).mp found).2
      exact ⟨.released nonnegative bounded, Nat.succ_pos levels⟩
    | rating _ _ found =>
      exact ⟨.rating (rating?_eq_some ((comparison?_eq_some_iff _ _ _ _).mp found).2),
        Nat.succ_pos levels⟩
    | watched => exact ⟨.watched, Nat.succ_pos levels⟩

end

/-- A filter that is read has a shape and is not as high as there are levels. -/
theorem read_shaped (levels : Nat) : ReadsShaped levels (read levels) := by
  induction levels with
  | zero =>
    intro style text filter parsed
    cases parsed
  | succ levels inductionHypothesis =>
    intro style text filter parsed
    obtain ⟨nonempty, reading⟩ := (read_eq_ok_iff levels style text filter).mp parsed
    obtain ⟨shaped, low⟩ := reading.shaped inductionHypothesis nonempty (trim_trim text)
    exact ⟨shaped.of_isInfix (trim_isInfix text), low⟩

/-! ### Well-formed filters -/

/-- The terms that can be read from a text: parts of it without blanks at the edges,
read as themselves again. -/
structure ReadTerm (text : String) (field : Field) (term : String) : Prop where
  nonempty : term ≠ ""
  trimmed : trimmed term = term
  part : term.toList <:+: text.toList
  fixed : parseValue field term = .ok (.term field term)

/-- The ratings that can be read. -/
structure NonnegativeRating (value : Binary64) : Prop where
  number : value.isNotANumber = false
  nonnegative : Binary64.zero.atMost value = true

theorem BareTermOf.readTerm {text : String} {field : Field} {term : String}
    (bareTermOf : BareTermOf text.toList field term) : ReadTerm text field term := by
  obtain ⟨bareTerm, part⟩ := bareTermOf
  refine ⟨?_, ?_, part, ?_⟩
  · rintro rfl
    exact bareTerm.nonempty rfl
  · rw [Text.trimmed, bareTerm.trimmed, String.ofList_toList]
  · rw [parseValue, read_of_bareTerm bareTerm, String.ofList_toList]

theorem ReadRating.nonnegative {value : Binary64} (readRating : ReadRating value) :
    NonnegativeRating value := by
  have number : value.isNotANumber = false := by
    simpa [Binary64.isNotANumber] using readRating.bounded
  refine ⟨number, ?_⟩
  have place : value.place = value.code := by
    rw [Binary64.place, readRating.unsigned]
    rfl
  rw [Binary64.atMost, number, place]
  simp [Binary64.zero, Binary64.isNotANumber, Binary64.place]

end Filter

/-- Whatever is read is well formed: lists of at least two, terms in groups of their own
field only, numbers in their ranges, and nothing more than 64 levels down. In an
expression, moreover, neither terms nor the sort key hold a pipe, and the sort key
stands without blanks around it. -/
theorem parsed_well_formed (text : String) :
    (∀ filter, Filter.parse text = .ok filter →
      filter.Shaped (Filter.ReadTerm text) Filter.NonnegativeRating .clause ∧
        filter.height ≤ Filter.nestingLimit) ∧
    ∀ expression, Expression.parse text = .ok expression →
      expression.filter.Shaped
          (fun field term => Filter.ReadTerm text field term ∧ '|' ∉ term.toList)
          Filter.NonnegativeRating .clause ∧
        expression.filter.height ≤ Filter.nestingLimit ∧
        '|' ∉ expression.sortKey.toList ∧ trimmed expression.sortKey = expression.sortKey := by
  constructor
  · intro filter parsed
    obtain ⟨shaped, low⟩ := Filter.read_shaped _ parsed
    exact ⟨shaped.mono (fun _ _ term => term.readTerm) fun _ rating => rating.nonnegative,
      Nat.le_of_lt_succ low⟩
  · intro expression parsed
    obtain ⟨filter, sortKey, count, enclosed, parts⟩ := Expression.exists_enclosed_of_read parsed
    obtain ⟨_, filterParsed, sameKey⟩ :=
      (Expression.readParts_eq_ok_iff filter sortKey count expression).mp parts
    obtain ⟨shaped, low⟩ := Filter.read_shaped _ filterParsed
    have inFilter := Expression.clauseOf_isInfix filter
    have terms (field : Field) (term : String)
        (ofClause : Filter.BareTermOf (Expression.clauseOf filter) field term) :
        Filter.ReadTerm text field term ∧ '|' ∉ term.toList := by
      constructor
      · exact Filter.BareTermOf.readTerm
          ⟨ofClause.1, ofClause.2.trans (inFilter.trans enclosed.filter_isInfix)⟩
      · exact fun pipe => enclosed.filterFree (inFilter.subset (ofClause.2.subset pipe))
    refine ⟨shaped.mono terms fun _ rating => rating.nonnegative, Nat.le_of_lt_succ low, ?_, ?_⟩
    · rw [← sameKey, String.toList_ofList]
      exact fun pipe => enclosed.sortKeyFree ((trim_isInfix sortKey).subset pipe)
    · rw [← sameKey, trimmed, String.toList_ofList, trim_trim]

/-- A group with a stray parenthesis in its term, in an expression with a sort key. -/
theorem parsed_well_formed_stray_parenthesis :
    let filter : Filter := .all [.group .genre (.term .genre "a)"), .runtime .atLeast 0]
    Filter.parse "genre:a) AND length:>=0" = .ok filter ∧
      filter.Shaped (Filter.ReadTerm "genre:a) AND length:>=0") Filter.NonnegativeRating .clause ∧
      Expression.parse "\x7bgenre:a) AND length:>=0 | added | 5\x7d" = .ok ⟨filter, "added", 5⟩ ∧
      filter.height ≤ Filter.nestingLimit := by
  refine ⟨rfl, ((parsed_well_formed _).1 _ rfl).1, rfl, ?_⟩
  exact ((parsed_well_formed "\x7bgenre:a) AND length:>=0 | added | 5\x7d").2 _ rfl).2.1

end PlaylistRules
