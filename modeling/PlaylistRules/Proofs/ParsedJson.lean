/-
This file proves when an expression that was parsed from text survives JSON. Two things
could be in the way. Containers in a JSON text nest up to a limit, and a list takes two of
them for one level of reading. But a member of a list is not taken apart again at the same
operator, nor a member of an OR at AND, before some other step has taken a level, so a
filter that was read stays well below the limit. And a number that is not finite has no
JSON form, while a rating with enough digits is read as infinite. That alone decides.
-/

import PlaylistRules.Proofs.Canonical
import PlaylistRules.Proofs.Decoded
import PlaylistRules.Proofs.Subpieces
import PlaylistRules.Report.Outline

namespace PlaylistRules

open Number Text

namespace Filter

/-! ### Finite ratings -/

/-- Whether all ratings of a filter are finite numbers. -/
def HasFiniteRatings (filter : Filter) : Prop :=
  ∀ rating ∈ filter.ratings, rating.isFinite = true

instance (filter : Filter) : Decidable filter.HasFiniteRatings :=
  inferInstanceAs (Decidable (∀ rating ∈ filter.ratings, rating.isFinite = true))

/-! ### How deep a filter nests -/

/-- How many operators reading passes by, in the order in which it tries them, because
they do not divide the text. -/
def passedBy (style : Bracketing) (text : List Char) : Nat :=
  if 2 ≤ (pieces style Operator.and.word text).length then 0
  else if 2 ≤ (pieces style Operator.or.word text).length then 1
  else 2

theorem passedBy_trim (style : Bracketing) (text : List Char) :
    passedBy style (trim text) = passedBy style text := by
  rw [passedBy, passedBy, pieces_trim, pieces_trim]

theorem passedBy_of_undivided {style : Bracketing} {text : List Char}
    (undivided : Undivided style text) : passedBy style text = 2 := by
  rw [passedBy, if_neg (Nat.not_le.mpr undivided.and), if_neg (Nat.not_le.mpr undivided.or)]

theorem one_le_passedBy {style : Bracketing} {text : List Char}
    (undivided : (pieces style Operator.and.word text).length < 2) : 1 ≤ passedBy style text := by
  rw [passedBy, if_neg (Nat.not_le.mpr undivided)]
  split <;> decide

/-- Every text that is read in this way stands for a filter that fits, if its ratings are
finite and there are five containers for three levels: two for an AND, two for an OR in
it, and one for the step below them. -/
def ReadsStorable (levels : Nat) (next : Bracketing → List Char → Except FormatError Filter) :
    Prop :=
  ∀ {style : Bracketing} {text : List Char} {filter : Filter}, next style text = .ok filter →
    filter.HasFiniteRatings → ∀ {containers : Nat},
      5 * levels < 3 * containers + passedBy style text → filter.Storable containers

section

variable {next : Bracketing → List Char → Except FormatError Filter} {levels : Nat}

/-- Pieces that are not divided further are read as children that fit. -/
theorem storable_of_pieces (storable : ReadsStorable levels next) {style : Bracketing}
    {operator : Operator} {text : List Char} {children : List Filter}
    (each : List.Forall₂ (fun piece child => next style piece = .ok child)
      (pieces style operator.word text) children)
    (finite : ∀ value ∈ ratingsEach children, value.isFinite = true) {containers : Nat}
    (room : ∀ piece ∈ pieces style operator.word text,
      5 * levels < 3 * containers + passedBy style piece) :
    ∀ child ∈ children, child.Storable containers := by
  intro child member
  obtain ⟨piece, inPieces, parsed⟩ := exists_input_of_mem each member
  exact storable parsed (fun value inChild => finite value (mem_ratingsEach member inChild))
    (room piece inPieces)

/-- One step of reading needs no more containers than the levels allow. -/
theorem Reading.storable (storable : ReadsStorable levels next) {style : Bracketing}
    {text : List Char} {filter : Filter} (reading : Reading next style text filter)
    (finite : filter.HasFiniteRatings) {containers : Nat}
    (room : 5 * (levels + 1) < 3 * containers + passedBy style text) :
    filter.Storable containers := by
  have few : passedBy style text ≤ 2 := by
    unfold passedBy
    split <;> [decide; (split <;> decide)]
  obtain ⟨below, rfl⟩ : ∃ below, containers = below + 2 := ⟨containers - 2, by omega⟩
  cases reading with
  | all two each =>
    rw [passedBy, if_pos two] at room
    refine .all (storable_of_pieces storable each finite fun piece member => ?_)
    have passed := one_le_passedBy (length_pieces_of_mem_pieces member).1
    omega
  | any undivided two each =>
    rw [passedBy, if_neg (Nat.not_le.mpr undivided), if_pos two] at room
    refine .any (storable_of_pieces storable each finite fun piece member => ?_)
    obtain ⟨atOr, noMore⟩ := length_pieces_of_mem_pieces member
    rw [passedBy_of_undivided ⟨Nat.lt_of_le_of_lt (noMore .and) undivided, atOr⟩]
    omega
  | not _ _ inside => exact .not (storable inside finite (by omega))
  | unwrapped _ _ _ inside => exact storable inside finite (by omega)
  | term => exact .term
  | leaf _ _ _ inside =>
    cases inside with
    | group _ _ inside => exact .group (storable inside finite (by omega))
    | runtime _ _ found =>
      obtain ⟨nonnegative, bounded⟩ :=
        minutes_bounds ((comparison?_eq_some_iff _ _ _ _).mp found).2
      exact .runtime (by omega) (by omega)
    | released _ _ found =>
      obtain ⟨nonnegative, bounded⟩ := year_bounds ((comparison?_eq_some_iff _ _ _ _).mp found).2
      exact .released (by omega) (by omega)
    | rating => exact .rating (finite _ List.mem_cons_self)
    | watched => exact .watched

end

/-- A filter that is read fits, if its ratings are finite and there are enough containers. -/
theorem read_storable (levels : Nat) : ReadsStorable levels (read levels) := by
  induction levels with
  | zero =>
    intro style text filter parsed
    cases parsed
  | succ levels inductionHypothesis =>
    intro style text filter parsed finite containers room
    obtain ⟨_, reading⟩ := (read_eq_ok_iff levels style text filter).mp parsed
    rw [← passedBy_trim] at room
    exact reading.storable inductionHypothesis finite room

end Filter

/-! ### Expressions in JSON -/

namespace Expression

/-- What was parsed from text fits as soon as its ratings are finite. -/
theorem isStorable_of_parse {text : String} {expression : Expression}
    (parsed : parse text = .ok expression) (finite : expression.filter.HasFiniteRatings) :
    expression.IsStorable := by
  obtain ⟨filter, sortKey, count, _, parts⟩ := exists_enclosed_of_read parsed
  obtain ⟨countParsed, filterParsed, _⟩ :=
    (readParts_eq_ok_iff filter sortKey count expression).mp parts
  refine ⟨Filter.read_storable _ filterParsed finite ?_, bounds_of_readCount countParsed⟩
  exact Nat.lt_add_right _ (by decide)

/-- The JSON value that shows an expression. -/
def shownJson (expression : Expression) : Json :=
  .object [("expression", .string expression.text), ("filter", expression.filter.toJson),
    ("sort", .string expression.sortKey), ("sort_key", .string expression.order.text),
    ("count", .ofNat expression.count)]

theorem jsonText_eq (expression : Expression) :
    expression.jsonText = expression.shownJson.pretty := rfl

theorem isFaithful_shownJson (expression : Expression) : expression.shownJson.IsFaithful :=
  ⟨trivial, expression.filter.isFaithful_toJson, trivial, trivial,
    Json.isFaithful_ofInt expression.count, trivial⟩

theorem fields?_shownJson (expression : Expression) :
    expression.shownJson.fields? ["filter"] = some [some expression.filter.toJson] :=
  Json.fields?_ofMembers [("expression", some _), ("filter", some _), ("sort", some _),
    ("sort_key", some _), ("count", some _)] [("filter", _)] (by simp) (by simp)

/-- The filter in a JSON text that shows an expression, read where it stands. -/
def shownFilter? (text : String) : Option Filter := do
  let [shown] ← (← Json.parse? text).fields? ["filter"] | none
  Json.required (Filter.ofJson? (Filter.containerLimit - 1)) shown

theorem shownFilter?_jsonText (expression : Expression) :
    shownFilter? expression.jsonText =
      Filter.ofJson? (Filter.containerLimit - 1) expression.filter.toJson := by
  rw [shownFilter?, jsonText_eq, Json.parse?_pretty expression.isFaithful_shownJson]
  simp only [Option.bind_eq_bind, Option.bind_some, fields?_shownJson]
  rfl

end Expression

theorem eq_ok_of_toOption {Fault Output : Type} {result : Except Fault Output} {output : Output}
    (found : result.toOption = some output) : result = .ok output := by
  cases result with
  | error fault => cases found
  | ok other => exact congrArg Except.ok (Option.some.inj found)

/-- The JSON text of an expression that was parsed decodes to the expression, and the filter
shown in JSON text to its filter, exactly when all ratings are finite. Else nothing is
decoded. Finite ratings are taken to be read as they are written. -/
theorem decode_parsed_eq_ite (text : String) (expression : Expression)
    (parsed : Expression.parse text = .ok expression)
    (back : ∀ rating ∈ expression.filter.ratings, Json.IsReadAsWritten rating) :
    (∀ written ∈ [expression.toJson.compact, expression.toJson.pretty],
      DataKind.expression.decode? written =
        if expression.filter.HasFiniteRatings then some expression else none) ∧
      Expression.shownFilter? expression.jsonText =
        if expression.filter.HasFiniteRatings then some expression.filter else none := by
  have read : Expression.ofJson? expression.toJson =
        (if expression.filter.HasFiniteRatings then some expression else none) ∧
      Filter.ofJson? (Filter.containerLimit - 1) expression.filter.toJson =
        if expression.filter.HasFiniteRatings then some expression.filter else none := by
    split
    case isTrue finite =>
      have storable := Expression.isStorable_of_parse parsed finite
      exact ⟨Expression.ofJson?_toJson storable back, Filter.ofJson?_toJson storable.filter back⟩
    case isFalse infinite =>
      obtain ⟨rating, member, notFinite⟩ := not_forall₂.mp infinite
      rw [Bool.not_eq_true] at notFinite
      exact ⟨Expression.ofJson?_toJson_of_infinite notFinite member,
        Filter.ofJson?_toJson_of_infinite notFinite _ member _⟩
  refine ⟨fun written form => ?_, (Expression.shownFilter?_jsonText expression).trans read.2⟩
  have parsedAgain : Json.parse? written = some expression.toJson := by
    simp only [List.mem_cons, List.not_mem_nil, or_false] at form
    rcases form with rfl | rfl
    · exact Json.parse?_compact expression.isFaithful_toJson
    · exact Json.parse?_pretty expression.isFaithful_toJson
  rw [DataKind.decode?, parsedAgain, Option.bind_some]
  exact read.1

/-- A rating with a fraction, next to a field with two terms. -/
theorem decode_parsed_fraction :
    let text := "\x7brating:>=7.5 AND genre:(Drama OR Crime) | rating | 5\x7d"
    ∃ expression, Expression.parse text = .ok expression ∧
      (∀ rating ∈ expression.filter.ratings, Json.IsReadAsWritten rating) ∧
      DataKind.expression.decode? expression.toJson.compact = some expression ∧
      Expression.shownFilter? expression.jsonText = some expression.filter := by
  intro text
  have checked : ((Expression.parse text).toOption.map fun expression =>
      decide ((∀ rating ∈ expression.filter.ratings, Json.IsReadAsWritten rating) ∧
        expression.filter.HasFiniteRatings)) = some true := by
    decide +kernel
  obtain ⟨expression, found, holds⟩ := Option.map_eq_some_iff.mp checked
  obtain ⟨back, finite⟩ := of_decide_eq_true holds
  have parsed := eq_ok_of_toOption found
  obtain ⟨decoded, shown⟩ := decode_parsed_eq_ite text expression parsed back
  rw [if_pos finite] at shown
  exact ⟨expression, parsed, back,
    (decoded _ List.mem_cons_self).trans (if_pos finite), shown⟩

/-- A rating of 309 digits is infinite, so that what is parsed does not always survive JSON. -/
theorem not_decode_parsed_infinite :
    ¬ ∀ (text : String) (expression : Expression), Expression.parse text = .ok expression →
      (∀ rating ∈ expression.filter.ratings, Json.IsReadAsWritten rating) →
        DataKind.expression.decode? expression.toJson.compact = some expression := by
  intro survives
  let characters := "\x7brating:>".toList ++ List.replicate 309 '9' ++ " | rating | 5\x7d".toList
  have checked : ((Expression.read characters).toOption.map fun expression =>
      decide (expression.filter.ratings = [⟨false, Binary64.infinityCode⟩])) = some true := by
    decide +kernel
  obtain ⟨expression, found, holds⟩ := Option.map_eq_some_iff.mp checked
  have ratings := of_decide_eq_true holds
  have parsed : Expression.parse (String.ofList characters) = .ok expression := by
    rw [Expression.parse, String.toList_ofList]
    exact eq_ok_of_toOption found
  have decoded := survives _ expression parsed fun rating member finite => by
    rw [ratings, List.mem_singleton] at member
    rw [member] at finite
    cases finite
  have infinite : (⟨false, Binary64.infinityCode⟩ : Binary64).isFinite = false := by decide
  have unread := Expression.ofJson?_toJson_of_infinite infinite (ratings ▸ List.mem_cons_self)
  rw [DataKind.decode?, Json.parse?_compact expression.isFaithful_toJson, Option.bind_some]
    at decoded
  exact absurd (unread.symm.trans decoded) (by simp)

end PlaylistRules
