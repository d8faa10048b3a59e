/-
This file defines filters and expressions as JSON values. A filter is an object
whose only member names the kind of filter. Reading allows containers to nest up
to a limit, counted over the whole text.
-/

import PlaylistRules.Json.Decoding
import PlaylistRules.Filter.Basic

namespace PlaylistRules

open Number

/-! ### Comparisons -/

namespace Comparison

/-- The name of a comparison. -/
def name : Comparison → String
  | less => "less_than"
  | greater => "greater_than"
  | equal => "equal"
  | atMost => "less_or_equal"
  | atLeast => "greater_or_equal"

/-- The comparison with the given name. -/
def ofName? (name : String) : Option Comparison :=
  [less, greater, equal, atMost, atLeast].find? (·.name == name)

/-- A comparison is its name, or an object with the name and null. The object takes up
one of the containers that may still nest. -/
def ofJson? : (containers : Nat) → Json → Option Comparison
  | _, .string name => ofName? name
  | _ + 1, .object [(name, .null)] => ofName? name
  | _, _ => none

end Comparison

/-! ### Filters -/

namespace Field

/-- The name of a group of the field. -/
def groupName : Field → String
  | genre => "genre_group"
  | language => "language_group"
  | contentType => "type_group"

/-- The name of a term of the field. -/
def termName : Field → String
  | genre => "genre_is"
  | language => "language_is"
  | contentType => "type_is"

end Field

namespace Filter

/-- The value of a comparison with a number. -/
def comparisonJson (name : String) (comparison : Comparison) (unit : String) (number : Json) :
    Json :=
  .object [(name, .object [("op", .string comparison.name), (unit, number)])]

mutual

/-- A filter as a JSON value. -/
def toJson : Filter → Json
  | all children => .object [("and", .array (toJsonEach children))]
  | any children => .object [("or", .array (toJsonEach children))]
  | not inner => .object [("not", inner.toJson)]
  | group field value => .object [(field.groupName, value.toJson)]
  | term field text => .object [(field.termName, .string text)]
  | runtime comparison minutes =>
    comparisonJson "runtime_compare" comparison "minutes" (.ofInt minutes)
  | released comparison year =>
    comparisonJson "release_year_compare" comparison "year" (.ofInt year)
  | rating comparison value =>
    comparisonJson "rating_compare" comparison "value" (.ofBinary64 value)
  | watched state => .object [("watched_is", .bool state)]

def toJsonEach : List Filter → List Json
  | [] => []
  | child :: rest => child.toJson :: toJsonEach rest

end

/-- Containers in a JSON text nest at most this deep. -/
def containerLimit : Nat := 127

/-- The minutes that a filter compares with. -/
def minutesOfJson? : Json → Option Int :=
  Json.integer? (-2 ^ 63) (2 ^ 63 - 1)

/-- The year that a filter compares with. -/
def yearOfJson? : Json → Option Int :=
  Json.integer? (-2 ^ 31) (2 ^ 31 - 1)

/-- A comparison with a number, read from a value. -/
def comparisonOfJson? (unit : String) (number? : Json → Option α)
    (filter : Comparison → α → Filter) : (containers : Nat) → Json → Option Filter
  | 0, _ => none
  | containers + 1, value => do
    let [comparison, number] ← value.fields? ["op", unit] | none
    return filter (← Json.required (Comparison.ofJson? containers) comparison)
      (← Json.required number? number)

/-- A filter that has no filters inside, read from its name and value. -/
def leafOfJson? (containers : Nat) (name : String) (value : Json) : Option Filter :=
  match name with
  | "genre_is" => (term .genre) <$> value.string?
  | "language_is" => (term .language) <$> value.string?
  | "type_is" => (term .contentType) <$> value.string?
  | "runtime_compare" => comparisonOfJson? "minutes" minutesOfJson? runtime containers value
  | "release_year_compare" => comparisonOfJson? "year" yearOfJson? released containers value
  | "rating_compare" => comparisonOfJson? "value" Json.binary64? rating containers value
  | "watched_is" => watched <$> value.bool?
  | _ => none

/-- A filter read from a JSON value, within a number of containers. -/
def ofJson? : (containers : Nat) → Json → Option Filter
  | containers + 1, .object [(name, value)] =>
    match name with
    | "and" =>
      match containers, value with
      | containers + 1, .array items => all <$> items.mapM (ofJson? containers)
      | _, _ => none
    | "or" =>
      match containers, value with
      | containers + 1, .array items => any <$> items.mapM (ofJson? containers)
      | _, _ => none
    | "not" => not <$> ofJson? containers value
    | "genre_group" => group .genre <$> ofJson? containers value
    | "language_group" => group .language <$> ofJson? containers value
    | "type_group" => group .contentType <$> ofJson? containers value
    | _ => leafOfJson? containers name value
  | _, _ => none

end Filter

/-! ### Expressions -/

namespace Expression

/-- An expression as a JSON value. -/
def toJson (expression : Expression) : Json :=
  .object [("filter", expression.filter.toJson), ("sort_key", .string expression.sortKey),
    ("count", .ofNat expression.count)]

/-- An expression read from a JSON value. -/
def ofJson? (value : Json) : Option Expression := do
  let [filter, sortKey, count] ← value.fields? ["filter", "sort_key", "count"] | none
  return ⟨← Json.required (Filter.ofJson? (Filter.containerLimit - 1)) filter,
    ← Json.required Json.string? sortKey, ← Json.required (Json.natural? (2 ^ 64)) count⟩

end Expression

end PlaylistRules
