/-
This file defines how a parsed expression is shown: as an outline with a line for
each part of its filter, two blanks further in at each level, or as JSON text. A
field group around a single term takes no line of its own.
-/

import PlaylistRules.Json.Printer
import PlaylistRules.Filter.Encoding
import PlaylistRules.Filter.Printer
import PlaylistRules.Selection
import PlaylistRules.Text.Paint

namespace PlaylistRules

open Number Text

/-! ### Lines -/

/-- A line of an outline: a keyword that heads the lines below it, or a leaf. -/
structure OutlineLine where
  level : Nat
  isKeyword : Bool
  text : String
deriving DecidableEq

/-- The written line. Keywords are painted if colours are wanted. -/
def OutlineLine.render (colors : Bool) (line : OutlineLine) : String :=
  let painted :=
    if colors && line.isKeyword then paint .bold (paint .cyan line.text) else line.text
  String.ofList (List.replicate (2 * line.level) ' ') ++ painted ++ "\n"

namespace Filter

/-- A comparison as it stands in an outline. -/
def comparisonLine (name : String) (comparison : Comparison) (number : List Char) : String :=
  name ++ " " ++ comparison.symbol ++ " " ++ String.ofList number

mutual

/-- The lines of a filter from a level on. -/
def outline (level : Nat) : Filter → List OutlineLine
  | all children => ⟨level, true, "AND"⟩ :: outlineEach (level + 1) children
  | any children => ⟨level, true, "OR"⟩ :: outlineEach (level + 1) children
  | not inner => ⟨level, true, "NOT"⟩ :: outline (level + 1) inner
  | group field value =>
    if value.isTerm then outline level value
    else ⟨level, true, field.keyword ++ ":"⟩ :: outline (level + 1) value
  | term field text => [⟨level, false, field.keyword ++ " = " ++ text⟩]
  | runtime comparison minutes =>
    [⟨level, false, comparisonLine "length" comparison (integerText minutes)⟩]
  | released comparison year =>
    [⟨level, false, comparisonLine "released" comparison (integerText year)⟩]
  | rating comparison value =>
    [⟨level, false, comparisonLine "rating" comparison value.plainText⟩]
  | watched state => [⟨level, false, "watchstatus = " ++ String.ofList (truthText state)⟩]

def outlineEach (level : Nat) : List Filter → List OutlineLine
  | [] => []
  | child :: rest => outline level child ++ outlineEach level rest

end

end Filter

/-! ### Expressions -/

namespace Expression

/-- The outline of an expression with its interpreted sort key and its count. -/
def outlineText (colors : Bool) (expression : Expression) : String :=
  String.join ((expression.filter.outline 0).map (·.render colors)) ++
    "sort: " ++ expression.order.text ++ "\n" ++
    "count: " ++ expression.count.repr ++ "\n"

/-- The JSON text of an expression with its rule text and both forms of its sort
key. -/
def jsonText (expression : Expression) : String :=
  (Json.object [
    ("expression", .string expression.text),
    ("filter", expression.filter.toJson),
    ("sort", .string expression.sortKey),
    ("sort_key", .string expression.order.text),
    ("count", .ofNat expression.count)]).pretty

end Expression

end PlaylistRules
