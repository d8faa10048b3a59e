/-
This file defines how filters and expressions are written as rule text. A child
that is itself a list under AND or OR is always wrapped, in square brackets
within a clause and in parentheses within the value of a field, because reading
cuts at AND before OR.
-/

import PlaylistRules.Number.Layout
import PlaylistRules.Filter.Grouping

namespace PlaylistRules

open Number

namespace Filter

/-- The texts with a separator between them. -/
def joined (separator : List Char) (texts : List (List Char)) : List Char :=
  separator.intercalate texts

/-- The text in the delimiters of the kind of filter text, if it needs them. -/
def delimited (style : Bracketing) (needed : Bool) (text : List Char) : List Char :=
  if needed then style.opener :: text ++ [style.closer] else text

/-- A comparison of a kind of clause with a number. -/
def comparisonText (kind : List Char) (comparison : Comparison) (number : List Char) : List Char :=
  kind ++ ':' :: comparison.symbol.toList ++ number

/-- The word for a truth value. -/
def truthText (value : Bool) : List Char :=
  if value then "true".toList else "false".toList

mutual

/-- The text of a filter in a clause or in the value of a field. A bare term is
written alike in both, and so is every other leaf. -/
def write (style : Bracketing) : Filter → List Char
  | all children => joined " AND ".toList (writeEach style children)
  | any children => joined " OR ".toList (writeEach style children)
  | not inner => "NOT ".toList ++ delimited style inner.isCompound (write style inner)
  | group field value =>
    field.keyword.toList ++ ':' :: delimited (.value field) value.isCompound
      (write (.value field) value)
  | term _ text => text.toList
  | runtime comparison minutes =>
    comparisonText "length".toList comparison (integerText minutes)
  | released comparison year =>
    comparisonText "released".toList comparison (paddedIntegerText 4 year)
  | rating comparison value => comparisonText "rating".toList comparison value.plainText
  | watched state => "watchstatus:".toList ++ truthText state

/-- The texts of the children, each in delimiters if it is compound. -/
def writeEach (style : Bracketing) : List Filter → List (List Char)
  | [] => []
  | child :: rest => delimited style child.isCompound (write style child) :: writeEach style rest

end

/-- The rule text of a filter. -/
def text (filter : Filter) : String :=
  String.ofList (write .clause filter)

end Filter

/-- The rule text of an expression. -/
def Expression.text (expression : Expression) : String :=
  "\x7b" ++ expression.filter.text ++ " | " ++ expression.sortKey ++ " | " ++
    expression.count.repr ++ "\x7d"

end PlaylistRules
