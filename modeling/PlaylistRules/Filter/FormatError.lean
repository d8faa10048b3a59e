/-
This file defines what can be wrong with the text of an expression, and how each
fault is worded.
-/

import PlaylistRules.Filter.Basic

namespace PlaylistRules

/-- A fault in the text of an expression. -/
inductive FormatError where
  /-- The expression is not wrapped in braces. -/
  | missingBraces (expression : String)
  /-- The braces do not hold three parts. -/
  | partCount (found : Nat)
  /-- The count is not a natural number that fits 64 bits. -/
  | invalidCount (value : String)
  /-- The filter clause, or a part of it, is empty. -/
  | emptyFilter
  /-- A clause has no colon between kind and value. -/
  | missingColon (clause : String)
  /-- No kind of clause has this name; another kind may be close. -/
  | unknownKind (kind : String) (suggestion : Option String)
  /-- The value of a comparison is not an operator and a number. -/
  | invalidComparison (kind value : String)
  /-- The watch status is neither true nor false. -/
  | invalidBoolean (value : String)
  /-- A term of a field group is empty. -/
  | emptyTerm (field : Field)
  /-- Groups, negations and splits are nested too deeply. -/
  | tooDeep (limit : Nat)
deriving DecidableEq

namespace FormatError

/-- The hint that follows an unknown kind. -/
def suggestionText : Option String → String
  | some suggestion => " (did you mean '" ++ suggestion ++ "'?)"
  | none => ""

/-- The wording of a fault. -/
def message : FormatError → String
  | missingBraces expression => "expression must be wrapped in braces: " ++ expression
  | partCount found =>
    "expected 3 pipe-separated parts (filter | sort | count), found " ++ found.repr
  | invalidCount value =>
    "invalid count: '" ++ value ++ "' (expected a non-negative integer)"
  | emptyFilter => "filter clause is empty"
  | missingColon clause => "filter clause '" ++ clause ++ "' is missing a ':' separator"
  | unknownKind kind suggestion =>
    "unknown filter kind: '" ++ kind ++ "'" ++ suggestionText suggestion
  | invalidComparison kind value => "invalid " ++ kind ++ " comparison: '" ++ value ++ "'"
  | invalidBoolean value =>
    "invalid watchstatus value: '" ++ value ++ "' (expected true or false)"
  | emptyTerm field => "empty " ++ field.keyword ++ " term"
  | tooDeep limit => "expression nesting exceeds maximum depth of " ++ limit.repr

end FormatError

end PlaylistRules
