/-
This file defines reading of filters and expressions. A text is tried in a fixed
order: cut at AND, cut at OR, freed of NOT, freed of enclosing delimiters, and
last read as a leaf. So `A AND B OR C` is `A AND (B OR C)`. Every step down uses
up one of a limited number of levels, and a text that needs more is refused.

An expression wraps three parts in braces: filter, sort key and count, divided by
pipes.
-/

import PlaylistRules.Filter.Leaf

namespace PlaylistRules

open Number Text

/-! ### Filters -/

namespace Filter

/-- The number of levels below the outermost one. -/
def nestingLimit : Nat := 64

/-- The fault of an empty text. -/
def emptyFault : Bracketing → FormatError
  | .clause => .emptyFilter
  | .value field => .emptyTerm field

/-- Reads a text within a number of levels. -/
def read : (levels : Nat) → (style : Bracketing) → (text : List Char) → Except FormatError Filter
  | 0, _, _ => .error (.tooDeep nestingLimit)
  | levels + 1, style, text =>
    let text := trim text
    if text.isEmpty then .error (emptyFault style)
    else if 2 ≤ (pieces style ['A', 'N', 'D'] text).length then
      all <$> (pieces style ['A', 'N', 'D'] text).mapM (read levels style)
    else if 2 ≤ (pieces style ['O', 'R'] text).length then
      any <$> (pieces style ['O', 'R'] text).mapM (read levels style)
    else
      match afterNot? text with
      | some rest => not <$> read levels style rest
      | none =>
        match unwrap? style text with
        | some inner => read levels style inner
        | none =>
          match style with
          | .value field => .ok (term field (String.ofList text))
          | .clause => readLeaf (fun field => read levels (.value field)) text

/-- Reads the text of a filter. -/
def parse (text : String) : Except FormatError Filter :=
  read (nestingLimit + 1) .clause text.toList

/-- Reads a clause without operators. -/
def parseLeaf (text : String) : Except FormatError Filter :=
  readLeaf (fun field => read nestingLimit (.value field)) text.toList

/-- Reads the value of a field: the expression inside its group. -/
def parseValue (field : Field) (text : String) : Except FormatError Filter :=
  read (nestingLimit + 1) (.value field) text.toList

end Filter

/-! ### Expressions -/

namespace Expression

/-- The text between braces around the whole. -/
def body? : List Char → Option (List Char)
  | [] => none
  | first :: rest =>
    if first = '{' && rest.getLast? == some '}' then some rest.dropLast else none

/-- Reads a count: digits of a number below `2 ^ 64`. -/
def readCount (text : List Char) : Except FormatError Nat :=
  if isNatural text && naturalOfDigits text < 2 ^ 64 then .ok (naturalOfDigits text)
  else .error (.invalidCount (String.ofList text))

/-- Reads an expression between blanks. -/
def read (text : List Char) : Except FormatError Expression :=
  let text := trim text
  match body? text with
  | none => .error (.missingBraces (String.ofList text))
  | some body =>
    match (body.splitOn '|').map trim with
    | [filter, sortKey, count] => do
      let count ← readCount count
      let filter ← Filter.read (Filter.nestingLimit + 1) .clause
        ((unwrap? .clause filter).getD filter)
      return ⟨filter, String.ofList sortKey, count⟩
    | parts => .error (.partCount parts.length)

/-- Reads the text of an expression. -/
def parse (text : String) : Except FormatError Expression :=
  read text.toList

end Expression

end PlaylistRules
