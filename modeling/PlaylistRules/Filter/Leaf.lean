/-
This file defines how a clause without operators is read: a kind and a value with
a colon between them. The value of a field is handed on to the reader of terms,
that of a number is an operator and digits, and that of a watch status is true or
false in any letter case.
-/

import PlaylistRules.Text.Distance
import PlaylistRules.Text.LetterCase
import PlaylistRules.Filter.FormatError
import PlaylistRules.Filter.Grouping

namespace PlaylistRules.Filter

open Number Text

/-! ### Kinds -/

/-- The kinds of clauses that are known, in the order in which they are suggested. -/
def knownKinds : List String :=
  ["genre", "language", "type", "length", "released", "rating", "watchstatus"]

/-- The first of the closest kinds and its distance. -/
def closestKind (kind : List Char) : List String → Option (String × Nat)
  | [] => none
  | known :: rest =>
    let distance := distance kind known.toList
    match closestKind kind rest with
    | some (other, least) =>
      if least < distance then some (other, least) else some (known, distance)
    | none => some (known, distance)

/-- The known kind that an unknown one may have meant: at most two edits away. -/
def suggestion? (kind : String) : Option String :=
  match closestKind (lowercase kind).toList knownKinds with
  | some (known, distance) => if 0 < distance && distance ≤ 2 then some known else none
  | none => none

/-! ### Comparisons -/

/-- Whether a character belongs to comparison operators. -/
def isOperatorChar (character : Char) : Bool :=
  character == '<' || character == '>' || character == '='

/-- The minutes of a running time: digits of a number below `2 ^ 63`. -/
def minutes? (text : List Char) : Option Int :=
  let minutes := naturalOfDigits text
  if isNatural text && minutes < 2 ^ 63 then some minutes else none

/-- The year of release: exactly four digits. -/
def year? (text : List Char) : Option Int :=
  if isNatural text && text.length == 4 then some (naturalOfDigits text) else none

/-- The rating: digits with at most one point among them. -/
def rating? (text : List Char) : Option Binary64 :=
  let whole := text.takeWhile Char.isDigit
  match text.dropWhile Char.isDigit with
  | [] => if whole.isEmpty then none else some (Binary64.ofDecimal whole [])
  | '.' :: fraction =>
    if fraction.all Char.isDigit && !(whole ++ fraction).isEmpty then
      some (Binary64.ofDecimal whole fraction)
    else none
  | _ => none

/-- The comparison and the number of a value: the longest run of operator
characters must be an operator, and what follows it a number. -/
def comparison? (number? : List Char → Option α) (value : List Char) : Option (Comparison × α) := do
  let comparison ← Comparison.ofSymbol? (value.takeWhile isOperatorChar)
  let number ← number? (value.dropWhile isOperatorChar)
  return (comparison, number)

/-- Reads the comparison of a kind of clause. -/
def readComparison (kind value : List Char) (number? : List Char → Option α)
    (filter : Comparison → α → Filter) : Except FormatError Filter :=
  match comparison? number? value with
  | some (comparison, number) => .ok (filter comparison number)
  | none => .error (.invalidComparison (String.ofList kind) (String.ofList value))

/-! ### Watch status -/

/-- Reads a watch status. -/
def readWatched (value : List Char) : Except FormatError Filter :=
  if value.map Char.toLower = "true".toList then .ok (watched true)
  else if value.map Char.toLower = "false".toList then .ok (watched false)
  else .error (.invalidBoolean (String.ofList value))

/-! ### Clauses -/

/-- The texts before and after the first colon. -/
def splitColon? : List Char → Option (List Char × List Char)
  | [] => none
  | character :: rest =>
    if character = ':' then some ([], rest)
    else (splitColon? rest).map fun (before, after) => (character :: before, after)

/-- Reads a clause without operators; `readValue` reads the value of a field. -/
def readLeaf (readValue : Field → List Char → Except FormatError Filter) (text : List Char) :
    Except FormatError Filter :=
  match splitColon? text with
  | none => .error (.missingColon (String.ofList text))
  | some (before, after) =>
    let kind := trim before
    let value := trim after
    match lowercase (String.ofList kind) with
    | "genre" => group .genre <$> readValue .genre value
    | "language" => group .language <$> readValue .language value
    | "type" => group .contentType <$> readValue .contentType value
    | "length" => readComparison kind value minutes? runtime
    | "released" => readComparison kind value year? released
    | "rating" => readComparison kind value rating? rating
    | "watchstatus" => readWatched value
    | _ => .error (.unknownKind (String.ofList kind) (suggestion? (String.ofList kind)))

end PlaylistRules.Filter
