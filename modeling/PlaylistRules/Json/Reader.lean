/-
This file defines reading of JSON text. Blanks are the space, the tab, the line
feed and the carriage return. Numbers have no leading zeros, texts no raw control
characters, and nothing but blanks may follow the value.
-/

import PlaylistRules.Json.Basic
import PlaylistRules.Text.Hexadecimal

namespace PlaylistRules.Json

open Number Text

/-- The rest of the text from the first character that is not a JSON blank. -/
def skipBlanks (text : List Char) : List Char :=
  text.dropWhile fun character =>
    character == ' ' || character == '\t' || character == '\n' || character == '\r'

/-! ### Texts -/

/-- A part of a quoted text: a character as it stands, or a code unit that was
escaped in hexadecimal digits. -/
inductive Piece where
  | char (character : Char)
  | unit (code : Nat)
deriving DecidableEq

/-- The character that a short escape stands for. -/
def shortEscape? (character : Char) : Option Char :=
  if character = '"' || character = '\\' || character = '/' then some character
  else if character = 'b' then some '\x08'
  else if character = 'f' then some '\x0c'
  else if character = 'n' then some '\n'
  else if character = 'r' then some '\r'
  else if character = 't' then some '\t'
  else none

/-- The pieces of a quoted text up to its closing quote, and what follows. -/
def readPieces : List Char → Option (List Piece × List Char)
  | [] => none
  | '"' :: rest => some ([], rest)
  | '\\' :: 'u' :: first :: second :: third :: fourth :: rest => do
    let code ← fourHexDigits? first second third fourth
    let (pieces, rest) ← readPieces rest
    return (.unit code :: pieces, rest)
  | '\\' :: character :: rest => do
    let character ← shortEscape? character
    let (pieces, rest) ← readPieces rest
    return (.char character :: pieces, rest)
  | character :: rest => do
    if character.toNat < 32 || character = '\\' then none
    let (pieces, rest) ← readPieces rest
    return (.char character :: pieces, rest)

/-- The characters of the pieces, with surrogate pairs joined. A half of a pair
on its own has none. -/
def joinPieces : List Piece → Option (List Char)
  | [] => some []
  | .char character :: rest => (joinPieces rest).map (character :: ·)
  | .unit high :: .unit low :: rest =>
    if 0xD800 ≤ high && high < 0xDC00 then
      if 0xDC00 ≤ low && low < 0xE000 then
        (joinPieces rest).map
          (Char.ofNat (0x10000 + (high - 0xD800) * 0x400 + (low - 0xDC00)) :: ·)
      else none
    else if 0xDC00 ≤ high && high < 0xE000 then none
    else (joinPieces (.unit low :: rest)).map (Char.ofNat high :: ·)
  | .unit code :: rest =>
    if 0xD800 ≤ code && code < 0xE000 then none
    else (joinPieces rest).map (Char.ofNat code :: ·)

/-- The quoted text after its opening quote, if it has characters, and what follows. -/
def readQuoted (text : List Char) : Option (Option String × List Char) := do
  let (pieces, rest) ← readPieces text
  return ((joinPieces pieces).map String.ofList, rest)

/-! ### Numbers -/

/-- The leading digits of the text, which must be there, and what follows. -/
def readDigits (text : List Char) : Option (List Char × List Char) :=
  let digits := text.takeWhile Char.isDigit
  if digits.isEmpty then none else some (digits, text.dropWhile Char.isDigit)

/-- The digits after a point, if there is a point. -/
def readFraction : List Char → Option (List Char × List Char)
  | '.' :: rest => readDigits rest
  | text => some ([], text)

/-- The exponent after its mark and sign. -/
def readExponentDigits (negative : Bool) (text : List Char) : Option (Option Int × List Char) := do
  let (digits, rest) ← readDigits text
  let size : Int := naturalOfDigits digits
  return (some (if negative then -size else size), rest)

/-- The exponent, if there is one. -/
def readExponent : List Char → Option (Option Int × List Char)
  | [] => some (none, [])
  | mark :: rest =>
    if mark = 'e' || mark = 'E' then
      match rest with
      | '-' :: rest => readExponentDigits true rest
      | '+' :: rest => readExponentDigits false rest
      | rest => readExponentDigits false rest
    else some (none, mark :: rest)

/-- The numeral after its sign. -/
def readUnsigned (negative : Bool) (text : List Char) : Option (Numeral × List Char) := do
  let (whole, rest) ← readDigits text
  if 1 < whole.length && whole.head? == some '0' then none
  let (fraction, rest) ← readFraction rest
  let (exponent, rest) ← readExponent rest
  return (⟨negative, whole, fraction, exponent⟩, rest)

/-- The numeral at the start of the text. -/
def readNumeral : List Char → Option (Numeral × List Char)
  | '-' :: rest => readUnsigned true rest
  | text => readUnsigned false text

/-! ### Values -/

/-- The value of a quoted text. -/
def ofQuoted : Option String → Json
  | some text => .string text
  | none => .brokenString

/-- The members with their names, if all the names have characters. -/
def named? : List (Option String × Json) → Option (List (String × Json))
  | [] => some []
  | (none, _) :: _ => none
  | (some name, value) :: rest => (named? rest).map ((name, value) :: ·)

/-- The object with members whose names were quoted texts. -/
def ofRead (members : List (Option String × Json)) : Json :=
  match named? members with
  | some members => .object members
  | none => .brokenObject

mutual

/-- The value at the start of the text, and what follows it. Every call with a
part of the text uses up one of the `steps`. -/
def readValue : (steps : Nat) → (text : List Char) → Option (Json × List Char)
  | 0, _ => none
  | steps + 1, text =>
    match skipBlanks text with
    | '"' :: rest => (readQuoted rest).map fun (text, rest) => (ofQuoted text, rest)
    | '[' :: rest =>
      match skipBlanks rest with
      | ']' :: rest => some (.array [], rest)
      | rest => (readItems steps rest).map fun (items, rest) => (.array items, rest)
    | '{' :: rest =>
      match skipBlanks rest with
      | '}' :: rest => some (.object [], rest)
      | rest => (readMembers steps rest).map fun (members, rest) => (ofRead members, rest)
    | 'n' :: 'u' :: 'l' :: 'l' :: rest => some (.null, rest)
    | 't' :: 'r' :: 'u' :: 'e' :: rest => some (.bool true, rest)
    | 'f' :: 'a' :: 'l' :: 's' :: 'e' :: rest => some (.bool false, rest)
    | rest => (readNumeral rest).map fun (numeral, rest) => (.number numeral, rest)

/-- The items of an array up to its closing bracket; at least one. -/
def readItems : (steps : Nat) → (text : List Char) → Option (List Json × List Char)
  | 0, _ => none
  | steps + 1, text => do
    let (item, rest) ← readValue steps text
    match skipBlanks rest with
    | ']' :: rest => some ([item], rest)
    | ',' :: rest =>
      let (items, rest) ← readItems steps rest
      some (item :: items, rest)
    | _ => none

/-- The members of an object up to its closing brace; at least one. -/
def readMembers : (steps : Nat) → (text : List Char) →
    Option (List (Option String × Json) × List Char)
  | 0, _ => none
  | steps + 1, text =>
    match skipBlanks text with
    | '"' :: rest => do
      let (name, rest) ← readQuoted rest
      let ':' :: rest := skipBlanks rest | none
      let (value, rest) ← readValue steps rest
      match skipBlanks rest with
      | '}' :: rest => some ([(name, value)], rest)
      | ',' :: rest =>
        let (members, rest) ← readMembers steps rest
        some ((name, value) :: members, rest)
      | _ => none
    | _ => none

end

/-- The value that the text holds, blanks around it aside. No nesting needs more
than two steps for each character. -/
def ofCharacters? (text : List Char) : Option Json := do
  let (value, rest) ← readValue (2 * text.length + 2) text
  if (skipBlanks rest).isEmpty then some value else none

/-- The value that a JSON text holds, if it is one. -/
def parse? (text : String) : Option Json :=
  ofCharacters? text.toList

end PlaylistRules.Json
