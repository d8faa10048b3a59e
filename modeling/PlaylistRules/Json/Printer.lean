/-
This file defines how JSON values are written: compactly, or over several lines
with two spaces for each level. Quotes, backslashes and control characters are
escaped, and nothing else.
-/

import PlaylistRules.Json.Basic
import PlaylistRules.Text.Hexadecimal

namespace PlaylistRules.Json

open Text

/-! ### Texts -/

/-- The escaped form of a character. -/
def escapedChar (character : Char) : List Char :=
  if character = '"' then ['\\', '"']
  else if character = '\\' then ['\\', '\\']
  else if character = '\x08' then ['\\', 'b']
  else if character = '\t' then ['\\', 't']
  else if character = '\n' then ['\\', 'n']
  else if character = '\x0c' then ['\\', 'f']
  else if character = '\r' then ['\\', 'r']
  else if character.toNat < 32 then
    '\\' :: 'u' :: hexDigits 4 character.toNat
  else [character]

/-- The text between quotes. -/
def quotedText (text : String) : List Char :=
  '"' :: text.toList.flatMap escapedChar ++ ['"']

/-- The written form of a value without parts. -/
def scalarText : Json → List Char
  | .bool true => ['t', 'r', 'u', 'e']
  | .bool false => ['f', 'a', 'l', 's', 'e']
  | .number numeral => numeral.text
  | .string value => quotedText value
  | _ => ['n', 'u', 'l', 'l']

/-! ### Compact text -/

mutual

/-- The value on one line without blanks. -/
def compactText : Json → List Char
  | .array items => '[' :: compactItems items ++ [']']
  | .object members => '{' :: compactMembers members ++ ['}']
  | value => scalarText value

def compactItems : List Json → List Char
  | [] => []
  | [item] => compactText item
  | item :: rest => compactText item ++ ',' :: compactItems rest

def compactMembers : List (String × Json) → List Char
  | [] => []
  | [(name, value)] => quotedText name ++ ':' :: compactText value
  | (name, value) :: rest =>
      quotedText name ++ ':' :: compactText value ++ ',' :: compactMembers rest

end

/-! ### Text over several lines -/

/-- The start of a new line at the given level. -/
def newLine (level : Nat) : List Char :=
  '\n' :: List.replicate (2 * level) ' '

mutual

/-- The value with each part on a line of its own, inside `level` levels. -/
def indentedText (level : Nat) : Json → List Char
  | .array [] => ['[', ']']
  | .array (item :: rest) =>
    '[' :: indentedItems (level + 1) (item :: rest) ++ newLine level ++ [']']
  | .object [] => ['{', '}']
  | .object (member :: rest) =>
    '{' :: indentedMembers (level + 1) (member :: rest) ++ newLine level ++ ['}']
  | value => scalarText value

def indentedItems (level : Nat) : List Json → List Char
  | [] => []
  | [item] => newLine level ++ indentedText level item
  | item :: rest => newLine level ++ indentedText level item ++ ',' :: indentedItems level rest

def indentedMembers (level : Nat) : List (String × Json) → List Char
  | [] => []
  | [(name, value)] => newLine level ++ quotedText name ++ ':' :: ' ' :: indentedText level value
  | (name, value) :: rest =>
    newLine level ++ quotedText name ++ ':' :: ' ' :: indentedText level value ++
      ',' :: indentedMembers level rest

end

/-! ### Strings -/

/-- The compact text of a value. -/
def compact (value : Json) : String :=
  String.ofList (compactText value)

/-- The text of a value over several lines, without a final line break. -/
def pretty (value : Json) : String :=
  String.ofList (indentedText 0 value)

end PlaylistRules.Json
