/-
This file defines texts in double quotes with escapes, as values are shown to a
reader who has to tell them apart: characters without a picture of their own are
written by their codes.
-/

import PlaylistRules.Text.Hidden
import PlaylistRules.Text.Hexadecimal

namespace PlaylistRules.Text

/-- The code of a character in as few hexadecimal digits as it takes. -/
def codeDigits (character : Char) : List Char :=
  match (hexDigits 6 character.toNat).dropWhile (· == '0') with
  | [] => ['0']
  | digits => digits

/-- A character within double quotes. -/
def quotedChar (character : Char) : List Char :=
  if character = '\x00' then ['\\', '0']
  else if character = '\t' then ['\\', 't']
  else if character = '\r' then ['\\', 'r']
  else if character = '\n' then ['\\', 'n']
  else if character = '"' then ['\\', '"']
  else if character = '\\' then ['\\', '\\']
  else if isHidden character then ['\\', 'u', '\x7b'] ++ codeDigits character ++ ['\x7d']
  else [character]

/-- A text in double quotes. -/
def quotation (text : String) : String :=
  "\"" ++ String.ofList (text.toList.flatMap quotedChar) ++ "\""

end PlaylistRules.Text
