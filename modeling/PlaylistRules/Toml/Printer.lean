/-
This file defines how texts are written in TOML. Of the four quotings the first
one is taken that needs no escapes but that of the tab: double quotes, single
quotes, and both over several lines. A text that fits none of them is written in
double quotes with escapes.
-/

import PlaylistRules.Toml.Reader

namespace PlaylistRules.Toml

open Text

/-! ### What a text holds -/

/-- The length of the longest run of a character; `current` characters before the
text count in. -/
def longestRun (wanted : Char) : (current : Nat) → List Char → Nat
  | current, [] => current
  | current, character :: rest =>
    if character = wanted then longestRun wanted (current + 1) rest
    else max current (longestRun wanted 0 rest)

/-- Whether a text holds a control character other than tabs and line feeds. -/
def hasControl (text : List Char) : Bool :=
  text.any fun character => isControl character && character != '\n'

/-! ### Quotings -/

/-- A way to quote a text. -/
inductive Quoting where
  | basic
  | literal
  | longBasic
  | longLiteral
deriving DecidableEq

/-- Whether a quoting shows a text without escapes but that of the tab. -/
def Quoting.fits (text : List Char) : Quoting → Bool
  | basic =>
    !hasControl text && !text.contains '\\' && !text.contains '"' && !text.contains '\n'
  | literal => !hasControl text && !text.contains '\'' && !text.contains '\n'
  | longBasic => !hasControl text && !text.contains '\\' && longestRun '"' 0 text ≤ 2
  | longLiteral => !hasControl text && longestRun '\'' 0 text ≤ 2

/-- The quoting in which a text is written. -/
def Quoting.ofText (text : List Char) : Quoting :=
  if basic.fits text then basic
  else if literal.fits text then literal
  else if longBasic.fits text then longBasic
  else if longLiteral.fits text then longLiteral
  else if text.contains '\n' then longBasic
  else basic

/-! ### Writing -/

/-- The escaped form of a control character. -/
def controlText (character : Char) : List Char :=
  if character = '\x08' then ['\\', 'b']
  else if character = '\t' then ['\\', 't']
  else if character = '\n' then ['\\', 'n']
  else if character = '\x0c' then ['\\', 'f']
  else if character = '\r' then ['\\', 'r']
  else
    '\\' :: 'u' :: (hexDigits 4 character.toNat).map Char.toUpper

/-- The text with escapes. Line feeds are `kept` as they are in texts over several
lines, and of double quotes in a row every third one is escaped; `run` of them
stand before the text since the last escape. -/
def escaped (kept : Bool) : (run : Nat) → List Char → List Char
  | _, [] => []
  | run, character :: rest =>
    if character = '"' then
      if kept && run < 2 then '"' :: escaped kept (run + 1) rest
      else '\\' :: '"' :: escaped kept 0 rest
    else if character = '\\' then '\\' :: '\\' :: escaped kept 0 rest
    else if kept && character = '\n' then '\n' :: escaped kept 0 rest
    else if isControl character || character = '\t' then
      controlText character ++ escaped kept 0 rest
    else character :: escaped kept 0 rest

/-- The line break at the start of a quoted text of several lines. -/
def openingBreak (text : List Char) : List Char :=
  if text.contains '\n' then ['\n'] else []

/-- The text in a quoting. -/
def Quoting.write (text : List Char) : Quoting → List Char
  | basic => '"' :: escaped false 0 text ++ ['"']
  | literal => '\'' :: text ++ ['\'']
  | longBasic => ['"', '"', '"'] ++ openingBreak text ++ escaped true 0 text ++ ['"', '"', '"']
  | longLiteral => ['\'', '\'', '\''] ++ openingBreak text ++ text ++ ['\'', '\'', '\'']

/-- A text in quotes. -/
def quoted (text : String) : String :=
  String.ofList ((Quoting.ofText text.toList).write text.toList)

/-- The line that gives a key a text. -/
def textLine (key value : String) : String :=
  key ++ " = " ++ quoted value ++ "\n"

/-- The line that gives a key a truth value. -/
def booleanLine (key : String) (value : Bool) : String :=
  key ++ " = " ++ (if value then "true" else "false") ++ "\n"

end PlaylistRules.Toml
