/-
This file defines directives: texts that say from which level on events are shown.
A directive may name a part of the program, by the beginning of its name, and in
brackets a scope and a field. A level alone is about everything, a name alone
shows everything of its part.

The parts of a directive are looked for in the text without the blanks around it,
but are cut out of the whole text at the same number of bytes.
-/

import PlaylistRules.Log.Pattern
import PlaylistRules.LogEvent
import PlaylistRules.Number.Numeral
import PlaylistRules.Text.Blank

namespace PlaylistRules.Log

open Number Text

/-! ### Thresholds -/

/-- The rank below which events are not shown. -/
abbrev Threshold := Nat

/-- The threshold that shows every event. -/
def everything : Threshold := 0

/-- The threshold that shows no event: errors are not logged but reported. -/
def nothing : Threshold := 4

/-- The threshold with a number. -/
def thresholdOfNumber? : Nat → Option Threshold
  | 0 | 1 => some nothing
  | 2 => some LogLevel.warning.rank
  | 3 => some LogLevel.info.rank
  | 4 => some LogLevel.debug.rank
  | 5 => some everything
  | _ => none

/-- The threshold with a name in any letter case. -/
def thresholdOfName? (text : List Char) : Option Threshold :=
  match String.ofList (text.map Char.toLower) with
  | "off" | "error" => some nothing
  | "warn" => some LogLevel.warning.rank
  | "info" => some LogLevel.info.rank
  | "debug" => some LogLevel.debug.rank
  | "trace" => some everything
  | _ => none

/-- The threshold that a text denotes: a name, or a number that a plus may precede. -/
def threshold? (text : List Char) : Option Threshold :=
  let digits := match text with
    | '+' :: digits => digits
    | digits => digits
  if isNatural digits then thresholdOfNumber? (naturalOfDigits digits) else thresholdOfName? text

/-! ### Directives -/

/-- A field that events must have, maybe with a certain value. -/
structure FieldTest where
  name : String
  hasValue : Bool
deriving DecidableEq

/-- A directive. One with a scope or with a value is about spans of time, which the
program does not report. -/
structure Directive where
  target : Option String
  scope : Option String
  field : Option FieldTest
  threshold : Threshold
deriving DecidableEq

namespace Directive

/-- The directive that is about everything. -/
def global (threshold : Threshold) : Directive := ⟨none, none, none, threshold⟩

/-! ### Cutting -/

/-- The number of bytes of a text. -/
def byteCount (text : List Char) : Nat :=
  text.foldl (fun bytes character => bytes + character.utf8Size) 0

/-- The text after a number of bytes, unless they end within a character. -/
def afterBytes? : (bytes : Nat) → List Char → Option (List Char)
  | 0, text => some text
  | _ + 1, [] => none
  | bytes + 1, character :: rest =>
    if character.utf8Size ≤ bytes + 1 then afterBytes? (bytes + 1 - character.utf8Size) rest
    else none

/-- The text of a number of bytes, unless they end within a character. -/
def firstBytes? : (bytes : Nat) → List Char → Option (List Char)
  | 0, _ => some []
  | _ + 1, [] => none
  | bytes + 1, character :: rest =>
    if character.utf8Size ≤ bytes + 1 then
      (firstBytes? (bytes + 1 - character.utf8Size) rest).map (character :: ·)
    else none

/-- The text of a number of bytes from a place on. -/
def cut? (text : List Char) (place bytes : Nat) : Option String :=
  ((afterBytes? place text).bind (firstBytes? bytes)).map String.ofList

/-! ### Reading -/

/-- Whether a character may begin a directive without brackets. -/
def mayBegin (character : Char) : Bool :=
  character == '-' || character == ':' || character == '_' || isAlphanumeric character

/-- The directive of a word: a level, or the name of a part. -/
def ofWord (word : List Char) : Directive :=
  match threshold? word with
  | some threshold => global threshold
  | none => { global everything with target := some (String.ofList word) }

/-- The directive with the level that stands at a place. An empty one shows everything. -/
def readLevel (whole : List Char) (place : Nat) (directive : Directive) : Option Directive := do
  let text ← afterBytes? place whole
  let threshold ← if text.isEmpty then some everything else threshold? text
  return { directive with threshold }

/-- The directive with what follows the brackets at a place. -/
def readAfterBrackets (whole : List Char) (place : Nat) (directive : Directive) :
    List Char → Option Directive
  | [] => some directive
  | '=' :: _ => readLevel whole (place + 1) directive
  | _ => none

/-- The test of a field that a text denotes. Only what stands between the first two
equals signs is its value. -/
def fieldTest? (text : List Char) : Option FieldTest :=
  match text.splitOn '=' with
  | [] => none
  | [name] => if name.isEmpty then none else some ⟨String.ofList name, false⟩
  | name :: value :: _ =>
    if Pattern.isValid value then some ⟨String.ofList name, true⟩ else none

/-- The directive with the field at a place and what follows it. -/
def readField (whole : List Char) (place : Nat) (directive : Directive) (text : List Char) :
    Option Directive := do
  let field ← cut? whole place (byteCount (text.takeWhile (· != '\x7d')))
  let place := place + byteCount (text.takeWhile (· != '\x7d')) + 2
  let '\x7d' :: ']' :: rest := text.dropWhile (· != '\x7d') | none
  readAfterBrackets whole place { directive with field := ← fieldTest? field.toList } rest

/-- The directive with the scope at a place and what follows it. -/
def readScope (whole : List Char) (place : Nat) (directive : Directive) (text : List Char) :
    Option Directive := do
  let isEnd := fun character => character == ']' || character == '\x7b'
  let bytes := byteCount (text.takeWhile (!isEnd ·))
  let scope ← cut? whole place bytes
  let place := place + bytes + 1
  match text.dropWhile (!isEnd ·) with
  | ']' :: rest => readAfterBrackets whole place { directive with scope := some scope } rest
  | '\x7b' :: rest =>
    let scope := if scope.isEmpty then none else some scope
    readField whole place { directive with scope } rest
  | _ => none

/-- The directive that a text denotes. -/
def ofText? (whole : List Char) : Option Directive :=
  let text := trim whole
  let isEnd := fun character => character == '=' || character == '['
  let bytes := byteCount (text.takeWhile (!isEnd ·))
  match text with
  | [] => none
  | '[' :: rest => readScope whole 1 (global everything) rest
  | first :: _ =>
    if !mayBegin first then none
    else
      match text.dropWhile (!isEnd ·) with
      | [] => some (ofWord whole)
      | '[' :: rest => do
        let target ← cut? whole 0 bytes
        readScope whole (bytes + 1) { global everything with target := some target } rest
      | _ => do
        let target ← cut? whole 0 bytes
        readLevel whole (bytes + 1) { global everything with target := some target }

/-! ### Events -/

/-- Whether a directive is about an event. -/
def isAbout (directive : Directive) (event : LogEvent) : Bool :=
  directive.scope.isNone &&
    (directive.target.all fun target =>
      target.toList.isPrefixOf event.origin.name.toList) &&
    directive.field.all fun field => !field.hasValue && event.hasField field.name

/-- How closely a directive says what it is about: by the length of its target, and
among targets of the same length by its field. -/
def isCloserThan (first second : Directive) : Bool :=
  let size := fun (directive : Directive) =>
    (directive.target.map fun target => target.utf8ByteSize + 1).getD 0
  let name := fun (directive : Directive) => (directive.field.map (·.name))
  size second < size first ||
    (size first == size second &&
      match name first, name second with
      | some first, some second => decide (second < first)
      | some _, none => true
      | none, _ => false)

end Directive

end PlaylistRules.Log
