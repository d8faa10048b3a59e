/-
This file defines which texts are patterns for the values of fields. A pattern is
a number, or a regular expression: characters and classes of characters, groups
of alternatives, places, and repetitions of what stands before them. Word
boundaries, letter case and the classes with a name outside of brackets are not
supported.
-/

import PlaylistRules.Text.Alphanumeric
import PlaylistRules.Text.Hexadecimal

namespace PlaylistRules.Log

open Text

namespace Pattern

/-! ### Numbers -/

/-- Whether a text is nothing, or an exponent with its mark. -/
def isExponent : List Char → Bool
  | [] => true
  | mark :: rest =>
    let digits := match rest with
      | '+' :: digits | '-' :: digits => digits
      | digits => digits
    mark.toLower = 'e' && !digits.isEmpty && digits.all Char.isDigit

/-- Whether a text is a number without a sign, or one of the words for what is
no ordinary number. -/
def isNumber (text : List Char) : Bool :=
  let rest := text.dropWhile Char.isDigit
  let digits := text.takeWhile Char.isDigit
  ["inf", "infinity", "nan"].contains (String.ofList (text.map Char.toLower)) ||
    match rest with
    | '.' :: rest =>
      !(digits.isEmpty && (rest.takeWhile Char.isDigit).isEmpty) &&
        isExponent (rest.dropWhile Char.isDigit)
    | rest => !digits.isEmpty && isExponent rest

/-! ### Escapes -/

/-- What an escape stands for: a character, or a place in the text. -/
inductive Escape where
  | char (character : Char)
  | place

/-- The character that a letter stands for in an escape. -/
def controlOf? (letter : Char) : Option Char :=
  if letter = 'a' then some '\x07'
  else if letter = 'f' then some '\x0c'
  else if letter = 't' then some '\t'
  else if letter = 'n' then some '\n'
  else if letter = 'r' then some '\r'
  else if letter = 'v' then some '\x0b'
  else none

/-- The number of digits that follow a letter in an escape. -/
def digitsAfter? (letter : Char) : Option Nat :=
  if letter = 'x' then some 2
  else if letter = 'u' then some 4
  else if letter = 'U' then some 8
  else none

/-- The escape after a backslash, and what follows it. -/
def readEscape : List Char → Option (Escape × List Char)
  | [] => none
  | letter :: rest =>
    match digitsAfter? letter, controlOf? letter with
    | some count, _ => do
      if rest.length < count then none
      let character ← charOfCode? (← hexNumber? 0 (rest.take count))
      return (.char character, rest.drop count)
    | none, some control => some (.char control, rest)
    | none, none =>
      if letter = 'A' || letter = 'z' then some (.place, rest)
      else if letter.isAlphanum || letter = '<' || letter = '>' || 128 ≤ letter.toNat then none
      else some (.char letter, rest)

/-! ### Classes -/

/-- The names of classes that may stand in a class. -/
def classNames : List String :=
  ["alnum", "alpha", "ascii", "blank", "cntrl", "digit", "graph", "lower", "print", "punct",
    "space", "upper", "word", "xdigit"]

/-- What follows a named class after its opening bracket. -/
def afterNamedClass? : List Char → Option (List Char)
  | ':' :: text =>
    let text := match text with
      | '^' :: rest => rest
      | rest => rest
    match text.dropWhile (· != ':') with
    | ':' :: ']' :: rest =>
      if classNames.contains (String.ofList (text.takeWhile (· != ':'))) then some rest else none
    | _ => none
  | _ => none

/-- What follows the start of a class after its opening bracket. Hyphens at the
start stand for themselves, and so does a closing bracket. -/
def afterClassStart (text : List Char) : List Char :=
  let text := match text with
    | '^' :: rest => rest
    | rest => rest
  match text with
  | ']' :: rest => rest
  | rest => rest.dropWhile (· == '-')

/-- A character of a class, and what follows it. -/
def readMember : List Char → Option (Char × List Char)
  | [] => none
  | '\\' :: rest =>
    match readEscape rest with
    | some (.char character, rest) => some (character, rest)
    | _ => none
  | character :: rest => some (character, rest)

/-- What follows a character of a class or a range of them. -/
def afterRange? (text : List Char) : Option (List Char) := do
  let (first, rest) ← readMember text
  match rest with
  | '-' :: next :: after =>
    if next = ']' || next = '-' then some rest
    else do
      let (last, rest) ← readMember (next :: after)
      if first ≤ last then some rest else none
  | _ => some rest

/-- What follows a class, from a place inside `depth` brackets on. Every step takes
some of the text. -/
def afterClass? : (steps depth : Nat) → List Char → Option (List Char)
  | 0, _, _ => none
  | steps + 1, depth, text =>
    match text with
    | [] => none
    | '[' :: rest =>
      match afterNamedClass? rest with
      | some rest => afterClass? steps depth rest
      | none => afterClass? steps (depth + 1) (afterClassStart rest)
    | ']' :: rest => if depth ≤ 1 then some rest else afterClass? steps (depth - 1) rest
    | '&' :: '&' :: rest | '-' :: '-' :: rest | '~' :: '~' :: rest => afterClass? steps depth rest
    | _ => do afterClass? steps depth (← afterRange? text)

/-! ### Groups -/

/-- What opens with a parenthesis: a group, maybe with a name, or a setting. -/
inductive Opening where
  | group (name : List Char)
  | setting

/-- The name of a group up to its closing bracket, and what follows. -/
def readGroupName (text : List Char) : Option (Opening × List Char) :=
  let name := text.takeWhile (· != '>')
  let mayFollow := fun character =>
    isAlphanumeric character || ['_', '.', '[', ']'].contains character
  match name, text.dropWhile (· != '>') with
  | first :: others, '>' :: rest =>
    if (first = '_' || (isAlphanumeric first && !first.isDigit)) && others.all mayFollow then
      some (.group name, rest)
    else none
  | _, _ => none

/-- Whether letters are settings to turn on and, after a hyphen, to turn off. -/
def areSettings (letters : List Char) : Bool :=
  let known := ['i', 'm', 's', 'U', 'u', 'R', 'x', '-']
  letters.all known.contains && letters.Nodup && letters.getLast? != some '-' &&
    !(letters.takeWhile (· != '-')).contains 'i'

/-- What opens after a parenthesis, and what follows. -/
def readOpening : List Char → Option (Opening × List Char)
  | '?' :: 'P' :: '<' :: rest => readGroupName rest
  | '?' :: '<' :: rest => readGroupName rest
  | '?' :: rest =>
    let isEnd := fun character => character == ':' || character == ')'
    let letters := rest.takeWhile (!isEnd ·)
    if !areSettings letters then none
    else
      match rest.dropWhile (!isEnd ·) with
      | ':' :: rest => some (.group [], rest)
      | ')' :: rest => if letters.isEmpty then none else some (.setting, rest)
      | _ => none
  | rest => some (.group [], rest)

/-! ### Whole patterns -/

/-- Whether the rest of a regular expression makes sense. `depth` groups are open,
`names` are taken, and `repeatable` says whether something to repeat has just been
read. Every step takes some of the text. -/
def isRegular : (steps depth : Nat) → (names : List (List Char)) → (repeatable : Bool) →
    List Char → Bool
  | 0, _, _, _, _ => false
  | steps + 1, depth, names, repeatable, text =>
    match text with
    | [] => depth = 0
    | '(' :: rest =>
      match readOpening rest with
      | none => false
      | some (.setting, rest) => isRegular steps depth names false rest
      | some (.group [], rest) => isRegular steps (depth + 1) names false rest
      | some (.group name, rest) =>
        !names.contains name && isRegular steps (depth + 1) (name :: names) false rest
    | ')' :: rest => 0 < depth && isRegular steps (depth - 1) names true rest
    | '|' :: rest => isRegular steps depth names false rest
    | '[' :: rest =>
      match afterClass? text.length 1 (afterClassStart rest) with
      | some rest => isRegular steps depth names true rest
      | none => false
    | '\\' :: rest =>
      match readEscape rest with
      | some (_, rest) => isRegular steps depth names true rest
      | none => false
    | '\x7b' :: _ => false
    | '?' :: rest | '*' :: rest | '+' :: rest =>
      repeatable && isRegular steps depth names true rest
    | _ :: rest => isRegular steps depth names true rest

/-- Whether a text is a pattern. -/
def isValid : List Char → Bool
  | '+' :: rest => isNumber rest
  | text => isRegular (text.length + 1) 0 [] false text

end Pattern

end PlaylistRules.Log
