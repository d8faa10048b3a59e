/-
This file defines reading of TOML text: comments, headers of tables and of
repeated tables, plain, quoted and dotted keys, and values. A text in double quotes
has escapes, one in single quotes has none, and in triple quotes both may run over
several lines. Arrays and tables in braces nest up to a limit, which holds for the
names in a key too.
-/

import PlaylistRules.Number.Binary64
import PlaylistRules.Text.Hexadecimal
import PlaylistRules.Toml.Basic
import PlaylistRules.Toml.DateTime

namespace PlaylistRules.Toml

open Number Text

/-! ### Blanks and lines -/

/-- Whether a character is blank within a line. -/
def isSpace (character : Char) : Bool :=
  character == ' ' || character == '\t'

/-- Whether a character may not stand in a text as it is. -/
def isControl (character : Char) : Bool :=
  (character.toNat < 32 && character != '\t') || character.toNat == 127

/-- The text from the first character that is not blank within a line. -/
def skipSpaces (text : List Char) : List Char :=
  text.dropWhile isSpace

/-- The text after a line break or at the end of the text. -/
def afterBreak? : List Char → Option (List Char)
  | [] => some []
  | '\n' :: rest => some rest
  | '\r' :: '\n' :: rest => some rest
  | _ => none

/-- The text after the end of a line, blanks and a comment aside. -/
def afterLine? (text : List Char) : Option (List Char) :=
  match skipSpaces text with
  | '#' :: comment => afterBreak? (comment.dropWhile (!isControl ·))
  | rest => afterBreak? rest

/-- The text from the first character that is neither blank nor part of a comment
nor a line break. Every line takes one of the `lines`. -/
def skipLines : (lines : Nat) → (text : List Char) → List Char
  | 0, text => skipSpaces text
  | lines + 1, text =>
    match skipSpaces text with
    | [] => []
    | rest =>
      match afterLine? rest with
      | some next => skipLines lines next
      | none => rest

/-! ### Texts -/

/-- The character that a short escape stands for. -/
def shortEscape? (character : Char) : Option Char :=
  if character = '"' || character = '\\' then some character
  else if character = 'b' then some '\x08'
  else if character = 't' then some '\t'
  else if character = 'n' then some '\n'
  else if character = 'f' then some '\x0c'
  else if character = 'r' then some '\r'
  else none

/-- The rest of a text on one line up to its closing double quote, and what follows. -/
def readBasic : List Char → Option (List Char × List Char)
  | [] => none
  | '"' :: rest => some ([], rest)
  | '\\' :: 'u' :: first :: second :: third :: fourth :: rest => do
    let character ← charOfCode? (← fourHexDigits? first second third fourth)
    let (characters, rest) ← readBasic rest
    return (character :: characters, rest)
  | '\\' :: 'U' :: first :: second :: third :: fourth :: fifth :: sixth :: seventh :: eighth ::
      rest => do
    let high ← fourHexDigits? first second third fourth
    let low ← fourHexDigits? fifth sixth seventh eighth
    let character ← charOfCode? (high * 0x10000 + low)
    let (characters, rest) ← readBasic rest
    return (character :: characters, rest)
  | '\\' :: escape :: rest => do
    let character ← shortEscape? escape
    let (characters, rest) ← readBasic rest
    return (character :: characters, rest)
  | character :: rest => do
    if isControl character || character = '\\' then none
    let (characters, rest) ← readBasic rest
    return (character :: characters, rest)

/-- The rest of a text on one line up to its closing single quote, and what follows. -/
def readLiteral : List Char → Option (List Char × List Char)
  | [] => none
  | '\'' :: rest => some ([], rest)
  | character :: rest => do
    if isControl character then none
    let (characters, rest) ← readLiteral rest
    return (character :: characters, rest)

/-- The text without a line break at its start. -/
def dropBreak : List Char → List Char
  | '\n' :: rest => rest
  | '\r' :: '\n' :: rest => rest
  | text => text

/-- Whether a line ends here, blanks aside. -/
def endsLine (text : List Char) : Bool :=
  match skipSpaces text with
  | '\n' :: _ => true
  | '\r' :: '\n' :: _ => true
  | _ => false

/-- The rest of a text over several lines up to its closing double quotes, and
what follows. A backslash at the end of a line takes the break and all blanks
after it away; they are `skipped`. -/
def readLongBasic : (skipped : Bool) → List Char → Option (List Char × List Char)
  | _, [] => none
  | _, '"' :: '"' :: '"' :: '"' :: '"' :: rest => some (['"', '"'], rest)
  | _, '"' :: '"' :: '"' :: '"' :: rest => some (['"'], rest)
  | _, '"' :: '"' :: '"' :: rest => some ([], rest)
  | _, '\\' :: 'u' :: first :: second :: third :: fourth :: rest => do
    let character ← charOfCode? (← fourHexDigits? first second third fourth)
    let (characters, rest) ← readLongBasic false rest
    return (character :: characters, rest)
  | _, '\\' :: 'U' :: first :: second :: third :: fourth :: fifth :: sixth :: seventh :: eighth ::
      rest => do
    let high ← fourHexDigits? first second third fourth
    let low ← fourHexDigits? fifth sixth seventh eighth
    let character ← charOfCode? (high * 0x10000 + low)
    let (characters, rest) ← readLongBasic false rest
    return (character :: characters, rest)
  | skipped, '\r' :: '\n' :: rest => do
    let (characters, rest) ← readLongBasic skipped rest
    return (if skipped then characters else '\n' :: characters, rest)
  | skipped, '\n' :: rest => do
    let (characters, rest) ← readLongBasic skipped rest
    return (if skipped then characters else '\n' :: characters, rest)
  | _, '\\' :: escape :: rest => do
    if endsLine (escape :: rest) then readLongBasic true (escape :: rest)
    else
      let character ← shortEscape? escape
      let (characters, rest) ← readLongBasic false rest
      return (character :: characters, rest)
  | skipped, character :: rest => do
    if isControl character || character = '\\' then none
    else if skipped && isSpace character then readLongBasic true rest
    else
      let (characters, rest) ← readLongBasic false rest
      return (character :: characters, rest)

/-- The rest of a text over several lines up to its closing single quotes, and
what follows. -/
def readLongLiteral : List Char → Option (List Char × List Char)
  | [] => none
  | '\'' :: '\'' :: '\'' :: '\'' :: '\'' :: rest => some (['\'', '\''], rest)
  | '\'' :: '\'' :: '\'' :: '\'' :: rest => some (['\''], rest)
  | '\'' :: '\'' :: '\'' :: rest => some ([], rest)
  | '\r' :: '\n' :: rest => do
    let (characters, rest) ← readLongLiteral rest
    return ('\n' :: characters, rest)
  | character :: rest => do
    if isControl character && character != '\n' then none
    let (characters, rest) ← readLongLiteral rest
    return (character :: characters, rest)

/-- The text in quotes at the start, and what follows. -/
def readText : List Char → Option (List Char × List Char)
  | '"' :: '"' :: '"' :: rest => readLongBasic false (dropBreak rest)
  | '"' :: rest => readBasic rest
  | '\'' :: '\'' :: '\'' :: rest => readLongLiteral (dropBreak rest)
  | '\'' :: rest => readLiteral rest
  | _ => none

/-! ### Keys -/

/-- Whether a character may stand in a key without quotes. -/
def isKeyChar (character : Char) : Bool :=
  character.isAlphanum || character == '_' || character == '-'

/-- The name at the start: letters, digits, underscores and hyphens, or a text in
quotes on one line. -/
def readName : List Char → Option (String × List Char)
  | '"' :: rest => (readBasic rest).map fun (name, rest) => (String.ofList name, rest)
  | '\'' :: rest => (readLiteral rest).map fun (name, rest) => (String.ofList name, rest)
  | text =>
    let name := text.takeWhile isKeyChar
    if name.isEmpty then none else some (String.ofList name, text.dropWhile isKeyChar)

/-- The names between points at the start, with at most as many points as given. -/
def readNames : (points : Nat) → List Char → Option (List String × List Char)
  | 0, text => do
    let (name, rest) ← readName (skipSpaces text)
    return ([name], skipSpaces rest)
  | points + 1, text => do
    let (name, rest) ← readName (skipSpaces text)
    match skipSpaces rest with
    | '.' :: rest =>
      let (names, rest) ← readNames points rest
      return (name :: names, rest)
    | rest => return ([name], rest)

/-- Arrays and tables in braces nest at most this deep, and a key has at most as
many names. -/
def nestingLimit : Nat := 79

/-- The key at the start: the names before its last one, and the last one. -/
def readKey (text : List Char) : Option (List String × String × List Char) := do
  let (names, rest) ← readNames text.length text
  if nestingLimit < names.length then none
  let last ← names.getLast?
  return (names.dropLast, last, rest)

/-! ### Numbers -/

/-- The digits of a number without the underscores between them. -/
def withoutUnderscores? (isDigit : Char → Bool) (text : List Char) : Option (List Char) :=
  let groups := text.splitOn '_'
  if groups.all fun group => !group.isEmpty && group.all isDigit then some groups.flatten
  else none

/-- The value of digits in a base. -/
def valueInBase (base : Nat) (digits : List Char) : Nat :=
  digits.foldl (fun value digit => base * value + (hexValue? digit).getD 0) 0

/-- The value of digits in a base other than ten. -/
def readInBase (base : Nat) (text : List Char) : Option Int := do
  let digits ← withoutUnderscores? (fun digit => (hexValue? digit).any (· < base)) text
  return valueInBase base digits

/-- The digits of a whole number, which have no zero in front. -/
def wholeDigits? (text : List Char) : Option (List Char) := do
  let digits ← withoutUnderscores? Char.isDigit text
  if 1 < digits.length && digits.head? == some '0' then none else some digits

/-- The sign and what follows it. -/
def splitSign : List Char → Bool × List Char
  | '-' :: rest => (true, rest)
  | '+' :: rest => (false, rest)
  | text => (false, text)

/-- The integer that a word denotes. -/
def integerOfWord? (word : List Char) : Option Int :=
  match word with
  | '0' :: 'x' :: digits => readInBase 16 digits
  | '0' :: 'o' :: digits => readInBase 8 digits
  | '0' :: 'b' :: digits => readInBase 2 digits
  | _ =>
    let (negative, rest) := splitSign word
    (wholeDigits? rest).map fun digits =>
      if negative then -(naturalOfDigits digits : Int) else naturalOfDigits digits

/-- The exponent that a word is after its mark; nothing has none. -/
def exponentOfWord? : List Char → Option (Option Int)
  | [] => some none
  | _ :: word =>
    let (negative, rest) := splitSign word
    (withoutUnderscores? Char.isDigit rest).map fun digits =>
      let size : Int := naturalOfDigits digits
      some (if negative then -size else size)

/-- Whether a character begins an exponent. -/
def isExponentMark (character : Char) : Bool :=
  character == 'e' || character == 'E'

/-- The numeral with a fraction or an exponent that a word is. -/
def numeralOfWord? (word : List Char) : Option Numeral := do
  let (negative, word) := splitSign word
  let isEnd := fun character => character == '.' || isExponentMark character
  let whole ← wholeDigits? (word.takeWhile (!isEnd ·))
  match word.dropWhile (!isEnd ·) with
  | [] => none
  | '.' :: rest =>
    let fraction ← withoutUnderscores? Char.isDigit (rest.takeWhile (!isExponentMark ·))
    return ⟨negative, whole, fraction, ← exponentOfWord? (rest.dropWhile (!isExponentMark ·))⟩
  | rest => return ⟨negative, whole, [], ← exponentOfWord? rest⟩

/-- Whether a word denotes a floating-point number. A negative one that is too large
for the format stands for infinity, a positive one for nothing. -/
def isFloat (word : List Char) : Bool :=
  let text := (splitSign word).2
  text == "inf".toList || text == "nan".toList ||
    (numeralOfWord? word).any fun numeral => numeral.negative || !Binary64.isBeyond numeral

/-- The value of a word: a truth value or a number. Integers fit 64 bits. -/
def ofWord? (word : List Char) : Option Toml :=
  if word = "true".toList then some (.boolean true)
  else if word = "false".toList then some (.boolean false)
  else
    match integerOfWord? word with
    | some value => if -2 ^ 63 ≤ value && value < 2 ^ 63 then some (.integer value) else none
    | none => if isFloat word then some .float else none

/-! ### Values -/

/-- Whether a character may stand in a number or a truth value. -/
def isWordChar (character : Char) : Bool :=
  isKeyChar character || character == '+' || character == '.'

mutual

/-- The value at the start of the text within a number of levels, and what follows
it. Every call with a part of the text uses up one of the `steps`. -/
def readValue : (steps levels : Nat) → (text : List Char) → Option (Toml × List Char)
  | 0, _, _ => none
  | steps + 1, levels, text =>
    match levels, text with
    | 0, '[' :: _ | 0, '{' :: _ => none
    | levels + 1, '[' :: rest =>
      (readItems steps levels rest).map fun (items, rest) => (.array items, rest)
    | levels + 1, '{' :: rest =>
      match skipSpaces rest with
      | '}' :: rest => some (.table .braces [], rest)
      | rest =>
        (readMembers steps levels [] rest).map fun (members, rest) =>
          (.table .braces members, rest)
    | _, '"' :: _ | _, '\'' :: _ =>
      (readText text).map fun (characters, rest) => (.string (String.ofList characters), rest)
    | _, _ =>
      match afterDateTime? text with
      | some rest => some (.dateTime, rest)
      | none => (ofWord? (text.takeWhile isWordChar)).map (·, text.dropWhile isWordChar)

/-- The items of an array up to its closing bracket. -/
def readItems : (steps levels : Nat) → (text : List Char) → Option (List Toml × List Char)
  | 0, _, _ => none
  | steps + 1, levels, text =>
    match skipLines text.length text with
    | ']' :: rest => some ([], rest)
    | rest => do
      let (item, rest) ← readValue steps levels rest
      match skipLines rest.length rest with
      | ']' :: rest => some ([item], rest)
      | ',' :: rest => do
        let (items, rest) ← readItems steps levels rest
        return (item :: items, rest)
      | _ => none

/-- The members of a table in braces up to the closing brace; at least one more
after the given ones. -/
def readMembers : (steps levels : Nat) → (members : Members) → (text : List Char) →
    Option (Members × List Char)
  | 0, _, _, _ => none
  | steps + 1, levels, members, text => do
    let (names, name, rest) ← readKey text
    let '=' :: rest := rest | none
    let (value, rest) ← readValue steps levels (skipSpaces rest)
    let members ← addDotted names name value members
    match skipSpaces rest with
    | '}' :: rest => return (members, rest)
    | ',' :: rest => readMembers steps levels members rest
    | _ => none

end

/-! ### Documents -/

/-- Reads a header of a table: what follows its line, and the document and the
names that lead to the table in it. -/
def readHeader (document : Members) (repeated : Bool) (text : List Char) :
    Option (Members × List String × List Char) := do
  let (names, name, rest) ← readKey text
  let rest ← match repeated, rest with
    | true, ']' :: ']' :: rest => some rest
    | false, ']' :: rest => some rest
    | _, _ => none
  let start := if repeated then beginNextTable name else beginTable name
  return (← editWithin .implied start names document, names ++ [name], ← afterLine? rest)

/-- Reads a key and a value, and adds them to the table that `place` leads to. -/
def readAssignment (document : Members) (place : List String) (text : List Char) :
    Option (Members × List Char) := do
  let (names, name, rest) ← readKey text
  let '=' :: rest := rest | none
  let (value, rest) ← readValue (2 * text.length + 2) nestingLimit (skipSpaces rest)
  return (← editWithin .implied (addDotted names name value) place document, ← afterLine? rest)

/-- Reads line after line into the document; `place` leads to the table of the
last header. Every step takes some of the text. -/
def readLines : (steps : Nat) → (document : Members) → (place : List String) →
    (text : List Char) → Option Members
  | 0, _, _, _ => none
  | steps + 1, document, place, text =>
    match skipLines text.length text with
    | [] => some document
    | '[' :: '[' :: rest => do
      let (document, place, rest) ← readHeader document true rest
      readLines steps document place rest
    | '[' :: rest => do
      let (document, place, rest) ← readHeader document false rest
      readLines steps document place rest
    | rest => do
      let (document, rest) ← readAssignment document place rest
      readLines steps document place rest

/-- The members of the document that a text holds. A byte order mark at the start
is passed over. -/
def parse? (text : String) : Option Members :=
  let characters := text.toList
  let characters := if characters.head? = some '\ufeff' then characters.tail else characters
  readLines (characters.length + 1) [] [] characters

end PlaylistRules.Toml
