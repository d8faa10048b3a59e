/-
This file defines reading of arguments. Levels are entered one after the other,
and each gathers the flags and words that are its own. A flag may follow its
level or stand in any level inside it, but only once in each. Two hyphens end
the flags. The value of a flag follows it, or is attached to it.

A flag whose value follows it is checked only when the next argument of its level
is read, or at the end of the level. So a level inside may still ask for help.
-/

import PlaylistRules.CommandLine.Level

namespace PlaylistRules.CommandLine

/-! ### What is gathered -/

/-- What a level was given: flags without values, flags with values, and words. -/
structure Given where
  marks : List Flag
  values : List (Flag × String)
  words : List String

namespace Given

/-- Nothing was given. -/
def nothing : Given := ⟨[], [], []⟩

/-- Whether a flag was given. -/
def has (given : Given) (flag : Flag) : Bool :=
  given.marks.contains flag || given.values.any (·.1 == flag)

/-- The value of a flag. -/
def value? (given : Given) (flag : Flag) : Option String :=
  given.values.lookup flag

end Given

/-- What keeps arguments from being run. -/
inductive Stop where
  /-- Help is asked for at a level; the levels around it follow. -/
  | help (path : List Level)
  /-- The version is asked for at a level; the levels around it follow. -/
  | version (path : List Level)
  /-- The arguments make no sense. -/
  | refused (reason : String)
deriving DecidableEq

/-- A flag that was read but not checked. It waits for its value or has one. -/
structure Pending where
  flag : Flag
  value : Option String

/-- What stands at some place among the arguments of a level: the levels from the
current one outwards, what the current one was given, the flag that is not yet
checked, and whether flags have ended. -/
structure Reading where
  level : Level
  around : List Level
  given : Given
  pending : Option Pending
  ended : Bool

namespace Reading

/-- The reading at the start of a level. -/
def atStart (level : Level) (around : List Level) : Reading :=
  ⟨level, around, Given.nothing, none, false⟩

/-- The path from the current level outwards. -/
def path (reading : Reading) : List Level :=
  reading.level :: reading.around

/-- The flag that waits for its value. -/
def waiting? (reading : Reading) : Option Flag :=
  match reading.pending with
  | some ⟨flag, none⟩ => some flag
  | _ => none

/-! ### Flags -/

/-- The reason for refusing a flag that still waits for its value. -/
def missingValue (flag : Flag) : Stop :=
  .refused ("a value is required for '--" ++ flag.name ++ "'")

/-- The reason for refusing an argument that fits nowhere. -/
def unexpected (argument : String) : Stop :=
  .refused ("unexpected argument '" ++ argument ++ "'")

/-- The reason for refusing a flag that is there twice. -/
def repeated (flag : Flag) : Stop :=
  .refused ("the argument '--" ++ flag.name ++ "' cannot be used multiple times")

/-- The reading with a flag and its value among what was given. -/
def withValue (reading : Reading) (flag : Flag) (value : String) : Except Stop Reading := do
  if reading.given.has flag then throw (repeated flag)
  return { reading with
    given.values := reading.given.values ++ [(flag, value)], pending := none }

/-- The reading after the check of the flag that is not yet checked. -/
def settle (reading : Reading) : Except Stop Reading :=
  match reading.pending with
  | none => .ok reading
  | some ⟨flag, none⟩ => .error (missingValue flag)
  | some ⟨flag, some value⟩ => reading.withValue flag value

/-- The reading after a flag without a value. Asking for help or the version stops it. -/
def mark (reading : Reading) (flag : Flag) : Except Stop Reading := do
  let reading ← reading.settle
  if flag = Flag.help then throw (.help reading.path)
  if flag = Flag.version then throw (.version reading.path)
  if reading.given.has flag then throw (repeated flag)
  return { reading with given.marks := reading.given.marks ++ [flag] }

/-- The reading after a flag with its value attached. -/
def assign (reading : Reading) (flag : Flag) (value : String) : Except Stop Reading := do
  (← reading.settle).withValue flag value

/-- The reading after a flag whose value is the next argument. -/
def await (reading : Reading) (flag : Flag) : Except Stop Reading := do
  return { ← reading.settle with pending := some ⟨flag, none⟩ }

/-- The name and the attached value of a long flag. -/
def splitValue (text : List Char) : String × Option String :=
  let name := String.ofList (text.takeWhile (· != '='))
  match text.dropWhile (· != '=') with
  | [] => (name, none)
  | _ :: value => (name, some (String.ofList value))

/-- Reads a long flag after its hyphens. -/
def readLong (reading : Reading) (text : List Char) : Except Stop Reading :=
  let (name, value?) := splitValue text
  match reading.level.flags.find? (·.name == name), value? with
  | none, _ => .error (unexpected ("--" ++ name))
  | some flag, some value =>
    if flag.takesValue then reading.assign flag value
    else .error (unexpected ("--" ++ name ++ "=" ++ value))
  | some flag, none => if flag.takesValue then reading.await flag else reading.mark flag

/-- Reads letters after a hyphen. What follows the letter of a flag with a value
is its value, an equals sign aside. -/
def readLetters (reading : Reading) : List Char → Except Stop Reading
  | [] => .ok reading
  | letter :: rest =>
    match reading.level.flags.find? (·.letter == some letter) with
    | none => .error (unexpected ("-" ++ letter.toString))
    | some flag =>
      if flag.takesValue then
        match rest with
        | [] => reading.await flag
        | '=' :: value => reading.assign flag (String.ofList value)
        | value => reading.assign flag (String.ofList value)
      else do readLetters (← reading.mark flag) rest

/-! ### Words -/

/-- Reads a word that belongs to the current level. -/
def readWord (reading : Reading) (word : String) : Except Stop Reading := do
  let reading ← reading.settle
  if !reading.level.takesWord reading.given.words.length then throw (unexpected word)
  if (reading.level.choices?.map (·.contains word)) = some false then
    throw (.refused ("invalid value '" ++ word ++ "'"))
  return { reading with given.words := reading.given.words ++ [word] }

/-- Reads an argument that does not enter another level. -/
def readArgument (reading : Reading) (argument : String) : Except Stop Reading :=
  if reading.ended then reading.readWord argument
  else
    match argument.toList with
    | ['-', '-'] => .ok { reading with ended := true }
    | '-' :: '-' :: text => reading.readLong text
    | '-' :: letter :: rest => reading.readLetters (letter :: rest)
    | _ =>
      match reading.waiting? with
      | some flag => .ok { reading with pending := some ⟨flag, some argument⟩ }
      | none => reading.readWord argument

/-! ### Ends of levels -/

/-- What the current level was given, if it is complete. -/
def finish (reading : Reading) : Except Stop (Level × Given) := do
  let reading ← reading.settle
  if reading.given.has Flag.verbose && reading.given.has Flag.quiet then
    throw (.refused "the argument '--quiet' cannot be used with '--verbose'")
  if reading.given.words.length < reading.level.leastWords then
    throw (.refused "the following required arguments were not provided")
  return (reading.level, reading.given)

end Reading

/-! ### Whole command lines -/

/-- The levels that the words after the word help lead to. -/
def helpPath (path : List Level) : List String → Stop
  | [] => .help path
  | word :: rest =>
    match path.head?.bind (·.inner? word) with
    | some level => helpPath (level :: path) rest
    | none =>
      if word = "help" && rest.isEmpty && path.head?.any (!·.inner.isEmpty) then .help path
      else .refused ("unrecognized subcommand '" ++ word ++ "'")

/-- Reads arguments from a place on: the levels with what they were given, from
the current one inwards. Inner levels are checked before the ones around them. -/
def readArguments (reading : Reading) : List String → Except Stop (List (Level × Given))
  | [] => do return [← reading.finish]
  | argument :: rest => do
    if reading.waiting?.isNone && !reading.ended then
      match reading.level.inner? argument with
      | some level =>
        let inner ← readArguments (Reading.atStart level reading.path) rest
        return (← reading.finish) :: inner
      | none =>
        if argument = "help" && !reading.level.inner.isEmpty then
          throw (helpPath reading.path rest)
    readArguments (← reading.readArgument argument) rest

/-- Reads the arguments of the program. -/
def readLine (arguments : List String) : Except Stop (List (Level × Given)) :=
  readArguments (Reading.atStart .program []) arguments

end PlaylistRules.CommandLine
