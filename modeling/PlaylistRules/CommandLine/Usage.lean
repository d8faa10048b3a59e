/-
This file defines the texts about the command line itself: help for each level,
the version, and scripts that complete commands in a shell.
-/

import PlaylistRules.CommandLine.Arguments

namespace PlaylistRules.CommandLine

/-! ### Help -/

/-- The names of the levels on a path, from the outermost one. -/
def pathNames (path : List Level) : List String :=
  path.reverse.map Level.name

/-- How a flag is shown in help. -/
def Flag.usage (flag : Flag) : String :=
  (match flag.letter with
    | some letter => "  -" ++ letter.toString ++ ", --"
    | none => "      --") ++
    flag.name ++ (if flag.takesValue then " <" ++ flag.name.toUpper ++ ">" else "") ++ "\n"

/-- How the words of a level are shown in help. -/
def Level.wordsUsage (level : Level) : String :=
  String.join (level.words.map fun word =>
    if level.lastIsOptional then " [" ++ word ++ "]" else " <" ++ word ++ ">") ++
    if level.lastIsRepeated then "..." else ""

/-- The help about the level at the head of a path. -/
def helpText (path : List Level) : String :=
  let level := path.head?.getD .program
  "Usage: " ++ " ".intercalate (pathNames path) ++ " [OPTIONS]" ++ level.wordsUsage ++
    (if level.inner.isEmpty then "\n"
      else " [COMMAND]\n\nCommands:\n" ++
        String.join (level.inner.map fun inner => "  " ++ inner.name ++ "\n") ++ "  help\n") ++
    "\nOptions:\n" ++ String.join (level.flags.map Flag.usage)

/-! ### Version -/

/-- The version of the program. -/
def versionNumber : String := "0.1.0"

/-- The version as it is asked for at the head of a path. -/
def versionText (path : List Level) : String :=
  "-".intercalate (pathNames path) ++ " " ++ versionNumber ++ "\n"

/-! ### Completion -/

/-- The names of the commands with blanks between them. -/
def commandNames : String :=
  " ".intercalate (Level.program.inner.map Level.name ++ ["help"])

/-- The script that completes the names of commands in a shell. -/
def completionScript (shell : String) : String :=
  let name := Environment.programName
  match shell with
  | "bash" => "complete -W \"" ++ commandNames ++ "\" " ++ name ++ "\n"
  | "zsh" =>
    "#compdef " ++ name ++ "\ncompadd -- " ++ commandNames ++ "\n"
  | "fish" => "complete -c " ++ name ++ " -f -a \"" ++ commandNames ++ "\"\n"
  | _ =>
    "Register-ArgumentCompleter -Native -CommandName " ++ name ++
      " -ScriptBlock \x7b \"" ++ commandNames ++ "\".Split() \x7d\n"

end PlaylistRules.CommandLine
