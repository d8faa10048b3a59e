/-
This file defines the levels of a command line: the program, its commands, and
their subcommands. A level has names, flags, inner levels and a number of words.
-/

import PlaylistRules.Environment

namespace PlaylistRules.CommandLine

/-! ### Flags -/

/-- A flag: its long name, its letter, and whether a value follows it. -/
structure Flag where
  name : String
  letter : Option Char
  takesValue : Bool
deriving DecidableEq

namespace Flag

def verbose : Flag := ⟨"verbose", some 'v', false⟩

def quiet : Flag := ⟨"quiet", some 'q', false⟩

def json : Flag := ⟨"json", none, false⟩

def noColor : Flag := ⟨"no-color", none, false⟩

def catalog : Flag := ⟨"catalog", none, true⟩

def help : Flag := ⟨"help", some 'h', false⟩

def version : Flag := ⟨"version", some 'V', false⟩

def tree : Flag := ⟨"tree", none, false⟩

def user : Flag := ⟨"user", some 'u', true⟩

def disabled : Flag := ⟨"disabled", none, false⟩

def force : Flag := ⟨"force", some 'f', false⟩

/-- The flags that every level has. -/
def everywhere : List Flag := [verbose, quiet, json, noColor, catalog, help, version]

end Flag

/-! ### Levels -/

/-- A level of a command line. -/
inductive Level where
  | program
  | parse
  | preview
  | rules
  | listRules
  | showRule
  | addRule
  | removeRule
  | runRules
  | config
  | showConfig
  | configPath
  | setConfig
  | initConfig
  | completions
deriving DecidableEq

namespace Level

/-- The name of a level. -/
def name : Level → String
  | program => Environment.programName
  | parse => "parse"
  | preview => "preview"
  | rules => "rules"
  | listRules => "list"
  | showRule => "show"
  | addRule => "add"
  | removeRule => "remove"
  | runRules => "run"
  | config => "config"
  | showConfig => "show"
  | configPath => "path"
  | setConfig => "set"
  | initConfig => "init"
  | completions => "completions"

/-- The short name of a level. -/
def shortName? : Level → Option String
  | parse => some "p"
  | rules => some "r"
  | listRules => some "ls"
  | removeRule => some "rm"
  | _ => none

/-- The levels inside a level. -/
def inner : Level → List Level
  | program => [parse, preview, rules, config, completions]
  | rules => [listRules, showRule, addRule, removeRule, runRules]
  | config => [showConfig, configPath, setConfig, initConfig]
  | _ => []

/-- The inner level with a name or short name. -/
def inner? (level : Level) (word : String) : Option Level :=
  level.inner.find? fun inner => inner.name == word || inner.shortName? == some word

/-- The flags of a level. -/
def flags (level : Level) : List Flag :=
  (match level with
    | parse => [Flag.tree]
    | preview => [Flag.user]
    | addRule => [Flag.user, Flag.disabled]
    | removeRule => [Flag.force]
    | initConfig => [Flag.force]
    | _ => []) ++ Flag.everywhere

/-- The names of the words that a level takes in turn. -/
def words : Level → List String
  | parse => ["EXPRESSION"]
  | preview => ["EXPRESSIONS"]
  | showRule => ["NAME"]
  | addRule => ["NAME", "EXPRESSIONS"]
  | removeRule => ["NAME"]
  | runRules => ["NAME"]
  | setConfig => ["KEY", "VALUE"]
  | completions => ["SHELL"]
  | _ => []

/-- Whether the last word of a level may be left out. -/
def lastIsOptional (level : Level) : Bool :=
  level = runRules

/-- Whether the last word of a level may be repeated. -/
def lastIsRepeated (level : Level) : Bool :=
  level = preview || level = addRule

/-- The least number of words of a level. -/
def leastWords (level : Level) : Nat :=
  if level.lastIsOptional then level.words.length - 1 else level.words.length

/-- Whether a level takes one more word after some number of them. -/
def takesWord (level : Level) (count : Nat) : Bool :=
  count < level.words.length || (level.lastIsRepeated && !level.words.isEmpty)

/-- The words that a level accepts, if it does not accept every word. -/
def choices? : Level → Option (List String)
  | completions => some ["bash", "zsh", "fish", "powershell"]
  | _ => none

end Level

end PlaylistRules.CommandLine
