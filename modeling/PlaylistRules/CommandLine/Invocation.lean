/-
This file defines what the program is asked to do: a command, and options that
hold for every command.
-/

import PlaylistRules.CommandLine.Arguments

namespace PlaylistRules.CommandLine

/-! ### Commands -/

/-- What is done with the saved rules. -/
inductive RulesCommand where
  | list
  | show (name : String)
  | add (name : String) (expressions : List String) (user : Option String) (disabled : Bool)
  | remove (name : String) (force : Bool)
  /-- Runs the rule with a name, or all enabled rules. -/
  | run (name : Option String)
deriving DecidableEq

/-- What is done with the configuration. -/
inductive ConfigCommand where
  | show
  | path
  | assign (key value : String)
  | create (force : Bool)
deriving DecidableEq

/-- A command of the program. -/
inductive Command where
  /-- Says what the program is. -/
  | greet
  | parse (expression : String) (outline : Bool)
  | preview (expressions : List String) (user : Option String)
  | rules (command : RulesCommand)
  | config (command : ConfigCommand)
  | completions (shell : String)
deriving DecidableEq

/-- The options that hold for every command. -/
structure Options where
  verbose : Bool
  quiet : Bool
  json : Bool
  noColor : Bool
  catalog : Option String
deriving DecidableEq

/-- A command with its options. -/
structure Invocation where
  options : Options
  command : Command
deriving DecidableEq

/-! ### Reading -/

/-- The options that levels were given together. The catalog of the innermost
level counts; without any, it is a variable of the environment. -/
def Options.ofLevels (environment : Environment) (levels : List (Level × Given)) : Options :=
  let anyHas := fun flag => levels.any (·.2.has flag)
  { verbose := anyHas Flag.verbose
    quiet := anyHas Flag.quiet
    json := anyHas Flag.json
    noColor := anyHas Flag.noColor
    catalog := (levels.reverse.findSome? (·.2.value? Flag.catalog)).or
      (environment.get? "SMARTLIST_CATALOG") }

/-- The word at a place, which is there on a level that is complete. -/
def Given.word (given : Given) (place : Nat) : String :=
  given.words.getD place ""

/-- The command of the innermost level and what it was given. -/
def Command.ofLevel (given : Given) : Level → Command
  | .program => .greet
  | .parse => .parse (given.word 0) (given.has Flag.tree)
  | .preview => .preview given.words (given.value? Flag.user)
  | .rules => .rules .list
  | .listRules => .rules .list
  | .showRule => .rules (.show (given.word 0))
  | .addRule =>
    .rules (.add (given.word 0) given.words.tail (given.value? Flag.user)
      (given.has Flag.disabled))
  | .removeRule => .rules (.remove (given.word 0) (given.has Flag.force))
  | .runRules => .rules (.run given.words.head?)
  | .config => .config .show
  | .showConfig => .config .show
  | .configPath => .config .path
  | .setConfig => .config (.assign (given.word 0) (given.word 1))
  | .initConfig => .config (.create (given.has Flag.force))
  | .completions => .completions (given.word 0)

/-- What arguments ask the program to do. -/
def Invocation.ofArguments (environment : Environment) (arguments : List String) :
    Except Stop Invocation :=
  (readLine arguments).map fun levels =>
    { options := Options.ofLevels environment levels
      command := (levels.getLast?.map fun (level, given) => Command.ofLevel given level).getD
        .greet }

end PlaylistRules.CommandLine
