/-
This file defines the whole program: from arguments and environment to a task on
files whose result is the text on both outputs and the number with which the
program ends.

Commands that need no files of rules or records work even if the configuration
is broken, so that it can be mended.
-/

import PlaylistRules.CommandLine.Expressions
import PlaylistRules.CommandLine.Rules
import PlaylistRules.CommandLine.Settings
import PlaylistRules.CommandLine.Usage

namespace PlaylistRules

open Storage CommandLine Calendar

/-- What a run of the program is given from outside: variables of the
environment, the time, stamps for playlists and drawn numbers for rules. -/
structure Circumstances where
  environment : Environment
  time : Instant
  stamps : Nat → Stamp
  draws : Nat → Draws

namespace Program

/-! ### Commands -/

/-- What the program says about itself. -/
def greeting (display : Display) : String :=
  if display.quiet then ""
  else "smartlist - rule-driven dynamic playlists\nUse --help for usage information\n"

/-- Carries out a command on saved rules. -/
def answerRules (circumstances : Circumstances) (display : Display) (workspace : Workspace) :
    RulesCommand → FileTask Answer
  | .list => listRules display workspace
  | .show name => showRule display workspace name
  | .add name expressions user disabled =>
    addRule display workspace ⟨name, expressions, user, !disabled⟩
  | .remove name force => removeRule display workspace name force
  | .run name => runRules display workspace circumstances.stamps circumstances.draws name

/-- Carries out a command on the configuration. -/
def answerConfig (environment : Environment) (display : Display) :
    ConfigCommand → FileTask Answer
  | .show => showConfig display environment
  | .path => showConfigPath display environment
  | .assign key value => assignConfig display environment key value
  | .create force => createConfig display environment force

/-- Goes on with the workspace and the display of a configuration, if it loaded. -/
def inWorkspace (environment : Environment) (options : Options)
    (loaded : Except CommandFault Config) (answer : Display → Workspace → FileTask Answer) :
    FileTask Answer :=
  match loaded with
  | .error fault => return .failed fault
  | .ok config =>
    match environment.workspace options.catalog config with
    | .error fault => return .failed (.ofWorkspace fault)
    | .ok workspace => answer (Display.of environment options config) workspace

/-- Carries out an invocation. -/
def answer (circumstances : Circumstances) (invocation : Invocation) : FileTask Answer := do
  let environment := circumstances.environment
  let options := invocation.options
  let loaded ← loadConfig environment
  let display := Display.of environment options (loaded.toOption.getD Config.empty)
  match invocation.command with
  | .greet => return .shown (greeting display)
  | .parse expression outline => return parseExpression display expression outline
  | .config command => answerConfig environment display command
  | .completions shell => return .shown (completionScript shell)
  | .preview expressions user =>
    inWorkspace environment options loaded fun display workspace =>
      preview display workspace (circumstances.draws 0) expressions user
  | .rules command =>
    inWorkspace environment options loaded fun display workspace =>
      answerRules circumstances display workspace command

/-! ### Running -/

/-- The ending of a program whose arguments are not run. -/
def stopped : Stop → Ending
  | .help path => ⟨0, helpText path, ""⟩
  | .version path => ⟨0, versionText path, ""⟩
  | .refused reason => ⟨2, "", "error: " ++ reason ++ "\n\nFor more information, try '--help'.\n"⟩

/-- Runs the program. -/
def run (circumstances : Circumstances) (arguments : List String) : FileTask Ending :=
  match Invocation.ofArguments circumstances.environment arguments with
  | .error stop => return stopped stop
  | .ok invocation => do
    return (← answer circumstances invocation).ending circumstances.environment
      invocation.options circumstances.time

end Program

end PlaylistRules
