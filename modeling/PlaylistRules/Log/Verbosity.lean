/-
This file defines which events are shown. Of the directives about an event the
closest one decides, and of two that are alike the later one. Directives come from
a variable of the environment, or from the options if the variable is not set or
one of its directives makes no sense.
-/

import PlaylistRules.Environment
import PlaylistRules.Log.Directive

namespace PlaylistRules.Log

/-- The directives that say what is shown. Without any nothing is. -/
structure Verbosity where
  directives : List Directive

namespace Verbosity

/-- The directive that decides about an event. -/
def deciding? (event : LogEvent) : List Directive → Option Directive
  | [] => none
  | directive :: rest =>
    match deciding? event rest with
    | some other =>
      if directive.isAbout event && directive.isCloserThan other then some directive
      else some other
    | none => if directive.isAbout event then some directive else none

/-- Whether an event is shown. -/
def shows (verbosity : Verbosity) (event : LogEvent) : Bool :=
  (deciding? event verbosity.directives).any (·.threshold ≤ event.level.rank)

/-- The verbosity that a text of directives with commas between them sets. -/
def ofText? (text : String) : Option Verbosity :=
  ((((text.toList.splitOn ',').filter (!·.isEmpty)).mapM Directive.ofText?).map (⟨·⟩))

/-- The verbosity that the options come to. -/
def ofOptions (verbose quiet : Bool) : Verbosity :=
  ⟨[.global (if verbose then LogLevel.debug.rank
    else if quiet then nothing
    else LogLevel.warning.rank)]⟩

/-- The verbosity in an environment with options. -/
def of (environment : Environment) (verbose quiet : Bool) : Verbosity :=
  ((environment.get? "RUST_LOG").bind ofText?).getD (ofOptions verbose quiet)

end Verbosity

end PlaylistRules.Log
