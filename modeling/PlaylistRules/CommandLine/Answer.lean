/-
This file defines what a command answers: the text on its output, what is noted
besides, and the fault it ended in, if any.
-/

import PlaylistRules.CommandLine.Fault
import PlaylistRules.CommandLine.Invocation
import PlaylistRules.Json.Printer
import PlaylistRules.Log.Line
import PlaylistRules.Log.Verbosity

namespace PlaylistRules.CommandLine

open Calendar

/-- What is noted besides the output: a line, or a log event. -/
inductive Notice where
  | line (text : String)
  | event (event : LogEvent)
deriving DecidableEq

/-- What a command answers. -/
structure Answer where
  output : String
  notices : List Notice
  fault : Option CommandFault
deriving DecidableEq

namespace Answer

/-- The answer of a command that shows nothing but its fault. -/
def failed (fault : CommandFault) : Answer := ⟨"", [], some fault⟩

/-- The answer of a command that shows a text. -/
def shown (output : String) : Answer := ⟨output, [], none⟩

end Answer

/-! ### Display -/

/-- How a command shows what it has to say. -/
structure Display where
  json : Bool
  colors : Bool
  quiet : Bool
  verbose : Bool
deriving DecidableEq

/-- The display that options, environment and configuration ask for. -/
def Display.of (environment : Environment) (options : Options) (config : Config) : Display :=
  { json := options.json
    colors := !options.noColor && config.color != some false &&
      (environment.getText? "NO_COLOR").isNone
    quiet := options.quiet
    verbose := options.verbose }

/-- A JSON text if JSON is wanted, else a text unless nothing is wanted. -/
def Display.choose (display : Display) (json text : String) : String :=
  if display.json then json ++ "\n" else if display.quiet then "" else text

/-! ### What is written -/

/-- What the program leaves behind when it ends. -/
structure Ending where
  exitCode : Nat
  output : String
  errors : String
deriving DecidableEq

/-- The text of a fault. -/
def CommandFault.report (json : Bool) (fault : CommandFault) : String :=
  if json then
    (Json.object [("error", .object [("code", .string fault.code),
      ("message", .string fault.message)])]).pretty ++ "\n"
  else "Error: " ++ fault.message ++ "\n"

/-- The text of a notice at an instant; events that are not shown have none. -/
def Notice.text (verbosity : Log.Verbosity) (colors : Bool) (time : Instant) : Notice → String
  | .line text => text ++ "\n"
  | .event logged =>
    if verbosity.shows logged then Log.eventLine colors time logged else ""

/-- The ending of the program after an answer. -/
def Answer.ending (environment : Environment) (options : Options) (time : Instant)
    (answer : Answer) : Ending :=
  let verbosity := Log.Verbosity.of environment options.verbose options.quiet
  { exitCode := (answer.fault.map (·.exitCode)).getD 0
    output := answer.output
    errors := String.join (answer.notices.map (·.text verbosity (!options.noColor) time)) ++
      (answer.fault.map (·.report options.json)).getD "" }

end PlaylistRules.CommandLine
