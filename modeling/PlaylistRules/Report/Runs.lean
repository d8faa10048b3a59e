/-
This file defines how the results of running rules are shown: a line for each
rule with the skipped expressions below it, or JSON text.
-/

import PlaylistRules.Batch
import PlaylistRules.Report.Items

namespace PlaylistRules.Report

open Text

/-- The name of a rule that ran and what it came to. -/
abbrev RunResult (sourceFault sinkFault : Type) :=
  String × Except (RunFault sourceFault sinkFault) Outcome

/-- The name and the result of a report. -/
def resultOf (report : RunReport sourceFault sinkFault) : RunResult sourceFault sinkFault :=
  (report.rule, report.result)

variable [Worded sourceFault] [Worded sinkFault]

/-! ### Lines -/

/-- The line of a result: green with a playlist, dimmed without, red on failure. -/
def resultLine (colors : Bool) : RunResult sourceFault sinkFault → String
  | (rule, .ok outcome) =>
    match outcome.playlist with
    | some id =>
      paintIf colors .green ("✓ " ++ rule ++ ": playlist " ++ idCell id ++ " (" ++
        outcome.items.length.repr ++ " items)")
    | none => paintIf colors .dimmed ("- " ++ rule ++ ": no items matched, no playlist created")
  | (rule, .error fault) => paintIf colors .red ("✗ " ++ rule ++ ": " ++ fault.message)

/-- The line about a skipped expression. -/
def skippedLine (colors : Bool) (skipped : SkippedExpression) : String :=
  paintIf colors .yellow
    ("    skipped " ++ skipped.expression ++ ": " ++ skipped.fault.message) ++ "\n"

/-- The skipped expressions of a result. -/
def skippedOf : RunResult sourceFault sinkFault → List SkippedExpression
  | (_, .ok outcome) => outcome.skipped
  | (_, .error _) => []

/-- The lines of the results. -/
def resultLines (colors : Bool) (results : List (RunResult sourceFault sinkFault)) : String :=
  if results.isEmpty then "No enabled rules to run.\n"
  else String.join (results.map fun result =>
    resultLine colors result ++ "\n" ++ String.join ((skippedOf result).map (skippedLine colors)))

/-! ### JSON -/

/-- A result as a JSON value. -/
def resultJson : RunResult sourceFault sinkFault → Json
  | (rule, .ok outcome) =>
    .ofMembers [
      ("rule", some (.string rule)),
      ("success", some (.bool true)),
      ("playlist_id", outcome.playlist.map .string),
      ("item_count", some (.ofNat outcome.items.length)),
      ("item_ids", arrayUnlessEmpty (outcome.items.map .string)),
      ("skipped", arrayUnlessEmpty (outcome.skipped.map skippedJson))]
  | (rule, .error fault) =>
    .ofMembers [
      ("rule", some (.string rule)),
      ("success", some (.bool false)),
      ("item_count", some (.ofNat 0)),
      ("error", some (.string fault.message))]

/-- The JSON text of the results. -/
def resultsText (results : List (RunResult sourceFault sinkFault)) : String :=
  (Json.sorted (.object [("results", .array (results.map resultJson))])).pretty

end PlaylistRules.Report
