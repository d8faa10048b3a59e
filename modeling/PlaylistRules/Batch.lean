/-
This file defines running rules from a source of records to a sink of playlists.
A rule that selects nothing makes no playlist. A rule that fails does not keep
the rules after it from running.
-/

import PlaylistRules.Rule

namespace PlaylistRules

/-! ### Sources and sinks -/

/-- Supplies the records that a user sees. -/
structure Source (m : Type → Type) (fault : Type) where
  fetch : (user : Option String) → m (Except fault (List Record))

/-- Stores the playlist of a rule and gives its id. -/
structure Sink (m : Type → Type) (fault : Type) where
  create : (name : String) → (user : Option String) → (items : List String) →
    m (Except fault String)

/-! ### Results -/

/-- What keeps a rule from making its playlist. -/
inductive RunFault (sourceFault sinkFault : Type) where
  | source (fault : sourceFault)
  | sink (fault : sinkFault)
deriving DecidableEq

/-- The wording of a fault. -/
def RunFault.message [Worded sourceFault] [Worded sinkFault] :
    RunFault sourceFault sinkFault → String
  | .source fault => "failed to fetch content: " ++ Worded.message fault
  | .sink fault => "failed to create playlist: " ++ Worded.message fault

/-- What a rule came to: the ids of its items, and the id of the playlist unless
there are no items. -/
structure Outcome where
  rule : String
  playlist : Option String
  items : List String
  skipped : List SkippedExpression
deriving DecidableEq

/-- The result of running a rule and the events that report it. -/
structure RunReport (sourceFault sinkFault : Type) where
  rule : String
  events : List LogEvent
  result : Except (RunFault sourceFault sinkFault) Outcome

/-! ### One rule -/

namespace Rule

/-- The events of a rule whose records were fetched. -/
def selectionEvents (rule : Rule) (records : List Record) (attempts : List Attempt) :
    List LogEvent :=
  ⟨.runningRules, .debug, "fetched content",
    [("rule", rule.name), ("records", records.length.repr)]⟩ ::
    attempts.map (·.event rule.name)

/-- The event of a rule that selected nothing. -/
def emptyEvent (rule : Rule) : LogEvent :=
  ⟨.runningRules, .info, "rule selected no items; no playlist created", [("rule", rule.name)]⟩

/-- The event of a rule whose playlist was made. -/
def createdEvent (rule : Rule) (playlist : String) (items : List String) : LogEvent :=
  ⟨.runningRules, .info, "playlist created",
    [("rule", rule.name), ("playlist", playlist), ("items", items.length.repr)]⟩

/-- Runs a rule on the records of its user. -/
def run [Monad m] (source : Source m sourceFault) (sink : Sink m sinkFault) (draws : Draws)
    (rule : Rule) : m (RunReport sourceFault sinkFault) := do
  match ← source.fetch rule.user with
  | .error fault => return ⟨rule.name, [], .error (.source fault)⟩
  | .ok records =>
    let attempts := rule.attempts draws records
    let selection := RuleSelection.ofAttempts attempts
    let items := selection.items.map (·.id)
    let events := rule.selectionEvents records attempts
    if items.isEmpty then
      return ⟨rule.name, events ++ [rule.emptyEvent],
        .ok ⟨rule.name, none, items, selection.skipped⟩⟩
    else
      match ← sink.create rule.name rule.user items with
      | .error fault => return ⟨rule.name, events, .error (.sink fault)⟩
      | .ok playlist =>
        return ⟨rule.name, events ++ [rule.createdEvent playlist items],
          .ok ⟨rule.name, some playlist, items, selection.skipped⟩⟩

end Rule

/-! ### Many rules -/

namespace RunReport

/-- The fault of a run that failed. -/
def fault? (report : RunReport sourceFault sinkFault) : Option (RunFault sourceFault sinkFault) :=
  match report.result with
  | .error fault => some fault
  | .ok _ => none

/-- The report with an event about the fault of a run that failed. -/
def withFaultEvent [Worded sourceFault] [Worded sinkFault]
    (report : RunReport sourceFault sinkFault) : RunReport sourceFault sinkFault :=
  match report.result with
  | .error fault =>
    { report with events := report.events ++
        [⟨.runningRules, .warning, "rule failed",
          [("rule", report.rule), ("error", fault.message)]⟩] }
  | .ok _ => report

end RunReport

/-- Runs the enabled rules in order, each with drawn numbers of its own. -/
def runAll [Monad m] [Worded sourceFault] [Worded sinkFault] (source : Source m sourceFault)
    (sink : Sink m sinkFault) (draws : Nat → Draws) :
    List Rule → m (List (RunReport sourceFault sinkFault))
  | [] => return []
  | rule :: rest => do
    let draws' := fun index => draws (index + 1)
    if rule.enabled then
      let report ← rule.run source sink (draws 0)
      let reports ← runAll source sink draws' rest
      return report.withFaultEvent :: reports
    else runAll source sink draws' rest

end PlaylistRules
