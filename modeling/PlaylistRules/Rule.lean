/-
This file defines playlist rules: a name, the expressions whose selections make
up the playlist, and the user whose watch state counts. Every expression is
tried on its own; those with a fault are skipped and reported.
-/

import PlaylistRules.Filter.Parser
import PlaylistRules.LogEvent
import PlaylistRules.Selection

namespace PlaylistRules

instance : Worded FormatError := ⟨FormatError.message⟩

/-- A playlist rule. A disabled rule is kept but not run with the others. -/
structure Rule where
  name : String
  expressions : List String
  user : Option String
  enabled : Bool
deriving DecidableEq

/-- An expression that was skipped, and why. -/
structure SkippedExpression where
  expression : String
  fault : FormatError
deriving DecidableEq

/-- An expression of a rule with the records it selected or its fault. -/
structure Attempt where
  expression : String
  result : Except FormatError (List Record)

namespace Attempt

/-- The records of an attempt that succeeded. -/
def selected? (attempt : Attempt) : Option (List Record) :=
  attempt.result.toOption

/-- The report of an attempt that failed. -/
def skipped? (attempt : Attempt) : Option SkippedExpression :=
  match attempt.result with
  | .error fault => some ⟨attempt.expression, fault⟩
  | .ok _ => none

/-- The event that reports an attempt of a rule. -/
def event (rule : String) (attempt : Attempt) : LogEvent :=
  match attempt.result with
  | .ok selected =>
    ⟨.runningRules, .debug, "expression evaluated",
      [("rule", rule), ("expression", attempt.expression), ("selected", selected.length.repr)]⟩
  | .error fault =>
    ⟨.runningRules, .warning, "skipping expression",
      [("rule", rule), ("expression", attempt.expression), ("error", fault.message)]⟩

end Attempt

/-- Drawn numbers, one for each shuffle. -/
abbrev Draws := Nat → Nat

/-- The drawn numbers after the first. -/
def Draws.rest (draws : Draws) : Draws := fun index => draws (index + 1)

/-- Tries expressions on records, each with a drawn number of its own. -/
def attemptEach (draws : Draws) (records : List Record) : List String → List Attempt
  | [] => []
  | text :: rest =>
    ⟨text, (Expression.parse text).map fun expression => expression.select (draws 0) records⟩ ::
      attemptEach draws.rest records rest

/-- What a rule selects: the records in the order in which they were first
selected, and the expressions that were skipped. -/
structure RuleSelection where
  items : List Record
  skipped : List SkippedExpression

/-- The selection that attempts come to. -/
def RuleSelection.ofAttempts (attempts : List Attempt) : RuleSelection :=
  ⟨union (attempts.filterMap Attempt.selected?), attempts.filterMap Attempt.skipped?⟩

namespace Rule

/-- The attempts of the expressions of a rule. -/
def attempts (draws : Draws) (rule : Rule) (records : List Record) : List Attempt :=
  attemptEach draws records rule.expressions

/-- The selection of a rule. -/
def select (draws : Draws) (rule : Rule) (records : List Record) : RuleSelection :=
  RuleSelection.ofAttempts (rule.attempts draws records)

/-! ### JSON -/

/-- A rule as a JSON value, without the user if there is none. -/
def toJson (rule : Rule) : Json :=
  .ofMembers [
    ("name", some (.string rule.name)),
    ("expressions", some (.ofTexts rule.expressions)),
    ("user", rule.user.map .string),
    ("enabled", some (.bool rule.enabled))]

/-- A rule read from a JSON value. A rule is enabled unless it says otherwise. -/
def ofJson? (value : Json) : Option Rule := do
  let [name, expressions, user, enabled] ←
    value.fields? ["name", "expressions", "user", "enabled"] | none
  return {
    name := ← Json.required Json.string? name
    expressions := ← Json.required (Json.listOf? Json.string?) expressions
    user := ← Json.optional Json.string? user
    enabled := ← Json.defaulted true Json.bool? enabled }

end Rule

end PlaylistRules
