/-
This file defines how rules are shown: as a table, one by one with the way their
expressions parse, and as JSON texts.
-/

import PlaylistRules.Filter.Printer
import PlaylistRules.Json.Printer
import PlaylistRules.Report.Cell
import PlaylistRules.RuleSet

namespace PlaylistRules.Report

open Text

/-! ### Lists -/

/-- The names of the columns. -/
def ruleHeader : String :=
  padEnd 25 "Name" ++ " " ++ padEnd 8 "Status" ++ " " ++ padEnd 12 "User" ++ " " ++ "Expressions"

/-- The state of a rule in its column, painted after it is padded. -/
def paddedStatus (colors enabled : Bool) : String :=
  let padded := padEnd 8 (enabledCell false enabled)
  if colors then paintEnabled padded enabled else padded

/-- The line of a rule. -/
def ruleLine (colors : Bool) (rule : Rule) : String :=
  padEnd 25 (shortened 25 rule.name) ++ " " ++ paddedStatus colors rule.enabled ++ " " ++
    padEnd 12 (shortened 12 (rule.user.getD "-")) ++ " " ++ rule.expressions.length.repr ++ "\n"

/-- The table of rules. -/
def ruleTable (colors : Bool) (rules : List Rule) : String :=
  if rules.isEmpty then "No rules found.\n"
  else headerLine colors ruleHeader ++ String.join (rules.map (ruleLine colors))

/-- The JSON text of rules. -/
def rulesText (rules : List Rule) : String :=
  (Json.object [("rules", .array (rules.map Rule.toJson))]).pretty

/-! ### One rule -/

/-- What is said about the form of an expression: nothing if it stands in
canonical form, else its canonical form or its fault. -/
def expressionNote (colors : Bool) (text : String) : String :=
  match Expression.parse text with
  | .ok expression =>
    if expression.text == trimmed text then "" else "     = " ++ expression.text ++ "\n"
  | .error fault => paintIf colors .red ("     ! " ++ fault.message) ++ "\n"

/-- The numbered expressions with their notes. -/
def expressionLines (colors : Bool) : (number : Nat) → List String → String
  | _, [] => ""
  | number, text :: rest =>
    "  " ++ number.repr ++ ". " ++ text ++ "\n" ++ expressionNote colors text ++
      expressionLines colors (number + 1) rest

/-- The line about the user of a rule, if it has one. -/
def userLine (colors : Bool) : Option String → String
  | some user => label colors "User:" ++ " " ++ user ++ "\n"
  | none => ""

/-- A rule with its expressions and their notes. -/
def ruleDetails (colors : Bool) (rule : Rule) : String :=
  label colors "Rule:" ++ " " ++ rule.name ++ "\n" ++
    label colors "Status:" ++ " " ++ enabledCell colors rule.enabled ++ "\n" ++
    userLine colors rule.user ++ "\n" ++
    label colors "Expressions:" ++ "\n" ++ expressionLines colors 1 rule.expressions

/-- An expression with its canonical form or its fault as a JSON value. -/
def expressionJson (text : String) : Json :=
  match Expression.parse text with
  | .ok expression =>
    .object [("expression", .string text), ("valid", .bool true),
      ("canonical", .string expression.text)]
  | .error fault =>
    .object [("expression", .string text), ("valid", .bool false),
      ("error", .string fault.message)]

/-- The JSON text of a rule with its expressions. -/
def ruleDetailsText (rule : Rule) : String :=
  (Json.ofMembers [
    ("name", some (.string rule.name)),
    ("enabled", some (.bool rule.enabled)),
    ("user", rule.user.map .string),
    ("expressions", some (.array (rule.expressions.map expressionJson)))]).pretty

/-! ### Changes -/

/-- The JSON text about a rule that was saved to a file. -/
def savedText (rule : Rule) (replaced : Bool) (path : String) : String :=
  (Json.object [
    ("status", .string (if replaced then "updated" else "created")),
    ("rule", rule.toJson),
    ("path", .string path)]).pretty

/-- The JSON text about a rule that was removed. -/
def removedText (name : String) : String :=
  (Json.sorted (.object [("status", .string "removed"), ("name", .string name)])).pretty

end PlaylistRules.Report
