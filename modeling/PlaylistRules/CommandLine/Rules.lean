/-
This file defines the commands on saved rules: listing, showing, adding, removing
and running them. A rule is added only if all its expressions parse, and removed
only if that is forced or nobody is to be asked.
-/

import PlaylistRules.CommandLine.Answer
import PlaylistRules.Report.Rules
import PlaylistRules.Report.Runs

namespace PlaylistRules.CommandLine

open Storage

/-! ### Looking -/

/-- Lists the rules. -/
def listRules (display : Display) (workspace : Workspace) : FileTask Answer := do
  match ← RuleFile.loadOrEmpty workspace.rules with
  | .error fault => return .failed (.ruleFile fault)
  | .ok set =>
    return .shown (display.choose (Report.rulesText set.rules)
      (Report.ruleTable display.colors set.rules))

/-- Shows the rule with a name. -/
def showRule (display : Display) (workspace : Workspace) (name : String) : FileTask Answer := do
  match ← RuleFile.loadOrEmpty workspace.rules with
  | .error fault => return .failed (.ruleFile fault)
  | .ok set =>
    match set.get? name with
    | none => return .failed (.unknownRule name)
    | some rule =>
      return .shown (display.choose (Report.ruleDetailsText rule)
        (Report.ruleDetails display.colors rule))

/-! ### Adding -/

/-- The fault of the first expression that does not parse. -/
def firstFault? (expressions : List String) : Option FormatError :=
  expressions.findSome? fun text =>
    match Expression.parse text with
    | .error fault => some fault
    | .ok _ => none

/-- The event of a rule that was saved. -/
def savedEvent (rule : Rule) (replaced : Bool) : LogEvent :=
  ⟨.editingRules, .debug, "rule saved",
    [("rule", rule.name), ("replaced", if replaced then "true" else "false")]⟩

/-- What is said about a rule that was saved. -/
def savedLine (rule : Rule) (replaced : Bool) : String :=
  (if replaced then "Updated" else "Added") ++ " rule '" ++ rule.name ++ "' (" ++
    rule.expressions.length.repr ++ " expression" ++
    (if rule.expressions.length = 1 then "" else "s") ++ ")\n"

/-- Saves the set of rules with a rule added. -/
def saveRule (display : Display) (path : Path) (set : RuleSet) (rule : Rule) :
    FileTask Answer := do
  let (old, set) := set.upsert rule
  let replaced := old.isSome
  match ← RuleFile.save path set with
  | .error fault => return .failed (.ruleFile fault)
  | .ok () =>
    return ⟨display.choose (Report.savedText rule replaced path.text) (savedLine rule replaced),
      [.event (savedEvent rule replaced)], none⟩

/-- Adds a rule, in the place of any rule with the same name. -/
def addRule (display : Display) (workspace : Workspace) (rule : Rule) : FileTask Answer :=
  match firstFault? rule.expressions with
  | some fault => return .failed (.expression fault)
  | none => do
    match ← RuleFile.loadOrEmpty workspace.rules with
    | .error fault => return .failed (.ruleFile fault)
    | .ok set => saveRule display workspace.rules set rule

/-! ### Removing -/

/-- Saves the set of rules without the rule with a name. -/
def saveWithout (display : Display) (path : Path) (set : RuleSet) (name : String) :
    FileTask Answer := do
  match ← RuleFile.save path (set.remove name).2 with
  | .error fault => return .failed (.ruleFile fault)
  | .ok () =>
    return .shown (display.choose (Report.removedText name) ("Removed rule '" ++ name ++ "'\n"))

/-- Removes the rule with a name. -/
def removeRule (display : Display) (workspace : Workspace) (name : String) (force : Bool) :
    FileTask Answer := do
  match ← RuleFile.loadOrEmpty workspace.rules with
  | .error fault => return .failed (.ruleFile fault)
  | .ok set =>
    match set.get? name with
    | none => return .failed (.unknownRule name)
    | some rule =>
      if force || display.quiet then saveWithout display workspace.rules set rule.name
      else return .failed (.setting .notConfirmed)

/-! ### Running -/

/-- The rules that are run: the one with a name even if it is disabled, or all of
them. -/
def chosenRules (set : RuleSet) : Option String → Except CommandFault (List Rule)
  | none => .ok set.rules
  | some name =>
    match set.get? name with
    | some rule => .ok [{ rule with enabled := true }]
    | none => .error (.unknownRule name)

/-- What is said before rules are run. -/
def runningNotices (display : Display) (rules : List Rule) (catalog : Path) : List Notice :=
  if display.verbose then
    [.line ("Running " ++ (rules.countP (·.enabled)).repr ++ " rule(s) against " ++
      catalog.text)]
  else []

/-- The answer about rules that were run: the results, and the first fault. -/
def runAnswer (display : Display) (notices : List Notice)
    (reports : List (RunReport CatalogFault PlaylistFault)) : Answer :=
  let results := reports.map Report.resultOf
  { output := display.choose (Report.resultsText results)
      (Report.resultLines display.colors results)
    notices := notices ++ (reports.flatMap (·.events)).map .event
    fault := (reports.findSome? RunReport.fault?).map .run }

/-- Runs rules on a catalog. -/
def runChosen (display : Display) (workspace : Workspace) (stamps : Nat → Stamp)
    (draws : Nat → Draws) (rules : List Rule) (catalog : Path) : FileTask Answer := do
  let (reports, _) ← (runAll (CatalogFile.source catalog)
    (PlaylistFolder.sink workspace.playlists stamps) draws rules).run 0
  return runAnswer display (runningNotices display rules catalog) reports

/-- Runs the rule with a name, or every enabled rule. -/
def runRules (display : Display) (workspace : Workspace) (stamps : Nat → Stamp)
    (draws : Nat → Draws) (name : Option String) : FileTask Answer := do
  match ← RuleFile.loadOrEmpty workspace.rules with
  | .error fault => return .failed (.ruleFile fault)
  | .ok set =>
    match chosenRules set name, workspace.catalog with
    | .error fault, _ => return .failed fault
    | .ok _, none => return .failed (.setting .noCatalog)
    | .ok rules, some catalog => runChosen display workspace stamps draws rules catalog

end PlaylistRules.CommandLine
