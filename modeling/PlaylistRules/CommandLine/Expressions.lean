/-
This file defines the commands on expressions: parsing one, and previewing what
expressions select from the catalog.
-/

import PlaylistRules.CommandLine.Answer
import PlaylistRules.Report.Items
import PlaylistRules.Report.Outline

namespace PlaylistRules.CommandLine

open Storage

/-! ### Parsing -/

/-- Parses an expression and shows its rule text or its outline. -/
def parseExpression (display : Display) (text : String) (outline : Bool) : Answer :=
  match Expression.parse text with
  | .error fault => .failed (.expression fault)
  | .ok expression =>
    .shown (display.choose expression.jsonText
      (if outline then expression.outlineText display.colors else expression.text ++ "\n"))

/-! ### Previews -/

/-- The rule that a preview tries. -/
def previewRule (expressions : List String) : Rule :=
  ⟨"preview", expressions, none, true⟩

/-- The event of a catalog that was loaded for a user. -/
def loadedEvent (records : List Record) (user : Option String) : LogEvent :=
  ⟨.previewing, .debug, "catalog loaded",
    [("records", records.length.repr), ("user", Log.optionalText user)]⟩

/-- The answer of a preview on records: what is selected, or the fault of the
first expression if every one of them has a fault. -/
def previewRecords (display : Display) (draws : Draws) (expressions : List String)
    (user : Option String) (records : List Record) : Answer :=
  let attempts := (previewRule expressions).attempts draws records
  let selection := RuleSelection.ofAttempts attempts
  let notices := .event (loadedEvent records user) ::
    attempts.map fun attempt => .event (attempt.event "preview")
  match selection.skipped with
  | first :: _ =>
    if selection.skipped.length = expressions.length then
      ⟨"", notices, some (.expression first.fault)⟩
    else
      ⟨display.choose (Report.selectionText selection)
        (Report.itemTable display.colors selection.items), notices, none⟩
  | [] =>
    ⟨display.choose (Report.selectionText selection)
      (Report.itemTable display.colors selection.items), notices, none⟩

/-- Previews expressions for a user, or else for the user of the workspace. -/
def preview (display : Display) (workspace : Workspace) (draws : Draws)
    (expressions : List String) (user : Option String) : FileTask Answer :=
  match workspace.catalog with
  | none => return .failed (.setting .noCatalog)
  | some path => do
    match ← CatalogFile.load path with
    | .error fault => return .failed (.catalog fault)
    | .ok catalog =>
      let user := user.or workspace.user
      return previewRecords display draws expressions user (catalog.itemsFor user)

end PlaylistRules.CommandLine
