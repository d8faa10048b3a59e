/-
This file defines how selected records are shown: as a table, or as JSON text.
-/

import PlaylistRules.Json.Printer
import PlaylistRules.Report.Cell
import PlaylistRules.Rule

namespace PlaylistRules.Report

open Number Text

/-! ### Table -/

/-- The names of the columns. -/
def itemHeader : String :=
  padEnd 8 "ID" ++ " " ++ padEnd 4 "Year" ++ " " ++ padStart 6 "Rating" ++ " " ++
    padStart 7 "Runtime" ++ " " ++ padEnd 10 "Added" ++ " " ++ "Name"

/-- The rating in its column, painted after it is padded. -/
def paddedRating (colors : Bool) (rating : Option Binary64) : String :=
  let padded := padStart 6 (ratingCell false rating)
  match rating with
  | some value => if colors then paintRating padded value else padded
  | none => padded

/-- The line of a record. -/
def itemLine (colors : Bool) (record : Record) : String :=
  padEnd 8 (idCell record.id) ++ " " ++ padEnd 4 (yearCell record.year) ++ " " ++
    paddedRating colors record.rating ++ " " ++ padStart 7 (runtimeCell record.runtime) ++ " " ++
    padEnd 10 (dateCell record.dateAdded) ++ " " ++ shortened 50 record.name ++ "\n"

/-- The table of the selected records. -/
def itemTable (colors : Bool) (records : List Record) : String :=
  if records.isEmpty then "No items matched.\n"
  else headerLine colors itemHeader ++ String.join (records.map (itemLine colors))

/-! ### JSON -/

/-- A selected record as a JSON value. -/
def itemJson (record : Record) : Json :=
  .ofMembers [
    ("id", some (.string record.id)),
    ("name", some (.string record.name)),
    ("type", some (.string record.contentType)),
    ("genres", some (Record.namesJson record.genres)),
    ("release_year", record.year.map .ofInt),
    ("community_rating", record.rating.map .ofBinary64),
    ("runtime_minutes", record.runtime.map .ofInt),
    ("watched", some (.bool record.watched)),
    ("date_added", record.dateAdded.map fun instant => .string instant.text)]

/-- A skipped expression as a JSON value. -/
def skippedJson (skipped : SkippedExpression) : Json :=
  .object [("expression", .string skipped.expression), ("error", .string skipped.fault.message)]

/-- An array, left out if it is empty. -/
def arrayUnlessEmpty (items : List Json) : Option Json :=
  if items.isEmpty then none else some (.array items)

/-- The JSON text of a selection. -/
def selectionText (selection : RuleSelection) : String :=
  (Json.ofMembers [
    ("items", some (.array (selection.items.map itemJson))),
    ("skipped", arrayUnlessEmpty (selection.skipped.map skippedJson))]).pretty

end PlaylistRules.Report
