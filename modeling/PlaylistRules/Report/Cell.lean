/-
This file defines the cells of the tables that are shown: ids, years, ratings,
running times, dates and the state of a rule.
-/

import PlaylistRules.Calendar.Instant
import PlaylistRules.Number.Layout
import PlaylistRules.Text.Column
import PlaylistRules.Text.Paint

namespace PlaylistRules.Report

open Number Text Calendar

/-! ### Plain cells -/

/-- The beginning of an id. -/
def idCell (id : String) : String :=
  firstChars 8 id

/-- A year, empty if it is unknown. -/
def yearCell : Option Int → String
  | some year => String.ofList (integerText year)
  | none => ""

/-- A running time as minutes, or from an hour on as hours and minutes. -/
def runtimeCell : Option Int → String
  | some minutes =>
    if minutes < 60 then String.ofList (integerText minutes ++ ['m'])
    else String.ofList (integerText (minutes.tdiv 60) ++ ['h', ' '] ++
      paddedIntegerText 2 (minutes.tmod 60) ++ ['m'])
  | none => ""

/-- A calendar date, empty if it is unknown. -/
def dateCell : Option Instant → String
  | some instant => String.ofList instant.dateText
  | none => ""

/-! ### Painted cells -/

/-- The rating from which on a text is green. -/
def goodRating : Binary64 := Binary64.ofInt 8

/-- The rating below which a text is red. -/
def poorRating : Binary64 := Binary64.ofInt 5

/-- A text in the colour of a rating. -/
def paintRating (text : String) (rating : Binary64) : String :=
  if goodRating.atMost rating then paint .green text
  else if rating.less poorRating then paint .red text
  else text

/-- A rating with one digit after the point, empty if it is unknown. -/
def ratingCell (colors : Bool) : Option Binary64 → String
  | some rating =>
    let text := String.ofList rating.tenthsText
    if colors then paintRating text rating else text
  | none => ""

/-- A text in the colour of an enabled or disabled rule. -/
def paintEnabled (text : String) (enabled : Bool) : String :=
  paint (if enabled then .green else .dimmed) text

/-- The state of a rule. -/
def enabledCell (colors enabled : Bool) : String :=
  let text := if enabled then "enabled" else "disabled"
  if colors then paintEnabled text enabled else text

/-! ### Headings -/

/-- The line of column names. -/
def headerLine (colors : Bool) (names : String) : String :=
  paintIf colors .dimmed names ++ "\n"

/-- The name of a value that follows it. -/
def label (colors : Bool) (name : String) : String :=
  paintIf colors .bold name

end PlaylistRules.Report
