/-
This file defines the orders in which selected records come: how they are named,
and which of two records precedes the other. Missing numbers order as 0 and
missing dates as the earliest instant.
-/

import PlaylistRules.Text.Blank
import PlaylistRules.Text.LetterCase
import PlaylistRules.Record

namespace PlaylistRules

open Text

/-- An order of records. -/
inductive SortKey where
  /-- A fresh shuffle every time. -/
  | random
  /-- By name, letter case aside. -/
  | alphabetical
  /-- By year, oldest first. -/
  | oldestRelease
  /-- By year, newest first. -/
  | newestRelease
  /-- By rating, highest first. -/
  | rating
  /-- By date of addition, newest first. -/
  | dateAdded
  /-- By running time, shortest first. -/
  | shortest
  /-- By running time, longest first. -/
  | longest
  /-- As the records come. -/
  | sourceOrder
deriving DecidableEq

namespace SortKey

/-- The canonical spelling of a sort key. -/
def text : SortKey → String
  | random => "random"
  | alphabetical => "alphabetical"
  | oldestRelease => "releasedate"
  | newestRelease => "releasedate_desc"
  | rating => "rating"
  | dateAdded => "dateadded"
  | shortest => "runtime"
  | longest => "runtime_desc"
  | sourceOrder => "none"

/-- The sort key of a spelling, letter case and surrounding blanks aside. Any
other text keeps the order of the source. -/
def ofText (text : String) : SortKey :=
  match lowercase (trimmed text) with
  | "random" => random
  | "alphabetical" => alphabetical
  | "releasedate" => oldestRelease
  | "releasedate_desc" => newestRelease
  | "rating" => rating
  | "dateadded" => dateAdded
  | "runtime" => shortest
  | "runtime_desc" => longest
  | _ => sourceOrder

/-- Whether the first record may stand before the second. -/
def precedes : SortKey → Record → Record → Bool
  | alphabetical, first, second => !decide (lowercase second.name < lowercase first.name)
  | oldestRelease, first, second => first.yearOrZero ≤ second.yearOrZero
  | newestRelease, first, second => second.yearOrZero ≤ first.yearOrZero
  | rating, first, second => second.ratingOrZero.totalPlace ≤ first.ratingOrZero.totalPlace
  | dateAdded, first, second => !first.dateOrEarliest.isBefore second.dateOrEarliest
  | shortest, first, second => first.runtimeOrZero ≤ second.runtimeOrZero
  | longest, first, second => second.runtimeOrZero ≤ first.runtimeOrZero
  | random, _, _ => true
  | sourceOrder, _, _ => true

end SortKey

end PlaylistRules
