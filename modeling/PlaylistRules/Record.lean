/-
This file defines media records: what is known about one item of a library, with
the watch state of the user who asks. It also defines records as JSON values.
-/

import PlaylistRules.Json.Decoding
import PlaylistRules.Calendar.Instant
import PlaylistRules.NameSet

namespace PlaylistRules

open Number Calendar

/-- A media record. -/
structure Record where
  id : String
  name : String
  contentType : String
  genres : NameSet
  runtime : Option Int
  language : Option String
  watched : Bool
  year : Option Int
  rating : Option Binary64
  dateAdded : Option Instant

namespace Record

/-! ### Values of missing fields -/

/-- The running time in minutes, 0 if it is missing. -/
def runtimeOrZero (record : Record) : Int := record.runtime.getD 0

/-- The year of release, 0 if it is missing. -/
def yearOrZero (record : Record) : Int := record.year.getD 0

/-- The rating, 0 if it is missing. -/
def ratingOrZero (record : Record) : Binary64 := record.rating.getD Binary64.zero

/-- The date of addition, the earliest instant if it is missing. -/
def dateOrEarliest (record : Record) : Instant := record.dateAdded.getD Instant.earliest

/-! ### JSON -/

/-- A set of names as an array. -/
def namesJson (set : NameSet) : Json := .ofTexts set.names

/-- A record as a JSON value, without the fields that are missing. -/
def toJson (record : Record) : Json :=
  .ofMembers [
    ("id", some (.string record.id)),
    ("name", some (.string record.name)),
    ("type", some (.string record.contentType)),
    ("genres", some (namesJson record.genres)),
    ("runtime_minutes", record.runtime.map .ofInt),
    ("language", record.language.map .string),
    ("watched", some (.bool record.watched)),
    ("release_year", record.year.map .ofInt),
    ("community_rating", record.rating.map .ofBinary64),
    ("date_added", record.dateAdded.map fun instant => .string instant.text)]

/-- A set of names read from an array. -/
def namesOfJson? (value : Json) : Option NameSet :=
  (value.listOf? Json.string?).map NameSet.ofList

/-- An instant read from a text. -/
def instantOfJson? (value : Json) : Option Instant :=
  value.string?.bind Instant.parse?

/-- A record read from a JSON value. Only the id and the name must be there. -/
def ofJson? (value : Json) : Option Record := do
  let [id, name, contentType, genres, runtime, language, watched, year, rating, dateAdded] ←
    value.fields? ["id", "name", "type", "genres", "runtime_minutes", "language", "watched",
      "release_year", "community_rating", "date_added"] | none
  return {
    id := ← Json.required Json.string? id
    name := ← Json.required Json.string? name
    contentType := ← Json.defaulted "" Json.string? contentType
    genres := ← Json.defaulted NameSet.empty namesOfJson? genres
    runtime := ← Json.optional (Json.integer? (-2 ^ 63) (2 ^ 63 - 1)) runtime
    language := ← Json.optional Json.string? language
    watched := ← Json.defaulted false Json.bool? watched
    year := ← Json.optional (Json.integer? (-2 ^ 31) (2 ^ 31 - 1)) year
    rating := ← Json.optional Json.binary64? rating
    dateAdded := ← Json.optional instantOfJson? dateAdded }

end Record

end PlaylistRules
