/-
This file defines catalogs: all the records of a library, and for each listed
user the ids of the records that this user has watched.
-/

import PlaylistRules.Record

namespace PlaylistRules

/-- A catalog. Each user is listed once. -/
structure Catalog where
  items : List Record
  watched : List (String × NameSet)

namespace Catalog

/-- The ids that a user has watched, if the user is listed. -/
def watchedBy? (catalog : Catalog) (user : String) : Option NameSet :=
  catalog.watched.lookup user

/-- The record with the watched flag that a list of watched ids gives it. -/
def withWatched (record : Record) : Option NameSet → Record
  | some ids => { record with watched := ids.contains record.id }
  | none => record

/-- The records as a user sees them. Only the flags of a listed user differ from
those of the records. -/
def itemsFor (catalog : Catalog) (user : Option String) : List Record :=
  let ids := user.bind catalog.watchedBy?
  catalog.items.map (withWatched · ids)

/-! ### JSON -/

/-- The list with an entry for the user in the place of any earlier one. -/
def listUser (watched : List (String × NameSet)) (entry : String × NameSet) :
    List (String × NameSet) :=
  watched.filter (·.1 != entry.1) ++ [entry]

/-- A catalog as a JSON value. -/
def toJson (catalog : Catalog) : Json :=
  .object [
    ("items", .array (catalog.items.map Record.toJson)),
    ("watched", .object (catalog.watched.map fun (user, ids) => (user, Record.namesJson ids)))]

/-- The watched ids of users read from an object; the last entry of a user counts. -/
def watchedOfJson? : Json → Option (List (String × NameSet))
  | .object members => do
    let entries ← members.mapM fun (user, ids) => (Record.namesOfJson? ids).map (user, ·)
    return entries.foldl listUser []
  | _ => none

/-- A catalog read from a JSON value. Both fields have defaults. -/
def ofJson? (value : Json) : Option Catalog := do
  let [items, watched] ← value.fields? ["items", "watched"] | none
  return ⟨← Json.defaulted [] (Json.listOf? Record.ofJson?) items,
    ← Json.defaulted [] watchedOfJson? watched⟩

/-- A catalog read from JSON text. -/
def parse? (text : String) : Option Catalog :=
  (Json.parse? text).bind ofJson?

end Catalog

end PlaylistRules
