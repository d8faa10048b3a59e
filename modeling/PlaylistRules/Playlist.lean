/-
This file defines playlists as they are stored, and as JSON values.
-/

import PlaylistRules.Record

namespace PlaylistRules

open Calendar

/-- A playlist: its items are ids in the order in which they play. -/
structure Playlist where
  id : String
  name : String
  user : Option String
  items : List String
  createdAt : Instant
deriving DecidableEq

namespace Playlist

/-- A playlist as a JSON value, without the user if there is none. -/
def toJson (playlist : Playlist) : Json :=
  .ofMembers [
    ("id", some (.string playlist.id)),
    ("name", some (.string playlist.name)),
    ("user", playlist.user.map .string),
    ("items", some (.ofTexts playlist.items)),
    ("created_at", some (.string playlist.createdAt.text))]

/-- A playlist read from a JSON value. Only the user may be missing. -/
def ofJson? (value : Json) : Option Playlist := do
  let [id, name, user, items, createdAt] ←
    value.fields? ["id", "name", "user", "items", "created_at"] | none
  return {
    id := ← Json.required Json.string? id
    name := ← Json.required Json.string? name
    user := ← Json.optional Json.string? user
    items := ← Json.required (Json.listOf? Json.string?) items
    createdAt := ← Json.required Record.instantOfJson? createdAt }

end Playlist

end PlaylistRules
