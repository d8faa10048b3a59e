/-
This file defines folders of playlists: directories with a file for each playlist,
named for the id of the playlist. Ids and times come from a supply of stamps.
-/

import PlaylistRules.Batch
import PlaylistRules.Json.Printer
import PlaylistRules.Playlist
import PlaylistRules.Storage.Task

namespace PlaylistRules.Storage

open Calendar

/-- A fault of writing a playlist. -/
inductive PlaylistFault where
  | createDirectory (path : Path) (fault : FileFault)
  | write (path : Path) (fault : FileFault)
deriving DecidableEq

/-- The wording of a fault. -/
def PlaylistFault.message : PlaylistFault → String
  | createDirectory path fault =>
    "failed to create playlist directory '" ++ path.text ++ "': " ++ fault.message
  | write path fault => "failed to write playlist file '" ++ path.text ++ "': " ++ fault.message

instance : Worded PlaylistFault := ⟨PlaylistFault.message⟩

/-- What tells one playlist from all others: an id and the time of its making. -/
structure Stamp where
  id : String
  time : Instant

namespace PlaylistFolder

/-- The file of the playlist with an id. -/
def fileOf (folder : Path) (id : String) : Path :=
  folder.child (id ++ ".json")

/-- Writes the file of a playlist: makes the folder, writes the text next to the
file and moves it there. -/
def store (folder : Path) (playlist : Playlist) : FileTask (Except PlaylistFault Playlist) := do
  match ← FileTask.makeDirectories folder with
  | .error fault => return .error (.createDirectory folder fault)
  | .ok () =>
    match ← FileTask.replace (fileOf folder playlist.id) playlist.toJson.pretty with
    | .ok () => return .ok playlist
    | .error (failed, fault) => return .error (.write failed fault)

/-- Makes a playlist with the id and the time of a stamp. -/
def add (folder : Path) (stamp : Stamp) (name : String) (user : Option String)
    (items : List String) : FileTask (Except PlaylistFault Playlist) :=
  store folder ⟨stamp.id, name, user, items, stamp.time⟩

/-- The folder as a sink of playlists. The state counts the stamps that were used. -/
def sink (folder : Path) (stamps : Nat → Stamp) : Sink (StateT Nat FileTask) PlaylistFault :=
  ⟨fun name user items => do
    let used ← getModify (· + 1)
    return (← add folder (stamps used) name user items).map (·.id)⟩

end PlaylistFolder

end PlaylistRules.Storage
