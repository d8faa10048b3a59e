/-
This file defines configuration files. A file that is missing counts as a
configuration that sets nothing, and a new one is written with comments.
-/

import PlaylistRules.Config
import PlaylistRules.Storage.Task

namespace PlaylistRules.Storage

/-- A fault of loading or writing a configuration file. -/
inductive ConfigFault where
  | read (fault : FileFault)
  /-- The text is not the TOML text of a configuration. -/
  | malformed
  | createDirectory (fault : FileFault)
  | write (fault : FileFault)
  | create (fault : FileFault)
deriving DecidableEq

/-- The wording of a fault. -/
def ConfigFault.message : ConfigFault → String
  | read fault => "Failed to read config: " ++ fault.message
  | malformed => "Failed to parse config: expected TOML with known keys of the right types"
  | createDirectory fault => "Failed to create config directory: " ++ fault.message
  | write fault => "Failed to write config: " ++ fault.message
  | create fault => "Failed to create config file: " ++ fault.message

namespace ConfigFile

/-! ### Loading -/

/-- The configuration that the text of a file sets. -/
def ofText (text : String) : Except ConfigFault Config :=
  match Config.parse? text with
  | some config => .ok config
  | none => .error .malformed

/-- Loads the file; one that is missing sets nothing. -/
def load (path : Path) : FileTask (Except ConfigFault Config) := do
  if ← FileTask.present path then
    match ← FileTask.textOf path with
    | .ok text => return ofText text
    | .error fault => return .error (.read fault)
  else return .ok Config.empty

/-! ### Writing -/

/-- Writes a text to the file, in a directory that is made if need be. -/
def writeText (path : Path) (text : String) (writeFault : FileFault → ConfigFault) :
    FileTask (Except ConfigFault Unit) := do
  let made ← match path.parent? with
    | some parent => FileTask.makeDirectories parent
    | none => pure (.ok ())
  match made with
  | .error fault => return .error (.createDirectory fault)
  | .ok () =>
    match ← FileTask.write path text with
    | .ok () => return .ok ()
    | .error fault => return .error (writeFault fault)

/-- Saves a configuration. -/
def save (path : Path) (config : Config) : FileTask (Except ConfigFault Unit) :=
  writeText path config.text .write

/-- The text of a new file: comments that show every key, and nothing set. -/
def newText : String :=
  "# smartlist configuration\n" ++
  "\n" ++
  "# Config schema version (do not modify)\n" ++
  "version = 1\n" ++
  "\n" ++
  "# JSON catalog of media records (can also use --catalog or SMARTLIST_CATALOG)\n" ++
  "# catalog = \"/path/to/catalog.json\"\n" ++
  "\n" ++
  "# Directory where generated playlists are written\n" ++
  "# playlists_dir = \"/path/to/playlists\"\n" ++
  "\n" ++
  "# Rule file (default: rules.json in the data directory)\n" ++
  "# rules_file = \"/path/to/rules.json\"\n" ++
  "\n" ++
  "# Default user for watch state in previews\n" ++
  "# user = \"alice\"\n" ++
  "\n" ++
  "# Output preferences\n" ++
  "[output]\n" ++
  "# color = true              # Enable colors (respects NO_COLOR env)\n"

/-- Writes a new file in the place of any earlier one. -/
def create (path : Path) : FileTask (Except ConfigFault Unit) :=
  writeText path newText .create

end ConfigFile

end PlaylistRules.Storage
