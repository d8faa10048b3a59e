/-
This file defines the configuration of the program: where its files are, who uses
it and whether its output is coloured. Every value may be left open. The file
also defines how values are assigned by key, and the configuration as TOML and
JSON.
-/

import PlaylistRules.Json.Printer
import PlaylistRules.Text.LetterCase
import PlaylistRules.Toml.Printer

namespace PlaylistRules

open Text

/-- The values that a configuration sets. -/
structure Config where
  catalog : Option String
  playlistsFolder : Option String
  rulesFile : Option String
  user : Option String
  color : Option Bool
deriving DecidableEq

namespace Config

/-- The version that every configuration has. -/
def version : Nat := 1

/-- The configuration that sets nothing. -/
def empty : Config := ⟨none, none, none, none, none⟩

/-! ### Assignment -/

/-- A fault of an assignment. -/
inductive AssignFault where
  | unknownKey (key : String)
  | invalidBoolean (value : String)
deriving DecidableEq

/-- The truth value that a word stands for, letter case aside. -/
def boolean? (value : String) : Option Bool :=
  let word := lowercase value
  if ["true", "yes", "1", "on"].contains word then some true
  else if ["false", "no", "0", "off"].contains word then some false
  else none

/-- The configuration with a value assigned to a key. -/
def assign (config : Config) (key value : String) : Except AssignFault Config :=
  match key with
  | "catalog" => .ok { config with catalog := some value }
  | "playlists_dir" => .ok { config with playlistsFolder := some value }
  | "rules_file" => .ok { config with rulesFile := some value }
  | "user" => .ok { config with user := some value }
  | "output.color" =>
    match boolean? value with
    | some color => .ok { config with color := some color }
    | none => .error (.invalidBoolean value)
  | _ => .error (.unknownKey key)

/-- The texts that a configuration sets, with their keys. -/
def texts (config : Config) : List (String × String) :=
  [("catalog", config.catalog), ("playlists_dir", config.playlistsFolder),
    ("rules_file", config.rulesFile), ("user", config.user)].filterMap
      fun (key, value?) => value?.map (key, ·)

/-! ### TOML -/

/-- The TOML text of a configuration. -/
def text (config : Config) : String :=
  "version = " ++ version.repr ++ "\n" ++
    String.join (config.texts.map fun (key, value) => Toml.textLine key value) ++
    "\n[output]\n" ++ (config.color.map (Toml.booleanLine "color")).getD ""

/-- A text that may be missing among members. -/
def textMember? (members : Toml.Members) (key : String) : Option (Option String) :=
  match members.lookup key with
  | none => some none
  | some (.string value) => some (some value)
  | some _ => none

/-- Whether the version among members is missing or a number of 32 bits. -/
def hasGoodVersion (members : Toml.Members) : Bool :=
  match members.lookup "version" with
  | none => true
  | some (.integer number) => 0 ≤ number && number < 2 ^ 32
  | some _ => false

/-- The colour setting of the output table: the member of a table, or the first
item of an array. A date stands for a table that sets nothing. -/
def colorOf? : Option Toml → Option (Option Bool)
  | none => some none
  | some (.table _ members) =>
    match members.lookup "color" with
    | none => some none
    | some (.boolean color) => some (some color)
    | some _ => none
  | some (.array (.boolean color :: _)) => some (some color)
  | some .dateTime => some none
  | some _ => none

/-- The configuration that a TOML document sets. Other members are passed over. -/
def ofToml? (members : Toml.Members) : Option Config := do
  if !hasGoodVersion members then none
  return {
    catalog := ← textMember? members "catalog"
    playlistsFolder := ← textMember? members "playlists_dir"
    rulesFile := ← textMember? members "rules_file"
    user := ← textMember? members "user"
    color := ← colorOf? (members.lookup "output") }

/-- The configuration that a TOML text sets. -/
def parse? (text : String) : Option Config :=
  (Toml.parse? text).bind ofToml?

/-! ### JSON -/

/-- A configuration as a JSON value. -/
def toJson (config : Config) : Json :=
  .object ([("version", .ofNat version)] ++
    config.texts.map (fun (key, value) => (key, .string value)) ++
    [("output", .ofMembers [("color", config.color.map .bool)])])

end Config

end PlaylistRules
