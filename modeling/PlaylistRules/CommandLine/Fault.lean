/-
This file defines what can keep a command from being carried out, how it is
worded, and the number with which the program then ends.
-/

import PlaylistRules.Batch
import PlaylistRules.Environment
import PlaylistRules.Storage.CatalogFile
import PlaylistRules.Storage.ConfigFile
import PlaylistRules.Storage.PlaylistFolder
import PlaylistRules.Storage.RuleFile

namespace PlaylistRules.CommandLine

open Storage

/-- A fault of the settings that a command needs. -/
inductive SettingFault where
  | file (fault : ConfigFault)
  | assignment (fault : Config.AssignFault)
  | noConfigFolder
  | noDataFolder
  | noCatalog
  | notConfirmed
deriving DecidableEq

/-- The wording of a fault. -/
def SettingFault.message : SettingFault → String
  | file fault => fault.message
  | assignment (.unknownKey key) =>
    "Unknown config key '" ++ key ++
      "'. Valid keys: catalog, playlists_dir, rules_file, user, output.color"
  | assignment (.invalidBoolean value) =>
    "Invalid boolean value '" ++ value ++ "'. Use true/false, yes/no, 1/0, or on/off"
  | noConfigFolder => "Could not determine config directory"
  | noDataFolder => "Could not determine data directory"
  | noCatalog =>
    "No catalog configured. Pass --catalog, set SMARTLIST_CATALOG, or run " ++
      "'smartlist config set catalog <path>'"
  | notConfirmed => "Operation cancelled. Use --force to confirm."

/-- A fault of a command. -/
inductive CommandFault where
  | expression (fault : FormatError)
  | ruleFile (fault : RuleFileFault)
  | noRuleFile
  | catalog (fault : CatalogFault)
  | run (fault : RunFault CatalogFault PlaylistFault)
  | unknownRule (name : String)
  | setting (fault : SettingFault)
deriving DecidableEq

namespace CommandFault

/-- The wording of a fault. -/
def message : CommandFault → String
  | expression fault => "expression error: " ++ fault.message
  | ruleFile fault => "rule store error: " ++ fault.message
  | noRuleFile =>
    "rule store error: failed to determine data directory: no valid home directory found"
  | catalog fault => "catalog error: " ++ fault.message
  | run fault => "rule error: " ++ fault.message
  | unknownRule name => "rule not found: " ++ name
  | setting fault => "configuration error: " ++ fault.message

/-- The code of a fault in JSON. -/
def code : CommandFault → String
  | expression _ => "EXPRESSION_ERROR"
  | ruleFile _ | noRuleFile => "STORE_ERROR"
  | catalog _ => "CATALOG_ERROR"
  | run _ => "RULE_ERROR"
  | unknownRule _ => "NOT_FOUND"
  | setting _ => "CONFIG_ERROR"

/-- The number with which the program ends after a fault. -/
def exitCode : CommandFault → Nat
  | expression _ | unknownRule _ => 1
  | run _ => 2
  | catalog _ => 4
  | ruleFile _ | noRuleFile | setting _ => 5

/-- The fault of a workspace that was not found. -/
def ofWorkspace : WorkspaceFault → CommandFault
  | .noPlaylistFolder => setting .noDataFolder
  | .noRuleFile => noRuleFile

end CommandFault

end PlaylistRules.CommandLine
