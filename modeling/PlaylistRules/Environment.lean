/-
This file defines where the files of the program are. Variables of the
environment name the directories, and the configuration may name every file. The
home directory is that of the user's account if no variable names it.
-/

import PlaylistRules.Config
import PlaylistRules.Storage.Path

namespace PlaylistRules

open Storage

/-- The variables that are set when the program runs, and the home directory of
the account that runs it. -/
structure Environment where
  bindings : List (String × String)
  accountHome : Option String

namespace Environment

/-- The variables that the program looks at. -/
def names : List String :=
  ["SMARTLIST_CONFIG", "SMARTLIST_CATALOG", "XDG_CONFIG_HOME", "XDG_DATA_HOME", "HOME",
    "NO_COLOR", "RUST_LOG"]

/-- The value of a variable that is set. -/
def get? (environment : Environment) (name : String) : Option String :=
  environment.bindings.lookup name

/-- The value of a variable that is set to some text. -/
def getText? (environment : Environment) (name : String) : Option String :=
  (environment.get? name).filter fun value => !value.isEmpty

/-! ### Directories -/

/-- The name of the directories and of the program itself. -/
def programName : String := "smartlist"

/-- The path of a directory below the home directory. -/
def inHome? (environment : Environment) (names : List String) : Option Path :=
  ((environment.getText? "HOME").or environment.accountHome).map fun home =>
    names.foldl Path.child (Path.ofText home)

/-- The directory of the configuration. A variable that is set counts even if it
is empty. -/
def configFolder? (environment : Environment) : Option Path :=
  match environment.get? "XDG_CONFIG_HOME" with
  | some folder => some ((Path.ofText folder).child programName)
  | none => environment.inHome? [".config", programName]

/-- The path of the configuration file. -/
def configPath? (environment : Environment) : Option Path :=
  match environment.get? "SMARTLIST_CONFIG" with
  | some path => some (Path.ofText path)
  | none => environment.configFolder?.map (·.child "config.toml")

/-- The directory of data. A variable counts only if it holds an absolute path,
and none counts without a home directory. -/
def dataFolder? (environment : Environment) : Option Path := do
  let home ← environment.inHome? [".local", "share", programName]
  match environment.get? "XDG_DATA_HOME" with
  | some folder =>
    if (Path.ofText folder).isAbsolute then some ((Path.ofText folder).child programName)
    else some home
  | none => some home

end Environment

/-! ### Workspaces -/

/-- The files that commands work on, and the user who is meant if none is named. -/
structure Workspace where
  catalog : Option Path
  playlists : Path
  rules : Path
  user : Option String

/-- What keeps a workspace from being found: no place for the playlists, or none
for the rules. -/
inductive WorkspaceFault where
  | noPlaylistFolder
  | noRuleFile
deriving DecidableEq

/-- The workspace of a configuration. A catalog named in the arguments comes
before that of the configuration; paths that nothing names are in the directory
of data. -/
def Environment.workspace (environment : Environment) (catalog : Option String)
    (config : Config) : Except WorkspaceFault Workspace := do
  let inData := fun name => environment.dataFolder?.map (·.child name)
  let some playlists := (config.playlistsFolder.map Path.ofText).or (inData "playlists")
    | throw .noPlaylistFolder
  let some rules := (config.rulesFile.map Path.ofText).or (inData "rules.json")
    | throw .noRuleFile
  return ⟨(catalog.or config.catalog).map Path.ofText, playlists, rules, config.user⟩

end PlaylistRules
