/-
This file defines the commands on the configuration: showing it and its path,
assigning a value, and writing a new file.
-/

import PlaylistRules.CommandLine.Answer

namespace PlaylistRules.CommandLine

open Storage Text

/-! ### Loading -/

/-- The path of the configuration file. -/
def configPath (environment : Environment) : Except CommandFault Path :=
  match environment.configPath? with
  | some path => .ok path
  | none => .error (.setting .noConfigFolder)

/-- Loads the configuration. -/
def loadConfig (environment : Environment) : FileTask (Except CommandFault Config) :=
  match configPath environment with
  | .error fault => return .error fault
  | .ok path => do
    match ← ConfigFile.load path with
    | .ok config => return .ok config
    | .error fault => return .error (.setting (.file fault))

/-! ### Showing -/

/-- The JSON text of an object with its members sorted. -/
def sortedText (members : List (String × Json)) : String :=
  (Json.object members).sorted.pretty

/-- The word for whether something is there. -/
def truthWord (value : Bool) : String :=
  if value then "true" else "false"

/-- The lines that show what a configuration sets. -/
def settingLines (config : Config) : String :=
  "Settings:\n" ++
    String.join (config.texts.map fun (key, value) => "  " ++ key ++ ": " ++ value ++ "\n") ++
    "\n[output]\n" ++
    (config.color.map fun color => "  color: " ++ truthWord color ++ "\n").getD ""

/-- The lines that show a configuration and its file. -/
def configLines (colors : Bool) (path : Path) (found : Bool) (config : Config) : String :=
  (if colors then paint .bold (paint .green "Configuration") else "Configuration") ++ "\n\n" ++
    "File: " ++ path.text ++ "\n" ++
    "Exists: " ++ truthWord found ++ "\n\n" ++
    (if found then settingLines config
      else "(No config file exists. Run 'smartlist config init' to create one.)\n")

/-- The JSON text that shows a configuration and its file. -/
def configText (path : Path) (found : Bool) (config : Config) : String :=
  sortedText [("path", .string path.text), ("exists", .bool found), ("config", config.toJson)]

/-- Shows the configuration. -/
def showConfig (display : Display) (environment : Environment) : FileTask Answer := do
  match ← loadConfig environment, configPath environment with
  | .error fault, _ => return .failed fault
  | .ok _, .error fault => return .failed fault
  | .ok config, .ok path =>
    let found ← FileTask.present path
    return .shown (display.choose (configText path found config)
      (configLines display.colors path found config))

/-- Shows the path of the configuration file, even if nothing else is wanted. -/
def showConfigPath (display : Display) (environment : Environment) : FileTask Answer :=
  match configPath environment with
  | .error fault => return .failed fault
  | .ok path =>
    if display.json then do
      let found ← FileTask.present path
      return .shown (sortedText [("path", .string path.text), ("exists", .bool found)] ++ "\n")
    else return .shown (path.text ++ "\n")

/-! ### Changing -/

/-- Assigns a value to a key and saves the configuration. -/
def assignConfig (display : Display) (environment : Environment) (key value : String) :
    FileTask Answer := do
  match ← loadConfig environment, configPath environment with
  | .error fault, _ => return .failed fault
  | .ok _, .error fault => return .failed fault
  | .ok config, .ok path =>
    match config.assign key value with
    | .error fault => return .failed (.setting (.assignment fault))
    | .ok config =>
      match ← ConfigFile.save path config with
      | .error fault => return .failed (.setting (.file fault))
      | .ok () =>
        return .shown (display.choose
          (sortedText [("status", .string "success"), ("key", .string key),
            ("value", .string value), ("path", .string path.text)])
          ("Set " ++ key ++ " = " ++ value ++ "\n"))

/-- What is said about a configuration file that was written or was there already. -/
def createdAnswer (display : Display) (path : Path) (created : Bool) : Answer :=
  .shown (display.choose
    (sortedText [("status", .string (if created then "created" else "exists")),
      ("path", .string path.text)])
    (if created then "Created default config at: " ++ path.text ++ "\n"
      else "Config already exists at: " ++ path.text ++ " (use --force to overwrite)\n"))

/-- Writes a new configuration file, over one that is there only if that is forced. -/
def createConfig (display : Display) (environment : Environment) (force : Bool) :
    FileTask Answer :=
  match configPath environment with
  | .error fault => return .failed fault
  | .ok path => do
    if (← FileTask.present path) && !force then return createdAnswer display path false
    else
      match ← ConfigFile.create path with
      | .error fault => return .failed (.setting (.file fault))
      | .ok () => return createdAnswer display path true

end PlaylistRules.CommandLine
