/-
This file defines rule files: sets of rules kept as JSON text. A file that is
missing counts as a set without rules, and saving replaces the whole file at once.
-/

import PlaylistRules.Json.Printer
import PlaylistRules.RuleSet
import PlaylistRules.Storage.Task

namespace PlaylistRules.Storage

/-- A fault of loading or saving a rule file. -/
inductive RuleFileFault where
  | read (path : Path) (fault : FileFault)
  | write (path : Path) (fault : FileFault)
  | createDirectory (path : Path) (fault : FileFault)
  /-- The text is not the JSON text of a set of rules. -/
  | malformed
deriving DecidableEq

/-- The wording of a fault. -/
def RuleFileFault.message : RuleFileFault → String
  | read path fault => "failed to read rules file '" ++ path.text ++ "': " ++ fault.message
  | write path fault => "failed to write rules file '" ++ path.text ++ "': " ++ fault.message
  | createDirectory path fault =>
    "failed to create data directory '" ++ path.text ++ "': " ++ fault.message
  | malformed => "JSON error: expected an object with a version and rules"

instance : Worded RuleFileFault := ⟨RuleFileFault.message⟩

namespace RuleFile

/-! ### Loading -/

/-- The set of rules that a text holds. -/
def ofText (text : String) : Except RuleFileFault RuleSet :=
  match RuleSet.parse? text with
  | some set => .ok set
  | none => .error .malformed

/-- Loads the file, which must be there. -/
def load (path : Path) : FileTask (Except RuleFileFault RuleSet) := do
  match ← FileTask.textOf path with
  | .ok text => return ofText text
  | .error fault => return .error (.read path fault)

/-- The set that stands for a file that is missing. -/
def orEmpty : Except RuleFileFault RuleSet → Except RuleFileFault RuleSet
  | .error (.read _ .notFound) => .ok RuleSet.empty
  | loaded => loaded

/-- Loads the file; one that is missing holds no rules. -/
def loadOrEmpty (path : Path) : FileTask (Except RuleFileFault RuleSet) := do
  return orEmpty (← load path)

/-! ### Saving -/

/-- The text of the file of a set of rules. -/
def text (set : RuleSet) : String :=
  set.toJson.pretty

/-- Makes the directory of the file. -/
def makeParent (path : Path) : FileTask (Except RuleFileFault Unit) :=
  match path.parent? with
  | none => return .ok ()
  | some parent => do
    match ← FileTask.makeDirectories parent with
    | .ok () => return .ok ()
    | .error fault => return .error (.createDirectory parent fault)

/-- Saves a set of rules: makes the directory, writes the text next to the file
and moves it over the file. -/
def save (path : Path) (set : RuleSet) : FileTask (Except RuleFileFault Unit) := do
  match ← makeParent path with
  | .error fault => return .error fault
  | .ok () =>
    match ← FileTask.replace path (text set) with
    | .ok () => return .ok ()
    | .error (failed, fault) => return .error (.write failed fault)

end RuleFile

end PlaylistRules.Storage
