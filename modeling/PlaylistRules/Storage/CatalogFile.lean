/-
This file defines catalog files: catalogs kept as JSON text. Every look at the
records of a user reads the file again.
-/

import PlaylistRules.Batch
import PlaylistRules.Catalog
import PlaylistRules.Storage.Task

namespace PlaylistRules.Storage

/-- A fault of loading a catalog file. -/
inductive CatalogFault where
  | read (path : Path) (fault : FileFault)
  /-- The text is not the JSON text of a catalog. -/
  | malformed (path : Path)
deriving DecidableEq

/-- The wording of a fault. -/
def CatalogFault.message : CatalogFault → String
  | read path fault => "failed to read catalog file '" ++ path.text ++ "': " ++ fault.message
  | malformed path =>
    "invalid catalog file '" ++ path.text ++ "': expected an object with items and watched ids"

instance : Worded CatalogFault := ⟨CatalogFault.message⟩

namespace CatalogFile

/-- The catalog that the text of a file holds. -/
def ofText (path : Path) (text : String) : Except CatalogFault Catalog :=
  match Catalog.parse? text with
  | some catalog => .ok catalog
  | none => .error (.malformed path)

/-- Loads the file. -/
def load (path : Path) : FileTask (Except CatalogFault Catalog) := do
  match ← FileTask.textOf path with
  | .ok text => return ofText path text
  | .error fault => return .error (.read path fault)

/-- The records as a user sees them. -/
def fetch (path : Path) (user : Option String) : FileTask (Except CatalogFault (List Record)) := do
  return (← load path).map (·.itemsFor user)

/-- The file as a source of records, beside a state of any kind. -/
def source (path : Path) : Source (StateT σ FileTask) CatalogFault :=
  ⟨fun user => fetch path user⟩

end CatalogFile

end PlaylistRules.Storage
