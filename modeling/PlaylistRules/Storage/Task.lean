/-
This file defines tasks: programs that work on files step by step. A task is
data, so it can be run on a disk from beginning to end, or one step at a time
between the steps of another task.
-/

import PlaylistRules.Storage.Disk

namespace PlaylistRules.Storage

/-! ### Tasks -/

/-- A program that works on files: a result, or a step and what follows it. -/
inductive FileTask (α : Type) where
  | done (result : α)
  | read (path : Path) (next : Except FileFault String → FileTask α)
  | isPresent (path : Path) (next : Bool → FileTask α)
  | isDirectory (path : Path) (next : Bool → FileTask α)
  | makeDirectory (path : Path) (next : Except FileFault Unit → FileTask α)
  | create (path : Path) (next : Except FileFault Handle → FileTask α)
  | fill (handle : Handle) (text : String) (next : Except FileFault Unit → FileTask α)
  | move (source target : Path) (next : Except FileFault Unit → FileTask α)

namespace FileTask

/-- The task that goes on with the result of another one. -/
def andThen : FileTask α → (α → FileTask β) → FileTask β
  | done result, rest => rest result
  | read path next, rest => read path fun answer => (next answer).andThen rest
  | isPresent path next, rest => isPresent path fun answer => (next answer).andThen rest
  | isDirectory path next, rest => isDirectory path fun answer => (next answer).andThen rest
  | makeDirectory path next, rest => makeDirectory path fun answer => (next answer).andThen rest
  | create path next, rest => create path fun answer => (next answer).andThen rest
  | fill handle text next, rest => fill handle text fun answer => (next answer).andThen rest
  | move source target next, rest => move source target fun answer => (next answer).andThen rest

instance : Monad FileTask where
  pure := done
  bind := andThen

/-! ### Running -/

/-- One step of a task on a disk with room for all that is written. A task that is done stays
as it is. -/
def step : FileTask α → Disk → FileTask α × Disk
  | done result, disk => (done result, disk)
  | read path next, disk => (next (disk.read path), disk)
  | isPresent path next, disk => (next (disk.isPresent path), disk)
  | isDirectory path next, disk => (next (disk.isDirectory path), disk)
  | makeDirectory path next, disk =>
    let (answer, disk) := disk.makeDirectory path
    (next answer, disk)
  | create path next, disk =>
    let (answer, disk) := disk.create path
    (next answer, disk)
  | fill handle text next, disk => (next (.ok ()), disk.fill handle text)
  | move source target next, disk =>
    let (answer, disk) := disk.move source target
    (next answer, disk)

/-- The result of a task that runs alone on a disk with room for all that is written, and the
disk afterwards. -/
def run : FileTask α → Disk → α × Disk
  | done result, disk => (result, disk)
  | read path next, disk => (next (disk.read path)).run disk
  | isPresent path next, disk => (next (disk.isPresent path)).run disk
  | isDirectory path next, disk => (next (disk.isDirectory path)).run disk
  | makeDirectory path next, disk =>
    (next (disk.makeDirectory path).1).run (disk.makeDirectory path).2
  | create path next, disk => (next (disk.create path).1).run (disk.create path).2
  | fill handle text next, disk => (next (.ok ())).run (disk.fill handle text)
  | move source target next, disk =>
    (next (disk.move source target).1).run (disk.move source target).2

/-! ### Single steps -/

/-- The text of a file. -/
def textOf (path : Path) : FileTask (Except FileFault String) :=
  read path done

/-- Whether something stands at a path. -/
def present (path : Path) : FileTask Bool :=
  isPresent path done

/-! ### Directories -/

/-- Makes the first of the paths a directory; the paths after it are its parents.
A parent is made only if it is missing. -/
def makeLineage : List Path → FileTask (Except FileFault Unit)
  | [] => done (.ok ())
  | path :: parents =>
    let confirm : Except FileFault Unit → FileTask (Except FileFault Unit)
      | .ok () => done (.ok ())
      | .error fault =>
        isDirectory path fun found => done (if found then .ok () else .error fault)
    makeDirectory path fun
      | .error .notFound => do
        match ← makeLineage parents with
        | .ok () => makeDirectory path confirm
        | .error fault => return .error fault
      | answer => confirm answer

/-- Makes a directory with all its parents, unless it is there already. -/
def makeDirectories (path : Path) : FileTask (Except FileFault Unit) :=
  makeLineage path.lineage

/-! ### Files -/

/-- Writes a file that holds the text. -/
def write (path : Path) (text : String) : FileTask (Except FileFault Unit) :=
  create path fun
    | .ok handle => fill handle text done
    | .error fault => done (.error fault)

/-- Writes a file next to the path and moves it there, so that whoever reads the
path finds the old text or the new one. The first component of a fault is the
path that it came up at. -/
def replace (path : Path) (text : String) : FileTask (Except (Path × FileFault) Unit) := do
  let temporary := path.withExtension "tmp"
  match ← write temporary text with
  | .error fault => return .error (temporary, fault)
  | .ok () =>
    move temporary path fun
      | .ok () => done (.ok ())
      | .error fault => done (.error (path, fault))

end FileTask

end PlaylistRules.Storage
