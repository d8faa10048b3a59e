/-
This file defines the contents of a disk: directories and files by their
locations, with the files that are open for writing. It also defines what the
operations on paths do to a disk, and the faults they end in. An open file stays
open when it is moved, and loses its place when another file is moved over it.
-/

import PlaylistRules.LogEvent
import PlaylistRules.Storage.Path

namespace PlaylistRules.Storage

/-! ### Faults -/

/-- A fault of an operation on files. -/
inductive FileFault where
  | notFound
  | alreadyExists
  | notADirectory
  | isADirectory
  | busy
  /-- A name or a whole path has too many bytes. -/
  | nameTooLong
  /-- A path holds a zero character, which ends paths for the system. -/
  | zeroInPath
  /-- The bytes of a file are no text. -/
  | invalidText
  /-- Any other fault, in its own words. -/
  | other (message : String)
deriving DecidableEq

/-- The wording of a fault. -/
def FileFault.message : FileFault → String
  | notFound => "No such file or directory (os error 2)"
  | alreadyExists => "File exists (os error 17)"
  | notADirectory => "Not a directory (os error 20)"
  | isADirectory => "Is a directory (os error 21)"
  | busy => "Device or resource busy (os error 16)"
  | nameTooLong => "File name too long (os error 36)"
  | zeroInPath => "file name contained an unexpected NUL byte"
  | invalidText => "stream did not contain valid UTF-8"
  | other message => message

instance : Worded FileFault := ⟨FileFault.message⟩

/-! ### Disks -/

/-- A place in the tree of directories: the names from the innermost one to the
one below the root. -/
abbrev Location := List String

/-- Contents are compared byte by byte. -/
instance (priority := high) instDecidableEqContent : DecidableEq ByteArray :=
  ByteArray.instDecidableEq

/-- What stands at a location. -/
inductive Entry where
  | directory
  | file (content : ByteArray)
deriving DecidableEq

/-- The number of an open file. -/
abbrev Handle := Nat

/-- The entries below the root, the current directory, and the places of the
files that were opened for writing. -/
structure Disk where
  entries : List (Location × Entry)
  current : Location
  opened : List (Option Location)

namespace Disk

/-- The entry at a location. The root is a directory. -/
def entry? (disk : Disk) (location : Location) : Option Entry :=
  if location.isEmpty then some .directory else disk.entries.lookup location

/-- The disk without an entry at a location. -/
def erase (disk : Disk) (location : Location) : Disk :=
  { disk with entries := disk.entries.filter (·.1 != location) }

/-- The disk with an entry in the place of any earlier one. -/
def put (disk : Disk) (location : Location) (entry : Entry) : Disk :=
  { disk with entries := (disk.erase location).entries ++ [(location, entry)] }

/-! ### Walking -/

/-- Whether a name has more bytes than names may have. -/
def isTooLong (name : String) : Bool :=
  255 < name.utf8ByteSize

/-- The directory that the pieces lead to from a location. -/
def walk (disk : Disk) : Location → List String → Except FileFault Location
  | here, [] => .ok here
  | here, piece :: rest =>
    if Path.isIdle piece then walk disk here rest
    else if piece = ".." then walk disk here.tail rest
    else if isTooLong piece then .error .nameTooLong
    else
      match disk.entry? (piece :: here) with
      | some .directory => walk disk (piece :: here) rest
      | some (.file _) => .error .notADirectory
      | none => .error .notFound

/-- How a path ends: in its directory, in the parent of its directory, or in a
name that slashes may follow. -/
inductive Ending where
  | here
  | above
  | name (name : String) (slash : Bool)
deriving DecidableEq

/-- The ending of a path whose last piece with a text is given. -/
def Ending.ofPiece (piece : String) (slash : Bool) : Ending :=
  if piece = "." then here else if piece = ".." then above else name piece slash

/-- Where a path starts. -/
def startOf (disk : Disk) (path : Path) : Location :=
  if path.isAbsolute then [] else disk.current

/-- The directory in which the last piece of a path is looked up, and that piece. -/
def approach (disk : Disk) (path : Path) : Except FileFault (Location × Ending) :=
  if path.hasZero then .error .zeroInPath
  else if path.isEmpty then .error .notFound
  else if 4095 < path.text.utf8ByteSize then .error .nameTooLong
  else
    match path.pieces.reverse.dropWhile (· == "") with
    | [] => .ok ([], .here)
    | last :: before =>
      match disk.walk (disk.startOf path) before.reverse with
      | .error fault => .error fault
      | .ok directory =>
        if isTooLong last then .error .nameTooLong
        else .ok (directory, .ofPiece last (path.pieces.getLast? == some ""))

/-- The entry that a path leads to. Slashes may follow only the name of a directory. -/
def find? (disk : Disk) (path : Path) : Except FileFault (Location × Entry) :=
  match disk.approach path with
  | .error fault => .error fault
  | .ok (directory, .here) => .ok (directory, .directory)
  | .ok (directory, .above) => .ok (directory.tail, .directory)
  | .ok (directory, .name name slash) =>
    match disk.entry? (name :: directory) with
    | none => .error .notFound
    | some .directory => .ok (name :: directory, .directory)
    | some (.file content) =>
      if slash then .error .notADirectory else .ok (name :: directory, .file content)

/-! ### Looking -/

/-- The text of the file at a path. -/
def read (disk : Disk) (path : Path) : Except FileFault String :=
  match disk.find? path with
  | .error fault => .error fault
  | .ok (_, .directory) => .error .isADirectory
  | .ok (_, .file content) =>
    match String.fromUTF8? content with
    | some text => .ok text
    | none => .error .invalidText

/-- Whether a path leads to an entry. -/
def isPresent (disk : Disk) (path : Path) : Bool :=
  (disk.find? path).toOption.isSome

/-- Whether a path leads to a directory. -/
def isDirectory (disk : Disk) (path : Path) : Bool :=
  match disk.find? path with
  | .ok (_, .directory) => true
  | _ => false

/-! ### Changing -/

/-- Makes a directory in a directory that is there. -/
def makeDirectory (disk : Disk) (path : Path) : Except FileFault Unit × Disk :=
  match disk.approach path with
  | .error fault => (.error fault, disk)
  | .ok (directory, .name name _) =>
    if (disk.entry? (name :: directory)).isSome then (.error .alreadyExists, disk)
    else (.ok (), disk.put (name :: directory) .directory)
  | .ok _ => (.error .alreadyExists, disk)

/-- Opens an empty file for writing, in the place of any file at the path. -/
def create (disk : Disk) (path : Path) : Except FileFault Handle × Disk :=
  match disk.approach path with
  | .error fault => (.error fault, disk)
  | .ok (directory, .name name false) =>
    if disk.entry? (name :: directory) = some .directory then (.error .isADirectory, disk)
    else
      let disk := disk.put (name :: directory) (.file .empty)
      (.ok disk.opened.length,
        { disk with opened := disk.opened ++ [some (name :: directory)] })
  | .ok _ => (.error .isADirectory, disk)

/-- A content with the beginning overwritten by a text. -/
def overwritten (content : ByteArray) (text : String) : ByteArray :=
  text.toUTF8 ++ content.extract text.utf8ByteSize content.size

/-- Writes a text at the beginning of an open file. A file that has lost its
place takes the text without a trace. -/
def fill (disk : Disk) (handle : Handle) (text : String) : Disk :=
  match disk.opened[handle]? with
  | some (some location) =>
    match disk.entry? location with
    | some (.file content) => disk.put location (.file (overwritten content text))
    | _ => disk
  | _ => disk

/-- The place of an open file after a file was moved. -/
def placeAfterMove (source target : Location) (place : Location) : Option Location :=
  if place = source then some target else if place = target then none else some place

/-- Moves a file to a location, over any file there. -/
def moveTo (disk : Disk) (source target : Location) (content : ByteArray) : Disk :=
  { (disk.erase source).put target (.file content) with
    opened := disk.opened.map (·.bind (placeAfterMove source target)) }

/-- Moves a file from one path to another, over any file there. Only files are moved. -/
def move (disk : Disk) (source target : Path) : Except FileFault Unit × Disk :=
  match disk.approach source, disk.approach target with
  | .error fault, _ => (.error fault, disk)
  | .ok _, .error fault => (.error fault, disk)
  | .ok (sourceDirectory, .name sourceName sourceSlash),
    .ok (targetDirectory, .name targetName targetSlash) =>
    match disk.entry? (sourceName :: sourceDirectory) with
    | none => (.error .notFound, disk)
    | some .directory => (.error .isADirectory, disk)
    | some (.file content) =>
      if sourceSlash || targetSlash then (.error .notADirectory, disk)
      else if disk.entry? (targetName :: targetDirectory) = some .directory then
        (.error .isADirectory, disk)
      else if sourceName :: sourceDirectory = targetName :: targetDirectory then (.ok (), disk)
      else
        (.ok (), disk.moveTo (sourceName :: sourceDirectory) (targetName :: targetDirectory)
          content)
  | .ok _, .ok _ => (.error .busy, disk)

end Disk

end PlaylistRules.Storage
