/-
This file defines paths of files. A path is the list of its pieces between
slashes, so that it keeps every slash and dot of its text. Empty pieces and
single dots at the end of a path do not count when its name or its parent is
looked for.
-/

namespace PlaylistRules.Storage

/-- A path: the pieces of its text between slashes. -/
structure Path where
  pieces : List String
deriving DecidableEq

namespace Path

/-! ### Texts -/

/-- The path that a text denotes. -/
def ofText (text : String) : Path :=
  ⟨(text.toList.splitOn '/').map String.ofList⟩

/-- The text of a path. -/
def text (path : Path) : String :=
  "/".intercalate path.pieces

/-- Whether the text of a path is empty. -/
def isEmpty (path : Path) : Bool :=
  path.pieces.all (· == "") && path.pieces.length ≤ 1

/-- Whether the text of a path holds a zero character. -/
def hasZero (path : Path) : Bool :=
  path.pieces.any fun piece => piece.toList.contains '\x00'

/-- Whether a path starts at the root. -/
def isAbsolute (path : Path) : Bool :=
  path.pieces.head? == some "" && 2 ≤ path.pieces.length

/-! ### Names -/

/-- Whether a piece stays in its directory. -/
def isIdle (piece : String) : Bool :=
  piece == "" || piece == "."

/-- The pieces from the last one to the first one, without the idle ones at the end. -/
def reversedPieces (path : Path) : List String :=
  path.pieces.reverse.dropWhile isIdle

/-- A name without the part from its last dot on. A dot at the start is part of
the name. -/
def stem (name : String) : String :=
  match name.toList.reverse.dropWhile (· != '.') with
  | [] => name
  | _ :: before => if before.isEmpty then name else String.ofList before.reverse

/-- The path with another extension of its name. A path that ends in no name
stays as it is. -/
def withExtension (path : Path) (extension : String) : Path :=
  match path.reversedPieces with
  | [] => path
  | name :: before =>
    if name = ".." then path
    else ⟨before.reverse ++ [stem name ++ "." ++ extension]⟩

/-- The path of a name in the directory at the path. -/
def child (path : Path) (name : String) : Path :=
  if path.pieces.getLast? = some "" then ⟨path.pieces.dropLast ++ [name]⟩
  else ⟨path.pieces ++ [name]⟩

/-! ### Parents -/

/-- The path of the first piece alone: the root, the current directory or nothing. -/
def start (first : String) : Path :=
  if first = "" then ⟨["", ""]⟩ else ⟨[first]⟩

/-- The path without its last name, or without a dot that is all of it. The root
and the empty path have none. -/
def parent? (path : Path) : Option Path :=
  match path.reversedPieces with
  | [] => if path.pieces.head? = some "." then some ⟨[""]⟩ else none
  | _ :: before =>
    match before.dropWhile isIdle with
    | [] => some ((before.getLast?.map start).getD ⟨[""]⟩)
    | kept => some ⟨kept.reverse⟩

/-- The path, its parent and so on up to the root or the last path with a text;
at most `count` of them. -/
def lineageWithin : (count : Nat) → Path → List Path
  | 0, _ => []
  | count + 1, path =>
    if path.isEmpty then []
    else path :: (path.parent?.map (lineageWithin count)).getD []

/-- The path, its parent and so on. Every parent but that of the last path has
fewer pieces. -/
def lineage (path : Path) : List Path :=
  lineageWithin (path.pieces.length + 1) path

end Path

end PlaylistRules.Storage
