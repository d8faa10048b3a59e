/-
This file defines TOML values, and how the tables of a document grow. A table
remembers how it came to be, because that decides who may add to it: a table in
braces is closed, a table with a header of its own may not get a second one, and
a table that dotted keys began goes on with dotted keys.
-/

namespace PlaylistRules

/-- How a table came to be. -/
inductive TableOrigin where
  /-- By its own header. -/
  | header
  /-- By the header of a table inside it. -/
  | implied
  /-- By a dotted key. -/
  | dotted
  /-- By braces. -/
  | braces
deriving DecidableEq

/-- A TOML value. Floating-point numbers, dates and times are told apart from the
other values, but their digits are not kept. -/
inductive Toml where
  | string (value : String)
  | integer (value : Int)
  | float
  | boolean (value : Bool)
  | dateTime
  | array (items : List Toml)
  | table (origin : TableOrigin) (members : List (String × Toml))
  /-- Tables with one repeated header, the last one first. -/
  | tables (items : List (List (String × Toml)))

namespace Toml

/-! ### Members -/

/-- The members of a table. -/
abbrev Members := List (String × Toml)

/-- The members with a value in the place of the one with the same name. -/
def putMember (name : String) (value : Toml) : Members → Members
  | [] => [(name, value)]
  | (other, old) :: rest =>
    if other = name then (name, value) :: rest else (other, old) :: putMember name value rest

/-- The members with a new one, whose name must be new too. -/
def addMember (name : String) (value : Toml) (members : Members) : Option Members :=
  if (members.lookup name).isSome then none else some (putMember name value members)

/-! ### Tables inside tables -/

/-- Whether a table may be entered by headers or dotted keys, to change it or on the
way to an inner one. Headers lead into all tables but those in braces. Dotted keys
change only what dotted keys began, and their way to it may go on through tables
that headers implied. -/
def mayEnter (way : TableOrigin) (onTheWay : Bool) (origin : TableOrigin) : Bool :=
  match way with
  | .header | .implied => origin != .braces
  | .dotted | .braces => origin == .dotted || (onTheWay && origin == .implied)

/-- Whether the last one of the tables with a repeated header may be entered: by
dotted keys only on the way to an inner table. -/
def mayEnterLast (way : TableOrigin) (onTheWay : Bool) : Bool :=
  match way with
  | .header | .implied => true
  | .dotted | .braces => onTheWay

/-- Edits the table that the names lead to from a table. Missing tables on the
way are made. -/
def editWithin (way : TableOrigin) (edit : Members → Option Members) :
    List String → Members → Option Members
  | [], members => edit members
  | name :: rest, members =>
    match members.lookup name with
    | none => do
      let inner ← editWithin way edit rest []
      return putMember name (.table way inner) members
    | some (.table origin inner) =>
      if mayEnter way (!rest.isEmpty) origin then do
        let inner ← editWithin way edit rest inner
        return putMember name (.table origin inner) members
      else none
    | some (.tables (last :: earlier)) =>
      if mayEnterLast way (!rest.isEmpty) then do
        let last ← editWithin way edit rest last
        return putMember name (.tables (last :: earlier)) members
      else none
    | some _ => none

/-- Adds a value under a dotted key. -/
def addDotted (names : List String) (name : String) (value : Toml) : Members → Option Members :=
  editWithin .dotted (addMember name value) names

/-- Begins a table with a header: a new one, or one that headers inside it implied. -/
def beginTable (name : String) (members : Members) : Option Members :=
  match members.lookup name with
  | none => some (putMember name (.table .header []) members)
  | some (.table .implied inner) => some (putMember name (.table .header inner) members)
  | some _ => none

/-- Begins one more of the tables with a repeated header. -/
def beginNextTable (name : String) (members : Members) : Option Members :=
  match members.lookup name with
  | none => some (putMember name (.tables [[]]) members)
  | some (.tables earlier) => some (putMember name (.tables ([] :: earlier)) members)
  | some _ => none

end Toml

end PlaylistRules
