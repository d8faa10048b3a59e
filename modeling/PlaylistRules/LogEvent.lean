/-
This file defines log events: what the program reports about its work besides
its results. An event comes from a part of the program and has a level, a message
and named fields.
-/

namespace PlaylistRules

/-! ### Levels and origins -/

/-- How much an event matters, from least to most. -/
inductive LogLevel where
  | debug
  | info
  | warning
deriving DecidableEq

/-- The place of a level among the levels. -/
def LogLevel.rank : LogLevel → Nat
  | debug => 1
  | info => 2
  | warning => 3

/-- A part of the program that reports events. -/
inductive LogOrigin where
  | runningRules
  | previewing
  | editingRules
deriving DecidableEq

/-- The name of a part of the program. -/
def LogOrigin.name : LogOrigin → String
  | runningRules => "smartlist_core::rule"
  | previewing => "smartlist::commands::preview"
  | editingRules => "smartlist::commands::rules"

/-! ### Events -/

/-- An event with its fields in the order in which they are shown. -/
structure LogEvent where
  origin : LogOrigin
  level : LogLevel
  message : String
  fields : List (String × String)
deriving DecidableEq

/-- Whether an event has a field with a name. The message counts as a field. -/
def LogEvent.hasField (event : LogEvent) (name : String) : Bool :=
  name == "message" || event.fields.any (·.1 == name)

/-! ### Faults in events -/

/-- Faults that have a wording. -/
class Worded (fault : Type) where
  message : fault → String

instance : Worded String := ⟨id⟩

end PlaylistRules
