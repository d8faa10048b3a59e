/-
This file defines how log events are written: a line for each of them, with the
time, the level, the message and the fields.
-/

import PlaylistRules.Calendar.Instant
import PlaylistRules.LogEvent
import PlaylistRules.Text.Column
import PlaylistRules.Text.Paint
import PlaylistRules.Text.Quotation

namespace PlaylistRules.Log

open Text Calendar

/-! ### Lines -/

/-- The name of a level in its column. -/
def levelName (level : LogLevel) : String :=
  padStart 5 (match level with
    | .debug => "DEBUG"
    | .info => "INFO"
    | .warning => "WARN")

/-- The colour of a level. -/
def levelTint : LogLevel → Tint
  | .debug => .blue
  | .info => .green
  | .warning => .yellow

/-- The text in a tint that is turned off by resetting everything, if colours are
wanted. -/
def styled (colors : Bool) (tint : Tint) (text : String) : String :=
  if colors then controlSequence tint.onCode ++ text ++ controlSequence "0" else text

/-- A field with its value. -/
def fieldText (colors : Bool) (field : String × String) : String :=
  " " ++ styled colors .italic field.1 ++ styled colors .dimmed "=" ++ field.2

/-- The line of an event at an instant. -/
def eventLine (colors : Bool) (time : Instant) (event : LogEvent) : String :=
  styled colors .dimmed time.microsecondText ++ " " ++
    styled colors (levelTint event.level) (levelName event.level) ++ " " ++ event.message ++
    String.join (event.fields.map (fieldText colors)) ++ "\n"

/-! ### Values -/

/-- A text that may be missing, as the value of a field. -/
def optionalText : Option String → String
  | some text => "Some(" ++ quotation text ++ ")"
  | none => "None"

end PlaylistRules.Log
