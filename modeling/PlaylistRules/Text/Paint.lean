/-
This file defines painted texts: texts between the control sequences that turn a
colour or weight of a terminal on and off.
-/

namespace PlaylistRules.Text

/-- A colour or weight of text. -/
inductive Tint where
  | bold
  | dimmed
  | italic
  | red
  | green
  | yellow
  | blue
  | cyan
deriving DecidableEq

/-- The number that turns a tint on. -/
def Tint.onCode : Tint → String
  | bold => "1"
  | dimmed => "2"
  | italic => "3"
  | red => "31"
  | green => "32"
  | yellow => "33"
  | blue => "34"
  | cyan => "36"

/-- The number that turns a tint off: weights reset everything, colours go back
to the default colour. -/
def Tint.offCode : Tint → String
  | bold => "0"
  | dimmed => "0"
  | italic => "0"
  | _ => "39"

/-- The control sequence of a number. -/
def controlSequence (code : String) : String :=
  "\x1b[" ++ code ++ "m"

/-- The text in a tint. -/
def paint (tint : Tint) (text : String) : String :=
  controlSequence tint.onCode ++ text ++ controlSequence tint.offCode

/-- The text in a tint if colours are wanted. -/
def paintIf (colors : Bool) (tint : Tint) (text : String) : String :=
  if colors then paint tint text else text

end PlaylistRules.Text
