/-
This file defines texts in columns: padded to a width, or shortened to one. The
width of a text is its number of characters.
-/

namespace PlaylistRules.Text

/-- The text with blanks behind it up to the width. -/
def padEnd (width : Nat) (text : String) : String :=
  text ++ String.ofList (List.replicate (width - text.length) ' ')

/-- The text with blanks in front of it up to the width. -/
def padStart (width : Nat) (text : String) : String :=
  String.ofList (List.replicate (width - text.length) ' ') ++ text

/-- The first characters of a text. -/
def firstChars (count : Nat) (text : String) : String :=
  String.ofList (text.toList.take count)

/-- The text, or if it is too long its beginning and three dots. -/
def shortened (width : Nat) (text : String) : String :=
  if width < text.length then firstChars (width - 3) text ++ "..." else text

end PlaylistRules.Text
