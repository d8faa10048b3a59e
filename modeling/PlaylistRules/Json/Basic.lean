/-
This file defines JSON values. Numbers keep their digits, objects keep the order
of their members, and a text whose escapes hold half of a surrogate pair is
remembered as broken, and so is an object with such a name: it may be skipped, but
it has no characters to read.
-/

import PlaylistRules.Number.Layout

namespace PlaylistRules

open Number

/-- A JSON value. -/
inductive Json where
  | null
  | bool (value : Bool)
  | number (numeral : Numeral)
  | string (value : String)
  | brokenString
  | array (items : List Json)
  | object (members : List (String × Json))
  | brokenObject

namespace Json

/-! ### Scalars -/

/-- JSON text writes a number positionally from 0.00001 up to 10 ^ 16, and
always shows that it is not an integer. -/
def numberLayout : Layout :=
  ⟨fun exponent => decide (-5 ≤ exponent ∧ exponent < 16), ['0'], false⟩

/-- The value of a floating-point number; what is not finite becomes null. -/
def ofBinary64 (number : Binary64) : Json :=
  if number.isFinite then .number (number.numeral numberLayout) else .null

/-- The value of an integer. -/
def ofInt (number : Int) : Json :=
  .number (Numeral.ofInt number)

/-- The value of a natural number. -/
def ofNat (number : Nat) : Json :=
  ofInt number

/-- The array of texts. -/
def ofTexts (texts : List String) : Json :=
  .array (texts.map .string)

/-! ### Objects -/

/-- The object of the members that are present. -/
def ofMembers (members : List (String × Option Json)) : Json :=
  .object (members.filterMap fun (name, value?) => value?.map (name, ·))

mutual

/-- The value with the members of every object sorted by name. -/
def sorted : Json → Json
  | .array items => .array (sortedItems items)
  | .object members =>
    .object ((sortedMembers members).mergeSort fun first second => !decide (second.1 < first.1))
  | value => value

def sortedItems : List Json → List Json
  | [] => []
  | item :: rest => sorted item :: sortedItems rest

def sortedMembers : List (String × Json) → List (String × Json)
  | [] => []
  | (name, value) :: rest => (name, sorted value) :: sortedMembers rest

end

end Json

end PlaylistRules
