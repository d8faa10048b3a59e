/-
This file defines reading of plain data out of JSON values. Integers are written
without fraction and exponent, floating-point numbers in any notation. A
structure is an object, or the array of its fields in order; unknown members are
passed over, and a known member may not come twice.
-/

import PlaylistRules.Json.Reader

namespace PlaylistRules

open Number

/-! ### Numerals -/

namespace Number.Numeral

/-- The integer that a numeral denotes, if it is written as one that fits 64 bits.
Negative zero is no integer. -/
def integer? (numeral : Numeral) : Option Int :=
  let size := naturalOfDigits numeral.whole
  if !numeral.fraction.isEmpty || numeral.exponent.isSome then none
  else if numeral.negative then
    if 0 < size && size ≤ 2 ^ 63 then some (-size) else none
  else if size < 2 ^ 64 then some size
  else none

/-- Adds the digits to a number while it stays below `2 ^ 64`, and counts the
digits from the first one on that does not fit. -/
def gatherDigits : (gathered : Nat) → (digits : List Char) → Nat × Nat
  | gathered, [] => (gathered, 0)
  | gathered, digit :: rest =>
    let next := 10 * gathered + (digit.toNat - '0'.toNat)
    if next < 2 ^ 64 then gatherDigits next rest else (gathered, rest.length + 1)

/-- The code divided by a power of ten in steps of at most `10 ^ 308`, each of
them rounded. -/
def scaledDown (code exponent : Nat) : Nat :=
  if exponent ≤ 308 then Binary64.overPowerOfTen code exponent
  else if code = 0 then 0
  else scaledDown (Binary64.overPowerOfTen code 308) (exponent - 308)
termination_by exponent

/-- The code of a gathered integer times a power of ten, unless it is too large. -/
def scaledCode? (gathered : Nat) (exponent : Int) : Option Nat :=
  let code := Binary64.roundedCode (gathered * Binary64.unitsPerOne) 1
  if exponent < 0 then some (scaledDown code exponent.natAbs)
  else if code = 0 then some 0
  else if 308 < exponent then none
  else
    let scaled := Binary64.timesPowerOfTen code exponent.natAbs
    if scaled < Binary64.infinityCode then some scaled else none

/-- The floating-point number that a numeral denotes: the digits that fit into
64 bits are rounded once, and scaled by a power of ten with a second rounding. A
number too large for the format is none. -/
def binary64? (numeral : Numeral) : Option Binary64 :=
  let (whole, dropped) := gatherDigits 0 numeral.whole
  let (gathered, skipped) := gatherDigits whole numeral.fraction
  let places : Int := numeral.fraction.length - skipped
  let code? := scaledCode? gathered (numeral.exponent.getD 0 + dropped - places)
  code?.map (⟨numeral.negative, ·⟩)

end Number.Numeral

namespace Json

/-! ### Scalars -/

def string? : Json → Option String
  | .string value => some value
  | _ => none

def bool? : Json → Option Bool
  | .bool value => some value
  | _ => none

/-- The integer of the value, if it lies between the bounds. -/
def integer? (low high : Int) : Json → Option Int
  | .number numeral => do
    let number ← numeral.integer?
    if low ≤ number && number ≤ high then some number else none
  | _ => none

/-- The natural number of the value, if it is below the bound. -/
def natural? (bound : Nat) (value : Json) : Option Nat :=
  (integer? 0 (bound - 1) value).map Int.toNat

def binary64? : Json → Option Binary64
  | .number numeral => numeral.binary64?
  | _ => none

/-- The items of an array, each read in the same way. -/
def listOf? (item? : Json → Option α) : Json → Option (List α)
  | .array items => items.mapM item?
  | _ => none

/-! ### Structures -/

/-- The only member with the name, or no member. A second one is refused. -/
def member? (members : List (String × Json)) (name : String) : Option (Option Json) :=
  match members.filter fun member => member.1 == name with
  | [] => some none
  | [member] => some (some member.2)
  | _ => none

/-- The values of the named fields, in the order of the names. -/
def fields? (names : List String) : Json → Option (List (Option Json))
  | .object members => names.mapM (member? members)
  | .array items =>
    if items.length ≤ names.length then
      some (items.map some ++ List.replicate (names.length - items.length) none)
    else none
  | _ => none

/-- A field that must be there. -/
def required (value? : Json → Option α) (field : Option Json) : Option α :=
  field.bind value?

/-- A field that has a default. -/
def defaulted (default : α) (value? : Json → Option α) : Option Json → Option α
  | none => some default
  | some value => value? value

/-- A field that may be absent or null. -/
def optional (value? : Json → Option α) : Option Json → Option (Option α)
  | none => some none
  | some .null => some none
  | some value => (value? value).map some

end Json

end PlaylistRules
