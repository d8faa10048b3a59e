/-
This file defines hexadecimal digits: how they are written, in small letters, and
how they are read, in letters of any size, as numbers and as codes of characters.
-/

namespace PlaylistRules.Text

/-- The digit of a number below sixteen. -/
def hexDigit (value : Nat) : Char :=
  if value < 10 then Char.ofNat (48 + value) else Char.ofNat (87 + value)

/-- The last digits of a number. -/
def hexDigits : (count : Nat) → (number : Nat) → List Char
  | 0, _ => []
  | count + 1, number => hexDigits count (number / 16) ++ [hexDigit (number % 16)]

/-- The value of a digit. -/
def hexValue? (character : Char) : Option Nat :=
  let code := character.toNat
  if 48 ≤ code && code ≤ 57 then some (code - 48)
  else if 97 ≤ code && code ≤ 102 then some (code - 87)
  else if 65 ≤ code && code ≤ 70 then some (code - 55)
  else none

/-- The number of four digits. -/
def fourHexDigits? (first second third fourth : Char) : Option Nat := do
  let first ← hexValue? first
  let second ← hexValue? second
  let third ← hexValue? third
  let fourth ← hexValue? fourth
  return ((first * 16 + second) * 16 + third) * 16 + fourth

/-- The number of digits that follow the digits of a number. -/
def hexNumber? : (number : Nat) → (digits : List Char) → Option Nat
  | number, [] => some number
  | number, digit :: rest => do hexNumber? (number * 16 + (← hexValue? digit)) rest

/-- The character with a code, if it is one. -/
def charOfCode? (code : Nat) : Option Char :=
  if code < 0xD800 || (0xE000 ≤ code && code < 0x110000) then some (Char.ofNat code) else none

end PlaylistRules.Text
