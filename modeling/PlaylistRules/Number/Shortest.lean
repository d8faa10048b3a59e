/-
This file defines the shortest decimals of binary floating-point numbers: the
fewest digits that read back as the same number, and of these the nearest. The
search tries the powers of ten from the leading digit downwards; at each power
only the two multiples around the number can lie in the interval that reads back
as the number.
-/

import PlaylistRules.Number.Binary64

namespace PlaylistRules.Number

/-- A decimal `digits * 10 ^ exponent`. -/
structure Decimal where
  digits : Nat
  exponent : Int
deriving DecidableEq

namespace Binary64

/-! ### The interval of a code -/

/-- Twice the midpoint to the next smaller magnitude, in units. -/
def lowerEnd (code : Nat) : Nat :=
  units (code - 1) + units code

/-- Twice the midpoint to the next larger magnitude, in units. -/
def upperEnd (code : Nat) : Nat :=
  units code + units (code + 1)

/-- Whether the quotient of half units reads back as the code. The ends belong
to the interval of an even code. -/
def readsBack (code numerator denominator : Nat) : Bool :=
  if code % 2 = 0 then
    lowerEnd code * denominator ≤ numerator && numerator ≤ upperEnd code * denominator
  else
    lowerEnd code * denominator < numerator && numerator < upperEnd code * denominator

/-! ### The search -/

/-- The power of ten `10 ^ exponent` in half units, as a quotient. -/
def powerNumerator (exponent : Int) : Nat :=
  10 ^ exponent.toNat * (2 * unitsPerOne)

def powerDenominator (exponent : Int) : Nat :=
  10 ^ (-exponent).toNat

/-- The multiple of `10 ^ exponent` nearest to the code's magnitude among those
that read back as the code, if there is one. `tieUp` says which of two at the
same distance it is: the larger, or else the even one. -/
def shortestAt? (tieUp : Bool) (code : Nat) (exponent : Int) : Option Nat :=
  let power := powerNumerator exponent
  let denominator := powerDenominator exponent
  let magnitude := 2 * units code * denominator
  let below := magnitude / power
  let fits digits := readsBack code (digits * power) denominator
  if fits below then
    if fits (below + 1) then
      let under := magnitude - below * power
      let above := (below + 1) * power - magnitude
      if under < above then some below
      else if above < under then some (below + 1)
      else if tieUp || below % 2 = 1 then some (below + 1) else some below
    else some below
  else if fits (below + 1) then some (below + 1)
  else none

/-- The first decimal found at `exponent` or one of the next `steps` smaller
exponents; after them the exact value, which needs no more than 1075 places. -/
def shortestFrom (tieUp : Bool) (code : Nat) : (steps : Nat) → (exponent : Int) → Decimal
  | 0, _ => ⟨units code * 2 * 5 ^ 1075, -1075⟩
  | steps + 1, exponent =>
    match shortestAt? tieUp code exponent with
    | some digits => ⟨digits, exponent⟩
    | none => shortestFrom tieUp code steps (exponent - 1)

/-- The exponent of the leading decimal digit of a positive magnitude. -/
def leadingExponent (code : Nat) : Int :=
  (Nat.toDigits 10 (units code * 10 ^ 330 / unitsPerOne)).length - 331

/-- The shortest decimal that reads back as the code, zero for code zero. -/
def shortest (tieUp : Bool) (code : Nat) : Decimal :=
  if code = 0 then ⟨0, 0⟩
  else
    let exponent := leadingExponent code
    shortestFrom tieUp code (exponent + 1075).toNat exponent

end Binary64

end PlaylistRules.Number
