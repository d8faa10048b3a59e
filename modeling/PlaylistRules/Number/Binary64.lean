/-
This file defines binary floating-point numbers of 64 bits and the operations
that ratings need, in whole number arithmetic. A number is a sign and a code:
its place among the nonnegative numbers of the format, counted up from zero. The
code of infinity is the first after the finite ones, and every later code is not
a number. Each finite number is a whole number of units of 2 ^ -1074.

Rounding is to the nearest number, and a tie goes to the even code, which is the
number with the even last bit.
-/

import PlaylistRules.Number.Numeral

namespace PlaylistRules.Number

/-- A 64-bit binary floating-point number. -/
structure Binary64 where
  negative : Bool
  code : Nat
deriving DecidableEq

namespace Binary64

/-! ### Codes and units -/

/-- The code of infinity. -/
def infinityCode : Nat := 2047 * 2 ^ 52

/-- The number of units in one. -/
def unitsPerOne : Nat := 2 ^ 1074

/-- The magnitude that a code denotes, in units. Codes below `2 ^ 52` count
units; from there on each block of `2 ^ 52` codes has twice the spacing of the
one before. -/
def units (code : Nat) : Nat :=
  if code / 2 ^ 52 = 0 then code
  else (2 ^ 52 + code % 2 ^ 52) * 2 ^ (code / 2 ^ 52 - 1)

/-- The largest code whose magnitude is at most the given number of units. -/
def codeBelow (magnitude : Nat) : Nat :=
  let shift := Nat.log2 magnitude - 52
  shift * 2 ^ 52 + magnitude / 2 ^ shift

/-- The code nearest to a quotient of units; the even one of two at the same
distance. -/
def nearestCode (numerator denominator : Nat) : Nat :=
  let below := codeBelow (numerator / denominator)
  let middle := (units below + units (below + 1)) * denominator
  if 2 * numerator < middle then below
  else if middle < 2 * numerator then below + 1
  else if below % 2 = 0 then below else below + 1

/-- Rounding of a quotient of units; whatever lies beyond the finite numbers
becomes infinity. -/
def roundedCode (numerator denominator : Nat) : Nat :=
  min (nearestCode numerator denominator) infinityCode

/-! ### Numbers -/

def zero : Binary64 := ⟨false, 0⟩

def infinity : Binary64 := ⟨false, infinityCode⟩

def notANumber : Binary64 := ⟨false, infinityCode + 1⟩

def isNotANumber (number : Binary64) : Bool :=
  infinityCode < number.code

def isInfinite (number : Binary64) : Bool :=
  number.code == infinityCode

def isFinite (number : Binary64) : Bool :=
  number.code < infinityCode

/-- The number nearest to `numerator / denominator`. -/
def ofQuotient (negative : Bool) (numerator denominator : Nat) : Binary64 :=
  ⟨negative, roundedCode (numerator * unitsPerOne) denominator⟩

/-- The number nearest to an integer. -/
def ofInt (number : Int) : Binary64 :=
  ofQuotient (number < 0) number.natAbs 1

/-- The number nearest to the decimal with the given digits before and after the
point. -/
def ofDecimal (whole fraction : List Char) : Binary64 :=
  ofQuotient false (naturalOfDigits (whole ++ fraction)) (10 ^ fraction.length)

/-- Whether the number nearest to a numeral is infinite, its sign aside. The place
of the first digit that is not zero tells, unless the numeral lies between
`10 ^ 308` and `10 ^ 309`. -/
def isBeyond (numeral : Numeral) : Bool :=
  let digits := (numeral.whole ++ numeral.fraction).dropWhile (· == '0')
  let power := numeral.exponent.getD 0 - numeral.fraction.length
  if digits.isEmpty || digits.length + power < 309 then false
  else if 309 < digits.length + power then true
  else
    (ofQuotient false (naturalOfDigits digits * 10 ^ power.toNat) (10 ^ (-power).toNat)).isInfinite

/-! ### Order -/

/-- The place of a number on the line, where both zeros share a place. -/
def place (number : Binary64) : Int :=
  if number.negative then -number.code else number.code

/-- Less than, which no comparison with what is not a number satisfies. -/
def less (first second : Binary64) : Bool :=
  !first.isNotANumber && !second.isNotANumber && decide (first.place < second.place)

/-- Less than or equal, which no comparison with what is not a number satisfies. -/
def atMost (first second : Binary64) : Bool :=
  !first.isNotANumber && !second.isNotANumber && decide (first.place ≤ second.place)

/-- The place of a number in the total order, where negative zero comes right
before zero. -/
def totalPlace (number : Binary64) : Int :=
  if number.negative then -number.code - 1 else number.code

/-! ### Distance -/

/-- A finite number in units, with its sign. -/
def signedUnits (number : Binary64) : Int :=
  if number.negative then -(units number.code : Int) else units number.code

/-- The absolute value of the rounded difference. Equal infinities have no
distance. -/
def distance (first second : Binary64) : Binary64 :=
  if first.isNotANumber || second.isNotANumber then notANumber
  else if first.isInfinite && second.isInfinite && first.negative == second.negative then
    notANumber
  else if first.isInfinite || second.isInfinite then infinity
  else ⟨false, roundedCode (first.signedUnits - second.signedUnits).natAbs 1⟩

/-! ### Powers of ten -/

/-- The code nearest to a power of ten. -/
def powerOfTenCode (exponent : Nat) : Nat :=
  roundedCode (10 ^ exponent * unitsPerOne) 1

/-- The rounded product of a magnitude and the rounded power of ten. -/
def timesPowerOfTen (code exponent : Nat) : Nat :=
  roundedCode (units code * units (powerOfTenCode exponent)) unitsPerOne

/-- The rounded quotient of a magnitude and the rounded power of ten. -/
def overPowerOfTen (code exponent : Nat) : Nat :=
  roundedCode (units code * unitsPerOne) (units (powerOfTenCode exponent))

end Binary64

end PlaylistRules.Number
