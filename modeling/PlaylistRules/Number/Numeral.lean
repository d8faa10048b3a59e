/-
This file defines how whole numbers and decimal numerals are written. A numeral
keeps its digits as they are written, so that `8`, `8.0` and `80e-1` are
different numerals of one number.
-/

namespace PlaylistRules.Number

/-- A power is the core library's, also next to algebra that brings powers of its own. -/
@[default_instance 20000]
instance (priority := 20000) instPower {Base : Type} [NatPow Base] : Pow Base Nat :=
  instPowNat

/-! ### Whole numbers -/

/-- The decimal digits of a number, without leading zeros. -/
def naturalText (number : Nat) : List Char :=
  Nat.toDigits 10 number

/-- The number that a run of decimal digits denotes; leading zeros add nothing. -/
def naturalOfDigits (digits : List Char) : Nat :=
  Nat.ofDigitChars 10 digits 0

/-- The decimal digits of an integer, after a minus sign if it is negative. -/
def integerText (number : Int) : List Char :=
  if number < 0 then '-' :: naturalText number.natAbs else naturalText number.natAbs

/-- The digits behind as many zeros as fill the width. -/
def zeroPadded (width : Nat) (digits : List Char) : List Char :=
  List.replicate (width - digits.length) '0' ++ digits

/-- The integer in at least `width` characters, with zeros between the sign and
the digits. -/
def paddedIntegerText (width : Nat) (number : Int) : List Char :=
  if number < 0 then '-' :: zeroPadded (width - 1) (naturalText number.natAbs)
  else zeroPadded width (naturalText number.natAbs)

/-- Whether the text is a nonempty run of decimal digits. -/
def isNatural (text : List Char) : Bool :=
  !text.isEmpty && text.all Char.isDigit

/-- The quotient rounded to the nearest whole number, a half to the even one. -/
def roundedQuotient (numerator denominator : Nat) : Nat :=
  let quotient := numerator / denominator
  let twice := 2 * (numerator % denominator)
  if twice < denominator then quotient
  else if denominator < twice then quotient + 1
  else if quotient % 2 = 0 then quotient else quotient + 1

/-! ### Numerals -/

/-- A decimal numeral: a sign, the digits before and after the point, and the
power of ten written after it, if one is. -/
structure Numeral where
  negative : Bool
  whole : List Char
  fraction : List Char
  exponent : Option Int
deriving DecidableEq

namespace Numeral

/-- The numeral of an integer. -/
def ofInt (number : Int) : Numeral :=
  ⟨number < 0, naturalText number.natAbs, [], none⟩

/-- The exponent with its sign, which is always written. -/
def exponentText (exponent : Int) : List Char :=
  'e' :: (if exponent < 0 then '-' else '+') :: naturalText exponent.natAbs

/-- The written form: the point only before a fraction. -/
def text (numeral : Numeral) : List Char :=
  (if numeral.negative then ['-'] else []) ++ numeral.whole ++
    (if numeral.fraction.isEmpty then [] else '.' :: numeral.fraction) ++
    match numeral.exponent with
    | none => []
    | some exponent => exponentText exponent

end Numeral

end PlaylistRules.Number
