/-
This file defines how binary floating-point numbers are laid out as numerals. A
layout says where positional notation ends, whether a whole number keeps a zero
after the point, and which of two equally near decimals is written.
-/

import PlaylistRules.Number.Shortest

namespace PlaylistRules.Number

/-- The choices of a written form of floating-point numbers. -/
structure Layout where
  /-- Whether a number with this exponent of the leading digit is positional. -/
  positional : Int → Bool
  /-- The fraction written after a whole number. -/
  wholeFraction : List Char
  /-- Whether the larger of two equally near decimals is written. -/
  tieUp : Bool

namespace Decimal

/-- The decimal digits without trailing zeros. -/
def significantDigits (decimal : Decimal) : List Char :=
  ((naturalText decimal.digits).reverse.dropWhile (· == '0')).reverse

/-- The exponent of the leading digit. -/
def leadingExponent (decimal : Decimal) : Int :=
  (naturalText decimal.digits).length + decimal.exponent - 1

/-- The digits before and after the point in positional notation, for a leading
digit with the given exponent. -/
def positionalParts (digits : List Char) (exponent : Int) : List Char × List Char :=
  if exponent < 0 then (['0'], List.replicate (-exponent - 1).toNat '0' ++ digits)
  else
    let places := exponent.toNat + 1
    (digits.take places ++ List.replicate (places - digits.length) '0', digits.drop places)

end Decimal

namespace Binary64

/-- The numeral of a finite number in a layout. -/
def numeral (layout : Layout) (number : Binary64) : Numeral :=
  if number.code = 0 then ⟨number.negative, ['0'], layout.wholeFraction, none⟩
  else
    let decimal := shortest layout.tieUp number.code
    let digits := decimal.significantDigits
    let exponent := decimal.leadingExponent
    if layout.positional exponent then
      let (whole, fraction) := Decimal.positionalParts digits exponent
      ⟨number.negative, whole, if fraction.isEmpty then layout.wholeFraction else fraction, none⟩
    else ⟨number.negative, digits.take 1, digits.drop 1, some exponent⟩

/-- The text of a number that may be infinite or no number at all. -/
def textWith (finiteText : Binary64 → List Char) (number : Binary64) : List Char :=
  if number.isNotANumber then "NaN".toList
  else if number.isInfinite then (if number.negative then "-inf" else "inf").toList
  else finiteText number

/-- Rule text writes every digit and no exponent, and whole numbers without a
point. -/
def plainLayout : Layout := ⟨fun _ => true, [], true⟩

/-- The text of a number in rule text. -/
def plainText (number : Binary64) : List Char :=
  number.textWith fun finite => (finite.numeral plainLayout).text

/-- The text of a finite number with one digit after the point: the exact value
rounded, a half to the even digit. -/
def finiteTenthsText (number : Binary64) : List Char :=
  let tenths := roundedQuotient (units number.code * 10) unitsPerOne
  (if number.negative then ['-'] else []) ++ naturalText (tenths / 10) ++
    '.' :: naturalText (tenths % 10)

/-- The text of a number with one digit after the point. -/
def tenthsText (number : Binary64) : List Char :=
  number.textWith finiteTenthsText

end Binary64

end PlaylistRules.Number
