/-
This file proves that a rating is read as it is written. The shortest decimal of a
number lies in the interval that reads back as the number, and positional notation
keeps its value: the digits before and after the point, over the power of ten of the
places after it.
-/

import Mathlib.Data.List.DropRight
import PlaylistRules.Proofs.Digits
import PlaylistRules.Proofs.Rounding

namespace PlaylistRules.Number

/-! ### Shortest decimals -/

namespace Binary64

/-- The decimal lies in the interval of the code. -/
def ReadsBack (code : Nat) (decimal : Decimal) : Prop :=
  readsBack code (decimal.digits * powerNumerator decimal.exponent)
    (powerDenominator decimal.exponent) = true

theorem powerDenominator_pos (exponent : Int) : 0 < powerDenominator exponent :=
  Nat.pow_pos (by decide)

theorem shortestAt?_readsBack {tieUp : Bool} {code digits : Nat} {exponent : Int}
    (found : shortestAt? tieUp code exponent = some digits) :
    ReadsBack code ⟨digits, exponent⟩ := by
  unfold shortestAt? at found
  unfold ReadsBack
  dsimp only at found ⊢
  generalize powerNumerator exponent = power at found ⊢
  generalize powerDenominator exponent = denominator at found ⊢
  split_ifs at found
  all_goals
    cases found
    assumption

theorem five_pow_mul_two_pow {exponent next : Nat} (follows : next = exponent + 1) :
    5 ^ next * (2 * 2 ^ exponent) = 10 ^ next := by
  rw [follows, ← Nat.pow_succ', ← Nat.mul_pow]

/-- What the search falls back on is the exact value. -/
theorem exact_readsBack {code : Nat} (nonzero : code ≠ 0) :
    ReadsBack code ⟨units code * 2 * 5 ^ 1075, -1075⟩ := by
  have numerator : powerNumerator (-1075) = 2 * unitsPerOne := by
    rw [powerNumerator, show (-1075 : Int).toNat = 0 from rfl, Nat.pow_zero, Nat.one_mul]
  have tenfold : 5 ^ 1075 * (2 * unitsPerOne) = powerDenominator (-1075) := by
    rw [powerDenominator, show (- -1075 : Int).toNat = 1075 from rfl, unitsPerOne,
      five_pow_mul_two_pow (show 1075 = 1074 + 1 from rfl)]
  have exact : units code * 2 * 5 ^ 1075 * powerNumerator (-1075) * 1 =
      2 * units code * powerDenominator (-1075) := by
    rw [numerator, Nat.mul_one, Nat.mul_assoc (units code * 2), tenfold, Nat.mul_comm (units code)]
  exact (readsBack_congr (powerDenominator_pos (-1075)) Nat.one_pos exact).trans
    (readsBack_self nonzero)

/-- The search ends at a decimal that reads back as the code. -/
theorem shortestFrom_readsBack (tieUp : Bool) {code : Nat} (nonzero : code ≠ 0) (steps : Nat)
    (exponent : Int) : ReadsBack code (shortestFrom tieUp code steps exponent) := by
  induction steps generalizing exponent with
  | zero => exact exact_readsBack nonzero
  | succ steps inductionHypothesis =>
    rw [shortestFrom]
    cases found : shortestAt? tieUp code exponent with
    | none => exact inductionHypothesis (exponent - 1)
    | some digits => exact shortestAt?_readsBack found

theorem shortest_readsBack (tieUp : Bool) {code : Nat} (nonzero : code ≠ 0) :
    ReadsBack code (shortest tieUp code) := by
  rw [shortest, if_neg nonzero]
  exact shortestFrom_readsBack tieUp nonzero _ _

end Binary64

/-! ### Positional notation -/

namespace Decimal

/-- The digits of a decimal end in the zeros that its significant digits leave out. -/
theorem exists_zeros (decimal : Decimal) :
    ∃ zeros, naturalText decimal.digits =
      decimal.significantDigits ++ List.replicate zeros '0' := by
  refine ⟨((naturalText decimal.digits).rtakeWhile (· == '0')).length, ?_⟩
  have zeros : (naturalText decimal.digits).rtakeWhile (· == '0') =
      List.replicate ((naturalText decimal.digits).rtakeWhile (· == '0')).length '0' :=
    List.eq_replicate_of_mem fun character member => by
      simpa using List.mem_rtakeWhile_imp member
  rw [← zeros]
  exact (List.rdropWhile_append_rtakeWhile ..).symm

theorem naturalOfDigits_append_zeros (digits : List Char) (zeros : Nat) :
    naturalOfDigits (digits ++ List.replicate zeros '0') = naturalOfDigits digits * 10 ^ zeros := by
  rw [naturalOfDigits_append, List.length_replicate]
  simp [naturalOfDigits]

theorem naturalOfDigits_zeros_append (zeros : Nat) (digits : List Char) :
    naturalOfDigits (List.replicate zeros '0' ++ digits) = naturalOfDigits digits := by
  rw [naturalOfDigits_append]
  simp [naturalOfDigits]

/-- Positional notation keeps the value: `digits` with zeros behind them, times a power
of ten, where the exponent of the leading digit says how far the point is. -/
theorem positionalParts_value (digits : List Char) (zeros : Nat) (exponent : Int) :
    let parts := positionalParts digits (digits.length + zeros + exponent - 1)
    naturalOfDigits (parts.1 ++ parts.2) * 10 ^ (-exponent).toNat =
      naturalOfDigits digits * 10 ^ zeros * 10 ^ exponent.toNat * 10 ^ parts.2.length := by
  intro parts
  by_cases small : digits.length + zeros + exponent - 1 < 0
  · have split : parts = (['0'], List.replicate
        (-(digits.length + zeros + exponent - 1) - 1).toNat '0' ++ digits) := if_pos small
    rw [split]
    dsimp only
    rw [show ['0'] = List.replicate 1 '0' from rfl, naturalOfDigits_zeros_append,
      naturalOfDigits_zeros_append, List.length_append, List.length_replicate, Nat.mul_assoc,
      Nat.mul_assoc, ← Nat.pow_add, ← Nat.pow_add]
    congr 2
    omega
  · obtain ⟨places, found⟩ : ∃ places : Nat, digits.length + zeros + exponent - 1 + 1 = places :=
      ⟨_, (Int.toNat_of_nonneg (by omega)).symm⟩
    have split : parts = (digits.take places ++ List.replicate (places - digits.length) '0',
        digits.drop places) := by
      have samePlaces : (digits.length + zeros + exponent - 1).toNat + 1 = places := by omega
      rw [← samePlaces]
      exact if_neg small
    rw [split]
    dsimp only
    by_cases whole : digits.length ≤ places
    · rw [List.take_of_length_le whole, List.drop_of_length_le whole, List.append_nil,
        naturalOfDigits_append_zeros, List.length_nil, Nat.mul_assoc, Nat.mul_assoc, Nat.mul_assoc,
        ← Nat.pow_add, ← Nat.pow_add, ← Nat.pow_add]
      congr 2
      omega
    · rw [show places - digits.length = 0 by omega, List.replicate_zero, List.append_nil,
        List.take_append_drop, List.length_drop, Nat.mul_assoc, Nat.mul_assoc, ← Nat.pow_add,
        ← Nat.pow_add]
      congr 2
      omega

/-- Both parts consist of digits, and there is a digit before the point. -/
theorem positionalParts_isDigit {digits : List Char} (exponent : Int)
    (each : ∀ character ∈ digits, character.isDigit = true) :
    isNatural (positionalParts digits exponent).1 = true ∧
      ∀ character ∈ (positionalParts digits exponent).2, character.isDigit = true := by
  have zero {count : Nat} {character : Char} (member : character ∈ List.replicate count '0') :
      character.isDigit = true := by
    rw [List.eq_of_mem_replicate member]
    decide
  rw [isNatural_iff, positionalParts]
  split
  · refine ⟨⟨List.cons_ne_nil _ _, fun character member => ?_⟩, fun character member => ?_⟩
    · rw [List.mem_singleton.mp member]
      decide
    rcases List.mem_append.mp member with inZeros | inDigits
    · exact zero inZeros
    · exact each character inDigits
  · refine ⟨⟨?_, fun character member => ?_⟩, fun character member => ?_⟩
    · refine List.ne_nil_of_length_pos ?_
      dsimp only
      rw [List.length_append, List.length_take, List.length_replicate]
      omega
    · rcases List.mem_append.mp member with inDigits | inZeros
      · exact each character (List.mem_of_mem_take inDigits)
      · exact zero inZeros
    · exact each character (List.mem_of_mem_drop member)

theorem isDigit_of_mem_significantDigits {decimal : Decimal} {character : Char}
    (member : character ∈ decimal.significantDigits) : character.isDigit = true := by
  obtain ⟨zeros, split⟩ := decimal.exists_zeros
  exact isDigit_of_mem_naturalText (split ▸ List.mem_append_left _ member)

end Decimal

/-! ### Ratings -/

namespace Binary64

/-- The digits before and after the point of a number without a sign. -/
def plainParts (number : Binary64) : List Char × List Char :=
  if number.code = 0 then (['0'], [])
  else Decimal.positionalParts (shortest true number.code).significantDigits
    (shortest true number.code).leadingExponent

theorem plainParts_isDigit (number : Binary64) :
    isNatural number.plainParts.1 = true ∧
      ∀ character ∈ number.plainParts.2, character.isDigit = true := by
  unfold plainParts
  split
  · exact ⟨by decide, by decide⟩
  · exact Decimal.positionalParts_isDigit _ fun _ => Decimal.isDigit_of_mem_significantDigits

theorem ite_isEmpty (digits : List Char) : (if digits.isEmpty then [] else digits) = digits := by
  cases digits <;> rfl

/-- The plain numeral of a number is its two parts behind the sign. -/
theorem numeral_plainLayout (number : Binary64) : number.numeral plainLayout =
    ⟨number.negative, number.plainParts.1, number.plainParts.2, none⟩ := by
  unfold numeral plainParts
  by_cases zero : number.code = 0
  · rw [if_pos zero, if_pos zero]
    rfl
  · rw [if_neg zero, if_neg zero]
    exact congrArg (fun fraction => (⟨_, _, fraction, none⟩ : Numeral)) (ite_isEmpty _)

/-- A finite number without a sign is written in its two parts. -/
theorem plainText_of_finite {number : Binary64} (unsigned : number.negative = false)
    (finite : number.isFinite = true) :
    number.plainText = number.plainParts.1 ++
      if number.plainParts.2.isEmpty then [] else '.' :: number.plainParts.2 := by
  have small : number.code < infinityCode := of_decide_eq_true finite
  have isNumber : number.isNotANumber = false := decide_eq_false (by omega)
  have notInfinite : number.isInfinite = false := by
    rw [isInfinite, beq_eq_false_iff_ne]
    omega
  rw [plainText, textWith, isNumber, notInfinite, if_neg Bool.false_ne_true,
    if_neg Bool.false_ne_true, numeral_plainLayout, unsigned, Numeral.text]
  simp

/-- The parts of a finite number denote the number. -/
theorem ofDecimal_plainParts {number : Binary64} (unsigned : number.negative = false)
    (finite : number.isFinite = true) :
    ofDecimal number.plainParts.1 number.plainParts.2 = number := by
  have small : number.code < infinityCode := of_decide_eq_true finite
  suffices nearest : nearestCode
      (naturalOfDigits (number.plainParts.1 ++ number.plainParts.2) * unitsPerOne)
      (10 ^ number.plainParts.2.length) = number.code by
    rw [ofDecimal, ofQuotient, roundedCode, nearest, Nat.min_eq_left (Nat.le_of_lt small),
      ← unsigned]
  refine nearestCode_of_readsBack (Nat.pow_pos (by decide)) ?_
  by_cases zero : number.code = 0
  · rw [plainParts, if_pos zero, zero]
    rw [show naturalOfDigits (['0'] ++ []) = 0 from rfl, Nat.zero_mul]
    decide
  · have inside := shortest_readsBack true zero
    rw [plainParts, if_neg zero]
    generalize shortest true number.code = decimal at inside ⊢
    obtain ⟨zeros, split⟩ := decimal.exists_zeros
    have denoted : naturalOfDigits decimal.significantDigits * 10 ^ zeros = decimal.digits := by
      rw [← Decimal.naturalOfDigits_append_zeros, ← split, naturalOfDigits_naturalText]
    have leading : decimal.leadingExponent =
        decimal.significantDigits.length + zeros + decimal.exponent - 1 := by
      rw [Decimal.leadingExponent, split, List.length_append, List.length_replicate,
        Int.natCast_add]
    have value := Decimal.positionalParts_value decimal.significantDigits zeros decimal.exponent
    rw [← leading, denoted] at value
    refine (readsBack_congr (Nat.pow_pos (by decide)) (powerDenominator_pos decimal.exponent)
      ?_).trans inside
    rw [powerNumerator, powerDenominator]
    generalize Decimal.positionalParts decimal.significantDigits decimal.leadingExponent = parts
      at value ⊢
    generalize unitsPerOne = unit
    dsimp only at value
    calc 2 * (naturalOfDigits (parts.1 ++ parts.2) * unit) * 10 ^ (-decimal.exponent).toNat
        = naturalOfDigits (parts.1 ++ parts.2) * 10 ^ (-decimal.exponent).toNat * (2 * unit) := by
          ac_rfl
      _ = decimal.digits * 10 ^ decimal.exponent.toNat * 10 ^ parts.2.length * (2 * unit) := by
          rw [value]
      _ = decimal.digits * (10 ^ decimal.exponent.toNat * (2 * unit)) * 10 ^ parts.2.length := by
          ac_rfl

end Binary64

end PlaylistRules.Number

namespace PlaylistRules.Filter

open Number

/-- A numeral with a digit before the point is a rating. -/
theorem rating?_numeral {whole fraction : List Char} (natural : isNatural whole = true)
    (each : ∀ character ∈ fraction, character.isDigit = true) :
    rating? (whole ++ if fraction.isEmpty then [] else '.' :: fraction) =
      some (Binary64.ofDecimal whole fraction) := by
  obtain ⟨nonempty, eachWhole⟩ := (isNatural_iff whole).mp natural
  unfold rating?
  dsimp only
  rw [List.takeWhile_append_of_pos eachWhole, List.dropWhile_append_of_pos eachWhole]
  cases fraction with
  | nil => simp [nonempty]
  | cons digit rest =>
    have all := List.all_eq_true.mpr each
    simp [nonempty, all]

/-- A rating is read as it is written. -/
theorem rating?_plainText {value : Binary64} (unsigned : value.negative = false)
    (finite : value.isFinite = true) : rating? value.plainText = some value := by
  obtain ⟨natural, each⟩ := value.plainParts_isDigit
  rw [Binary64.plainText_of_finite unsigned finite, rating?_numeral natural each,
    Binary64.ofDecimal_plainParts unsigned finite]

end PlaylistRules.Filter
