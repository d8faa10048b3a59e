/-
This file proves that rounding finds the nearest number. Every finite number denotes a
magnitude, and the codes order the magnitudes. A value lies between two neighbouring
magnitudes, so no other one is closer, and of two at the same distance one has an even
code. Values from the middle between the largest finite number and the next power of two
on are rounded to infinity.
-/

import Mathlib.Data.Rat.Cast.Order
import Mathlib.Tactic.FieldSimp
import Mathlib.Tactic.Linarith
import Mathlib.Tactic.Ring
import PlaylistRules.Proofs.Rounding

namespace PlaylistRules.Number.Binary64

/-! ### The nearest number -/

/-- The magnitude that a code denotes. -/
def magnitude (code : Nat) : ℚ :=
  units code / unitsPerOne

/-- How far the magnitude of a code is from a value. -/
def offset (code : Nat) (value : ℚ) : ℚ :=
  |magnitude code - value|

/-- Values from here on are rounded to infinity: the middle between the largest finite
number and `2 ^ 1024`. -/
def overflow : ℚ :=
  2 ^ 1024 - 2 ^ 970

/-- A number is the nearest one to a value that is not negative. Where the value does not
overflow, no finite number is closer, and if another one is as close then the code is
even. -/
structure IsNearest (number : Binary64) (value : ℚ) : Prop where
  unsigned : number.negative = false
  finite_iff : number.isFinite = true ↔ value < overflow
  infinite : number.isFinite = false → number = infinity
  closest : number.isFinite = true →
    ∀ other < infinityCode, offset number.code value ≤ offset other value
  even : number.isFinite = true →
    ∀ other < infinityCode, other ≠ number.code → offset other value = offset number.code value →
      number.code % 2 = 0

/-! ### Magnitudes -/

theorem unitsPerOne_pos : (0 : ℚ) < unitsPerOne := by
  unfold unitsPerOne
  rw [Nat.cast_pow]
  exact pow_pos two_pos _

theorem magnitude_strictMono : StrictMono magnitude := fun _ _ less =>
  div_lt_div_of_pos_right (Nat.cast_lt.mpr (units_strictMono less)) unitsPerOne_pos

theorem magnitude_mono {code other : Nat} (atMost : code ≤ other) :
    magnitude code ≤ magnitude other :=
  magnitude_strictMono.le_iff_le.mpr atMost

/-- The magnitude of the code at a place of a block with the given spacing. -/
theorem magnitude_block (shift place : Nat) (short : place < 2 ^ 53)
    (full : shift = 0 ∨ 2 ^ 52 ≤ place) :
    magnitude (shift * 2 ^ 52 + place) * 2 ^ 1074 = place * 2 ^ shift := by
  have power : (unitsPerOne : ℚ) = 2 ^ 1074 := by
    rw [unitsPerOne, Nat.cast_pow]
    rfl
  rw [magnitude, power, div_mul_cancel₀ _ (pow_ne_zero _ two_ne_zero), units_block short full,
    Nat.cast_mul, Nat.cast_pow]
  rfl

/-- The largest finite number and the first one beyond are the same distance away from
where values overflow. -/
theorem magnitude_around_overflow :
    magnitude (infinityCode - 1) + magnitude infinityCode = 2 * overflow := by
  have last := magnitude_block 2045 (2 ^ 53 - 1) (by decide) (by decide)
  have beyond := magnitude_block 2046 (2 ^ 52) (by decide) (by decide)
  have smallPower : (2 : ℚ) ^ 2045 = 2 ^ 970 * 2 ^ 1074 * 2 := by
    rw [← pow_add, ← pow_succ]
  have largePower : (2 : ℚ) ^ 2046 = 2 ^ 970 * 2 ^ 1074 * 2 ^ 2 := by
    rw [← pow_add, ← pow_add]
  have overflowPower : (2 : ℚ) ^ 1024 = 2 ^ 970 * 2 ^ 54 := by
    rw [← pow_add]
  rw [smallPower] at last
  rw [largePower] at beyond
  refine mul_right_cancel₀ (pow_ne_zero 1074 (two_ne_zero (α := ℚ))) ?_
  rw [overflow, overflowPower, add_mul]
  generalize (2 : ℚ) ^ 970 = power at last beyond ⊢
  generalize (2 : ℚ) ^ 1074 = units at last beyond ⊢
  calc magnitude (infinityCode - 1) * units + magnitude infinityCode * units
      = (2 ^ 53 - 1 : Nat) * (power * units * 2) + (2 ^ 52 : Nat) * (power * units * 2 ^ 2) :=
        congrArg₂ (· + ·) last beyond
    _ = 2 * (power * 2 ^ 54 - power) * units := by
        push_cast
        ring

/-! ### Distances -/

theorem offset_of_le {code : Nat} {value : ℚ} (below : magnitude code ≤ value) :
    offset code value = value - magnitude code := by
  rw [offset, abs_sub_comm, abs_of_nonneg (sub_nonneg.mpr below)]

theorem offset_of_ge {code : Nat} {value : ℚ} (above : value ≤ magnitude code) :
    offset code value = magnitude code - value :=
  abs_of_nonneg (sub_nonneg.mpr above)

/-- The nearer one of the two neighbours of a value, the even one of two at the same
distance. -/
structure IsNearer (code : Nat) (value : ℚ) (below : Nat) : Prop where
  lower : magnitude below ≤ value
  upper : value < magnitude (below + 1)
  nearer : code = below ∧ 2 * value ≤ magnitude below + magnitude (below + 1) ∨
    code = below + 1 ∧ magnitude below + magnitude (below + 1) ≤ 2 * value
  tie : magnitude below + magnitude (below + 1) = 2 * value → code % 2 = 0

/-- No magnitude lies between two neighbours, so the nearer one is the nearest of all. -/
theorem IsNearer.closest {code below : Nat} {value : ℚ} (isNearer : IsNearer code value below)
    (other : Nat) : offset code value ≤ offset other value := by
  obtain ⟨lower, upper, nearer, _⟩ := isNearer
  have least : offset code value ≤ value - magnitude below ∧
      offset code value ≤ magnitude (below + 1) - value := by
    rcases nearer with ⟨rfl, half⟩ | ⟨rfl, half⟩
    · rw [offset_of_le lower]
      exact ⟨le_rfl, by linarith⟩
    · rw [offset_of_ge upper.le]
      exact ⟨by linarith, le_rfl⟩
  rcases Nat.lt_or_ge below other with more | notMore
  · have above := magnitude_mono (show below + 1 ≤ other from more)
    rw [offset_of_ge (upper.le.trans above)]
    linarith [least.2]
  · have under := magnitude_mono notMore
    rw [offset_of_le (under.trans lower)]
    linarith [least.1]

/-- Another magnitude is as close only if the value is in the middle of its neighbours. -/
theorem IsNearer.even {code below other : Nat} {value : ℚ} (isNearer : IsNearer code value below)
    (different : other ≠ code) (same : offset other value = offset code value) :
    code % 2 = 0 := by
  obtain ⟨lower, upper, nearer, tie⟩ := isNearer
  apply tie
  rcases nearer with ⟨rfl, half⟩ | ⟨rfl, half⟩
  · rw [offset_of_le lower] at same
    rcases Nat.lt_or_gt_of_ne different with less | more
    · have under := magnitude_strictMono less
      rw [offset_of_le (under.le.trans lower)] at same
      linarith
    · have above := magnitude_mono (show code + 1 ≤ other from more)
      rw [offset_of_ge (upper.le.trans above)] at same
      linarith
  · rw [offset_of_ge upper.le] at same
    rcases Nat.lt_or_gt_of_ne different with less | more
    · have under := magnitude_mono (Nat.le_of_lt_succ less)
      rw [offset_of_le (under.trans lower)] at same
      linarith
    · have above := magnitude_strictMono more
      rw [offset_of_ge (upper.le.trans above.le)] at same
      linarith

/-! ### Rounding -/

section

variable (numerator : Nat) {denominator : Nat}

theorem magnitude_le_quotient_iff (positive : 0 < denominator) (code : Nat) :
    magnitude code ≤ numerator / denominator ↔
      units code * denominator ≤ numerator * unitsPerOne := by
  rw [magnitude, div_le_div_iff₀ unitsPerOne_pos (Nat.cast_pos.mpr positive)]
  norm_cast

theorem two_mul_quotient_lt_iff (positive : 0 < denominator) (code other : Nat) :
    2 * (numerator / denominator : ℚ) < magnitude code + magnitude other ↔
      2 * (numerator * unitsPerOne) < (units code + units other) * denominator := by
  rw [magnitude, magnitude, ← add_div, ← mul_div_assoc,
    div_lt_div_iff₀ (Nat.cast_pos.mpr positive) unitsPerOne_pos, mul_assoc]
  norm_cast

theorem lt_two_mul_quotient_iff (positive : 0 < denominator) (code other : Nat) :
    magnitude code + magnitude other < 2 * (numerator / denominator : ℚ) ↔
      (units code + units other) * denominator < 2 * (numerator * unitsPerOne) := by
  rw [magnitude, magnitude, ← add_div, ← mul_div_assoc,
    div_lt_div_iff₀ unitsPerOne_pos (Nat.cast_pos.mpr positive), mul_assoc]
  norm_cast

/-- Rounding takes the nearer neighbour. -/
theorem nearestCode_isNearer (positive : 0 < denominator) :
    IsNearer (nearestCode (numerator * unitsPerOne) denominator) (numerator / denominator)
      (codeBelow (numerator * unitsPerOne / denominator)) := by
  obtain ⟨lower, upper⟩ := units_codeBelow (numerator * unitsPerOne / denominator)
  rw [Nat.le_div_iff_mul_le positive, ← magnitude_le_quotient_iff numerator positive] at lower
  rw [Nat.div_lt_iff_lt_mul positive, ← Nat.not_le, ← magnitude_le_quotient_iff numerator positive,
    not_le] at upper
  generalize found : codeBelow (numerator * unitsPerOne / denominator) = below at lower upper ⊢
  have less := two_mul_quotient_lt_iff numerator positive below (below + 1)
  have more := lt_two_mul_quotient_iff numerator positive below (below + 1)
  rw [nearestCode, found]
  split_ifs with inLower inUpper even
  · exact ⟨lower, upper, .inl ⟨rfl, (less.mpr inLower).le⟩,
      fun middle => absurd middle (less.mpr inLower).ne'⟩
  · exact ⟨lower, upper, .inr ⟨rfl, (more.mpr inUpper).le⟩,
      fun middle => absurd middle (more.mpr inUpper).ne⟩
  · exact ⟨lower, upper, .inl ⟨rfl, not_lt.mp (mt more.mp inUpper)⟩, fun _ => even⟩
  · exact ⟨lower, upper, .inr ⟨rfl, not_lt.mp (mt less.mp inLower)⟩, fun _ => by omega⟩

/-- Rounding stays below infinity exactly for the values that do not overflow. -/
theorem nearestCode_lt_infinityCode_iff (positive : 0 < denominator) :
    nearestCode (numerator * unitsPerOne) denominator < infinityCode ↔
      (numerator / denominator : ℚ) < overflow := by
  have isNearer := nearestCode_isNearer numerator positive
  generalize nearestCode (numerator * unitsPerOne) denominator = code at isNearer ⊢
  have around := magnitude_around_overflow
  have step := magnitude_strictMono (show infinityCode - 1 < infinityCode by decide)
  constructor
  · intro finite
    by_contra overflows
    rw [not_lt] at overflows
    have under := magnitude_mono (show code ≤ infinityCode - 1 by omega)
    have lower : offset code (numerator / denominator) = numerator / denominator - magnitude code :=
      offset_of_le (by linarith)
    have near := isNearer.closest infinityCode
    rw [lower] at near
    rcases le_total (magnitude infinityCode) (numerator / denominator) with atMost | atLeast
    · rw [offset_of_le atMost] at near
      linarith
    · -- The value is in the middle, where the even code infinity wins over the last finite one.
      have upper := offset_of_ge atLeast
      rw [upper] at near
      have even := isNearer.even (show infinityCode ≠ code by omega) (by linarith)
      have last : code = infinityCode - 1 := magnitude_strictMono.injective (by linarith)
      rw [last] at even
      exact absurd even (by decide)
  · intro small
    by_contra infinite
    have above := magnitude_mono (Nat.not_lt.mp infinite)
    have near := isNearer.closest (infinityCode - 1)
    rw [offset_of_ge (by linarith)] at near
    rcases le_total (magnitude (infinityCode - 1)) (numerator / denominator) with atMost | atLeast
    · rw [offset_of_le atMost] at near
      linarith
    · rw [offset_of_ge atLeast] at near
      linarith

end

/-! ### Numbers -/

/-- A quotient is rounded to the number nearest to it. -/
theorem isNearest_ofQuotient (numerator : Nat) {denominator : Nat} (positive : 0 < denominator) :
    IsNearest (ofQuotient false numerator denominator) (numerator / denominator) := by
  have isNearer := nearestCode_isNearer numerator positive
  have finite_iff := nearestCode_lt_infinityCode_iff numerator positive
  rw [ofQuotient, roundedCode]
  generalize nearestCode (numerator * unitsPerOne) denominator = code at isNearer finite_iff ⊢
  by_cases finite : code < infinityCode
  · rw [Nat.min_eq_left finite.le]
    have isFinite : (⟨false, code⟩ : Binary64).isFinite = true := decide_eq_true finite
    exact ⟨rfl, iff_of_true isFinite (finite_iff.mp finite),
      fun infinite => absurd isFinite (by simp [infinite]),
      fun _ other _ => isNearer.closest other, fun _ other _ => isNearer.even⟩
  · rw [Nat.min_eq_right (Nat.not_lt.mp finite)]
    have notFinite : ¬infinity.isFinite = true := by decide
    exact ⟨rfl, iff_of_false notFinite (mt finite_iff.mpr finite), fun _ => rfl,
      fun isFinite => absurd isFinite notFinite, fun isFinite => absurd isFinite notFinite⟩

/-- Two even codes have another code between them, and it is closer than both if they are at
the same distance. -/
theorem code_le_of_offset_eq {first second : Nat} {value : ℚ} (firstEven : first % 2 = 0)
    (secondEven : second % 2 = 0) (same : offset first value = offset second value)
    (closest : ∀ other < second, offset first value ≤ offset other value) : second ≤ first := by
  by_contra less
  have near := closest (first + 1) (by omega)
  have under := magnitude_strictMono (Nat.lt_succ_self first)
  have above := magnitude_strictMono (show first + 1 < second by omega)
  rcases le_total (magnitude first) value with lower | higher
  · rw [offset_of_le lower] at same near
    rcases le_total value (magnitude second) with inside | outside
    · rw [offset_of_ge inside] at same
      rcases le_total (magnitude (first + 1)) value with atMost | atLeast
      · rw [offset_of_le atMost] at near
        linarith
      · rw [offset_of_ge atLeast] at near
        linarith
    · rw [offset_of_le outside] at same
      linarith
  · rw [offset_of_ge higher, offset_of_ge (by linarith)] at same
    linarith

/-- A value has one nearest number. -/
theorem IsNearest.unique {number other : Binary64} {value : ℚ} (nearest : IsNearest number value)
    (otherNearest : IsNearest other value) : number = other := by
  by_cases finite : value < overflow
  · have isFinite := nearest.finite_iff.mpr finite
    have otherFinite := otherNearest.finite_iff.mpr finite
    have small : number.code < infinityCode := of_decide_eq_true isFinite
    have otherSmall : other.code < infinityCode := of_decide_eq_true otherFinite
    have closest := nearest.closest isFinite
    have otherClosest := otherNearest.closest otherFinite
    have same := (closest _ otherSmall).antisymm (otherClosest _ small)
    have codes : number.code = other.code := by
      by_contra different
      have even := nearest.even isFinite _ otherSmall (Ne.symm different) same.symm
      have otherEven := otherNearest.even otherFinite _ small different same
      exact different (Nat.le_antisymm
        (code_le_of_offset_eq otherEven even same.symm fun code below =>
          otherClosest code (below.trans small))
        (code_le_of_offset_eq even otherEven same fun code below =>
          closest code (below.trans otherSmall)))
    obtain ⟨negative, code⟩ := number
    obtain ⟨otherNegative, otherCode⟩ := other
    obtain rfl : code = otherCode := codes
    obtain rfl : negative = false := nearest.unsigned
    obtain rfl : otherNegative = false := otherNearest.unsigned
    rfl
  · have isInfinite {found : Binary64} (isNearest : IsNearest found value) : found = infinity :=
      isNearest.infinite (Bool.eq_false_iff.mpr (mt isNearest.finite_iff.mp finite))
    rw [isInfinite nearest, isInfinite otherNearest]

end PlaylistRules.Number.Binary64
