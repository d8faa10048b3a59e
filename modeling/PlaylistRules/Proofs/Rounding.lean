/-
This file proves that rounding and the intervals of the codes agree: a quotient of
units is rounded to a code exactly when it lies in the interval that reads back as
the code. The magnitudes of the codes grow without a gap, by one spacing from each
code to the next, so every quotient lies between two neighbours.
-/

import Mathlib.Data.Nat.Log
import Mathlib.Order.Monotone.Basic
import PlaylistRules.Number.Shortest

namespace PlaylistRules.Number.Binary64

/-! ### The magnitudes of the codes -/

/-- The code at a place of a block with the given spacing. -/
theorem units_block {shift place : Nat} (short : place < 2 ^ 53)
    (full : shift = 0 ∨ 2 ^ 52 ≤ place) : units (shift * 2 ^ 52 + place) = place * 2 ^ shift := by
  by_cases early : place < 2 ^ 52
  · have first : shift = 0 := by omega
    subst first
    rw [units, if_pos (by omega), Nat.pow_zero]
    omega
  · have block : (shift * 2 ^ 52 + place) / 2 ^ 52 = shift + 1 := by omega
    have rest : (shift * 2 ^ 52 + place) % 2 ^ 52 = place - 2 ^ 52 := by omega
    rw [units, block, rest, if_neg (Nat.succ_ne_zero shift), Nat.add_sub_cancel,
      Nat.add_sub_cancel' (Nat.not_lt.mp early)]

/-- Behind a code comes the next place of its block, also at the end of the block. -/
theorem units_block_succ {shift place : Nat} (short : place < 2 ^ 53)
    (full : shift = 0 ∨ 2 ^ 52 ≤ place) :
    units (shift * 2 ^ 52 + place + 1) = (place + 1) * 2 ^ shift := by
  by_cases last : place + 1 = 2 ^ 53
  · have next : shift * 2 ^ 52 + place + 1 = (shift + 1) * 2 ^ 52 + 2 ^ 52 := by omega
    rw [next, units_block (Nat.pow_lt_pow_right (by decide) (by decide)) (Or.inr (Nat.le_refl _)),
      last, ← Nat.pow_add, ← Nat.pow_add, show 52 + (shift + 1) = 53 + shift by omega]
  · rw [Nat.add_assoc]
    exact units_block (show place + 1 < 2 ^ 53 by omega) (by omega)

/-- Every code has a place in a block. -/
theorem exists_block (code : Nat) :
    ∃ shift place, code = shift * 2 ^ 52 + place ∧ place < 2 ^ 53 ∧
      (shift = 0 ∨ 2 ^ 52 ≤ place) := by
  by_cases first : code < 2 ^ 52
  · exact ⟨0, code, by omega, by omega, Or.inl rfl⟩
  · exact ⟨code / 2 ^ 52 - 1, code % 2 ^ 52 + 2 ^ 52, by omega, by omega, Or.inr (by omega)⟩

theorem units_strictMono : StrictMono units := by
  refine strictMono_nat_of_lt_succ fun code => ?_
  obtain ⟨shift, place, rfl, short, full⟩ := exists_block code
  rw [units_block_succ short full, units_block short full]
  exact Nat.mul_lt_mul_of_pos_right (Nat.lt_succ_self place) (Nat.two_pow_pos shift)

/-- A magnitude lies between the code below it and the next one. -/
theorem units_codeBelow (magnitude : Nat) :
    units (codeBelow magnitude) ≤ magnitude ∧ magnitude < units (codeBelow magnitude + 1) := by
  have spacing := Nat.two_pow_pos (Nat.log2 magnitude - 52)
  have short : magnitude / 2 ^ (Nat.log2 magnitude - 52) < 2 ^ 53 := by
    rw [Nat.div_lt_iff_lt_mul spacing, ← Nat.pow_add]
    refine Nat.lt_log2_self.trans_le (Nat.pow_le_pow_right (by decide) (by omega))
  have full : Nat.log2 magnitude - 52 = 0 ∨
      2 ^ 52 ≤ magnitude / 2 ^ (Nat.log2 magnitude - 52) := by
    by_cases small : Nat.log2 magnitude ≤ 52
    · exact Or.inl (by omega)
    · have positive : magnitude ≠ 0 := by
        rintro rfl
        exact small (by decide)
      refine Or.inr ((Nat.le_div_iff_mul_le spacing).mpr ?_)
      rw [← Nat.pow_add, Nat.add_sub_cancel' (by omega)]
      exact Nat.log2_self_le positive
  unfold codeBelow
  constructor
  · rw [units_block short full]
    exact Nat.div_mul_le_self _ _
  · rw [units_block_succ short full]
    exact Nat.lt_mul_of_div_lt (Nat.lt_succ_self _) spacing

/-- The code below a magnitude is the only one with that property. -/
theorem codeBelow_eq {magnitude code : Nat} (atLeast : units code ≤ magnitude)
    (below : magnitude < units (code + 1)) : codeBelow magnitude = code := by
  obtain ⟨lower, upper⟩ := units_codeBelow magnitude
  have notLess := units_strictMono.lt_iff_lt.mp (atLeast.trans_lt upper)
  have notMore := units_strictMono.lt_iff_lt.mp (lower.trans_lt below)
  omega

/-! ### Rounding -/

/-- The ends of the interval of a code belong to it if the code is even. -/
theorem readsBack_iff (code numerator denominator : Nat) :
    readsBack code numerator denominator = true ↔
      lowerEnd code * denominator ≤ numerator ∧ numerator ≤ upperEnd code * denominator ∧
        (code % 2 ≠ 0 →
          lowerEnd code * denominator < numerator ∧ numerator < upperEnd code * denominator) := by
  unfold readsBack
  by_cases even : code % 2 = 0
  · simp [even]
  · simp only [even, if_false, Bool.and_eq_true, decide_eq_true_eq, ne_eq, not_false_eq_true,
      forall_const]
    omega

/-- A quotient in the interval of a code is rounded to the code. -/
theorem nearestCode_of_readsBack {code numerator denominator : Nat} (positive : 0 < denominator)
    (inside : readsBack code (2 * numerator) denominator = true) :
    nearestCode numerator denominator = code := by
  obtain ⟨lower, upper, strict⟩ := (readsBack_iff _ _ _).mp inside
  have growing : units code * denominator < units (code + 1) * denominator :=
    Nat.mul_lt_mul_of_pos_right (units_strictMono (show code < code + 1 by omega)) positive
  rw [upperEnd, Nat.add_mul] at upper strict
  rw [lowerEnd, Nat.add_mul] at lower strict
  by_cases above : units code * denominator ≤ numerator
  · have below : codeBelow (numerator / denominator) = code :=
      codeBelow_eq ((Nat.le_div_iff_mul_le positive).mpr above)
        ((Nat.div_lt_iff_lt_mul positive).mpr (by omega))
    rw [nearestCode, below, Nat.add_mul]
    split_ifs <;> omega
  · obtain ⟨before, rfl⟩ : ∃ before, code = before + 1 := by
      refine Nat.exists_eq_add_one_of_ne_zero ?_
      rintro rfl
      exact above (by simp [units])
    rw [Nat.add_sub_cancel] at lower strict
    have smaller : units before * denominator < units (before + 1) * denominator :=
      Nat.mul_lt_mul_of_pos_right (units_strictMono (show before < before + 1 by omega)) positive
    have below : codeBelow (numerator / denominator) = before :=
      codeBelow_eq ((Nat.le_div_iff_mul_le positive).mpr (by omega))
        ((Nat.div_lt_iff_lt_mul positive).mpr (by omega))
    rw [nearestCode, below, Nat.add_mul]
    split_ifs <;> omega

/-- What is at most the magnitude of a code is not rounded beyond the code. -/
theorem nearestCode_le {code numerator denominator : Nat} (positive : 0 < denominator)
    (atMost : numerator ≤ units code * denominator) : nearestCode numerator denominator ≤ code := by
  obtain ⟨lower, _⟩ := units_codeBelow (numerator / denominator)
  have below : codeBelow (numerator / denominator) ≤ code :=
    units_strictMono.le_iff_le.mp (lower.trans (Nat.div_le_of_le_mul
      (atMost.trans_eq (Nat.mul_comm _ _))))
  rcases Nat.lt_or_eq_of_le below with less | same
  · rw [nearestCode]
    split_ifs <;> omega
  · have next : units code * denominator < units (code + 1) * denominator :=
      Nat.mul_lt_mul_of_pos_right (units_strictMono (Nat.lt_succ_self code)) positive
    rw [nearestCode, same, Nat.add_mul]
    split_ifs <;> omega

/-- What is at least the magnitude of a code is not rounded below the code. -/
theorem le_nearestCode {code numerator denominator : Nat} (positive : 0 < denominator)
    (atLeast : units code * denominator ≤ numerator) :
    code ≤ nearestCode numerator denominator := by
  obtain ⟨_, upper⟩ := units_codeBelow (numerator / denominator)
  have bound : units code ≤ numerator / denominator :=
    (Nat.le_div_iff_mul_le positive).mpr atLeast
  have above : code < codeBelow (numerator / denominator) + 1 :=
    units_strictMono.lt_iff_lt.mp (bound.trans_lt upper)
  rw [nearestCode]
  split_ifs <;> omega

/-- Being in the interval of a code depends on the quotient only. -/
theorem readsBack_congr {code numerator denominator otherNumerator otherDenominator : Nat}
    (positive : 0 < denominator) (otherPositive : 0 < otherDenominator)
    (same : numerator * otherDenominator = otherNumerator * denominator) :
    readsBack code numerator denominator = readsBack code otherNumerator otherDenominator := by
  have le_left (bound : Nat) :
      bound * denominator ≤ numerator ↔ bound * otherDenominator ≤ otherNumerator := by
    rw [← Nat.mul_le_mul_right_iff otherPositive, same, Nat.mul_right_comm,
      Nat.mul_le_mul_right_iff positive]
  have le_right (bound : Nat) :
      numerator ≤ bound * denominator ↔ otherNumerator ≤ bound * otherDenominator := by
    rw [← Nat.mul_le_mul_right_iff otherPositive, same, Nat.mul_right_comm,
      Nat.mul_le_mul_right_iff positive]
  rw [Bool.eq_iff_iff, readsBack_iff, readsBack_iff, le_left, le_right, ← Nat.not_le,
    ← Nat.not_le, le_right, le_left, Nat.not_le, Nat.not_le]

/-- The magnitude of a code other than zero lies inside the interval of the code. -/
theorem readsBack_self {code : Nat} (nonzero : code ≠ 0) :
    readsBack code (2 * units code) 1 = true := by
  have below := units_strictMono (show code - 1 < code by omega)
  have above := units_strictMono (show code < code + 1 by omega)
  rw [readsBack_iff, lowerEnd, upperEnd]
  omega

end PlaylistRules.Number.Binary64
