/-
This file says how numbers stand in JSON values. The digits of a number start without a
needless zero, so its numeral can be spelled out and read back. An integer that fits its
bounds is read as it is written, and every floating-point number that is read is finite.
-/

import PlaylistRules.Proofs.JsonText
import PlaylistRules.Proofs.Ratings

namespace PlaylistRules

open Number

/-! ### Digits of shortest decimals -/

namespace Number.Binary64

/-- No code but that of zero reads back from nothing. -/
theorem digits_ne_zero_of_readsBack {code : Nat} {decimal : Decimal} (nonzero : code ≠ 0)
    (inside : ReadsBack code decimal) : decimal.digits ≠ 0 := by
  intro none
  have positive : 0 < lowerEnd code := by
    have larger : units 0 < units code := units_strictMono (Nat.pos_of_ne_zero nonzero)
    rw [lowerEnd]
    omega
  have end_pos := Nat.mul_pos positive (powerDenominator_pos decimal.exponent)
  rw [ReadsBack, none, Nat.zero_mul, readsBack] at inside
  split at inside
  · rw [Bool.and_eq_true, decide_eq_true_eq] at inside
    omega
  · rw [Bool.and_eq_true, decide_eq_true_eq] at inside
    omega

end Number.Binary64

namespace Json

theorem head?_naturalText_of_pos {number : Nat} (positive : 0 < number) :
    (naturalText number).head? ≠ some '0' := by
  by_cases long : 1 < (naturalText number).length
  · exact head?_naturalText long
  · intro zeroFirst
    obtain ⟨rest, split⟩ := List.head?_eq_some_iff.mp zeroFirst
    have nothing : rest = [] := by
      rw [split, List.length_cons] at long
      exact List.length_eq_zero_iff.mp (by omega)
    have value := naturalOfDigits_naturalText number
    rw [split, nothing] at value
    exact absurd value (Nat.ne_of_lt positive)

/-- The first significant digit of a decimal other than zero. -/
theorem exists_significantDigit {decimal : Decimal} (nonzero : decimal.digits ≠ 0) :
    ∃ first rest, decimal.significantDigits = first :: rest ∧ first ≠ '0' := by
  obtain ⟨zeros, split⟩ := decimal.exists_zeros
  have value := naturalOfDigits_naturalText decimal.digits
  have leading := head?_naturalText_of_pos (Nat.pos_of_ne_zero nonzero)
  rw [split] at value leading
  cases digits : decimal.significantDigits with
  | nil =>
    rw [digits, Decimal.naturalOfDigits_append_zeros] at value
    exact absurd (value.symm.trans (Nat.zero_mul _)) nonzero
  | cons first rest =>
    refine ⟨first, rest, rfl, fun zero => leading ?_⟩
    rw [digits, zero]
    rfl

/-! ### Numbers -/

/-- Both forms of a numeral, with the digits around the point and with an exponent, start
without a needless zero. -/
theorem isStandard_numeral (number : Binary64) : IsStandard (number.numeral numberLayout) := by
  have zeroDigit : ∀ character ∈ ['0'], character.isDigit = true :=
    List.forall_mem_singleton.mpr rfl
  unfold Binary64.numeral
  by_cases zero : number.code = 0
  · rw [if_pos zero]
    exact ⟨rfl, .inl rfl, zeroDigit⟩
  rw [if_neg zero]
  dsimp only
  generalize found : Binary64.shortest numberLayout.tieUp number.code = decimal
  have inside : Binary64.ReadsBack number.code decimal := by
    rw [← found]
    exact Binary64.shortest_readsBack _ zero
  obtain ⟨first, rest, digits, nonzero⟩ :=
    exists_significantDigit (Binary64.digits_ne_zero_of_readsBack zero inside)
  have each : ∀ character ∈ decimal.significantDigits, character.isDigit = true :=
    fun _ => Decimal.isDigit_of_mem_significantDigits
  split
  · obtain ⟨whole, fraction⟩ := Decimal.positionalParts_isDigit decimal.leadingExponent each
    refine ⟨whole, ?_, fun character member => ?_⟩
    · dsimp only
      rw [Decimal.positionalParts]
      split
      · exact .inl rfl
      · right
        rw [digits]
        dsimp only
        rw [List.take_succ_cons, List.cons_append, List.head?_cons]
        exact fun same => nonzero (Option.some.inj same)
    · dsimp only at member
      split at member
      · exact zeroDigit character member
      · exact fraction character member
  · rw [digits] at each ⊢
    refine ⟨?_, .inl rfl, fun character member => each character (List.mem_of_mem_drop member)⟩
    exact (isNatural_iff _).mpr ⟨List.cons_ne_nil _ _,
      fun character member => each character (List.mem_of_mem_take member)⟩

@[simp]
theorem isFaithful_ofInt (number : Int) : IsFaithful (ofInt number) :=
  isStandard_ofInt number

@[simp]
theorem isFaithful_ofBinary64 (number : Binary64) : IsFaithful (ofBinary64 number) := by
  rw [ofBinary64]
  split
  · exact isStandard_numeral number
  · trivial

/-! ### Integers -/

theorem integer?_ofInt {number : Int} (low : -2 ^ 63 ≤ number) (high : number < 2 ^ 64) :
    (Numeral.ofInt number).integer? = some number := by
  rw [Numeral.integer?, Numeral.ofInt]
  dsimp only
  rw [naturalOfDigits_naturalText, if_neg (by decide)]
  by_cases negative : number < 0
  · have fits : (decide (0 < number.natAbs) && decide (number.natAbs ≤ 2 ^ 63)) = true := by
      rw [Bool.and_eq_true, decide_eq_true_eq, decide_eq_true_eq]
      omega
    rw [if_pos (decide_eq_true negative), if_pos fits]
    exact congrArg some (by omega)
  · rw [if_neg (by simpa using negative), if_pos (by omega)]
    exact congrArg some (by omega)

/-- An integer within bounds is read as it is written. -/
theorem integer?_of_bounds {low high number : Int} (above : low ≤ number) (below : number ≤ high)
    (lowFits : -2 ^ 63 ≤ low) (highFits : high < 2 ^ 64) :
    integer? low high (ofInt number) = some number := by
  rw [ofInt, integer?, integer?_ofInt (lowFits.trans above) (Int.lt_of_le_of_lt below highFits)]
  simp [above, below]

/-- An integer that was read lies within the bounds. -/
theorem bounds_of_integer? {low high number : Int} {value : Json}
    (found : integer? low high value = some number) : low ≤ number ∧ number ≤ high := by
  cases value with
  | number numeral =>
    simp only [integer?, Option.bind_eq_bind, Option.bind_eq_some_iff] at found
    obtain ⟨read, _, inside⟩ := found
    split at inside
    case isTrue bounds =>
      rw [Bool.and_eq_true, decide_eq_true_eq, decide_eq_true_eq, Option.some.inj inside] at bounds
      exact bounds
    case isFalse => cases inside
  | _ => cases found

/-- A natural number that was read is below the bound. -/
theorem lt_of_natural? {bound number : Nat} {value : Json}
    (found : natural? bound value = some number) : number < bound := by
  obtain ⟨integer, read, rfl⟩ := Option.map_eq_some_iff.mp found
  have bounds := bounds_of_integer? read
  omega

end Json

/-! ### Finite numbers -/

namespace Number

theorem gatherDigits_lt {gathered : Nat} (small : gathered < 2 ^ 64) (digits : List Char) :
    (Numeral.gatherDigits gathered digits).1 < 2 ^ 64 := by
  induction digits generalizing gathered with
  | nil => exact small
  | cons digit rest inductionHypothesis =>
    rw [Numeral.gatherDigits]
    split
    case isTrue fits => exact inductionHypothesis fits
    case isFalse => exact small

namespace Binary64

/-- Powers of ten are no smaller than one, also after rounding. -/
theorem unitsPerOne_le_powerOfTenCode (exponent : Nat) :
    unitsPerOne ≤ units (powerOfTenCode exponent) := by
  have one : units (1023 * 2 ^ 52) = unitsPerOne := by decide +kernel
  rw [← one]
  refine units_strictMono.monotone (Nat.le_min.mpr ⟨le_nearestCode Nat.one_pos ?_, by decide⟩)
  rw [one, Nat.mul_one]
  exact Nat.le_mul_of_pos_left _ (Nat.pow_pos (by decide))

theorem overPowerOfTen_le (code exponent : Nat) : overPowerOfTen code exponent ≤ code := by
  have large := unitsPerOne_le_powerOfTenCode exponent
  have positive : 0 < units (powerOfTenCode exponent) :=
    Nat.lt_of_lt_of_le (Nat.pow_pos (by decide)) large
  exact (Nat.min_le_left _ _).trans (nearestCode_le positive (Nat.mul_le_mul_left _ large))

/-- An integer of 64 bits is far from the largest finite number. -/
theorem roundedCode_lt_infinityCode {gathered : Nat} (small : gathered < 2 ^ 64) :
    roundedCode (gathered * unitsPerOne) 1 < infinityCode := by
  have room : 2 ^ 64 * unitsPerOne ≤ units (infinityCode - 1) * 1 := by decide +kernel
  have bound : gathered * unitsPerOne ≤ units (infinityCode - 1) * 1 :=
    (Nat.mul_le_mul_right _ (Nat.le_of_lt small)).trans room
  exact Nat.lt_of_le_of_lt ((Nat.min_le_left _ _).trans (nearestCode_le Nat.one_pos bound))
    (by decide)

end Binary64

theorem scaledDown_le (code exponent : Nat) : Numeral.scaledDown code exponent ≤ code := by
  induction exponent using Nat.strongRecOn generalizing code with
  | ind exponent inductionHypothesis =>
    rw [Numeral.scaledDown]
    split
    case isTrue => exact Binary64.overPowerOfTen_le code exponent
    case isFalse large =>
      split
      case isTrue => exact Nat.zero_le _
      case isFalse =>
        exact (inductionHypothesis (exponent - 308) (by omega) _).trans
          (Binary64.overPowerOfTen_le code 308)

/-- A numeral that is read as a floating-point number denotes a finite one. -/
theorem isFinite_of_binary64? {numeral : Numeral} {number : Binary64}
    (found : numeral.binary64? = some number) : number.isFinite = true := by
  have small (digits : List Char) : ∀ {gathered : Nat}, gathered < 2 ^ 64 → _ :=
    fun small => gatherDigits_lt small digits
  simp only [Numeral.binary64?, Option.map_eq_some_iff] at found
  obtain ⟨code, scaled, rfl⟩ := found
  have bound := Binary64.roundedCode_lt_infinityCode
    (small numeral.fraction (small numeral.whole (by decide : 0 < 2 ^ 64)))
  refine decide_eq_true ?_
  dsimp only
  rw [Numeral.scaledCode?] at scaled
  dsimp only at scaled
  split at scaled
  case isTrue =>
    rw [← Option.some.inj scaled]
    exact Nat.lt_of_le_of_lt (scaledDown_le _ _) bound
  case isFalse =>
    split at scaled
    case isTrue =>
      rw [← Option.some.inj scaled]
      decide
    case isFalse =>
      split at scaled
      case isTrue => cases scaled
      case isFalse =>
        split at scaled
        case isTrue finite =>
          rw [← Option.some.inj scaled]
          exact finite
        case isFalse => cases scaled

end Number

/-! ### Numbers that are read as they are written -/

/-- Whether a number is read back from its numeral. Reading rounds twice, so it may miss
some numbers by a last bit. What is not finite has no numeral, so nothing is said of it. -/
def Json.IsReadAsWritten (number : Binary64) : Prop :=
  number.isFinite = true → (number.numeral numberLayout).binary64? = some number

instance (number : Binary64) : Decidable (Json.IsReadAsWritten number) :=
  inferInstanceAs (Decidable (_ → _))

theorem Json.binary64?_ofBinary64 {number : Binary64} (back : IsReadAsWritten number)
    (finite : number.isFinite = true) : binary64? (ofBinary64 number) = some number := by
  rw [ofBinary64, if_pos finite]
  exact back finite

theorem Json.isFinite_of_binary64? {value : Json} {number : Binary64}
    (found : value.binary64? = some number) : number.isFinite = true := by
  cases value with
  | number numeral => exact Number.isFinite_of_binary64? found
  | _ => cases found

end PlaylistRules
