/-
This file proves what runs of decimal digits denote. A run of a given length stays
below the power of ten of that length, the digits of a number denote the number, and
the minutes, years and counts that are written are the ones that are read.
-/

import Mathlib.Data.List.Induction
import Mathlib.Data.Nat.Digits.Defs
import PlaylistRules.Filter.Parser
import PlaylistRules.Filter.Printer

namespace PlaylistRules.Number

/-! ### Runs of digits -/

theorem isDigit_iff (character : Char) :
    character.isDigit = true ↔ 48 ≤ character.toNat ∧ character.toNat ≤ 57 := by
  rw [Char.isDigit, Bool.and_eq_true, decide_eq_true_eq, decide_eq_true_eq]
  rfl

theorem isBlank_of_isDigit {character : Char} (digit : character.isDigit = true) :
    Text.isBlank character = false := by
  rw [isDigit_iff] at digit
  simp only [Text.isBlank, Bool.or_eq_false_iff, Bool.and_eq_false_iff, decide_eq_false_iff_not,
    beq_eq_false_iff_ne]
  omega

theorem isNatural_iff (text : List Char) :
    isNatural text = true ↔ text ≠ [] ∧ ∀ character ∈ text, character.isDigit = true := by
  simp [isNatural]

/-- A nonempty run of digits. -/
structure IsDigits (text : List Char) : Prop where
  nonempty : text ≠ []
  digit : ∀ character ∈ text, character.isDigit = true

theorem isNatural_iff_isDigits (text : List Char) : isNatural text = true ↔ IsDigits text :=
  (isNatural_iff text).trans ⟨fun parts => ⟨parts.1, parts.2⟩, fun parts => ⟨parts.1, parts.2⟩⟩

theorem naturalOfDigits_append (first second : List Char) :
    naturalOfDigits (first ++ second) =
      naturalOfDigits first * 10 ^ second.length + naturalOfDigits second := by
  rw [naturalOfDigits, Nat.ofDigitChars_append, Nat.ofDigitChars_eq_ofDigitChars_zero,
    Nat.mul_comm]
  rfl

theorem naturalOfDigits_lt {digits : List Char}
    (each : ∀ character ∈ digits, character.isDigit = true) :
    naturalOfDigits digits < 10 ^ digits.length := by
  induction digits using List.reverseRecOn with
  | nil => exact Nat.one_pos
  | append_singleton digits last inductionHypothesis =>
    have bound := inductionHypothesis fun character member =>
      each character (List.mem_append_left _ member)
    have digit := (isDigit_iff last).mp (each last (by simp))
    have value : naturalOfDigits [last] = last.toNat - 48 := by
      simp [naturalOfDigits, Nat.ofDigitChars_cons]
    rw [naturalOfDigits_append, value, List.length_append, List.length_singleton, Nat.pow_succ]
    omega

/-- The number that decimal digits denote, the last one counting ones. -/
def decimalValue (digits : List Char) : Nat :=
  Nat.ofDigits 10 (digits.reverse.map fun digit => digit.toNat - '0'.toNat)

theorem naturalOfDigits_eq_decimalValue (digits : List Char) :
    naturalOfDigits digits = decimalValue digits := by
  induction digits using List.reverseRecOn with
  | nil => rfl
  | append_singleton digits last inductionHypothesis =>
    rw [naturalOfDigits_append, inductionHypothesis, decimalValue, decimalValue,
      List.reverse_append, List.reverse_singleton, List.singleton_append, List.map_cons,
      Nat.ofDigits_cons]
    simp [naturalOfDigits, Nat.ofDigitChars_cons]
    omega

@[simp]
theorem naturalOfDigits_naturalText (number : Nat) :
    naturalOfDigits (naturalText number) = number :=
  Nat.ofDigitChars_ten_toDigits

theorem isDigit_of_mem_naturalText {number : Nat} {character : Char}
    (member : character ∈ naturalText number) : character.isDigit = true :=
  Nat.isDigit_of_mem_toDigits (by decide) (by decide) member

theorem isNatural_naturalText (number : Nat) : isNatural (naturalText number) = true :=
  (isNatural_iff _).mpr ⟨Nat.toDigits_ne_nil, fun _ => isDigit_of_mem_naturalText⟩

theorem length_naturalText_le_iff {number width : Nat} (positive : 0 < width) :
    (naturalText number).length ≤ width ↔ number < 10 ^ width :=
  Nat.length_toDigits_le_iff (by decide) positive

/-! ### Zeros in front -/

theorem naturalOfDigits_zeroPadded (width : Nat) (digits : List Char) :
    naturalOfDigits (zeroPadded width digits) = naturalOfDigits digits := by
  rw [zeroPadded, naturalOfDigits_append]
  simp [naturalOfDigits]

theorem length_zeroPadded (width : Nat) (digits : List Char) :
    (zeroPadded width digits).length = max width digits.length := by
  rw [zeroPadded, List.length_append, List.length_replicate]
  omega

theorem isNatural_zeroPadded (width : Nat) {digits : List Char}
    (natural : isNatural digits = true) :
    isNatural (zeroPadded width digits) = true := by
  rw [isNatural_iff] at natural ⊢
  refine ⟨List.append_ne_nil_of_right_ne_nil _ natural.1, fun character member => ?_⟩
  rcases List.mem_append.mp member with inZeros | inDigits
  · rw [List.eq_of_mem_replicate inZeros]
    decide
  · exact natural.2 character inDigits

end PlaylistRules.Number

namespace PlaylistRules

open Number

/-! ### Minutes and years -/

namespace Filter

theorem minutes?_eq_some_iff (text : List Char) (minutes : Int) :
    minutes? text = some minutes ↔
      isNatural text = true ∧ naturalOfDigits text < 2 ^ 63 ∧ minutes = naturalOfDigits text := by
  simp only [minutes?, Bool.and_eq_true, decide_eq_true_eq, Option.ite_none_right_eq_some,
    Option.some.injEq, and_assoc]
  rw [eq_comm (a := minutes)]

theorem year?_eq_some_iff (text : List Char) (year : Int) :
    year? text = some year ↔
      isNatural text = true ∧ text.length = 4 ∧ year = naturalOfDigits text := by
  simp only [year?, Bool.and_eq_true, beq_iff_eq, Option.ite_none_right_eq_some,
    Option.some.injEq, and_assoc]
  rw [eq_comm (a := year)]

/-- The minutes that are read are the ones that fit 63 bits. -/
theorem minutes_bounds {text : List Char} {minutes : Int} (found : minutes? text = some minutes) :
    0 ≤ minutes ∧ minutes < 2 ^ 63 := by
  obtain ⟨_, bounded, rfl⟩ := (minutes?_eq_some_iff text minutes).mp found
  omega

/-- A year of four digits is at most 9999. -/
theorem year_bounds {text : List Char} {year : Int} (found : year? text = some year) :
    0 ≤ year ∧ year ≤ 9999 := by
  obtain ⟨natural, four, rfl⟩ := (year?_eq_some_iff text year).mp found
  have bounded := naturalOfDigits_lt ((isNatural_iff text).mp natural).2
  rw [four] at bounded
  omega

/-- Minutes are read as they are written. -/
theorem minutes?_integerText {minutes : Int} (nonnegative : 0 ≤ minutes)
    (bounded : minutes < 2 ^ 63) : minutes? (integerText minutes) = some minutes := by
  obtain ⟨number, rfl⟩ := Int.eq_ofNat_of_zero_le nonnegative
  rw [integerText, if_neg (Int.not_lt.mpr nonnegative), Int.natAbs_natCast]
  refine (minutes?_eq_some_iff _ _).mpr ⟨isNatural_naturalText number, ?_, ?_⟩
  · rw [naturalOfDigits_naturalText]
    omega
  · rw [naturalOfDigits_naturalText]

/-- Years of up to four digits are read as they are written. -/
theorem year?_paddedIntegerText {year : Int} (nonnegative : 0 ≤ year) (bounded : year ≤ 9999) :
    year? (paddedIntegerText 4 year) = some year := by
  obtain ⟨number, rfl⟩ := Int.eq_ofNat_of_zero_le nonnegative
  have short : (naturalText number).length ≤ 4 :=
    (length_naturalText_le_iff (by decide)).mpr (by omega)
  rw [paddedIntegerText, if_neg (Int.not_lt.mpr nonnegative), Int.natAbs_natCast]
  refine (year?_eq_some_iff _ _).mpr
    ⟨isNatural_zeroPadded 4 (isNatural_naturalText number), ?_, ?_⟩
  · rw [length_zeroPadded, Nat.max_eq_left short]
  · rw [naturalOfDigits_zeroPadded, naturalOfDigits_naturalText]

end Filter

end PlaylistRules
