/-
This file proves which texts of comparisons are read, and as what. The longest run of
operator characters is cut off before it is known to be an operator, but a number holds
none of them, so the value of a comparison is exactly an operator with a number behind it.
The numbers are runs of digits that denote what fits, years of four digits, and decimals,
which stand for the nearest binary numbers.
-/

import PlaylistRules.Proofs.Nearest
import PlaylistRules.Proofs.Written

namespace PlaylistRules.Filter

open Number Text

/-! ### Comparisons as they are written -/

/-- Digits with at most one point among them. -/
structure IsDecimal (text : List Char) : Prop where
  digitOrPoint : ∀ character ∈ text, character.isDigit = true ∨ character = '.'
  onePoint : text.count '.' ≤ 1
  someDigit : ∃ character ∈ text, character.isDigit = true

/-- The number that a decimal denotes: the digits before the point, and those behind it in
parts of one. -/
def decimalNumber (text : List Char) : ℚ :=
  let whole := text.takeWhile (· != '.')
  let fraction := (text.dropWhile (· != '.')).tail
  decimalValue whole + decimalValue fraction / 10 ^ fraction.length

/-- The value of a kind of comparison and the filter that it stands for. -/
inductive ComparisonText (kind : String) (value : List Char) : Filter → Prop where
  | runtime {comparison : Comparison} {digits : List Char}
      (length : kind = "length")
      (written : value = comparison.symbol.toList ++ digits)
      (isDigits : IsDigits digits)
      (fits : decimalValue digits ≤ 2 ^ 63 - 1) :
      ComparisonText kind value (.runtime comparison (decimalValue digits))
  | released {comparison : Comparison} {digits : List Char}
      (released : kind = "released")
      (written : value = comparison.symbol.toList ++ digits)
      (isDigits : IsDigits digits)
      (four : digits.length = 4) :
      ComparisonText kind value (.released comparison (decimalValue digits))
  | rating {comparison : Comparison} {decimal : List Char} {number : Binary64}
      (rating : kind = "rating")
      (written : value = comparison.symbol.toList ++ decimal)
      (isDecimal : IsDecimal decimal)
      (nearest : number.IsNearest (decimalNumber decimal)) :
      ComparisonText kind value (.rating comparison number)

/-! ### Decimals -/

/-- The digits of a decimal before and after its point, which may be missing. -/
structure DecimalParts (text whole fraction : List Char) : Prop where
  digit : ∀ character ∈ whole ++ fraction, character.isDigit = true
  nonempty : whole ++ fraction ≠ []
  written : text = whole ∧ fraction = [] ∨ text = whole ++ '.' :: fraction

section

variable {text whole fraction : List Char}

theorem DecimalParts.rating? (parts : DecimalParts text whole fraction) :
    rating? text = some (Binary64.ofDecimal whole fraction) := by
  obtain ⟨digit, nonempty, written⟩ := parts
  have eachWhole : ∀ character ∈ whole, character.isDigit = true := fun character member =>
    digit character (List.mem_append_left _ member)
  have eachFraction : ∀ character ∈ fraction, character.isDigit = true := fun character member =>
    digit character (List.mem_append_right _ member)
  unfold Filter.rating?
  rcases written with ⟨rfl, rfl⟩ | rfl
  · rw [List.append_nil] at nonempty
    simp [List.takeWhile_eq_self_iff.mpr eachWhole, List.dropWhile_eq_nil_iff.mpr eachWhole,
      nonempty]
  · have split : (whole ++ '.' :: fraction).dropWhile Char.isDigit = '.' :: fraction := by
      rw [List.dropWhile_append_of_pos eachWhole]
      rfl
    have taken : (whole ++ '.' :: fraction).takeWhile Char.isDigit = whole := by
      rw [List.takeWhile_append_of_pos eachWhole]
      simp
    dsimp only
    rw [split, taken]
    simp only [List.all_eq_true.mpr eachFraction, Bool.true_and, Bool.not_eq_true',
      List.isEmpty_eq_false_iff, ne_eq, nonempty, not_false_eq_true, if_true]

theorem exists_parts_of_rating? {number : Binary64} (found : rating? text = some number) :
    ∃ whole fraction, DecimalParts text whole fraction := by
  have split := List.takeWhile_append_dropWhile (p := Char.isDigit) (l := text)
  have eachWhole : ∀ character ∈ text.takeWhile Char.isDigit, character.isDigit = true :=
    fun _ member => List.mem_takeWhile_imp member
  unfold Filter.rating? at found
  dsimp only at found
  split at found
  · rename_i atEnd
    split at found
    · cases found
    · rename_i nonempty
      rw [atEnd, List.append_nil] at split
      refine ⟨_, [], ⟨?_, ?_, .inl ⟨split.symm, rfl⟩⟩⟩
      · rwa [List.append_nil]
      · rwa [List.append_nil, ne_eq, ← List.isEmpty_iff]
  · rename_i fraction atPoint
    split at found
    · rename_i digits
      rw [Bool.and_eq_true, Bool.not_eq_true', List.isEmpty_eq_false_iff] at digits
      rw [atPoint] at split
      refine ⟨_, fraction, ⟨fun character member => ?_, digits.2, .inr split.symm⟩⟩
      rcases List.mem_append.mp member with inWhole | inFraction
      · exact eachWhole character inWhole
      · exact List.all_eq_true.mp digits.1 character inFraction
    · cases found
  · cases found

theorem ne_point_of_isDigit {character : Char} (digit : character.isDigit = true) :
    character ≠ '.' := by
  rintro rfl
  exact absurd digit (by decide)

theorem DecimalParts.isDecimal (parts : DecimalParts text whole fraction) : IsDecimal text := by
  obtain ⟨digit, nonempty, written⟩ := parts
  have noPoint : (whole ++ fraction).count '.' = 0 :=
    List.count_eq_zero.mpr fun member => ne_point_of_isDigit (digit _ member) rfl
  obtain ⟨first, member⟩ := List.exists_mem_of_ne_nil _ nonempty
  rcases written with ⟨rfl, rfl⟩ | rfl
  · rw [List.append_nil] at digit noPoint member
    exact ⟨fun character member => .inl (digit character member), by omega,
      first, member, digit first member⟩
  · refine ⟨fun character member => ?_, ?_, first, ?_, digit first member⟩
    · rw [List.mem_append, List.mem_cons] at member
      rcases member with inWhole | isPoint | inFraction
      · exact .inl (digit _ (List.mem_append_left _ inWhole))
      · exact .inr isPoint
      · exact .inl (digit _ (List.mem_append_right _ inFraction))
    · rw [List.count_append] at noPoint
      rw [List.count_append, List.count_cons_self]
      omega
    · rw [List.mem_append] at member ⊢
      exact member.imp_right (List.mem_cons_of_mem _)

theorem IsDecimal.exists_parts (isDecimal : IsDecimal text) :
    ∃ whole fraction, DecimalParts text whole fraction := by
  obtain ⟨digitOrPoint, onePoint, digit, member, isDigit⟩ := isDecimal
  by_cases point : '.' ∈ text
  · obtain ⟨whole, fraction, rfl, wholeFree⟩ := List.eq_append_cons_of_mem point
    have fractionFree : '.' ∉ fraction := by
      rw [List.count_append, List.count_cons_self] at onePoint
      exact List.count_eq_zero.mp (by omega)
    refine ⟨whole, fraction, ⟨fun character member => ?_, ?_, .inr rfl⟩⟩
    · have other : character ≠ '.' := by
        rintro rfl
        exact (List.mem_append.mp member).elim wholeFree fractionFree
      refine (digitOrPoint character ?_).resolve_right other
      rw [List.mem_append] at member ⊢
      exact member.imp_right (List.mem_cons_of_mem _)
    · intro empty
      obtain ⟨rfl, rfl⟩ := List.append_eq_nil_iff.mp empty
      exact ne_point_of_isDigit isDigit (List.mem_singleton.mp member)
  · refine ⟨text, [], ⟨fun character member => ?_, ?_, .inl ⟨rfl, rfl⟩⟩⟩
    · rw [List.append_nil] at member
      refine (digitOrPoint character member).resolve_right ?_
      rintro rfl
      exact point member
    · rw [List.append_nil]
      exact List.ne_nil_of_mem member

theorem DecimalParts.decimalNumber (parts : DecimalParts text whole fraction) :
    decimalNumber text =
      (naturalOfDigits (whole ++ fraction) : Nat) / (10 ^ fraction.length : Nat) := by
  obtain ⟨digit, nonempty, written⟩ := parts
  have wholeFree : ∀ character ∈ whole, (character != '.') = true := fun character member =>
    bne_iff_ne.mpr (ne_point_of_isDigit (digit character (List.mem_append_left _ member)))
  have cut : text.takeWhile (· != '.') = whole ∧ (text.dropWhile (· != '.')).tail = fraction := by
    rcases written with ⟨rfl, rfl⟩ | rfl
    · rw [List.takeWhile_eq_self_iff.mpr wholeFree, List.dropWhile_eq_nil_iff.mpr wholeFree]
      exact ⟨rfl, rfl⟩
    · rw [List.takeWhile_append_of_pos wholeFree, List.dropWhile_append_of_pos wholeFree]
      simp
  have power : ((10 ^ fraction.length : Nat) : ℚ) ≠ 0 :=
    Nat.cast_ne_zero.mpr (Nat.pow_pos (by decide)).ne'
  rw [Filter.decimalNumber, cut.1, cut.2, naturalOfDigits_append, ← naturalOfDigits_eq_decimalValue,
    ← naturalOfDigits_eq_decimalValue, Nat.cast_add, Nat.cast_mul, add_div,
    mul_div_cancel_right₀ _ power, Nat.cast_pow]
  rfl

/-- A rating is read from a decimal, as the number nearest to it. -/
theorem rating?_eq_some_iff (text : List Char) (number : Binary64) :
    rating? text = some number ↔ IsDecimal text ∧ number.IsNearest (decimalNumber text) := by
  have nearest {whole fraction : List Char} (parts : DecimalParts text whole fraction) :
      (Binary64.ofDecimal whole fraction).IsNearest (decimalNumber text) := by
    rw [parts.decimalNumber]
    exact Binary64.isNearest_ofQuotient _ (Nat.pow_pos (by decide))
  constructor
  · intro found
    obtain ⟨whole, fraction, parts⟩ := exists_parts_of_rating? found
    rw [parts.rating?, Option.some.injEq] at found
    exact ⟨parts.isDecimal, found ▸ nearest parts⟩
  · rintro ⟨isDecimal, isNearest⟩
    obtain ⟨whole, fraction, parts⟩ := isDecimal.exists_parts
    rw [parts.rating?, (nearest parts).unique isNearest]

end

/-! ### Operators -/

theorem ofSymbol?_eq_some_iff (symbol : List Char) (comparison : Comparison) :
    Comparison.ofSymbol? symbol = some comparison ↔ symbol = comparison.symbol.toList := by
  constructor
  · intro found
    unfold Comparison.ofSymbol? at found
    split at found
    all_goals cases found
    all_goals rfl
  · rintro rfl
    cases comparison <;> rfl

/-- The value of a comparison is a symbol and a number, if numbers are numerals. -/
theorem comparison?_eq_some_iff_symbol {Quantity : Type} {number? : List Char → Option Quantity}
    (numeral : ∀ {text : List Char} {quantity : Quantity},
      number? text = some quantity → IsNumeral text)
    (value : List Char) (comparison : Comparison) (quantity : Quantity) :
    comparison? number? value = some (comparison, quantity) ↔
      ∃ number, value = comparison.symbol.toList ++ number ∧ number? number = some quantity := by
  constructor
  · intro found
    obtain ⟨isSymbol, isNumber⟩ := (comparison?_eq_some_iff _ _ _ _).mp found
    rw [ofSymbol?_eq_some_iff] at isSymbol
    exact ⟨_, by rw [← isSymbol, List.takeWhile_append_dropWhile], isNumber⟩
  · rintro ⟨number, rfl, isNumber⟩
    exact comparison?_symbol comparison (numeral isNumber) isNumber

/-- A comparison is read exactly from a symbol with a number behind it, and there is one
fault for everything else. -/
theorem readComparison_outcome {Quantity : Type} {number? : List Char → Option Quantity}
    {wrap : Comparison → Quantity → Filter} {accepts : Filter → Prop} (kind value : List Char)
    (numeral : ∀ {text : List Char} {quantity : Quantity},
      number? text = some quantity → IsNumeral text)
    (accepts_iff : ∀ filter, accepts filter ↔ ∃ comparison number quantity,
      value = comparison.symbol.toList ++ number ∧ number? number = some quantity ∧
        wrap comparison quantity = filter) :
    (∀ filter, readComparison kind value number? wrap = .ok filter ↔ accepts filter) ∧
      ∀ fault, readComparison kind value number? wrap = .error fault ↔
        (¬∃ filter, accepts filter) ∧
          fault = .invalidComparison (String.ofList kind) (String.ofList value) := by
  have success (filter : Filter) :
      readComparison kind value number? wrap = .ok filter ↔ accepts filter := by
    rw [readComparison_eq_ok_iff, accepts_iff]
    simp only [comparison?_eq_some_iff_symbol numeral]
    constructor
    · rintro ⟨comparison, quantity, ⟨number, written, found⟩, same⟩
      exact ⟨comparison, number, quantity, written, found, same⟩
    · rintro ⟨comparison, number, quantity, written, found, same⟩
      exact ⟨comparison, quantity, ⟨number, written, found⟩, same⟩
  refine ⟨success, fun fault => ?_⟩
  simp only [← success]
  unfold readComparison
  cases comparison? number? value with
  | none => simp [eq_comm]
  | some pair => simp

/-! ### Kinds -/

/-- A colon stays a colon in lowercase. -/
theorem mem_lowercaseAfter_of_colon {text : List Char} (colon : ':' ∈ text)
    (before : List Char) : ':' ∈ lowercaseAfter before text := by
  induction text generalizing before with
  | nil => cases colon
  | cons character rest inductionHypothesis =>
    rw [lowercaseAfter, List.mem_append]
    rcases List.mem_cons.mp colon with rfl | inRest
    · rw [if_neg (by decide)]
      exact .inl (by decide)
    · exact .inr (inductionHypothesis inRest _)

/-- A kind has no colon if its lowercase form has none. -/
theorem colon_not_mem_of_lowercase {kind : String}
    (lowered : ':' ∉ (lowercase (trimmed kind)).toList) : ':' ∉ kind.toList := by
  intro colon
  apply lowered
  rw [lowercase, trimmed, String.toList_ofList, String.toList_ofList]
  refine mem_lowercaseAfter_of_colon ?_ []
  obtain ⟨before, after, split, beforeBlank, afterBlank⟩ := exists_eq_trim kind.toList
  rw [split, List.mem_append, List.mem_append] at colon
  rcases colon with (inBefore | inside) | inAfter
  · exact absurd (beforeBlank _ inBefore) (by decide)
  · exact inside
  · exact absurd (afterBlank _ inAfter) (by decide)

/-- A clause is divided between its kind and its value. -/
theorem parseLeaf_colon {kind value : String} (absent : ':' ∉ kind.toList) :
    splitColon? (kind ++ ":" ++ value).toList = some (kind.toList, value.toList) := by
  refine (splitColon?_eq_some_iff _ _ _).mpr ⟨?_, absent⟩
  simp

/-! ### Values by kind -/

section

variable (value : List Char) (filter : Filter)

theorem comparisonText_length_iff : ComparisonText "length" value filter ↔
    ∃ comparison number minutes, value = comparison.symbol.toList ++ number ∧
      minutes? number = some minutes ∧ runtime comparison minutes = filter := by
  constructor
  · intro text
    cases text with
    | @runtime comparison digits _ written isDigits fits =>
      have natural := (isNatural_iff_isDigits digits).mpr isDigits
      refine ⟨comparison, digits, _, written, (minutes?_eq_some_iff _ _).mpr ⟨natural, ?_, rfl⟩, ?_⟩
      · rw [naturalOfDigits_eq_decimalValue]
        omega
      · rw [naturalOfDigits_eq_decimalValue]
    | released kind => exact absurd kind (by decide)
    | rating kind => exact absurd kind (by decide)
  · rintro ⟨comparison, number, minutes, written, found, rfl⟩
    obtain ⟨natural, bounded, rfl⟩ := (minutes?_eq_some_iff _ _).mp found
    rw [naturalOfDigits_eq_decimalValue] at bounded ⊢
    exact .runtime rfl written ((isNatural_iff_isDigits number).mp natural) (by omega)

theorem comparisonText_released_iff : ComparisonText "released" value filter ↔
    ∃ comparison number year, value = comparison.symbol.toList ++ number ∧
      year? number = some year ∧ released comparison year = filter := by
  constructor
  · intro text
    cases text with
    | runtime kind => exact absurd kind (by decide)
    | @released comparison digits _ written isDigits four =>
      have natural := (isNatural_iff_isDigits digits).mpr isDigits
      refine ⟨comparison, digits, _, written, (year?_eq_some_iff _ _).mpr ⟨natural, four, rfl⟩, ?_⟩
      rw [naturalOfDigits_eq_decimalValue]
    | rating kind => exact absurd kind (by decide)
  · rintro ⟨comparison, number, year, written, found, rfl⟩
    obtain ⟨natural, four, rfl⟩ := (year?_eq_some_iff _ _).mp found
    rw [naturalOfDigits_eq_decimalValue]
    exact .released rfl written ((isNatural_iff_isDigits number).mp natural) four

theorem comparisonText_rating_iff : ComparisonText "rating" value filter ↔
    ∃ comparison number quantity, value = comparison.symbol.toList ++ number ∧
      rating? number = some quantity ∧ rating comparison quantity = filter := by
  simp only [rating?_eq_some_iff]
  constructor
  · intro text
    cases text with
    | runtime kind => exact absurd kind (by decide)
    | released kind => exact absurd kind (by decide)
    | rating _ written isDecimal nearest =>
      exact ⟨_, _, _, written, ⟨isDecimal, nearest⟩, rfl⟩
  · rintro ⟨comparison, number, quantity, written, ⟨isDecimal, nearest⟩, rfl⟩
    exact .rating rfl written isDecimal nearest

end

/-- A comparison is read exactly from an operator with a number of its kind behind it, as
the filter that they stand for. Every other value is refused, with the trimmed kind and
value as they are written. -/
theorem parseLeaf_comparison (kind value : String)
    (numeric : lowercase (trimmed kind) ∈ ["length", "released", "rating"]) :
    (∀ filter, parseLeaf (kind ++ ":" ++ value) = .ok filter ↔
        ComparisonText (lowercase (trimmed kind)) (trimmed value).toList filter) ∧
      ∀ fault, parseLeaf (kind ++ ":" ++ value) = .error fault ↔
        (¬∃ filter, ComparisonText (lowercase (trimmed kind)) (trimmed value).toList filter) ∧
          fault = .invalidComparison (trimmed kind) (trimmed value) := by
  have absent : ':' ∉ kind.toList := by
    refine colon_not_mem_of_lowercase ?_
    simp only [List.mem_cons, List.not_mem_nil, or_false] at numeric
    rcases numeric with lowered | lowered | lowered <;> rw [lowered] <;> decide
  have value_eq : (trimmed value).toList = trim value.toList := String.toList_ofList
  rw [value_eq, parseLeaf, readLeaf, parseLeaf_colon absent]
  dsimp only
  rw [← trimmed]
  simp only [List.mem_cons, List.not_mem_nil, or_false] at numeric
  rcases numeric with lowered | lowered | lowered <;> rw [lowered]
  · exact readComparison_outcome _ _ minutes?_isNumeral (comparisonText_length_iff _)
  · exact readComparison_outcome _ _ year?_isNumeral (comparisonText_released_iff _)
  · exact readComparison_outcome _ _ rating?_isNumeral (comparisonText_rating_iff _)

/-- The longest running time that fits, with zeros in front, and the first one that does not. -/
theorem parseLeaf_comparison_longest_runtime :
    lowercase (trimmed " LENGTH ") ∈ ["length", "released", "rating"] ∧
      parseLeaf (" LENGTH " ++ ":" ++ " <=0009223372036854775807 ") =
        .ok (.runtime .atMost (2 ^ 63 - 1)) ∧
      ComparisonText (lowercase (trimmed " LENGTH ")) (trimmed " <=0009223372036854775807 ").toList
        (.runtime .atMost (2 ^ 63 - 1)) ∧
      ¬∃ filter, ComparisonText (lowercase (trimmed " LENGTH "))
        (trimmed "<=9223372036854775808").toList filter := by
  have numeric : lowercase (trimmed " LENGTH ") ∈ ["length", "released", "rating"] := by decide
  refine ⟨numeric, rfl, ?_, ?_⟩
  · exact ((parseLeaf_comparison " LENGTH " " <=0009223372036854775807 " numeric).1 _).mp rfl
  · exact (((parseLeaf_comparison " LENGTH " "<=9223372036854775808" numeric).2 _).mp rfl).1

end PlaylistRules.Filter
