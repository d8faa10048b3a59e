/-
This file proves where the columns of the tables stand. In the table of rules every
field starts where the name of its column does. In the table of records that holds for
exactly those records whose years, ratings, running times and dates fit their columns:
ids and names are cut to the width of theirs, but numbers never are.
-/

import PlaylistRules.Proofs.Instants
import PlaylistRules.Report.Items
import PlaylistRules.Report.Rules

namespace PlaylistRules

/-! ### Lengths of numbers -/

namespace Number

theorem length_integerText_le_iff {number : Int} {width : Nat} (positive : 0 < width) :
    (integerText number).length ≤ width + 1 ↔
      -(10 ^ width : Nat) < number ∧ number < (10 ^ (width + 1) : Nat) := by
  rw [integerText]
  split
  case isTrue negative =>
    rw [List.length_cons, Nat.add_le_add_iff_right, length_naturalText_le_iff positive]
    omega
  case isFalse nonnegative =>
    rw [length_naturalText_le_iff (Nat.succ_pos width)]
    have nonpositive : -((10 ^ width : Nat) : Int) < 0 := by
      have power : 0 < 10 ^ width := Nat.pow_pos (by decide)
      omega
    omega

/-- A quotient is rounded to at most an odd number exactly if it lies below the middle to
the next number. -/
theorem roundedQuotient_le_iff {numerator denominator bound : Nat} (positive : 0 < denominator)
    (odd : bound % 2 = 1) :
    roundedQuotient numerator denominator ≤ bound ↔
      2 * numerator < (2 * bound + 1) * denominator := by
  have parts := Nat.div_add_mod numerator denominator
  have small := Nat.mod_lt numerator positive
  rw [roundedQuotient]
  generalize numerator / denominator = quotient at parts
  generalize numerator % denominator = rest at parts small
  rcases Nat.lt_trichotomy quotient bound with below | rfl | above
  · have fits : denominator * (quotient + 1) ≤ denominator * bound := Nat.mul_le_mul_left _ below
    constructor
    · intro _
      grind
    · intro _
      split_ifs <;> omega
  · constructor
    · intro rounded
      split_ifs at rounded <;> grind
    · intro below
      rw [if_pos (by grind)]
  · have fits : denominator * (bound + 1) ≤ denominator * quotient := Nat.mul_le_mul_left _ above
    constructor
    · intro rounded
      split_ifs at rounded <;> omega
    · intro _
      grind

end Number

/-! ### Lengths of cells -/

namespace Calendar.Instant

open Number

/-- A year has four characters exactly if it is written without a sign. -/
theorem length_yearText_le_iff (year : Int) :
    (yearText year).length ≤ 4 ↔ 0 ≤ year ∧ year ≤ 9999 := by
  rw [yearText]
  simp only [Bool.and_eq_true, decide_eq_true_eq]
  split
  case isTrue plain =>
    have four : (zeroPadded 4 (naturalText year.natAbs)).length = 4 :=
      length_padded (by decide) (by omega)
    simp [four, plain]
  case isFalse signed =>
    rw [List.length_cons, length_zeroPadded]
    omega

end Calendar.Instant

namespace Text

@[simp]
theorem length_padEnd (width : Nat) (text : String) :
    (padEnd width text).length = max width text.length := by
  rw [padEnd, String.length_append, String.length_ofList, List.length_replicate]
  omega

@[simp]
theorem length_padStart (width : Nat) (text : String) :
    (padStart width text).length = max width text.length := by
  rw [padStart, String.length_append, String.length_ofList, List.length_replicate]
  omega

theorem length_firstChars_le (count : Nat) (text : String) :
    (firstChars count text).length ≤ count := by
  rw [firstChars, String.length_ofList]
  exact List.length_take_le ..

/-- A text is shortened to its width, if that leaves room for the dots. -/
theorem length_shortened_le {width : Nat} (room : 3 ≤ width) (text : String) :
    (shortened width text).length ≤ width := by
  rw [shortened]
  split
  case isTrue =>
    have front := length_firstChars_le (width - 3) text
    have dots : "...".length = 3 := rfl
    rw [String.length_append, dots]
    omega
  case isFalse short => exact Nat.not_lt.mp short

end Text

namespace Report

open Number Text Calendar

theorem length_yearCell_le_iff (year : Option Int) :
    (yearCell year).length ≤ 4 ↔ ∀ value ∈ year, -1000 < value ∧ value < 10000 := by
  cases year with
  | none => simp [yearCell]
  | some value =>
    rw [yearCell, String.length_ofList, length_integerText_le_iff (by decide)]
    simp

/-- A running time fits its column up to 99 hours and 59 minutes. -/
theorem length_runtimeCell_le_iff (runtime : Option Int) :
    (runtimeCell runtime).length ≤ 7 ↔ ∀ minutes ∈ runtime, -100000 < minutes ∧ minutes < 6000 := by
  cases runtime with
  | none => simp [runtimeCell]
  | some minutes =>
    rw [runtimeCell]
    simp only [Option.mem_def, Option.some.injEq, forall_eq']
    split
    case isTrue short =>
      have digits := @length_integerText_le_iff minutes 5 (by decide)
      rw [String.length_ofList, List.length_append, List.length_singleton]
      omega
    case isFalse long =>
      have hours : minutes.tdiv 60 = minutes / 60 := Int.tdiv_eq_ediv_of_nonneg (by omega)
      have rest : minutes.tmod 60 = minutes % 60 := Int.tmod_eq_emod_of_nonneg (by omega)
      have padded : (paddedIntegerText 2 (minutes % 60)).length = 2 := by
        rw [paddedIntegerText, if_neg (by omega)]
        exact Instant.length_padded (by decide) (by omega)
      have digits := @length_integerText_le_iff (minutes / 60) 1 (by decide)
      rw [hours, rest, String.length_ofList]
      simp only [List.length_append, padded, List.length_cons, List.length_nil]
      omega

/-- A date fits its column if its year has four digits. -/
theorem length_dateCell_le_iff (instant : Option Instant) :
    (dateCell instant).length ≤ 10 ↔
      ∀ value ∈ instant, 0 ≤ value.date.year ∧ value.date.year ≤ 9999 := by
  cases instant with
  | none => simp [dateCell]
  | some instant =>
    have month : (zeroPadded 2 (naturalText instant.date.month)).length = 2 :=
      Instant.length_padded Nat.two_pos instant.month_day_lt.1
    have day : (zeroPadded 2 (naturalText instant.date.day)).length = 2 :=
      Instant.length_padded Nat.two_pos instant.month_day_lt.2
    have year := Instant.length_yearText_le_iff instant.date.year
    rw [dateCell, String.length_ofList, Instant.dateText]
    simp only [List.length_append, List.length_cons, month, day, Option.mem_def,
      Option.some.injEq, forall_eq']
    omega

/-- Whether a rating is small enough for its column: with one digit after the point it is
at most 9999.9, or at least -999.9. -/
def RatingFits (rating : Binary64) : Prop :=
  rating.isFinite = true →
    20 * Binary64.units rating.code <
      (if rating.negative then 19999 else 199999) * Binary64.unitsPerOne

theorem Binary64.unitsPerOne_positive : 0 < Binary64.unitsPerOne := by
  unfold Binary64.unitsPerOne
  generalize 1074 = places
  exact Nat.two_pow_pos places

theorem length_finiteTenthsText_le_iff (rating : Binary64) :
    rating.finiteTenthsText.length ≤ 6 ↔
      20 * Binary64.units rating.code <
        (if rating.negative then 19999 else 199999) * Binary64.unitsPerOne := by
  have nonnegative := @roundedQuotient_le_iff (Binary64.units rating.code * 10) _ 99999
    Binary64.unitsPerOne_positive (by decide)
  have negative := @roundedQuotient_le_iff (Binary64.units rating.code * 10) _ 9999
    Binary64.unitsPerOne_positive (by decide)
  rw [Binary64.finiteTenthsText]
  generalize roundedQuotient (Binary64.units rating.code * 10) Binary64.unitsPerOne = tenths
    at negative nonnegative ⊢
  have last : (naturalText (tenths % 10)).length = 1 := by
    have short := (@length_naturalText_le_iff (tenths % 10) 1 Nat.one_pos).mpr (by omega)
    have some := List.length_pos_iff.mpr
      ((isNatural_iff _).mp (isNatural_naturalText (tenths % 10))).1
    omega
  rw [List.length_append, List.length_append, List.length_cons, last]
  cases rating.negative with
  | true =>
    have digits := @length_naturalText_le_iff (tenths / 10) 3 (by decide)
    simp only [if_true, List.length_singleton]
    omega
  | false =>
    have digits := @length_naturalText_le_iff (tenths / 10) 4 (by decide)
    simp only [Bool.false_eq_true, if_false, List.length_nil]
    omega

theorem length_ratingCell_le_iff (rating : Option Binary64) :
    (ratingCell false rating).length ≤ 6 ↔ ∀ value ∈ rating, RatingFits value := by
  cases rating with
  | none => simp [ratingCell]
  | some rating =>
    rw [ratingCell]
    simp only [Bool.false_eq_true, if_false, String.length_ofList, Option.mem_def,
      Option.some.injEq, forall_eq', RatingFits, Binary64.isFinite, decide_eq_true_eq]
    rw [Binary64.tenthsText, Binary64.textWith, Binary64.isNotANumber, Binary64.isInfinite]
    simp only [decide_eq_true_eq, beq_iff_eq]
    split
    case isTrue beyond =>
      refine iff_of_true (by decide) fun finite => ?_
      omega
    case isFalse =>
      split
      case isTrue infinite =>
        refine iff_of_true (by split <;> decide) fun finite => ?_
        omega
      case isFalse other =>
        have finite : rating.code < Binary64.infinityCode := by omega
        rw [length_finiteTenthsText_le_iff, imp_iff_right finite]

/-! ### Lines of fields -/

/-- A column of a table: the width of its fields, and whether blanks go in front of the
cells or behind them. -/
structure Column where
  width : Nat
  blanksInFront : Bool

/-- A cell in a field of a column. -/
def Column.field (column : Column) (cell : String) : String :=
  if column.blanksInFront then padStart column.width cell else padEnd column.width cell

/-- The fields of cells. -/
def fieldsOf : List Column → List String → List String :=
  List.zipWith Column.field

/-- Fields in a line, with a blank between every two. -/
def lineOf : List String → String
  | [] => ""
  | [field] => field
  | field :: rest => field ++ " " ++ lineOf rest

/-- The text of lines of fields. -/
def textOf (rows : List (List String)) : String :=
  String.join (rows.map fun fields => lineOf fields ++ "\n")

/-- The part of a line in front of a field. -/
def frontOf (before : List String) : String :=
  String.join (before.map (· ++ " "))

/-- The offsets at which fields of some lengths start, the first of them at a given one. -/
def startsFrom : (start : Nat) → (lengths : List Nat) → List Nat
  | _, [] => []
  | start, length :: rest => start :: startsFrom (start + length + 1) rest

/-- The offsets at which the fields of a line start, counted in characters. -/
def starts (fields : List String) : List Nat :=
  startsFrom 0 (fields.map String.length)

/-- The offsets at which columns start. -/
def offsets (columns : List Column) : List Nat :=
  startsFrom 0 (columns.map Column.width)

theorem lineOf_eq_front (before : List String) (field : String) (after : List String) :
    lineOf (before ++ field :: after) = frontOf before ++ lineOf (field :: after) := by
  induction before with
  | nil => simp [frontOf]
  | cons first before inductionHypothesis =>
    have more : before ++ field :: after ≠ [] := List.append_ne_nil_of_right_ne_nil _ (by simp)
    obtain ⟨second, rest, split⟩ := List.exists_cons_of_ne_nil more
    rw [List.cons_append, split, lineOf, ← split, inductionHypothesis]
    · simp [frontOf, String.append_assoc]
    · simp

theorem startsFrom_append (start : Nat) (before : List Nat) (length : Nat) (after : List Nat) :
    (startsFrom start (before ++ length :: after))[before.length]? =
      some (start + (before.map (· + 1)).sum) := by
  induction before generalizing start with
  | nil => simp [startsFrom]
  | cons first before inductionHypothesis =>
    simp only [List.cons_append, startsFrom, List.length_cons, List.getElem?_cons_succ,
      inductionHypothesis, List.map_cons, List.sum_cons]
    congr 1
    omega

theorem length_frontOf (before : List String) :
    (frontOf before).length = ((before.map String.length).map (· + 1)).sum := by
  induction before with
  | nil => rfl
  | cons first before inductionHypothesis =>
    have blank : " ".length = 1 := rfl
    rw [frontOf] at inductionHypothesis ⊢
    simp [inductionHypothesis, blank]

/-- A field does start at its offset in the line: that many characters stand in front of it. -/
theorem exists_line_eq_append_at_start (before : List String) (field : String)
    (after : List String) :
    ∃ front : String, lineOf (before ++ field :: after) = front ++ lineOf (field :: after) ∧
      (starts (before ++ field :: after))[before.length]? = some front.length := by
  refine ⟨frontOf before, lineOf_eq_front .., ?_⟩
  have start := startsFrom_append 0 (before.map String.length) field.length
    (after.map String.length)
  rwa [List.length_map, Nat.zero_add, ← length_frontOf, ← List.map_cons, ← List.map_append]
    at start

/-- Two lines start their fields at the same offsets exactly if all fields but the last one
have the same lengths. -/
theorem startsFrom_eq_iff {start : Nat} {lengths others : List Nat}
    (same : lengths.length = others.length) :
    startsFrom start lengths = startsFrom start others ↔ lengths.dropLast = others.dropLast := by
  induction lengths generalizing start others with
  | nil => simp [List.length_eq_zero_iff.mp same.symm]
  | cons length lengths inductionHypothesis =>
    obtain ⟨other, others, rfl⟩ := List.exists_cons_of_length_eq_add_one same.symm
    have fewer : lengths.length = others.length := Nat.succ.inj same
    cases lengths with
    | nil => simp [List.length_eq_zero_iff.mp fewer.symm, startsFrom]
    | cons second lengths =>
      obtain ⟨third, others, rfl⟩ := List.exists_cons_of_length_eq_add_one fewer.symm
      change start :: startsFrom (start + length + 1) (second :: lengths) =
        start :: startsFrom (start + other + 1) (third :: others) ↔ _
      rw [List.cons.injEq, List.dropLast_cons_cons, List.dropLast_cons_cons, List.cons.injEq]
      constructor
      · rintro ⟨-, rest⟩
        have equal : length = other := by
          simp only [startsFrom, List.cons.injEq] at rest
          omega
        subst equal
        exact ⟨rfl, (inductionHypothesis fewer).mp rest⟩
      · rintro ⟨rfl, rest⟩
        exact ⟨rfl, (inductionHypothesis fewer).mpr rest⟩

theorem Column.length_field (column : Column) (cell : String) :
    (column.field cell).length = max column.width cell.length := by
  rw [field]
  split
  · exact length_padStart ..
  · exact length_padEnd ..

/-- The fields of a line start where their columns do exactly if all cells but the last one
fit theirs. -/
theorem starts_fieldsOf_iff {columns : List Column} {cells : List String}
    (same : columns.length = cells.length) :
    starts (fieldsOf columns cells) = offsets columns ↔
      (List.zipWith (fun column cell => max column.width cell.length) columns cells).dropLast =
        (columns.map Column.width).dropLast := by
  have lengths : (fieldsOf columns cells).map String.length =
      List.zipWith (fun column cell => max column.width cell.length) columns cells := by
    simp only [fieldsOf, List.map_zipWith, Column.length_field]
  rw [starts, offsets, lengths]
  apply startsFrom_eq_iff
  rw [List.length_zipWith, List.length_map, ← same, min_self]

/-- A table is the text of its rows if its lines are those of their fields. -/
theorem table_eq_textOf {Shown : Type} {header : String} {names : List String}
    {line : Shown → String} {fields : Shown → List String}
    (headerText : header = lineOf names ++ "\n")
    (lineText : ∀ shown, line shown = lineOf (fields shown) ++ "\n") (table : List Shown) :
    header ++ String.join (table.map line) = textOf (names :: table.map fields) := by
  rw [textOf, List.map_cons, String.join_cons, headerText, List.map_map]
  congr 2
  exact List.map_congr_left fun shown _ => lineText shown

theorem padEnd_zero (text : String) : padEnd 0 text = text := by
  simp [padEnd]

/-! ### Rules -/

def ruleColumns : List Column :=
  [⟨25, false⟩, ⟨8, false⟩, ⟨12, false⟩, ⟨0, false⟩]

/-- The fields of the line of column names. -/
def ruleNames : List String :=
  fieldsOf ruleColumns ["Name", "Status", "User", "Expressions"]

/-- The fields of the line of a rule. -/
def ruleFields (rule : Rule) : List String :=
  fieldsOf ruleColumns [shortened 25 rule.name, enabledCell false rule.enabled,
    shortened 12 (rule.user.getD "-"), rule.expressions.length.repr]

theorem ruleTable_eq_textOf (rule : Rule) (rules : List Rule) :
    ruleTable false (rule :: rules) = textOf (ruleNames :: (rule :: rules).map ruleFields) := by
  rw [ruleTable, if_neg (by simp)]
  refine table_eq_textOf (by decide) (fun rule => ?_) _
  simp [ruleLine, paddedStatus, ruleFields, fieldsOf, ruleColumns, Column.field, lineOf,
    padEnd_zero, String.append_assoc]

/-- Every rule has a line in which each field starts where its column does. -/
theorem starts_ruleFields (rule : Rule) : starts (ruleFields rule) = offsets ruleColumns := by
  have name := @length_shortened_le 25 (by decide) rule.name
  have user := @length_shortened_le 12 (by decide) (rule.user.getD "-")
  have status : (enabledCell false rule.enabled).length ≤ 8 := by
    cases rule.enabled <;> decide
  rw [ruleFields, starts_fieldsOf_iff rfl]
  simp [ruleColumns, name, user, status]

/-! ### Records -/

def itemColumns : List Column :=
  [⟨8, false⟩, ⟨4, false⟩, ⟨6, true⟩, ⟨7, true⟩, ⟨10, false⟩, ⟨0, false⟩]

/-- The fields of the line of column names. -/
def itemNames : List String :=
  fieldsOf itemColumns ["ID", "Year", "Rating", "Runtime", "Added", "Name"]

/-- The fields of the line of a record. -/
def itemFields (record : Record) : List String :=
  fieldsOf itemColumns [idCell record.id, yearCell record.year, ratingCell false record.rating,
    runtimeCell record.runtime, dateCell record.dateAdded, shortened 50 record.name]

/-- Whether the numbers of a record are small enough for the columns of its table. -/
structure FitsColumns (record : Record) : Prop where
  year : ∀ year ∈ record.year, -1000 < year ∧ year < 10000
  rating : ∀ rating ∈ record.rating, RatingFits rating
  runtime : ∀ minutes ∈ record.runtime, -100000 < minutes ∧ minutes < 6000
  dateAdded : ∀ instant ∈ record.dateAdded, 0 ≤ instant.date.year ∧ instant.date.year ≤ 9999

theorem itemTable_eq_textOf (record : Record) (records : List Record) :
    itemTable false (record :: records) =
      textOf (itemNames :: (record :: records).map itemFields) := by
  have rating (value : Option Binary64) :
      paddedRating false value = padStart 6 (ratingCell false value) := by
    cases value <;> rfl
  rw [itemTable, if_neg (by simp)]
  refine table_eq_textOf (by decide) (fun record => ?_) _
  simp [itemLine, rating, itemFields, fieldsOf, itemColumns, Column.field, lineOf,
    padEnd_zero, String.append_assoc]

/-- In its first field the line of a record shows the beginning of the id. -/
theorem head?_itemFields (record : Record) :
    (itemFields record).head? = some (padEnd 8 (idCell record.id)) := rfl

theorem starts_itemFields_iff (record : Record) :
    starts (itemFields record) = offsets itemColumns ↔ FitsColumns record := by
  have id := length_firstChars_le 8 record.id
  rw [itemFields, starts_fieldsOf_iff rfl]
  simp only [itemColumns, List.zipWith_cons_cons, List.zipWith_nil_left, List.map_cons,
    List.map_nil, List.dropLast_cons_cons, List.dropLast_singleton, List.cons.injEq,
    max_eq_left_iff, and_true]
  rw [idCell, length_yearCell_le_iff, length_ratingCell_le_iff, length_runtimeCell_le_iff,
    length_dateCell_le_iff]
  constructor
  · rintro ⟨-, year, rating, runtime, dateAdded⟩
    exact ⟨year, rating, runtime, dateAdded⟩
  · rintro ⟨year, rating, runtime, dateAdded⟩
    exact ⟨id, year, rating, runtime, dateAdded⟩

/-- In the table of rules every field of every line starts where the name of its column
does. In the table of records the fields of a line do exactly if the numbers of its record
fit their columns. Where a field starts is the number of characters of its line that stand
in front of it. -/
theorem fields_start_at_columns (rule : Rule) (rules : List Rule) (record : Record)
    (records : List Record) :
    (∀ before field after, ∃ front : String,
      lineOf (before ++ field :: after) = front ++ lineOf (field :: after) ∧
        (starts (before ++ field :: after))[before.length]? = some front.length) ∧
    (ruleTable false (rule :: rules) = textOf (ruleNames :: (rule :: rules).map ruleFields) ∧
      starts ruleNames = [0, 26, 35, 48] ∧
      ∀ shown ∈ rule :: rules, starts (ruleFields shown) = [0, 26, 35, 48]) ∧
    itemTable false (record :: records) =
      textOf (itemNames :: (record :: records).map itemFields) ∧
    starts itemNames = [0, 9, 14, 21, 29, 40] ∧
    ∀ shown ∈ record :: records,
      starts (itemFields shown) = [0, 9, 14, 21, 29, 40] ↔ FitsColumns shown :=
  ⟨exists_line_eq_append_at_start,
    ⟨ruleTable_eq_textOf rule rules, by decide, fun shown _ => starts_ruleFields shown⟩,
    itemTable_eq_textOf record records, by decide, fun shown _ => starts_itemFields_iff shown⟩

/-- The line of a record that runs for a hundred hours is one character too long. -/
theorem hundred_hours_shift_fields :
    starts itemNames = [0, 9, 14, 21, 29, 40] ∧
      starts (itemFields ⟨"1", "Box", "Movie", NameSet.empty, some 6000, none, false, none, none,
        none⟩) = [0, 9, 14, 21, 30, 41] := by
  decide

end Report

end PlaylistRules
