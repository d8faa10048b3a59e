/-
This file proves that instants are read as they are written. Every number in the text of
an instant stands in a fixed number of digits or ends before a mark, and the date of a day
number has that day number, so the parts are found again one after the other. Every
instant that was read can be written.
-/

import Mathlib.Data.List.TakeWhile
import PlaylistRules.Calendar.Instant
import PlaylistRules.Proofs.Dates
import PlaylistRules.Proofs.Digits

namespace PlaylistRules.Calendar

open Number Text

/-! ### Years in range -/

/-- The days that instants may fall on are those of the years that have a text. -/
theorem Date.year_ofDayNumber_bounds {number : Int}
    (early : dayNumber ⟨-262143, 1, 1⟩ ≤ number) (late : number ≤ dayNumber ⟨262142, 12, 31⟩) :
    -262143 ≤ (ofDayNumber number).year ∧ (ofDayNumber number).year ≤ 262142 := by
  obtain ⟨era, yearOfEra, dayOfYear, parts⟩ := exists_dayParts number
  obtain ⟨sum, yearBounds, dayBounds, _, date⟩ := parts
  have first : dayNumber ⟨-262143, 1, 1⟩ = -96465292 := by decide
  have last : dayNumber ⟨262142, 12, 31⟩ = 95026236 := by decide
  rw [first] at early
  rw [last] at late
  -- The first of January is day 306 of a year counted from March.
  have firstYear : -262144 ≤ yearOfEra + era * 400 ∧
      (yearOfEra + era * 400 = -262144 → 306 ≤ dayOfYear) := by
    have eras : -656 ≤ era := by omega
    by_cases same : era = -656
    · subst same
      have years : 256 ≤ yearOfEra := by omega
      omega
    · omega
  have lastYear : yearOfEra + era * 400 ≤ 262142 ∧
      (yearOfEra + era * 400 = 262142 → dayOfYear ≤ 305) := by
    have eras : era ≤ 655 := by omega
    by_cases same : era = 655
    · subst same
      have years : yearOfEra ≤ 142 := by omega
      omega
    · omega
  rw [date, ofYearParts]
  split
  · dsimp only
    omega
  · dsimp only
    omega

theorem Date.monthLength_le (year : Int) (month : Nat) : monthLength year month ≤ 31 := by
  unfold monthLength
  split
  · split <;> decide
  · split <;> decide

namespace Instant

/-! ### Numbers and marks -/

theorem trimStart_cons {first : Char} (solid : isBlank first = false) (rest : List Char) :
    trimStart (first :: rest) = first :: rest :=
  List.dropWhile_cons_of_neg (by rw [solid]; exact Bool.false_ne_true)

theorem trimStart_digits {digits : List Char} (natural : isNatural digits = true)
    (rest : List Char) : trimStart (digits ++ rest) = digits ++ rest := by
  obtain ⟨nonempty, each⟩ := (isNatural_iff digits).mp natural
  obtain ⟨first, others, rfl⟩ := List.exists_cons_of_ne_nil nonempty
  exact trimStart_cons (isBlank_of_isDigit (each first List.mem_cons_self)) _

/-- The digits that a number is written in, with zeros in front. -/
def padded (width number : Nat) : List Char :=
  zeroPadded width (naturalText number)

theorem isNatural_padded (width number : Nat) : isNatural (padded width number) = true :=
  isNatural_zeroPadded width (isNatural_naturalText number)

theorem naturalOfDigits_padded (width number : Nat) :
    naturalOfDigits (padded width number) = number := by
  rw [padded, naturalOfDigits_zeroPadded, naturalOfDigits_naturalText]

theorem length_padded {width number : Nat} (positive : 0 < width) (small : number < 10 ^ width) :
    (padded width number).length = width := by
  have short := (length_naturalText_le_iff positive).mpr small
  rw [padded, length_zeroPadded, Nat.max_eq_left short]

/-- A run of digits is taken as a whole if no digit follows it. -/
theorem takeWhile_digits {digits : List Char}
    (each : ∀ character ∈ digits, character.isDigit = true) (rest : List Char)
    (stop : ∀ character ∈ rest.head?, character.isDigit = false) :
    (digits ++ rest).takeWhile Char.isDigit = digits ∧
      (digits ++ rest).dropWhile Char.isDigit = rest := by
  rw [List.takeWhile_append_of_pos each, List.dropWhile_append_of_pos each]
  cases rest with
  | nil => exact ⟨List.append_nil _, rfl⟩
  | cons character rest =>
    have solid := stop character rfl
    exact ⟨by simp [solid], by simp [solid]⟩

/-- A number that fills its width is read, and nothing after it. -/
theorem readNumber_padded {width number : Nat} (positive : 0 < width)
    (small : number < 10 ^ width) (rest : List Char) :
    readNumber width (padded width number ++ rest) = some (number, rest) := by
  have natural := isNatural_padded width number
  obtain ⟨nonempty, each⟩ := (isNatural_iff _).mp natural
  have taken : ((padded width number ++ rest).take width).takeWhile Char.isDigit =
      padded width number := by
    rw [List.take_left' (length_padded positive small)]
    simpa using (takeWhile_digits each [] nofun).1
  rw [readNumber, trimStart_digits natural, taken, if_neg (by simpa using nonempty),
    naturalOfDigits_padded, List.drop_left]

theorem afterMark_cons {mark : Char} (solid : isBlank mark = false) (rest : List Char) :
    afterMark mark (mark :: rest) = some rest := by
  rw [afterMark, trimStart_cons solid]
  exact if_pos rfl

/-! ### Years -/

theorem readYear_signed (negative : Bool) (number : Nat) {rest : List Char}
    (stop : ∀ character ∈ rest.head?, character.isDigit = false) :
    readYear ((if negative then '-' else '+') :: (padded 4 number ++ rest)) =
      some (if negative then -(number : Int) else number, rest) := by
  obtain ⟨nonempty, each⟩ := (isNatural_iff _).mp (isNatural_padded 4 number)
  obtain ⟨taken, dropped⟩ := takeWhile_digits each _ stop
  have read (sign : Int) : readYear.signed sign (padded 4 number ++ rest) =
      some (sign * number, rest) := by
    rw [readYear.signed, taken, dropped, if_neg (by simpa using nonempty), naturalOfDigits_padded]
  cases negative with
  | true =>
    rw [if_pos rfl, readYear, trimStart_cons (by decide)]
    exact (read (-1)).trans (by rw [if_pos rfl]; simp)
  | false =>
    rw [if_neg Bool.false_ne_true, readYear, trimStart_cons (by decide)]
    exact (read 1).trans (by simp)

theorem readYear_plain {number : Nat} (small : number < 10 ^ 4) (rest : List Char) :
    readYear (padded 4 number ++ rest) = some ((number : Int), rest) := by
  have natural := isNatural_padded 4 number
  obtain ⟨nonempty, each⟩ := (isNatural_iff _).mp natural
  have read := readNumber_padded (by decide) small rest
  rw [readYear, trimStart_digits natural]
  obtain ⟨first, others, shape⟩ := List.exists_cons_of_ne_nil nonempty
  have digit := each first (shape ▸ List.mem_cons_self)
  rw [shape] at read ⊢
  split
  case h_1 same =>
    rw [(List.cons.inj same).1] at digit
    exact absurd digit (by decide)
  case h_2 same =>
    rw [(List.cons.inj same).1] at digit
    exact absurd digit (by decide)
  case h_3 => rw [read]; rfl

/-- A year is read as it is written, with a sign or in four digits. -/
theorem readYear_yearText (year : Int) {rest : List Char}
    (stop : ∀ character ∈ rest.head?, character.isDigit = false) :
    readYear (yearText year ++ rest) = some (year, rest) := by
  rw [yearText]
  split
  case isTrue plain =>
    simp only [Bool.and_eq_true, decide_eq_true_eq] at plain
    have value : (year.natAbs : Int) = year := by omega
    exact (readYear_plain (by omega) rest).trans (by rw [value])
  case isFalse =>
    have read := readYear_signed (decide (year < 0)) year.natAbs stop
    simp only [decide_eq_true_eq] at read
    rw [List.cons_append]
    refine read.trans ?_
    congr 2
    split <;> omega

/-! ### Fractions -/

theorem readFraction_padded (width number : Nat) (positive : 0 < width) (fits : width ≤ 9)
    (small : number < 10 ^ width) :
    readFraction ('.' :: (padded width number ++ ['Z'])) =
      some (number * 10 ^ (9 - width), ['Z']) := by
  obtain ⟨nonempty, each⟩ := (isNatural_iff _).mp (isNatural_padded width number)
  obtain ⟨taken, dropped⟩ := takeWhile_digits each ['Z'] (by rintro _ ⟨⟩; rfl)
  have kept : (padded width number).take 9 = padded width number :=
    List.take_of_length_le (by rw [length_padded positive small]; exact fits)
  rw [readFraction, taken, dropped, if_neg (by simpa using nonempty), kept]
  dsimp only
  rw [naturalOfDigits_padded, length_padded positive small]

/-- A fraction is read as it is written, whatever the number of its digits. -/
theorem readFraction_fractionText {nanosecond : Nat} (small : nanosecond < 10 ^ 9) :
    readFraction (fractionText nanosecond ++ ['Z']) = some (nanosecond, ['Z']) := by
  rw [fractionText]
  split
  case isTrue none =>
    rw [none]
    rfl
  case isFalse =>
    split
    case isTrue thousandths =>
      have read := readFraction_padded 3 (nanosecond / 10 ^ 6) (by decide) (by decide) (by omega)
      exact read.trans (by congr 2; omega)
    case isFalse =>
      split
      case isTrue millionths =>
        have read := readFraction_padded 6 (nanosecond / 10 ^ 3) (by decide) (by decide) (by omega)
        exact read.trans (by congr 2; omega)
      case isFalse =>
        have read := readFraction_padded 9 nanosecond (by decide) (by decide) small
        exact read.trans (by congr 2; omega)

/-- Digits past the ninth are dropped, so a fraction stays below a second. -/
theorem readFraction_lt {text rest : List Char} {nanosecond : Nat}
    (read : readFraction text = some (nanosecond, rest)) : nanosecond < 10 ^ 9 := by
  unfold readFraction at read
  split at read
  case h_1 digits =>
    dsimp only at read
    split at read
    case isTrue => cases read
    case isFalse =>
      obtain ⟨rfl, rfl⟩ := Prod.mk.inj (Option.some.inj read)
      generalize keptEq : (digits.takeWhile Char.isDigit).take 9 = kept
      have each : ∀ character ∈ kept, character.isDigit = true := fun character member =>
        List.mem_takeWhile_imp (List.mem_of_mem_take (keptEq ▸ member))
      have short : kept.length ≤ 9 := by
        rw [← keptEq, List.length_take]
        omega
      calc naturalOfDigits kept * 10 ^ (9 - kept.length)
          < 10 ^ kept.length * 10 ^ (9 - kept.length) :=
            Nat.mul_lt_mul_of_pos_right (naturalOfDigits_lt each) (Nat.pow_pos (by decide))
        _ = 10 ^ 9 := by rw [← Nat.pow_add, Nat.add_sub_cancel' short]
  case h_2 =>
    obtain ⟨rfl, rfl⟩ := Prod.mk.inj (Option.some.inj read)
    decide

/-! ### Instants -/

/-- An instant in the range of the texts, whose fraction is above one in a leap second only. -/
structure IsWritable (instant : Instant) : Prop where
  early : earliest.second ≤ instant.second
  late : instant.second ≤ lastSecond
  fraction : instant.nanosecond < 10 ^ 9 ∨
    instant.nanosecond < 2 * 10 ^ 9 ∧ instant.second % 60 = 59

theorem isWritable_of_ofParts? {date : Date} {hour minute second nanosecond : Nat} {offset : Int}
    {instant : Instant} (small : nanosecond < 10 ^ 9)
    (found : ofParts? date hour minute second nanosecond offset = some instant) :
    instant.IsWritable := by
  unfold ofParts? at found
  dsimp only at found
  split at found
  case isFalse => cases found
  case isTrue valid =>
    split at found
    case isFalse => cases found
    case isTrue inRange =>
      simp only [Bool.and_eq_true, decide_eq_true_eq] at valid inRange
      obtain rfl := Option.some.inj found
      exact ⟨inRange.1, inRange.2, by dsimp only; omega⟩

theorem exists_of_bind {First Second Result : Type} {read : Option (First × Second)}
    {next : First × Second → Option Result} {result : Result}
    (found : read >>= next = some result) :
    ∃ first second, read = some (first, second) ∧ next (first, second) = some result := by
  obtain ⟨⟨first, second⟩, readBoth, rest⟩ := Option.bind_eq_some_iff.mp found
  exact ⟨first, second, readBoth, rest⟩

/-- Every instant that was read can be written. -/
theorem isWritable_of_parse? {text : String} {instant : Instant}
    (found : parse? text = some instant) : instant.IsWritable := by
  obtain ⟨year, _, _, found⟩ := exists_of_bind found
  obtain ⟨_, _, found⟩ := Option.bind_eq_some_iff.mp found
  obtain ⟨month, _, _, found⟩ := exists_of_bind found
  obtain ⟨_, _, found⟩ := Option.bind_eq_some_iff.mp found
  obtain ⟨day, _, _, found⟩ := exists_of_bind found
  dsimp only at found
  split at found
  case h_2 => cases found
  case h_1 =>
    split at found
    case isTrue => cases found
    case isFalse =>
      obtain ⟨hour, _, _, found⟩ := exists_of_bind found
      obtain ⟨_, _, found⟩ := Option.bind_eq_some_iff.mp found
      obtain ⟨minute, _, _, found⟩ := exists_of_bind found
      obtain ⟨_, _, found⟩ := Option.bind_eq_some_iff.mp found
      obtain ⟨second, _, _, found⟩ := exists_of_bind found
      obtain ⟨nanosecond, _, fraction, found⟩ := exists_of_bind found
      obtain ⟨offset, _, _, found⟩ := exists_of_bind found
      dsimp only at found
      split at found
      case isTrue => cases found
      case isFalse => exact isWritable_of_ofParts? (readFraction_lt fraction) found

theorem toList_text (instant : Instant) :
    let secondOfDay := (instant.second % 86400).toNat
    instant.text.toList = yearText instant.date.year ++ '-' ::
      (padded 2 instant.date.month ++ '-' :: (padded 2 instant.date.day ++ 'T' ::
        (padded 2 (secondOfDay / 3600) ++ ':' :: (padded 2 (secondOfDay / 60 % 60) ++ ':' ::
          (padded 2 (secondOfDay % 60 + instant.nanosecond / 10 ^ 9) ++
            (fractionText instant.shownNanosecond ++ ['Z'])))))) := by
  simp [text, dateText, timeText, padded]

/-- The date and the time of day of an instant lead back to it. -/
theorem ofParts?_parts {instant : Instant} (writable : instant.IsWritable) :
    let secondOfDay := (instant.second % 86400).toNat
    ofParts? instant.date (secondOfDay / 3600) (secondOfDay / 60 % 60)
      (secondOfDay % 60 + instant.nanosecond / 10 ^ 9) instant.shownNanosecond 0 =
        some instant := by
  intro secondOfDay
  obtain ⟨early, late, fraction⟩ := writable
  have first : earliest.second = -8334601228800 := by decide
  have last : lastSecond = 8210266876799 := by decide
  have valid : instant.date.isValid = true := Date.isValid_ofDayNumber _
  have numbered : instant.date.dayNumber = instant.second / 86400 := Date.dayNumber_ofDayNumber _
  have years : -262143 ≤ instant.date.year ∧ instant.date.year ≤ 262142 :=
    Date.year_ofDayNumber_bounds
      (by rw [show Date.dayNumber ⟨-262143, 1, 1⟩ = -96465292 by decide]; omega)
      (by rw [show Date.dayNumber ⟨262142, 12, 31⟩ = 95026236 by decide]; omega)
  have seconds : (secondOfDay : Int) = instant.second % 86400 := Int.toNat_of_nonneg (by omega)
  have whole : instant.date.dayNumber * 86400 + (secondOfDay / 3600 : Nat) * 3600 +
      (secondOfDay / 60 % 60 : Nat) * 60 +
      (min (secondOfDay % 60 + instant.nanosecond / 10 ^ 9) 59 : Nat) - 0 * 60 =
        instant.second := by
    rw [numbered]
    omega
  have part : instant.shownNanosecond +
      (secondOfDay % 60 + instant.nanosecond / 10 ^ 9 - 59) * 10 ^ 9 = instant.nanosecond := by
    rw [shownNanosecond]
    omega
  have checks : (decide (-262143 ≤ instant.date.year) && decide (instant.date.year ≤ 262142) &&
      instant.date.isValid && decide (secondOfDay / 3600 < 24) &&
      decide (secondOfDay / 60 % 60 < 60) &&
      decide (secondOfDay % 60 + instant.nanosecond / 10 ^ 9 ≤ 60) &&
      decide ((0 : Int).natAbs < 1440)) = true := by
    simp only [valid, years, Bool.and_eq_true, decide_eq_true_eq, and_true]
    exact ⟨⟨⟨⟨trivial, by omega⟩, by omega⟩, by omega⟩, by decide⟩
  rw [ofParts?, whole, part]
  dsimp only
  rw [if_pos checks, if_pos (by rw [Bool.and_eq_true, decide_eq_true_eq, decide_eq_true_eq]
                                exact ⟨early, late⟩)]

theorem isDigit_head?_cons {mark : Char} (solid : mark.isDigit = false) (rest : List Char) :
    ∀ character ∈ (mark :: rest).head?, character.isDigit = false := by
  rintro _ ⟨⟩
  exact solid

/-- Months and days have at most two digits. -/
theorem month_day_lt (instant : Instant) :
    instant.date.month < 10 ^ 2 ∧ instant.date.day < 10 ^ 2 := by
  have valid : instant.date.isValid = true := Date.isValid_ofDayNumber _
  have short := Date.monthLength_le instant.date.year instant.date.month
  simp only [Date.isValid, Bool.and_eq_true, decide_eq_true_eq] at valid
  omega

theorem bind_of_eq_some {First Result : Type} {read : Option First} {first : First}
    {next : First → Option Result} (found : read = some first) : (read >>= next) = next first := by
  rw [found]
  rfl

/-- An instant is read as it is written. -/
theorem parse?_text {instant : Instant} (writable : instant.IsWritable) :
    parse? instant.text = some instant := by
  obtain ⟨month, day⟩ := instant.month_day_lt
  have parts := ofParts?_parts writable
  have shown := toList_text instant
  dsimp only at parts shown
  obtain ⟨hour, minute, second⟩ : (instant.second % 86400).toNat / 3600 < 10 ^ 2 ∧
      (instant.second % 86400).toNat / 60 % 60 < 10 ^ 2 ∧
      (instant.second % 86400).toNat % 60 + instant.nanosecond / 10 ^ 9 < 10 ^ 2 := by
    have fraction := writable.fraction
    omega
  have nanosecond : instant.shownNanosecond < 10 ^ 9 := Nat.mod_lt _ (by decide)
  rw [parse?, shown]
  refine (bind_of_eq_some (readYear_yearText _ (isDigit_head?_cons (by decide) _))).trans ?_
  refine (bind_of_eq_some (afterMark_cons (by decide) _)).trans ?_
  refine (bind_of_eq_some (readNumber_padded Nat.two_pos month _)).trans ?_
  refine (bind_of_eq_some (afterMark_cons (by decide) _)).trans ?_
  refine (bind_of_eq_some (readNumber_padded Nat.two_pos day _)).trans ?_
  -- The mark between the date and the time of day.
  refine (if_neg (by decide)).trans ?_
  refine (bind_of_eq_some (readNumber_padded Nat.two_pos hour _)).trans ?_
  refine (bind_of_eq_some (afterMark_cons (by decide) _)).trans ?_
  refine (bind_of_eq_some (readNumber_padded Nat.two_pos minute _)).trans ?_
  refine (bind_of_eq_some (afterMark_cons (by decide) _)).trans ?_
  refine (bind_of_eq_some (readNumber_padded Nat.two_pos second _)).trans ?_
  refine (bind_of_eq_some (readFraction_fractionText nanosecond)).trans ?_
  exact parts

end Instant

end PlaylistRules.Calendar
