/-
This file defines instants of time with nanoseconds and their texts in universal
time. A leap second is kept as the second before it with a fraction above one.
Reading is lenient about blanks and the number of digits, and wants a date, a
time with seconds and an offset.
-/

import PlaylistRules.Number.Numeral
import PlaylistRules.Text.Blank
import PlaylistRules.Calendar.Date

namespace PlaylistRules.Calendar

open Number Text

/-- An instant: seconds from the start of 1970 and the nanoseconds after them. -/
structure Instant where
  second : Int
  nanosecond : Nat
deriving DecidableEq

namespace Instant

/-! ### Range and order -/

/-- The earliest instant that has a text. -/
def earliest : Instant :=
  ⟨Date.dayNumber ⟨-262143, 1, 1⟩ * 86400, 0⟩

/-- The last second that has a text. -/
def lastSecond : Int :=
  Date.dayNumber ⟨262142, 12, 31⟩ * 86400 + 86399

/-- Whether one instant comes before another. -/
def isBefore (first second : Instant) : Bool :=
  first.second < second.second ||
    (first.second == second.second && first.nanosecond < second.nanosecond)

/-! ### Writing -/

/-- A year of four digits; other years carry a sign. -/
def yearText (year : Int) : List Char :=
  if 0 ≤ year && year ≤ 9999 then zeroPadded 4 (naturalText year.natAbs)
  else (if year < 0 then '-' else '+') :: zeroPadded 4 (naturalText year.natAbs)

/-- The date of an instant. -/
def date (instant : Instant) : Date :=
  Date.ofDayNumber (instant.second / 86400)

/-- The calendar date of an instant. -/
def dateText (instant : Instant) : List Char :=
  let date := instant.date
  yearText date.year ++ '-' :: zeroPadded 2 (naturalText date.month) ++
    '-' :: zeroPadded 2 (naturalText date.day)

/-- The nanoseconds within the second that is shown. -/
def shownNanosecond (instant : Instant) : Nat :=
  instant.nanosecond % 10 ^ 9

/-- The time of day. A leap second shows as second 60. -/
def timeText (instant : Instant) : List Char :=
  let secondOfDay := (instant.second % 86400).toNat
  let second := secondOfDay % 60 + instant.nanosecond / 10 ^ 9
  zeroPadded 2 (naturalText (secondOfDay / 3600)) ++
    ':' :: zeroPadded 2 (naturalText (secondOfDay / 60 % 60)) ++
    ':' :: zeroPadded 2 (naturalText second)

/-- The fraction in the fewest of no, three, six or nine digits that are exact. -/
def fractionText (nanosecond : Nat) : List Char :=
  if nanosecond = 0 then []
  else if nanosecond % 10 ^ 6 = 0 then '.' :: zeroPadded 3 (naturalText (nanosecond / 10 ^ 6))
  else if nanosecond % 10 ^ 3 = 0 then '.' :: zeroPadded 6 (naturalText (nanosecond / 10 ^ 3))
  else '.' :: zeroPadded 9 (naturalText nanosecond)

/-- The text of an instant in universal time. -/
def text (instant : Instant) : String :=
  String.ofList (instant.dateText ++ 'T' :: instant.timeText ++
    fractionText instant.shownNanosecond ++ ['Z'])

/-- The text of an instant with six digits after the point. -/
def microsecondText (instant : Instant) : String :=
  String.ofList (instant.dateText ++ 'T' :: instant.timeText ++
    '.' :: zeroPadded 6 (naturalText (instant.shownNanosecond / 10 ^ 3)) ++ ['Z'])

/-! ### Reading -/

/-- A number of one to `width` digits after blanks, and what follows it. -/
def readNumber (width : Nat) (text : List Char) : Option (Nat × List Char) :=
  let text := trimStart text
  let digits := (text.take width).takeWhile Char.isDigit
  if digits.isEmpty then none else some (naturalOfDigits digits, text.drop digits.length)

/-- A year: up to four digits, or a sign and any number of digits. -/
def readYear (text : List Char) : Option (Int × List Char) :=
  match trimStart text with
  | '-' :: rest => signed (-1) rest
  | '+' :: rest => signed 1 rest
  | rest => (readNumber 4 rest).map fun (year, rest) => (year, rest)
where
  /-- The digits right after the sign. -/
  signed (sign : Int) (rest : List Char) : Option (Int × List Char) :=
    let digits := rest.takeWhile Char.isDigit
    if digits.isEmpty then none
    else some (sign * naturalOfDigits digits, rest.dropWhile Char.isDigit)

/-- What follows a mark, with blanks in front of it passed over. -/
def afterMark (mark : Char) (text : List Char) : Option (List Char) :=
  match trimStart text with
  | [] => none
  | character :: rest => if character = mark then some rest else none

/-- Nanoseconds after a point, if there is one; digits past the ninth are dropped. -/
def readFraction : List Char → Option (Nat × List Char)
  | '.' :: rest =>
    let digits := rest.takeWhile Char.isDigit
    if digits.isEmpty then none
    else
      let kept := digits.take 9
      some (naturalOfDigits kept * 10 ^ (9 - kept.length), rest.dropWhile Char.isDigit)
  | rest => some (0, rest)

/-- Two digits as a number. -/
def twoDigits? (first second : Char) : Option Nat :=
  if first.isDigit && second.isDigit then some (naturalOfDigits [first, second]) else none

/-- The minutes of an offset of hours and minutes, and what follows it. Colons
and blanks may stand between the two. -/
def readHoursMinutes : List Char → Option (Int × List Char)
  | first :: second :: rest => do
    let hours ← twoDigits? first second
    match rest.dropWhile fun character => character == ':' || isBlank character with
    | third :: fourth :: rest =>
      let minutes ← twoDigits? third fourth
      if minutes < 60 then some (hours * 60 + minutes, rest) else none
    | _ => none
  | _ => none

/-- An offset from universal time in minutes, and what follows it. -/
def readOffset : List Char → Option (Int × List Char)
  | 'Z' :: rest => some (0, rest)
  | 'z' :: rest => some (0, rest)
  | '+' :: rest => readHoursMinutes rest
  | '-' :: rest => (readHoursMinutes rest).map fun (minutes, rest) => (-minutes, rest)
  | '−' :: rest => (readHoursMinutes rest).map fun (minutes, rest) => (-minutes, rest)
  | first :: second :: third :: rest =>
    if [first, second, third].map Char.toLower = ['u', 't', 'c'] then some (0, rest) else none
  | _ => none

/-- The instant of a date and a time of day at an offset in minutes, if there is
one in range. -/
def ofParts? (date : Date) (hour minute second nanosecond : Nat) (offset : Int) : Option Instant :=
  let first := earliest.second
  let years := (-262143 : Int) ≤ date.year && date.year ≤ 262142
  if years && date.isValid && hour < 24 && minute < 60 && second ≤ 60 && offset.natAbs < 1440 then
    let instant : Instant :=
      ⟨date.dayNumber * 86400 + hour * 3600 + minute * 60 + min second 59 - offset * 60,
        nanosecond + (second - 59) * 10 ^ 9⟩
    if first ≤ instant.second && instant.second ≤ lastSecond then some instant else none
  else none

/-- The instant that a text denotes. -/
def parse? (text : String) : Option Instant := do
  let (year, rest) ← readYear text.toList
  let (month, rest) ← readNumber 2 (← afterMark '-' rest)
  let (day, rest) ← readNumber 2 (← afterMark '-' rest)
  let separator :: rest := rest | none
  if separator ≠ 'T' && separator ≠ 't' && separator ≠ ' ' then none
  let (hour, rest) ← readNumber 2 rest
  let (minute, rest) ← readNumber 2 (← afterMark ':' rest)
  let (second, rest) ← readNumber 2 (← afterMark ':' rest)
  let (nanosecond, rest) ← readFraction rest
  let (offset, rest) ← readOffset (trimStart rest)
  if !(trimStart rest).isEmpty then none
  ofParts? ⟨year, month, day⟩ hour minute second nanosecond offset

end Instant

end PlaylistRules.Calendar
