/-
This file defines how far the dates and times of TOML reach: a date, a time of
day, or a date with a time of day and perhaps an offset. All of them have a fixed
number of digits, and the date must exist.
-/

import PlaylistRules.Calendar.Date
import PlaylistRules.Number.Numeral

namespace PlaylistRules.Toml

open Calendar Number

/-! ### Parts -/

/-- The number of exactly `width` digits at the start, and what follows it. -/
def fixedNumber? (width : Nat) (text : List Char) : Option (Nat × List Char) :=
  let digits := text.take width
  if digits.length = width && digits.all Char.isDigit then
    some (naturalOfDigits digits, text.drop width)
  else none

/-- What follows a mark at the start. -/
def afterMark? (mark : Char) : List Char → Option (List Char)
  | [] => none
  | character :: rest => if character = mark then some rest else none

/-- What follows an hour and a minute. -/
def afterHourMinute? (text : List Char) : Option (List Char) := do
  let (hour, rest) ← fixedNumber? 2 text
  let (minute, rest) ← fixedNumber? 2 (← afterMark? ':' rest)
  if hour < 24 && minute < 60 then some rest else none

/-- What follows a point and digits; a point without digits stays. -/
def afterFraction : List Char → List Char
  | '.' :: digit :: rest =>
    if digit.isDigit then rest.dropWhile Char.isDigit else '.' :: digit :: rest
  | text => text

/-- What follows an offset from universal time, if there is one. -/
def afterOffset : List Char → List Char
  | [] => []
  | mark :: rest =>
    if mark = 'Z' || mark = 'z' then rest
    else if mark = '+' || mark = '-' then (afterHourMinute? rest).getD (mark :: rest)
    else mark :: rest

/-! ### Dates and times -/

/-- What follows a time of day. It has seconds, and one of them may be a leap
second. -/
def afterTime? (text : List Char) : Option (List Char) := do
  let rest ← afterHourMinute? text
  let (second, rest) ← fixedNumber? 2 (← afterMark? ':' rest)
  if second ≤ 60 then some (afterFraction rest) else none

/-- What follows a date that exists. -/
def afterDate? (text : List Char) : Option (List Char) := do
  let (year, rest) ← fixedNumber? 4 text
  let (month, rest) ← fixedNumber? 2 (← afterMark? '-' rest)
  let (day, rest) ← fixedNumber? 2 (← afterMark? '-' rest)
  if Date.isValid ⟨year, month, day⟩ then some rest else none

/-- What follows the time of day that belongs to a date, if there is one. -/
def afterTimeOfDate : List Char → List Char
  | [] => []
  | mark :: rest =>
    if mark = 'T' || mark = 't' || mark = ' ' then
      ((afterTime? rest).map afterOffset).getD (mark :: rest)
    else mark :: rest

/-- What follows a date, a time of day or both. -/
def afterDateTime? (text : List Char) : Option (List Char) :=
  match afterDate? text with
  | some rest => some (afterTimeOfDate rest)
  | none => afterTime? text

end PlaylistRules.Toml
