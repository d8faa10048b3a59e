/-
This file defines how the account that runs a program is found: by its number in
the list of accounts of the system. A line of the list gives an account by seven
fields with colons between them; the third one is its number, the sixth one its
home directory.
-/

import PlaylistRules.Number.Numeral

namespace PlaylistRules.Account

open Number

/-- The number that starts a text. -/
def leadingNumber? (text : List Char) : Option Nat :=
  let digits := text.takeWhile Char.isDigit
  if digits.isEmpty then none else some (naturalOfDigits digits)

/-- The number of the account in the status of a process: the first one on the
line of user numbers. -/
def numberInStatus? (status : String) : Option Nat :=
  (status.toList.splitOn '\n').findSome? fun
    | 'U' :: 'i' :: 'd' :: ':' :: rest => leadingNumber? (rest.dropWhile (!Char.isDigit ·))
    | _ => none

/-- The home directory on a line of the list of accounts, if it is that of the
account with a number. -/
def homeOnLine? (number : Nat) (line : List Char) : Option String :=
  match line.splitOn ':' with
  | _ :: _ :: digits :: _ :: _ :: home :: _ =>
    if isNatural digits && naturalOfDigits digits = number && !home.isEmpty then
      some (String.ofList home)
    else none
  | _ => none

/-- The home directory of the account with a number. -/
def home? (accounts : String) (number : Nat) : Option String :=
  (accounts.toList.splitOn '\n').findSome? (homeOnLine? number)

end PlaylistRules.Account
