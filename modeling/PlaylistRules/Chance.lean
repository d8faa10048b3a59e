/-
This file defines what is left to chance: the ids of playlists and the numbers
that shuffles draw. Both come from a seed. Ids count up from the seed, so no two
of them are equal. Drawn numbers are the seed times powers of fixed factors,
modulo a prime so large that every order of hundreds of records can come up.
-/

import PlaylistRules.Rule
import PlaylistRules.Storage.PlaylistFolder
import PlaylistRules.Text.Hexadecimal

namespace PlaylistRules.Chance

open Calendar Storage Text

/-! ### Ids -/

/-- The id that holds the last 122 bits of a number: 32 hexadecimal digits in five
groups, of which the first of the third group is 4 and the first of the fourth
group is 8, 9, a or b. -/
def idText (number : Nat) : String :=
  String.ofList (
    hexDigits 8 (number / 2 ^ 90) ++ '-' :: hexDigits 4 (number / 2 ^ 74) ++
    '-' :: '4' :: hexDigits 3 (number / 2 ^ 62) ++
    '-' :: hexDigit (8 + number / 2 ^ 60 % 4) :: hexDigits 3 (number / 2 ^ 48) ++
    '-' :: hexDigits 12 number)

/-- The stamps of playlists that are made at one time. -/
def stamps (seed : Nat) (time : Instant) (index : Nat) : Stamp :=
  ⟨idText (seed + index), time⟩

/-! ### Shuffles -/

/-- A prime number. -/
def modulus : Nat := 2 ^ 4423 - 1

/-- The number multiplied by a factor over and over. -/
def multiplied (factor : Nat) : (times : Nat) → (number : Nat) → Nat
  | 0, number => number
  | times + 1, number => multiplied factor times (number * factor % modulus)

/-- The factor between the numbers of a rule and those of the next rule. -/
def ruleFactor : Nat := 6364136223846793005 ^ 61

/-- The factor between the number of an expression and that of the next one. -/
def expressionFactor : Nat := 3935559000370003845 ^ 61

/-- The numbers drawn for the expressions of the rule with an index. -/
def draws (seed rule : Nat) : Draws :=
  fun expression =>
    multiplied expressionFactor (expression + 1) (multiplied ruleFactor rule seed)

end PlaylistRules.Chance
