/-
This file defines the edit distance of two texts: the least number of characters
to insert, delete or replace to get from one to the other. Row by row it takes
the distances of a growing prefix of the first text from all prefixes of the
second.
-/

namespace PlaylistRules.Text

/-- The distances that follow `left` in the row of a longer prefix. `above` holds
the distances of the shorter prefix, `diagonal` the one above and to the left. -/
def nextDistances (character : Char) (diagonal left : Nat) : List Char → List Nat → List Nat
  | other :: rest, above :: aboves =>
    let replaced := if character = other then diagonal else diagonal + 1
    let distance := min replaced (min (above + 1) (left + 1))
    distance :: nextDistances character above distance rest aboves
  | _, _ => []

/-- The row of a prefix that is one character longer. -/
def nextRow (target : List Char) (row : List Nat) (character : Char) : List Nat :=
  match row with
  | [] => []
  | diagonal :: aboves =>
    (diagonal + 1) :: nextDistances character diagonal (diagonal + 1) target aboves

/-- The edit distance of two texts. -/
def distance (first second : List Char) : Nat :=
  (first.foldl (nextRow second) (List.range (second.length + 1))).getLastD 0

end PlaylistRules.Text
