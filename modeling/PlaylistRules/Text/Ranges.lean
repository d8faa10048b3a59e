/-
This file defines sets of characters as ranges of code points.
-/

namespace PlaylistRules.Text

/-- Ranges of code points: the first and the last one of each. -/
abbrev Ranges := List (Nat × Nat)

/-- Whether a code point lies in one of the ranges. -/
def inRanges (ranges : Ranges) (code : Nat) : Bool :=
  ranges.any fun range => range.1 ≤ code && code ≤ range.2

end PlaylistRules.Text
