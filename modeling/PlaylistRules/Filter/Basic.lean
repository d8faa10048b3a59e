/-
This file defines filters: predicates over media records as an author of a
playlist rule writes them. A filter combines comparisons and field groups with
AND, OR and NOT. A field group holds an expression of bare terms for one field,
and an expression in braces adds a sort key and a count to a filter.
-/

import PlaylistRules.Number.Binary64

namespace PlaylistRules

open Number

/-! ### Fields -/

/-- A field of a record whose value is filtered by terms. -/
inductive Field where
  | genre
  | language
  | contentType
deriving DecidableEq

/-- The keyword of a field in rule text. -/
def Field.keyword : Field → String
  | genre => "genre"
  | language => "language"
  | contentType => "type"

/-! ### Comparisons -/

/-- A comparison of a record's number with a number in a filter. -/
inductive Comparison where
  | less
  | greater
  | equal
  | atMost
  | atLeast
deriving DecidableEq

namespace Comparison

/-- The symbol of a comparison in rule text. -/
def symbol : Comparison → String
  | less => "<"
  | greater => ">"
  | equal => "="
  | atMost => "<="
  | atLeast => ">="

/-- The comparison with the given symbol. -/
def ofSymbol? (symbol : List Char) : Option Comparison :=
  match symbol with
  | ['<'] => some less
  | ['>'] => some greater
  | ['='] => some equal
  | ['<', '='] => some atMost
  | ['>', '='] => some atLeast
  | _ => none

/-- Comparison of integers. -/
def holds (comparison : Comparison) (first second : Int) : Bool :=
  match comparison with
  | less => first < second
  | greater => second < first
  | equal => first == second
  | atMost => first ≤ second
  | atLeast => second ≤ first

/-- Ratings closer together than this count as equal. -/
def ratingTolerance : Binary64 :=
  Binary64.ofQuotient false 1 10

/-- Comparison of ratings. Equality allows a difference below the tolerance; the
other comparisons are exact. -/
def holdsRating (comparison : Comparison) (first second : Binary64) : Bool :=
  match comparison with
  | less => first.less second
  | greater => second.less first
  | equal => (first.distance second).less ratingTolerance
  | atMost => first.atMost second
  | atLeast => second.atMost first

end Comparison

/-! ### Filters -/

/-- A predicate over records. Parsing puts terms inside groups of their field
only, and at least two children under `all` and `any`. -/
inductive Filter where
  /-- Every child matches. -/
  | all (children : List Filter)
  /-- Some child matches. -/
  | any (children : List Filter)
  /-- The inner filter does not match. -/
  | not (inner : Filter)
  /-- The value expression of a field matches. -/
  | group (field : Field) (value : Filter)
  /-- The field is the term, whatever the letter case. -/
  | term (field : Field) (text : String)
  /-- The running time in minutes compares as given; a missing one counts as 0. -/
  | runtime (comparison : Comparison) (minutes : Int)
  /-- The year of release compares as given; a missing one counts as 0. -/
  | released (comparison : Comparison) (year : Int)
  /-- The rating compares as given; a missing one counts as 0. -/
  | rating (comparison : Comparison) (value : Binary64)
  /-- The watched flag has the given state. -/
  | watched (state : Bool)

namespace Filter

/-- Whether a filter is a list of children under AND or OR. -/
def isCompound : Filter → Bool
  | all _ => true
  | any _ => true
  | _ => false

/-- Whether a filter is a bare term. -/
def isTerm : Filter → Bool
  | term _ _ => true
  | _ => false

/-- The group of a field that holds one term. -/
def groupOfTerm (field : Field) (text : String) : Filter :=
  group field (term field text)

end Filter

/-! ### Expressions -/

/-- A filter with the order and the number of the records it selects. The sort
key stands as its author wrote it. -/
structure Expression where
  filter : Filter
  sortKey : String
  count : Nat

end PlaylistRules
