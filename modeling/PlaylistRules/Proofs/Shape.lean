/-
This file says which filters a text can stand for, and how far down they reach. A
list has at least two members, groups do not nest, and a term stands in a group of
its own field and nowhere else. Two measures count levels: the height of a filter,
and the number of levels that reading its text takes, in which the delimiters around
a list count as one more.
-/

import Mathlib.Data.List.Forall2
import PlaylistRules.Proofs.Reading

namespace PlaylistRules

open Number Text

namespace Filter

/-! ### Shape -/

/-- A filter as it can stand in a clause or in the value of a field, with terms and
ratings of the given kinds. -/
inductive Shaped (terms : Field → String → Prop) (ratings : Binary64 → Prop) :
    Bracketing → Filter → Prop where
  | all {style : Bracketing} {children : List Filter} (two : 2 ≤ children.length)
      (each : ∀ child ∈ children, Shaped terms ratings style child) :
      Shaped terms ratings style (.all children)
  | any {style : Bracketing} {children : List Filter} (two : 2 ≤ children.length)
      (each : ∀ child ∈ children, Shaped terms ratings style child) :
      Shaped terms ratings style (.any children)
  | not {style : Bracketing} {inner : Filter} (inside : Shaped terms ratings style inner) :
      Shaped terms ratings style (.not inner)
  | group {field : Field} {value : Filter} (inside : Shaped terms ratings (.value field) value) :
      Shaped terms ratings .clause (.group field value)
  | term {field : Field} {text : String} (allowed : terms field text) :
      Shaped terms ratings (.value field) (.term field text)
  | runtime {comparison : Comparison} {minutes : Int} (nonnegative : 0 ≤ minutes)
      (bounded : minutes < 2 ^ 63) : Shaped terms ratings .clause (.runtime comparison minutes)
  | released {comparison : Comparison} {year : Int} (nonnegative : 0 ≤ year)
      (bounded : year ≤ 9999) : Shaped terms ratings .clause (.released comparison year)
  | rating {comparison : Comparison} {value : Binary64} (allowed : ratings value) :
      Shaped terms ratings .clause (.rating comparison value)
  | watched {state : Bool} : Shaped terms ratings .clause (.watched state)

/-- Shape with weaker conditions on terms and ratings. -/
theorem Shaped.mono {terms otherTerms : Field → String → Prop}
    {ratings otherRatings : Binary64 → Prop}
    (weakerTerms : ∀ field text, terms field text → otherTerms field text)
    (weakerRatings : ∀ value, ratings value → otherRatings value) {style : Bracketing}
    {filter : Filter} (shaped : filter.Shaped terms ratings style) :
    filter.Shaped otherTerms otherRatings style := by
  induction shaped with
  | all two _ inductionHypothesis => exact .all two inductionHypothesis
  | any two _ inductionHypothesis => exact .any two inductionHypothesis
  | not _ inductionHypothesis => exact .not inductionHypothesis
  | group _ inductionHypothesis => exact .group inductionHypothesis
  | term allowed => exact .term (weakerTerms _ _ allowed)
  | runtime nonnegative bounded => exact .runtime nonnegative bounded
  | released nonnegative bounded => exact .released nonnegative bounded
  | rating allowed => exact .rating (weakerRatings _ allowed)
  | watched => exact .watched

/-! ### Levels -/

mutual

/-- The number of levels below a filter, where a list inside another filter takes
`wrapping` levels more for the delimiters around it. -/
def nesting (wrapping : Nat) : Filter → Nat
  | all children => 1 + nestingEach wrapping children
  | any children => 1 + nestingEach wrapping children
  | not inner => 1 + (nesting wrapping inner + if inner.isCompound then wrapping else 0)
  | group _ value => 1 + (nesting wrapping value + if value.isCompound then wrapping else 0)
  | term _ _ => 0
  | runtime _ _ => 0
  | released _ _ => 0
  | rating _ _ => 0
  | watched _ => 0

def nestingEach (wrapping : Nat) : List Filter → Nat
  | [] => 0
  | child :: rest =>
    max (nesting wrapping child + if child.isCompound then wrapping else 0)
      (nestingEach wrapping rest)

end

/-- The number of edges on the longest way down. -/
def height (filter : Filter) : Nat := filter.nesting 0

/-- The number of levels that reading the text of the filter takes. -/
def cost (filter : Filter) : Nat := filter.nesting 1

/-- The levels of a filter that stands inside another. -/
def wrappedNesting (wrapping : Nat) (filter : Filter) : Nat :=
  filter.nesting wrapping + if filter.isCompound then wrapping else 0

theorem nesting_not (wrapping : Nat) (inner : Filter) :
    (Filter.not inner).nesting wrapping = inner.wrappedNesting wrapping + 1 := by
  rw [nesting, Nat.add_comm]
  rfl

theorem nesting_group (wrapping : Nat) (field : Field) (value : Filter) :
    (Filter.group field value).nesting wrapping = value.wrappedNesting wrapping + 1 := by
  rw [nesting, Nat.add_comm]
  rfl

/-- All members of a list stay below a bound exactly when each of them does. -/
theorem nestingEach_lt_iff (wrapping bound : Nat) {children : List Filter}
    (nonempty : children ≠ []) :
    nestingEach wrapping children < bound ↔
      ∀ child ∈ children, child.wrappedNesting wrapping < bound := by
  induction children with
  | nil => exact absurd rfl nonempty
  | cons child rest inductionHypothesis =>
    rw [nestingEach, Nat.max_lt, List.forall_mem_cons]
    refine and_congr_right fun firstLess => ?_
    by_cases last : rest = []
    · subst last
      simpa [nestingEach] using Nat.zero_lt_of_lt firstLess
    · exact inductionHypothesis last

@[simp]
theorem wrappedNesting_zero (filter : Filter) : filter.wrappedNesting 0 = filter.height := by
  simp [wrappedNesting, height]

end Filter

end PlaylistRules
