/-
This file proves that filters and sort keys agree on which of two records has the larger
number. A comparison with a threshold is kept by smaller numbers, or by larger ones, so
behind a sort by that number the matching records stand together at one end of the list.
Both sides count a missing number as 0. They order ratings differently, since a sort tells
the two zeros apart and a comparison does not, but never the opposite way round.
-/

import PlaylistRules.Filter.Evaluation
import PlaylistRules.Proofs.Sorting

namespace PlaylistRules

open Number

/-! ### Ends of a list -/

section

variable {Item : Type} {holds : Item → Bool} {list : List Item}

/-- What earlier members inherit from later ones holds of the members of a prefix. -/
theorem filter_prefix_of_pairwise
    (inherited : list.Pairwise fun earlier later => holds later = true → holds earlier = true) :
    list.filter holds <+: list := by
  induction list with
  | nil => exact List.prefix_refl _
  | cons first rest inductionHypothesis =>
    rw [List.pairwise_cons] at inherited
    by_cases holdsFirst : holds first = true
    · rw [List.filter_cons_of_pos holdsFirst]
      exact List.cons_prefix_cons.mpr ⟨rfl, inductionHypothesis inherited.2⟩
    · have none : rest.filter holds = [] :=
        List.filter_eq_nil_iff.mpr fun later member holdsLater =>
          holdsFirst (inherited.1 later member holdsLater)
      rw [List.filter_cons_of_neg holdsFirst, none]
      exact List.nil_prefix

/-- What later members inherit from earlier ones holds of the members of a suffix. -/
theorem filter_suffix_of_pairwise
    (inherited : list.Pairwise fun earlier later => holds earlier = true → holds later = true) :
    list.filter holds <:+ list := by
  rw [← List.reverse_prefix, ← List.filter_reverse]
  exact filter_prefix_of_pairwise (List.pairwise_reverse.mpr inherited)

end

/-- Behind a sort, what a record inherits from those that may stand after it holds of a
prefix. -/
theorem filter_prefix_sortRecords (draw : Nat) {key : SortKey} (fixed : key ≠ .random)
    {holds : Record → Bool} {records : List Record}
    (inherited : ∀ first ∈ records, ∀ second ∈ records, key.precedes first second = true →
      holds second = true → holds first = true) :
    (sortRecords draw key records).filter holds <+: sortRecords draw key records := by
  have sort := isStableSort_sortRecords draw fixed records
  refine filter_prefix_of_pairwise (sort.pairwise_precedes.imp_of_mem fun earlier later => ?_)
  exact inherited _ (sort.perm.mem_iff.mp earlier) _ (sort.perm.mem_iff.mp later)

/-- Behind a sort, what a record inherits from those that may stand before it holds of a
suffix. -/
theorem filter_suffix_sortRecords (draw : Nat) {key : SortKey} (fixed : key ≠ .random)
    {holds : Record → Bool} {records : List Record}
    (inherited : ∀ first ∈ records, ∀ second ∈ records, key.precedes first second = true →
      holds first = true → holds second = true) :
    (sortRecords draw key records).filter holds <:+ sortRecords draw key records := by
  have sort := isStableSort_sortRecords draw fixed records
  refine filter_suffix_of_pairwise (sort.pairwise_precedes.imp_of_mem fun earlier later => ?_)
  exact inherited _ (sort.perm.mem_iff.mp earlier) _ (sort.perm.mem_iff.mp later)

/-! ### Comparisons with a threshold -/

/-- In the total order a number stands after none that is greater. -/
theorem Number.Binary64.place_le_of_totalPlace_le {first second : Binary64}
    (le : first.totalPlace ≤ second.totalPlace) : first.place ≤ second.place := by
  obtain ⟨firstNegative, firstCode⟩ := first
  obtain ⟨secondNegative, secondCode⟩ := second
  cases firstNegative <;> cases secondNegative <;> simp [totalPlace, place] at le ⊢ <;> omega

namespace Comparison

variable {comparison : Comparison}

/-- Smaller numbers stay below a threshold. -/
theorem holds_of_le (downward : comparison ∈ [less, atMost]) {first second threshold : Int}
    (le : first ≤ second) (holdsSecond : comparison.holds second threshold = true) :
    comparison.holds first threshold = true := by
  rcases List.mem_pair.mp downward with rfl | rfl
  · exact decide_eq_true (Int.lt_of_le_of_lt le (of_decide_eq_true holdsSecond))
  · exact decide_eq_true (Int.le_trans le (of_decide_eq_true holdsSecond))

/-- Larger numbers stay above a threshold. -/
theorem holds_of_ge (upward : comparison ∈ [greater, atLeast]) {first second threshold : Int}
    (le : first ≤ second) (holdsFirst : comparison.holds first threshold = true) :
    comparison.holds second threshold = true := by
  rcases List.mem_pair.mp upward with rfl | rfl
  · exact decide_eq_true (Int.lt_of_lt_of_le (of_decide_eq_true holdsFirst) le)
  · exact decide_eq_true (Int.le_trans (of_decide_eq_true holdsFirst) le)

theorem holdsRating_of_le (downward : comparison ∈ [less, atMost])
    {first second threshold : Binary64} (number : first.isNotANumber = false)
    (le : first.totalPlace ≤ second.totalPlace)
    (holdsSecond : comparison.holdsRating second threshold = true) :
    comparison.holdsRating first threshold = true := by
  have inPlace := Binary64.place_le_of_totalPlace_le le
  rcases List.mem_pair.mp downward with rfl | rfl
  · simp only [holdsRating, Binary64.less, Bool.and_eq_true, decide_eq_true_eq, number,
      Bool.not_false] at holdsSecond ⊢
    exact ⟨⟨trivial, holdsSecond.1.2⟩, Int.lt_of_le_of_lt inPlace holdsSecond.2⟩
  · simp only [holdsRating, Binary64.atMost, Bool.and_eq_true, decide_eq_true_eq, number,
      Bool.not_false] at holdsSecond ⊢
    exact ⟨⟨trivial, holdsSecond.1.2⟩, Int.le_trans inPlace holdsSecond.2⟩

theorem holdsRating_of_ge (upward : comparison ∈ [greater, atLeast])
    {first second threshold : Binary64} (number : second.isNotANumber = false)
    (le : first.totalPlace ≤ second.totalPlace)
    (holdsFirst : comparison.holdsRating first threshold = true) :
    comparison.holdsRating second threshold = true := by
  have inPlace := Binary64.place_le_of_totalPlace_le le
  rcases List.mem_pair.mp upward with rfl | rfl
  · simp only [holdsRating, Binary64.less, Bool.and_eq_true, decide_eq_true_eq, number,
      Bool.not_false, and_true] at holdsFirst ⊢
    exact ⟨holdsFirst.1.1, Int.lt_of_lt_of_le holdsFirst.2 inPlace⟩
  · simp only [holdsRating, Binary64.atMost, Bool.and_eq_true, decide_eq_true_eq, number,
      Bool.not_false, and_true] at holdsFirst ⊢
    exact ⟨holdsFirst.1.1, Int.le_trans holdsFirst.2 inPlace⟩

end Comparison

/-! ### Sorted records -/

/-- Two keys that sort by one number, upwards and downwards. -/
structure SortsBy (rising falling : SortKey) (number : Record → Int) : Prop where
  risingFixed : rising ≠ .random
  fallingFixed : falling ≠ .random
  rises : ∀ first second, rising.precedes first second = true → number first ≤ number second
  falls : ∀ first second, falling.precedes first second = true → number second ≤ number first

namespace SortsBy

variable {rising falling : SortKey} {number : Record → Int}
  (sorts : SortsBy rising falling number) (draw : Nat) (records : List Record)

include sorts

/-- Records below a threshold come first under the rising key and last under the falling
one. -/
theorem ends_of_downward {comparison : Comparison} (downward : comparison ∈ [.less, .atMost])
    (threshold : Int) :
    let holds record := comparison.holds (number record) threshold
    (sortRecords draw rising records).filter holds <+: sortRecords draw rising records ∧
      (sortRecords draw falling records).filter holds <:+ sortRecords draw falling records := by
  constructor
  · exact filter_prefix_sortRecords draw sorts.risingFixed fun first _ second _ before =>
      Comparison.holds_of_le downward (sorts.rises first second before)
  · exact filter_suffix_sortRecords draw sorts.fallingFixed fun first _ second _ before =>
      Comparison.holds_of_le downward (sorts.falls first second before)

/-- Records above a threshold come last under the rising key and first under the falling
one. -/
theorem ends_of_upward {comparison : Comparison} (upward : comparison ∈ [.greater, .atLeast])
    (threshold : Int) :
    let holds record := comparison.holds (number record) threshold
    (sortRecords draw rising records).filter holds <:+ sortRecords draw rising records ∧
      (sortRecords draw falling records).filter holds <+: sortRecords draw falling records := by
  constructor
  · exact filter_suffix_sortRecords draw sorts.risingFixed fun first _ second _ before =>
      Comparison.holds_of_ge upward (sorts.rises first second before)
  · exact filter_prefix_sortRecords draw sorts.fallingFixed fun first _ second _ before =>
      Comparison.holds_of_ge upward (sorts.falls first second before)

end SortsBy

theorem sortsBy_runtime : SortsBy .shortest .longest Record.runtimeOrZero :=
  ⟨by decide, by decide, fun _ _ => of_decide_eq_true, fun _ _ => of_decide_eq_true⟩

theorem sortsBy_year : SortsBy .oldestRelease .newestRelease Record.yearOrZero :=
  ⟨by decide, by decide, fun _ _ => of_decide_eq_true, fun _ _ => of_decide_eq_true⟩

/-- Behind a sort by a number, the records that a threshold on the same number lets through
stand together at one end of the list. Small numbers stand at the start under the rising
keys and at the end under the falling ones, and the rating falls. -/
theorem matching_at_ends (draw : Nat) (records : List Record)
    (numbers : ∀ record ∈ records, record.ratingOrZero.isNotANumber = false) :
    let sorted (key : SortKey) := sortRecords draw key records
    let matching (filter : Filter) (key : SortKey) := (sorted key).filter filter.evaluate
    (∀ comparison ∈ [Comparison.less, .atMost],
      (∀ minutes : Int,
        matching (.runtime comparison minutes) .shortest <+: sorted .shortest ∧
        matching (.runtime comparison minutes) .longest <:+ sorted .longest) ∧
      (∀ year : Int,
        matching (.released comparison year) .oldestRelease <+: sorted .oldestRelease ∧
        matching (.released comparison year) .newestRelease <:+ sorted .newestRelease) ∧
      ∀ rating : Binary64, matching (.rating comparison rating) .rating <:+ sorted .rating) ∧
    ∀ comparison ∈ [Comparison.greater, .atLeast],
      (∀ minutes : Int,
        matching (.runtime comparison minutes) .shortest <:+ sorted .shortest ∧
        matching (.runtime comparison minutes) .longest <+: sorted .longest) ∧
      (∀ year : Int,
        matching (.released comparison year) .oldestRelease <:+ sorted .oldestRelease ∧
        matching (.released comparison year) .newestRelease <+: sorted .newestRelease) ∧
      ∀ rating : Binary64, matching (.rating comparison rating) .rating <+: sorted .rating := by
  intro sorted matching
  constructor
  · intro comparison downward
    refine ⟨fun minutes => ?_, fun year => ?_, fun rating => ?_⟩
    · exact sortsBy_runtime.ends_of_downward draw records downward minutes
    · exact sortsBy_year.ends_of_downward draw records downward year
    · exact filter_suffix_sortRecords draw (by decide) fun _ _ second member before =>
        Comparison.holdsRating_of_le downward (numbers second member) (of_decide_eq_true before)
  · intro comparison upward
    refine ⟨fun minutes => ?_, fun year => ?_, fun rating => ?_⟩
    · exact sortsBy_runtime.ends_of_upward draw records upward minutes
    · exact sortsBy_year.ends_of_upward draw records upward year
    · exact filter_prefix_sortRecords draw (by decide) fun first member _ _ before =>
        Comparison.holdsRating_of_ge upward (numbers first member) (of_decide_eq_true before)

/-- A missing rating stands with zero, in front of negative zero. A threshold of zero lets
both through, and only the number next below zero is behind them. -/
theorem matching_at_ends_signed_zeros :
    let record (id : String) (runtime : Option Int) (rating : Option Binary64) : Record :=
      ⟨id, "", "Movie", .empty, runtime, none, false, none, rating, none⟩
    let records := [record "above zero" (some 120) (some ⟨false, 1⟩), record "missing" none none,
      record "negative zero" (some 90) (some ⟨true, 0⟩),
      record "below zero" (some (-5)) (some ⟨true, 1⟩)]
    let sorted := sortRecords 0 .rating records
    let matching (filter : Filter) := sorted.filter filter.evaluate
    (∀ record ∈ records, record.ratingOrZero.isNotANumber = false) ∧
      sorted = records ∧
      (matching (.rating .atLeast Binary64.zero)).map (·.id) =
        ["above zero", "missing", "negative zero"] ∧
      matching (.rating .atLeast Binary64.zero) <+: sorted ∧
      matching (.rating .less Binary64.zero) <:+ sorted ∧
      (sortRecords 0 .shortest records).filter (Filter.runtime .greater (-1)).evaluate <:+
        sortRecords 0 .shortest records := by
  intro record records sorted matching
  have numbers : ∀ record ∈ records, record.ratingOrZero.isNotANumber = false := by decide
  have order : sorted = records := List.mergeSort_of_pairwise (by decide)
  have through : (matching (.rating .atLeast Binary64.zero)).map (·.id) =
      ["above zero", "missing", "negative zero"] := by
    subst matching
    dsimp only
    rw [order]
    decide
  obtain ⟨downward, upward⟩ := matching_at_ends 0 records numbers
  exact ⟨numbers, order, through, (upward .atLeast (by decide)).2.2 Binary64.zero,
    (downward .less (by decide)).2.2 Binary64.zero, ((upward .greater (by decide)).1 (-1)).1⟩

end PlaylistRules
