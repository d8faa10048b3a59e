/-
This file proves how much of a record a filter sees. Texts count with every character
lowered on its own, genres as the set of such texts, and a missing number counts as 0.
Records that look the same in that way match the same filters, and a filter matches the
same records however the letters of its terms are cased.
-/

import Mathlib.Data.List.Forall2
import PlaylistRules.Proofs.Answers

namespace PlaylistRules

open Number Text

/-! ### Ratings in one place -/

/-- Only the two zeros share a place. -/
theorem Number.Binary64.eq_or_zero_of_place_eq {first second : Binary64}
    (same : first.place = second.place) : first = second ∨ first.code = 0 ∧ second.code = 0 := by
  obtain ⟨firstNegative, firstCode⟩ := first
  obtain ⟨secondNegative, secondCode⟩ := second
  cases firstNegative <;> cases secondNegative <;> simp [place] at same ⊢ <;> omega

/-- Comparisons do not tell the two zeros apart. -/
theorem Comparison.holdsRating_congr {first second : Binary64} (same : first.place = second.place)
    (comparison : Comparison) (threshold : Binary64) :
    comparison.holdsRating first threshold = comparison.holdsRating second threshold := by
  rcases Binary64.eq_or_zero_of_place_eq same with rfl | ⟨firstZero, secondZero⟩
  · rfl
  · obtain ⟨firstNegative, firstCode⟩ := first
    obtain ⟨secondNegative, secondCode⟩ := second
    subst firstZero secondZero
    cases firstNegative <;> cases secondNegative <;> cases comparison <;> rfl

/-! ### What filters see -/

/-- The genres of a record with every character lowered on its own. -/
def Record.foldedGenres (record : Record) : List (List Char) :=
  record.genres.names.map (fold ·.toList)

/-- Two records that filters cannot tell apart. Both zeros are one rating. -/
structure Record.LooksLike (first second : Record) : Prop where
  genres : ∀ folded, folded ∈ first.foldedGenres ↔ folded ∈ second.foldedGenres
  language : first.language.map (fold ·.toList) = second.language.map (fold ·.toList)
  contentType : fold first.contentType.toList = fold second.contentType.toList
  runtime : first.runtimeOrZero = second.runtimeOrZero
  year : first.yearOrZero = second.yearOrZero
  rating : first.ratingOrZero.place = second.ratingOrZero.place
  watched : first.watched = second.watched

theorem Record.LooksLike.refl (record : Record) : record.LooksLike record :=
  ⟨fun _ => Iff.rfl, rfl, rfl, rfl, rfl, rfl, rfl⟩

namespace Filter

/-- Two filters of one shape whose terms are the same with every character lowered on its
own. -/
inductive ReadsLike : Filter → Filter → Prop where
  | all {children others : List Filter} (each : List.Forall₂ ReadsLike children others) :
      ReadsLike (.all children) (.all others)
  | any {children others : List Filter} (each : List.Forall₂ ReadsLike children others) :
      ReadsLike (.any children) (.any others)
  | not {inner other : Filter} (inside : ReadsLike inner other) :
      ReadsLike (.not inner) (.not other)
  | group {field : Field} {value other : Filter} (inside : ReadsLike value other) :
      ReadsLike (.group field value) (.group field other)
  | term {field : Field} {text other : String} (same : fold text.toList = fold other.toList) :
      ReadsLike (.term field text) (.term field other)
  | runtime (comparison : Comparison) (minutes : Int) :
      ReadsLike (.runtime comparison minutes) (.runtime comparison minutes)
  | released (comparison : Comparison) (year : Int) :
      ReadsLike (.released comparison year) (.released comparison year)
  | rating (comparison : Comparison) (value : Binary64) :
      ReadsLike (.rating comparison value) (.rating comparison value)
  | watched (state : Bool) : ReadsLike (.watched state) (.watched state)

theorem termHolds_congr {first second : Record} (view : first.LooksLike second) (field : Field)
    {text other : String} (same : fold text.toList = fold other.toList) :
    termHolds field text first = termHolds field other second := by
  cases field with
  | genre =>
    rw [Bool.eq_iff_iff]
    simpa [termHolds, sameFolded, Record.foldedGenres, same] using view.genres (fold other.toList)
  | language =>
    have folded (record : Record) (term : String) : termHolds .language term record =
        (record.language.map (fold ·.toList)).any (· == fold term.toList) := by
      rw [Option.any_map]
      rfl
    rw [folded, folded, view.language, same]
  | contentType => rw [termHolds, termHolds, sameFolded, sameFolded, view.contentType, same]

mutual

/-- Filters that read alike agree on records that look alike. -/
theorem evaluate_congr {first second : Record} (view : first.LooksLike second)
    {filter other : Filter} : filter.ReadsLike other → filter.evaluate first = other.evaluate second
  | .all each => by
    rw [evaluate_all, evaluate_all]
    exact (evaluate_congr_each view each).1
  | .any each => by
    rw [evaluate_any, evaluate_any]
    exact (evaluate_congr_each view each).2
  | .not inside => congrArg Bool.not (evaluate_congr view inside)
  | .group inside => by
    rw [evaluate_group, evaluate_group]
    exact evaluate_congr view inside
  | .term same => termHolds_congr view _ same
  | .runtime comparison minutes => congrArg (comparison.holds · minutes) view.runtime
  | .released comparison year => congrArg (comparison.holds · year) view.year
  | .rating comparison value => comparison.holdsRating_congr view.rating value
  | .watched state => congrArg (· == state) view.watched

theorem evaluate_congr_each {first second : Record} (view : first.LooksLike second)
    {children others : List Filter} : List.Forall₂ ReadsLike children others →
      children.all (·.evaluate first) = others.all (·.evaluate second) ∧
        children.any (·.evaluate first) = others.any (·.evaluate second)
  | .nil => ⟨rfl, rfl⟩
  | .cons head tail => by
    have rest := evaluate_congr_each view tail
    simp only [List.all_cons, List.any_cons, evaluate_congr view head, rest, and_self]

end

/-! ### Letter case -/

mutual

theorem ReadsLike.refl : (filter : Filter) → filter.ReadsLike filter
  | .all children => .all (ReadsLike.refl_each children)
  | .any children => .any (ReadsLike.refl_each children)
  | .not inner => .not (ReadsLike.refl inner)
  | .group _ value => .group (ReadsLike.refl value)
  | .term _ _ => .term rfl
  | .runtime comparison minutes => .runtime comparison minutes
  | .released comparison year => .released comparison year
  | .rating comparison value => .rating comparison value
  | .watched state => .watched state

theorem ReadsLike.refl_each : (children : List Filter) → List.Forall₂ ReadsLike children children
  | [] => .nil
  | child :: rest => .cons (ReadsLike.refl child) (ReadsLike.refl_each rest)

end

/-- A filter gives one answer for all records that look alike, whatever else is known about
them, and the letter case of its terms changes no answer. -/
theorem evaluate_congr_folded :
    (∀ (filter : Filter) (first second : Record), first.LooksLike second →
      filter.evaluate first = filter.evaluate second) ∧
    ∀ (filter other : Filter) (record : Record), filter.ReadsLike other →
      filter.evaluate record = other.evaluate record :=
  ⟨fun filter _ _ view => evaluate_congr view (ReadsLike.refl filter),
    fun _ _ record reads => evaluate_congr (Record.LooksLike.refl record) reads⟩

/-- A genre in two spellings looks like the one spelling that has them both, a rating of
negative zero like none, and a capital I with a dot like the two characters that it lowers
to. -/
theorem evaluate_congr_folded_dotted_capital :
    let scattered : Record := ⟨"1", "Kapı", "MOVIE", .ofList ["Korku İ", "KORKU İ"], some 0,
      some "TR", true, none, some ⟨true, 0⟩, none⟩
    let plain : Record := ⟨"2", "", "movie", .ofList ["korku i\u0307"], none, some "tr", true,
      some 0, none, none⟩
    let filter : Filter := .all [.group .genre (.not (.term .genre "korku")),
      .group .genre (.term .genre "korku İ"), .rating .atLeast Binary64.zero, .watched true]
    let other : Filter := .all [.group .genre (.not (.term .genre "KORKU")),
      .group .genre (.term .genre "KORKU i\u0307"), .rating .atLeast Binary64.zero, .watched true]
    scattered.LooksLike plain ∧ filter.ReadsLike other ∧
      filter.evaluate scattered = true ∧ filter.evaluate plain = true ∧
      other.evaluate scattered = true := by
  intro scattered plain filter other
  have view : scattered.LooksLike plain := by
    refine ⟨fun folded => ?_, by decide +kernel, by decide +kernel, rfl, rfl, rfl, rfl⟩
    have genres : scattered.foldedGenres = ["korku i\u0307".toList, "korku i\u0307".toList] ∧
        plain.foldedGenres = ["korku i\u0307".toList] := by decide +kernel
    rw [genres.1, genres.2]
    simp
  have reads : filter.ReadsLike other :=
    .all (.cons (.group (.not (.term (by decide +kernel))))
      (.cons (.group (.term (by decide +kernel))) (.cons (.rating _ _) (.cons (.watched _) .nil))))
  have answer : filter.evaluate scattered = true := by decide +kernel
  obtain ⟨byView, byTerms⟩ := evaluate_congr_folded
  exact ⟨view, reads, answer, (byView filter scattered plain view).symm.trans answer,
    (byTerms filter other scattered reads).symm.trans answer⟩

end Filter

end PlaylistRules
