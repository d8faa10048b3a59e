/-
This file says in which order an expression selects records. A sort key only says which
of two records has to come first; records that it does not tell apart tie, and ties stay
in the order of the source. There is one such order of the matching records, and the
selection is the beginning of it. For a pair of keys that sort by the same quantity the
other way round that is not the reverse order, unless reversing the ties changes nothing.

A shuffle is some order of the matching records, and each order of them is some shuffle.
-/

import Mathlib.Data.List.Perm.Basic
import PlaylistRules.Selection

namespace PlaylistRules

open Number Calendar Text

/-! ### What sort keys say -/

/-- Dictionary order of lists of numbers. -/
def comesBefore : List Nat → List Nat → Bool
  | _, [] => false
  | [], _ :: _ => true
  | first :: rest, other :: others =>
    first < other || (first == other && comesBefore rest others)

/-- The code points of the name of a record in small letters. -/
def Record.foldedCodes (record : Record) : List Nat :=
  (lowercase record.name).toList.map Char.toNat

/-- The total order of binary floating-point numbers. What has a sign comes before what
has none, also zero; among numbers without a sign the codes count up, and among those with
one they count down. -/
def Number.Binary64.isBelow (first second : Binary64) : Bool :=
  match first.negative, second.negative with
  | true, false => true
  | false, true => false
  | false, false => first.code < second.code
  | true, true => second.code < first.code

namespace SortKey

/-- Whether a sort key puts the first record before the second one, wherever they come. A
missing number counts as 0, a missing date as the earliest instant. -/
def putsBefore : SortKey → Record → Record → Bool
  | alphabetical, first, second => comesBefore first.foldedCodes second.foldedCodes
  | oldestRelease, first, second => first.year.getD 0 < second.year.getD 0
  | newestRelease, first, second => second.year.getD 0 < first.year.getD 0
  | rating, first, second =>
    (second.rating.getD Binary64.zero).isBelow (first.rating.getD Binary64.zero)
  | dateAdded, first, second =>
    (second.dateAdded.getD Instant.earliest).isBefore (first.dateAdded.getD Instant.earliest)
  | shortest, first, second => first.runtime.getD 0 < second.runtime.getD 0
  | longest, first, second => second.runtime.getD 0 < first.runtime.getD 0
  | random, _, _ => false
  | sourceOrder, _, _ => false

/-- Whether two records have the same value for a sort key. -/
def ties : SortKey → Record → Record → Bool
  | alphabetical, first, second => lowercase first.name == lowercase second.name
  | oldestRelease, first, second => first.year.getD 0 == second.year.getD 0
  | newestRelease, first, second => first.year.getD 0 == second.year.getD 0
  | rating, first, second => first.rating.getD Binary64.zero == second.rating.getD Binary64.zero
  | dateAdded, first, second =>
    first.dateAdded.getD Instant.earliest == second.dateAdded.getD Instant.earliest
  | shortest, first, second => first.runtime.getD 0 == second.runtime.getD 0
  | longest, first, second => first.runtime.getD 0 == second.runtime.getD 0
  | random, _, _ => true
  | sourceOrder, _, _ => true

/-- The key that sorts by the same quantity the other way round, if there is one. -/
def opposite? : SortKey → Option SortKey
  | oldestRelease => some newestRelease
  | newestRelease => some oldestRelease
  | shortest => some longest
  | longest => some shortest
  | _ => none

end SortKey

/-- A list with the members of another one in the order of a sort key, in which records
that tie stand as they stood. -/
structure IsStableSort (key : SortKey) (records sorted : List Record) : Prop where
  perm : sorted.Perm records
  ordered : sorted.Pairwise fun earlier later => key.putsBefore later earlier = false
  stable : ∀ record, sorted.filter (key.ties record) = records.filter (key.ties record)

/-! ### The order behind a key -/

theorem comesBefore_iff (first second : List Char) :
    comesBefore (first.map Char.toNat) (second.map Char.toNat) = true ↔ first < second := by
  induction first generalizing second with
  | nil => cases second <;> simp [comesBefore]
  | cons character rest inductionHypothesis =>
    cases second with
    | nil => simp [comesBefore]
    | cons other others =>
      have codes : character.toNat < other.toNat ↔ character < other := Iff.rfl
      have same : character.toNat = other.toNat ↔ character = other := Char.toNat_inj
      simp only [List.map_cons, comesBefore, Bool.or_eq_true, decide_eq_true_eq, Bool.and_eq_true,
        beq_iff_eq, inductionHypothesis, List.cons_lt_cons_iff, codes, same]

theorem Record.comesBefore_foldedCodes (first second : Record) :
    comesBefore first.foldedCodes second.foldedCodes =
      decide (lowercase first.name < lowercase second.name) := by
  rw [Bool.eq_iff_iff, decide_eq_true_eq]
  exact comesBefore_iff _ _

theorem Number.Binary64.isBelow_eq (first second : Binary64) :
    first.isBelow second = decide (first.totalPlace < second.totalPlace) := by
  obtain ⟨firstNegative, firstCode⟩ := first
  obtain ⟨secondNegative, secondCode⟩ := second
  rw [Bool.eq_iff_iff, decide_eq_true_eq]
  cases firstNegative <;> cases secondNegative
  all_goals simp [isBelow, totalPlace]
  all_goals omega

theorem Number.Binary64.totalPlace_inj {first second : Binary64}
    (same : first.totalPlace = second.totalPlace) : first = second := by
  obtain ⟨firstNegative, firstCode⟩ := first
  obtain ⟨secondNegative, secondCode⟩ := second
  cases firstNegative <;> cases secondNegative <;> simp [totalPlace] at same ⊢ <;> omega

theorem Calendar.Instant.isBefore_iff {first second : Instant} :
    first.isBefore second = true ↔ first.second < second.second ∨
      (first.second = second.second ∧ first.nanosecond < second.nanosecond) := by
  simp [isBefore]

theorem Calendar.Instant.eq_iff {first second : Instant} :
    first = second ↔ first.second = second.second ∧ first.nanosecond = second.nanosecond := by
  cases first
  cases second
  simp

namespace SortKey

/-- A record may stand before another one unless the key puts it behind. -/
theorem precedes_eq (key : SortKey) (first second : Record) :
    key.precedes first second = !key.putsBefore second first := by
  cases key with
  | alphabetical => rw [precedes, putsBefore, Record.comesBefore_foldedCodes]
  | rating =>
    rw [precedes, putsBefore, Binary64.isBelow_eq, ← decide_not]
    exact decide_eq_decide.mpr Int.not_lt.symm
  | dateAdded => rfl
  | random => rfl
  | sourceOrder => rfl
  | _ =>
    rw [precedes, putsBefore, ← decide_not]
    exact decide_eq_decide.mpr Int.not_lt.symm

theorem precedes_total (key : SortKey) (first second : Record) :
    (key.precedes first second || key.precedes second first) = true := by
  cases key with
  | alphabetical =>
    simp only [precedes, Bool.or_eq_true, Bool.not_eq_true', decide_eq_false_iff_not,
      String.not_lt]
    exact String.le_total _ _
  | dateAdded =>
    simp only [precedes, Bool.or_eq_true, Bool.not_eq_true', Bool.eq_false_iff, ne_eq,
      Instant.isBefore_iff]
    omega
  | _ => simp [precedes] <;> omega

theorem precedes_trans (key : SortKey) (first second third : Record)
    (before : key.precedes first second = true) (after : key.precedes second third = true) :
    key.precedes first third = true := by
  cases key with
  | alphabetical =>
    simp only [precedes, Bool.not_eq_true', decide_eq_false_iff_not, String.not_lt]
      at before after ⊢
    exact String.le_trans before after
  | dateAdded =>
    simp only [precedes, Bool.not_eq_true', Bool.eq_false_iff, ne_eq,
      Instant.isBefore_iff] at before after ⊢
    omega
  | _ => simp [precedes] at before after ⊢ <;> omega

/-- Records tie if each may stand before the other. -/
theorem ties_eq (key : SortKey) (first second : Record) :
    key.ties first second = (key.precedes first second && key.precedes second first) := by
  rw [Bool.eq_iff_iff, Bool.and_eq_true]
  cases key with
  | alphabetical =>
    simp only [ties, precedes, beq_iff_eq, Bool.not_eq_true', decide_eq_false_iff_not,
      String.not_lt]
    exact ⟨fun same => ⟨same ▸ String.le_refl _, same ▸ String.le_refl _⟩,
      fun both => String.le_antisymm both.1 both.2⟩
  | rating =>
    simp only [ties, precedes, beq_iff_eq, decide_eq_true_eq]
    refine ⟨fun same => ?_, fun both => Binary64.totalPlace_inj (Int.le_antisymm both.2 both.1)⟩
    rw [Record.ratingOrZero, Record.ratingOrZero, same]
    exact ⟨Int.le_refl _, Int.le_refl _⟩
  | dateAdded =>
    simp only [ties, precedes, beq_iff_eq, Bool.not_eq_true', Bool.eq_false_iff, ne_eq,
      Instant.isBefore_iff, Record.dateOrEarliest, Instant.eq_iff]
    omega
  | random => simp [ties, precedes]
  | sourceOrder => simp [ties, precedes]
  | _ =>
    simp only [ties, precedes, beq_iff_eq, decide_eq_true_eq]
    simp only [Record.yearOrZero, Record.runtimeOrZero]
    omega

theorem precedes_refl (key : SortKey) (record : Record) : key.precedes record record = true := by
  simpa using key.precedes_total record record

theorem ties_refl (key : SortKey) (record : Record) : key.ties record record = true := by
  rw [ties_eq, precedes_refl, Bool.true_and]

/-- Records that tie with a third one may stand before each other. -/
theorem precedes_of_ties {key : SortKey} {record first second : Record}
    (firstTies : key.ties record first = true) (secondTies : key.ties record second = true) :
    key.precedes first second = true := by
  rw [ties_eq, Bool.and_eq_true] at firstTies secondTies
  exact key.precedes_trans first record second firstTies.2 secondTies.1

/-- The first of a list in order may stand before each record of it. -/
theorem precedes_of_mem_cons (key : SortKey) {first record : Record} {rest : List Record}
    (ordered : (first :: rest).Pairwise fun earlier later => key.precedes earlier later)
    (member : record ∈ first :: rest) : key.precedes first record = true := by
  rcases List.mem_cons.mp member with rfl | later
  · exact key.precedes_refl record
  · exact List.rel_of_pairwise_cons ordered later

/-- The two directions of a quantity put records before each other the other way round. -/
theorem putsBefore_opposite {key other : SortKey} (opposite : key.opposite? = some other)
    (first second : Record) : other.putsBefore first second = key.putsBefore second first := by
  cases key <;> simp only [opposite?, reduceCtorEq, Option.some.injEq] at opposite <;>
    subst opposite <;> rfl

theorem ties_opposite {key other : SortKey} (opposite : key.opposite? = some other) :
    other.ties = key.ties := by
  cases key <;> simp only [opposite?, reduceCtorEq, Option.some.injEq] at opposite <;>
    subst opposite <;> rfl

/-- The key of a text is the one spelled so, blanks around it and letter case aside. -/
theorem ofText_eq_iff {key : SortKey} (spelled : key ≠ sourceOrder) (text : String) :
    ofText text = key ↔ lowercase (trimmed text) = key.text := by
  unfold ofText
  split <;> cases key <;> simp_all [SortKey.text]

end SortKey

/-! ### Stable sorts -/

/-- Lists in order with the same records and the same ties are the same. Their first
records tie, so the ties of the first record begin with both. -/
theorem eq_of_pairwise_precedes {key : SortKey} {left right : List Record}
    (perm : left.Perm right)
    (leftOrdered : left.Pairwise fun earlier later => key.precedes earlier later)
    (rightOrdered : right.Pairwise fun earlier later => key.precedes earlier later)
    (sameTies : ∀ record, left.filter (key.ties record) = right.filter (key.ties record)) :
    left = right := by
  induction left generalizing right with
  | nil => exact perm.nil_eq
  | cons first rest inductionHypothesis =>
    cases right with
    | nil => exact perm.eq_nil
    | cons other others =>
      have tie : key.ties first other = true := by
        have after := key.precedes_of_mem_cons leftOrdered (perm.mem_iff.mpr List.mem_cons_self)
        have before := key.precedes_of_mem_cons rightOrdered (perm.mem_iff.mp List.mem_cons_self)
        rw [SortKey.ties_eq, after, before, Bool.true_and]
      have heads := sameTies first
      rw [List.filter_cons_of_pos (key.ties_refl first), List.filter_cons_of_pos tie] at heads
      obtain ⟨rfl, -⟩ := List.cons_eq_cons.mp heads
      rw [inductionHypothesis perm.cons_inv leftOrdered.of_cons rightOrdered.of_cons
        fun record => ?_]
      have all := sameTies record
      by_cases tied : key.ties record first = true
      · rw [List.filter_cons_of_pos tied, List.filter_cons_of_pos tied] at all
        exact (List.cons_eq_cons.mp all).2
      · rwa [List.filter_cons_of_neg tied, List.filter_cons_of_neg tied] at all

namespace IsStableSort

variable {key other : SortKey} {records sorted reversed : List Record}

theorem pairwise_precedes (sort : IsStableSort key records sorted) :
    sorted.Pairwise fun earlier later => key.precedes earlier later := by
  simpa [SortKey.precedes_eq] using sort.ordered

/-- There is at most one stable sort. -/
theorem unique {again : List Record} (sort : IsStableSort key records sorted)
    (sortAgain : IsStableSort key records again) : again = sorted :=
  eq_of_pairwise_precedes (sortAgain.perm.trans sort.perm.symm) sortAgain.pairwise_precedes
    sort.pairwise_precedes fun record => (sortAgain.stable record).trans (sort.stable record).symm

/-- The reverse of a stable sort is in the opposite order, with the ties reversed. -/
theorem reverse (opposite : key.opposite? = some other) (sort : IsStableSort key records sorted)
    (symmetric : ∀ record, (records.filter (key.ties record)).reverse =
      records.filter (key.ties record)) :
    IsStableSort other records sorted.reverse where
  perm := (List.reverse_perm sorted).trans sort.perm
  ordered := by
    rw [List.pairwise_reverse]
    exact sort.ordered.imp fun inOrder => (SortKey.putsBefore_opposite opposite _ _).trans inOrder
  stable record := by
    rw [SortKey.ties_opposite opposite, List.filter_reverse, sort.stable, symmetric]

/-- The stable sorts of opposite keys are the reverse of each other if and only if reversing
the records that tie changes nothing. -/
theorem opposite_eq_reverse_iff (opposite : key.opposite? = some other)
    (sort : IsStableSort key records sorted) (otherSort : IsStableSort other records reversed) :
    reversed = sorted.reverse ↔
      ∀ record, (records.filter (key.ties record)).reverse = records.filter (key.ties record) := by
  refine ⟨fun same record => ?_,
    fun symmetric => (sort.reverse opposite symmetric).unique otherSort⟩
  rw [← sort.stable, ← List.filter_reverse, ← same, sort.stable, ← SortKey.ties_opposite opposite,
    otherSort.stable]

/-- What a stable sort puts after the first records is put before none of them. -/
theorem putsBefore_eq_false_of_mem_drop (sort : IsStableSort key records sorted) {count : Nat}
    {early late : Record} (earlyMem : early ∈ sorted.take count)
    (lateMem : late ∈ sorted.drop count) : key.putsBefore late early = false := by
  have ordered := sort.ordered
  rw [← List.take_append_drop count sorted, List.pairwise_append] at ordered
  exact ordered.2.2 early earlyMem late lateMem

end IsStableSort

/-- Merge sort leaves ties in their order, because they are in order for it already. -/
theorem isStableSort_mergeSort (key : SortKey) (records : List Record) :
    IsStableSort key records (records.mergeSort key.precedes) := by
  have perm := List.mergeSort_perm records key.precedes
  refine ⟨perm, ?_, fun record => ?_⟩
  · have ordered := List.pairwise_mergeSort key.precedes_trans
      key.precedes_total records
    simpa [SortKey.precedes_eq] using ordered
  · have tied : (records.filter (key.ties record)).Pairwise fun earlier later =>
        key.precedes earlier later :=
      List.pairwise_of_forall_mem_list fun first firstMem second secondMem =>
        SortKey.precedes_of_ties (List.mem_filter.mp firstMem).2 (List.mem_filter.mp secondMem).2
    have kept := List.sublist_mergeSort key.precedes_trans key.precedes_total
      tied List.filter_sublist
    have filtered := kept.filter (key.ties record)
    simp only [List.filter_filter, Bool.and_self] at filtered
    exact (filtered.eq_of_length (perm.filter (key.ties record)).length_eq.symm).symm

/-- Every order but the random one is a stable sort. -/
theorem isStableSort_sortRecords (draw : Nat) {key : SortKey} (fixed : key ≠ .random)
    (records : List Record) : IsStableSort key records (sortRecords draw key records) := by
  cases key with
  | random => contradiction
  | sourceOrder => exact ⟨.refl records, List.pairwise_of_forall fun _ _ => rfl, fun _ => rfl⟩
  | _ => exact isStableSort_mergeSort _ records

/-! ### Shuffles -/

theorem shuffled_perm {α : Type} (draw : Nat) (list : List α) : (shuffled draw list).Perm list := by
  induction list generalizing draw with
  | nil => exact .refl []
  | cons first rest inductionHypothesis =>
    have shuffle := inductionHypothesis (draw / (rest.length + 1))
    have inRange :
        draw % (rest.length + 1) ≤ (shuffled (draw / (rest.length + 1)) rest).length := by
      rw [shuffle.length_eq]
      exact Nat.lt_succ_iff.mp (Nat.mod_lt draw (Nat.succ_pos _))
    exact (List.perm_insertIdx first _ inRange).trans (shuffle.cons first)

/-- Every order comes from some number: the place of the first record is what the number
has left over, and the others are in an order that comes from some quotient. -/
theorem exists_shuffled_eq {α : Type} {list order : List α} (perm : order.Perm list) :
    ∃ draw, shuffled draw list = order := by
  induction list generalizing order with
  | nil => exact ⟨0, perm.eq_nil.symm⟩
  | cons first rest inductionHypothesis =>
    obtain ⟨place, inRange, rfl⟩ := List.getElem_of_mem (perm.mem_iff.mpr List.mem_cons_self)
    have others : (order.eraseIdx place).Perm rest :=
      ((List.getElem_cons_eraseIdx_perm inRange).trans perm).cons_inv
    obtain ⟨draw, shuffle⟩ := inductionHypothesis others
    have fewer : place < rest.length + 1 := by
      rw [perm.length_eq] at inRange
      exact inRange
    refine ⟨place + (rest.length + 1) * draw, ?_⟩
    rw [shuffled, Nat.add_mul_mod_self_left, Nat.mod_eq_of_lt fewer,
      Nat.add_mul_div_left place draw (Nat.succ_pos _), Nat.div_eq_of_lt fewer, Nat.zero_add,
      shuffle]
    exact List.insertIdx_eraseIdx_getElem inRange

theorem sortRecords_perm (draw : Nat) (key : SortKey) (records : List Record) :
    (sortRecords draw key records).Perm records := by
  by_cases fixed : key = .random
  · subst fixed
    exact shuffled_perm draw records
  · exact (isStableSort_sortRecords draw fixed records).perm

/-! ### Selections -/

namespace Expression

theorem select_eq_take (expression : Expression) (records : List Record) (draw : Nat) :
    expression.select draw records =
      (sortRecords draw expression.order (records.filter expression.filter.evaluate)).take
        expression.count := rfl

theorem select_eq_take_min (expression : Expression) (records : List Record) (draw : Nat) :
    expression.select draw records =
      (sortRecords draw expression.order (records.filter expression.filter.evaluate)).take
        (min expression.count (records.filter expression.filter.evaluate).length) := by
  rw [select_eq_take, ← (sortRecords_perm draw _ _).length_eq, ← List.take_eq_take_min]

/-- A selection is the beginning of the one stable sort of the matching records by the sort
key of the expression; a larger count only goes on from there. A random selection is the
beginning of some order of the matching records, and any order can come up. -/
theorem select_sorts_stably (expression : Expression) (records : List Record) :
    let matched := records.filter expression.filter.evaluate
    (∀ key, key ≠ .sourceOrder →
      (expression.order = key ↔ lowercase (trimmed expression.sortKey) = key.text)) ∧
    (expression.order ≠ .random → ∃ sorted,
      IsStableSort expression.order matched sorted ∧
      (∀ again, IsStableSort expression.order matched again → again = sorted) ∧
      (∀ draw, expression.select draw records =
        sorted.take (min expression.count matched.length)) ∧
      (∀ draw, ∀ selected ∈ expression.select draw records,
        ∀ left ∈ sorted.drop expression.count,
          expression.order.putsBefore left selected = false) ∧
      (∀ other reversed, expression.order.opposite? = some other →
        IsStableSort other matched reversed →
        (reversed = sorted.reverse ↔ ∀ record,
          (matched.filter (expression.order.ties record)).reverse =
            matched.filter (expression.order.ties record)))) ∧
    (∀ draw smaller larger, smaller ≤ larger →
      select draw { expression with count := smaller } records <+:
        select draw { expression with count := larger } records) ∧
    (expression.order = .random →
      (∀ draw, ∃ shuffle : List Record, shuffle.Perm matched ∧
        expression.select draw records = shuffle.take (min expression.count matched.length)) ∧
      ∀ shuffle : List Record, shuffle.Perm matched → ∃ draw,
        expression.select draw records =
          shuffle.take (min expression.count matched.length)) := by
  intro matched
  refine ⟨fun key spelled => SortKey.ofText_eq_iff spelled _, fun fixed => ?_,
    fun draw smaller larger fewer => List.take_prefix_take_left fewer, fun shuffles => ⟨?_, ?_⟩⟩
  · have sort := isStableSort_sortRecords 0 fixed matched
    have sameOrder (draw : Nat) := sort.unique (isStableSort_sortRecords draw fixed matched)
    refine ⟨_, sort, fun again => sort.unique, fun draw => ?_,
      fun draw selected selectedMem left leftMem => ?_,
      fun other reversed opposite => sort.opposite_eq_reverse_iff opposite⟩
    · rw [select_eq_take_min, sameOrder draw]
    · rw [select_eq_take, sameOrder draw] at selectedMem
      exact sort.putsBefore_eq_false_of_mem_drop selectedMem leftMem
  · intro draw
    exact ⟨_, sortRecords_perm draw _ _, select_eq_take_min expression records draw⟩
  · intro shuffle perm
    obtain ⟨draw, rfl⟩ := exists_shuffled_eq perm
    refine ⟨draw, ?_⟩
    rw [select_eq_take_min, shuffles, sortRecords]

/-- Of three records one is left out, because it was watched. The other two are of one year
and stand as in the source under both keys that sort by the year, so neither order is the
reverse of the other. -/
theorem select_sorts_stably_one_year :
    let movie (id : String) (watched : Bool) : Record :=
      ⟨id, "Heat", "Movie", .empty, none, none, watched, some 1995, none, none⟩
    let records := [movie "1" false, movie "3" true, movie "2" false]
    let expression : Expression := ⟨.watched false, " ReleaseDate ", 1⟩
    expression.order = .oldestRelease ∧
      records.filter expression.filter.evaluate = [movie "1" false, movie "2" false] ∧
      ∃ sorted reversed,
        IsStableSort .oldestRelease [movie "1" false, movie "2" false] sorted ∧
        IsStableSort .newestRelease [movie "1" false, movie "2" false] reversed ∧
        reversed ≠ sorted.reverse ∧
        expression.select 0 records = sorted.take 1 := by
  intro movie records expression
  have order : expression.order = .oldestRelease := by decide +kernel
  have matched : records.filter expression.filter.evaluate =
      [movie "1" false, movie "2" false] := rfl
  obtain ⟨-, selects, -⟩ := select_sorts_stably expression records
  obtain ⟨sorted, sort, -, select, -, opposite⟩ := selects (by rw [order]; decide)
  rw [order, matched] at sort
  rw [matched] at select
  have reversedSort := isStableSort_mergeSort .newestRelease [movie "1" false, movie "2" false]
  refine ⟨order, matched, sorted, _, sort, reversedSort, fun same => ?_, select 0⟩
  have symmetric := (opposite .newestRelease _ (by rw [order]; rfl)
    (by rw [matched]; exact reversedSort)).mp same (movie "1" false)
  rw [matched, order] at symmetric
  have swapped : [movie "2" false, movie "1" false] = [movie "1" false, movie "2" false] :=
    symmetric
  exact absurd (congrArg Record.id (List.cons_eq_cons.mp swapped).1) (by decide)

end Expression

end PlaylistRules
