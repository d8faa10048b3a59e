/-
This file proves which parts of a filter are looked at when it is evaluated. A part is
visited exactly if no earlier sibling settles one of the lists around it, every visited
part is visited once and before its own parts, and the answer is the one that all parts
together would give. So what is not visited may be anything.
-/

import Mathlib.Data.List.Basic
import PlaylistRules.Filter.Evaluation

namespace PlaylistRules.Filter

/-! ### Positions -/

/-- A position in a filter: the place of a child among its siblings, for each step down. -/
abbrev Position := List Nat

/-- The filters right inside a filter, from left to right. -/
def children : Filter → List Filter
  | all children | any children => children
  | not inner => [inner]
  | group _ value => [value]
  | _ => []

/-- The filter with others right inside it, if they are as many as before. -/
def withChildren : Filter → List Filter → Filter
  | all _, others => all others
  | any _, others => any others
  | not _, [other] => not other
  | group field _, [other] => group field other
  | filter, _ => filter

/-- The filter at a position. -/
def at? : Filter → Position → Option Filter
  | filter, [] => some filter
  | filter, index :: rest => filter.children[index]?.bind (at? · rest)

/-- The filter with another one at a position. Where nothing is, nothing changes. -/
def replaced : Filter → Position → Filter → Filter
  | _, [], other => other
  | filter, index :: rest, other =>
    filter.withChildren (filter.children.modify index (replaced · rest other))

/-- A filter as it looks on its own, with its parts blanked out. -/
def surface : Filter → Filter
  | all _ => all []
  | any _ => any []
  | not _ => not (all [])
  | group field _ => group field (all [])
  | leaf => leaf

mutual

/-- The positions in a filter: every part before its own parts, and those from left to
right. -/
def positions : Filter → List Position
  | all children => [] :: positionsFrom 0 children
  | any children => [] :: positionsFrom 0 children
  | not inner => [] :: (positions inner).map (0 :: ·)
  | group _ value => [] :: (positions value).map (0 :: ·)
  | _ => [[]]

/-- The positions in siblings of which the first one has the given place. -/
def positionsFrom (index : Nat) : List Filter → List Position
  | [] => []
  | child :: rest => (positions child).map (index :: ·) ++ positionsFrom (index + 1) rest

end

/-! ### Truth -/

mutual

/-- The truth value of a filter for a record, made up from those of all its parts. -/
def truth (record : Record) : Filter → Bool
  | all children => (truths record children).all id
  | any children => (truths record children).any id
  | not inner => !truth record inner
  | group _ value => truth record value
  | term field text => termHolds field text record
  | runtime comparison minutes => comparison.holds record.runtimeOrZero minutes
  | released comparison year => comparison.holds record.yearOrZero year
  | rating comparison value => comparison.holdsRating record.ratingOrZero value
  | watched state => record.watched == state

def truths (record : Record) : List Filter → List Bool
  | [] => []
  | child :: rest => truth record child :: truths record rest

end

theorem truths_eq_map (record : Record) (children : List Filter) :
    truths record children = children.map (truth record) := by
  induction children with
  | nil => rfl
  | cons child rest inductionHypothesis => rw [truths, inductionHypothesis, List.map_cons]

/-! ### Visited positions -/

/-- Whether the children of a list before a place leave it open: under AND they are all
true, under OR they are all false. -/
def IsOpenAt (record : Record) (index : Nat) : Filter → Prop
  | all children => ∀ earlier ∈ children.take index, earlier.truth record = true
  | any children => ∀ earlier ∈ children.take index, earlier.truth record = false
  | _ => True

/-- Whether a position is there, and all lists on the way to it are open when its turn
comes. -/
structure IsReached (record : Record) (filter : Filter) (position : Position) : Prop where
  there : (filter.at? position).isSome = true
  openAt : ∀ above index below around, position = above ++ index :: below →
    filter.at? above = some around → around.IsOpenAt record index

/-- The truth value of a child that leaves a list open. -/
def passes : Filter → Bool
  | any _ => false
  | _ => true

/-- Step by step, whether a position is reached. -/
def reaches (record : Record) : Filter → Position → Bool
  | _, [] => true
  | filter, index :: rest =>
    (filter.children.take index).all (·.truth record == filter.passes) &&
      filter.children[index]?.any (reaches record · rest)

/-- The positions that are visited for a record, in their order. -/
def visited (record : Record) (filter : Filter) : List Position :=
  filter.positions.filter (reaches record filter)

variable {record : Record} {filter : Filter}

/-! ### Children -/

theorem children_withChildren {others : List Filter}
    (same : others.length = filter.children.length) :
    (filter.withChildren others).children = others := by
  cases filter with
  | not | group =>
    obtain ⟨other, rfl⟩ := List.length_eq_one_iff.mp same
    rfl
  | all | any => rfl
  | _ => exact (List.length_eq_zero_iff.mp same).symm

theorem withChildren_children : filter.withChildren filter.children = filter := by
  cases filter <;> rfl

theorem surface_withChildren (others : List Filter) :
    (filter.withChildren others).surface = filter.surface := by
  cases filter with
  | not | group => rcases others with _ | ⟨_, _ | _⟩ <;> rfl
  | _ => rfl

theorem passes_withChildren (others : List Filter) :
    (filter.withChildren others).passes = filter.passes := by
  cases filter with
  | not | group => rcases others with _ | ⟨_, _ | _⟩ <;> rfl
  | _ => rfl

/-- Replacing goes on in the child at the first step, if there is one. -/
theorem replaced_cons_cases (filter : Filter) (index : Nat) (rest : Position) (other : Filter) :
    (filter.children[index]? = none ∧ filter.replaced (index :: rest) other = filter) ∨
    ∃ before child after, filter.children = before ++ child :: after ∧ before.length = index ∧
      (filter.replaced (index :: rest) other).children =
        before ++ child.replaced rest other :: after ∧
      filter.replaced (index :: rest) other =
        filter.withChildren (before ++ child.replaced rest other :: after) := by
  rw [replaced]
  by_cases there : index < filter.children.length
  · obtain ⟨before, child, after, split, same, modified⟩ :=
      List.exists_of_modify (replaced · rest other) there
    refine .inr ⟨before, child, after, split, same, ?_, by rw [modified]⟩
    rw [modified, children_withChildren]
    simp [split]
  · have none := List.getElem?_eq_none (Nat.not_lt.mp there)
    refine .inl ⟨none, ?_⟩
    rw [List.modify_eq_self (Nat.not_lt.mp there), withChildren_children]

theorem at?_cons_of_split {before after : List Filter} {child : Filter}
    (split : filter.children = before ++ child :: after) (below : Position) :
    filter.at? (before.length :: below) = child.at? below := by
  rw [at?, split, List.getElem?_append_right (Nat.le_refl _), Nat.sub_self]
  rfl

/-! ### Order of positions -/

theorem positions_eq (filter : Filter) :
    filter.positions = [] :: positionsFrom 0 filter.children := by
  cases filter <;> simp [positions, positionsFrom, children]

theorem mem_positionsFrom {first : Nat} {siblings : List Filter} {position : Position} :
    position ∈ positionsFrom first siblings ↔
      ∃ index child below, siblings[index]? = some child ∧ below ∈ child.positions ∧
        position = (first + index) :: below := by
  induction siblings generalizing first with
  | nil => simp [positionsFrom]
  | cons child rest inductionHypothesis =>
    rw [positionsFrom, List.mem_append, List.mem_map, inductionHypothesis]
    constructor
    · rintro (⟨below, inside, rfl⟩ | ⟨index, other, below, found, inside, rfl⟩)
      · exact ⟨0, child, below, rfl, inside, rfl⟩
      · exact ⟨index + 1, other, below, found, inside, by rw [Nat.add_assoc, Nat.add_comm 1]⟩
    · rintro ⟨_ | index, other, below, found, inside, rfl⟩
      · cases found
        exact .inl ⟨below, inside, rfl⟩
      · exact .inr ⟨index, other, below, found, inside, by rw [Nat.add_assoc, Nat.add_comm 1]⟩

/-- The positions of a filter are those where something is. -/
theorem mem_positions {position : Position} :
    position ∈ filter.positions ↔ (filter.at? position).isSome = true := by
  induction position generalizing filter with
  | nil =>
    rw [positions_eq]
    exact iff_of_true List.mem_cons_self rfl
  | cons index below inductionHypothesis =>
    rw [positions_eq, List.mem_cons, mem_positionsFrom, at?]
    cases found : filter.children[index]? with
    | none =>
      refine iff_of_false ?_ Bool.false_ne_true
      rintro (empty | ⟨index', child', below', found', _, same⟩)
      · cases empty
      · obtain ⟨rfl, rfl⟩ := List.cons.inj same
        rw [Nat.zero_add, found'] at found
        cases found
    | some child =>
      rw [Option.bind_some, ← inductionHypothesis]
      constructor
      · rintro (empty | ⟨index', child', below', found', inside, same⟩)
        · cases empty
        · obtain ⟨rfl, rfl⟩ := List.cons.inj same
          rw [Nat.zero_add, found'] at found
          cases found
          exact inside
      · intro inside
        exact .inr ⟨index, child, below, found, inside, by rw [Nat.zero_add]⟩

theorem map_cons_sorted {positions : List Position} (sorted : positions.Pairwise (· < ·))
    (index : Nat) : (positions.map (index :: ·)).Pairwise (· < ·) :=
  List.pairwise_map.mpr (sorted.imp List.cons_lt_cons_self.mpr)

theorem nil_cons_sorted {positions : List Position} (sorted : positions.Pairwise (· < ·))
    (nonempty : [] ∉ positions) : ([] :: positions).Pairwise (· < ·) := by
  refine List.pairwise_cons.mpr ⟨fun position member => ?_, sorted⟩
  cases position with
  | nil => exact absurd member nonempty
  | cons index below => exact List.nil_lt_cons index below

theorem nil_not_mem_positionsFrom (first : Nat) (siblings : List Filter) :
    [] ∉ positionsFrom first siblings := by
  rw [mem_positionsFrom]
  rintro ⟨_, _, _, _, _, same⟩
  cases same

mutual

/-- A part stands before its own parts, and those before later siblings. -/
theorem positions_sorted : (filter : Filter) → filter.positions.Pairwise (· < ·)
  | all children | any children =>
    nil_cons_sorted (positionsFrom_sorted 0 children) (nil_not_mem_positionsFrom 0 children)
  | not inner =>
    nil_cons_sorted (map_cons_sorted (positions_sorted inner) 0) (by simp)
  | group _ value =>
    nil_cons_sorted (map_cons_sorted (positions_sorted value) 0) (by simp)
  | term .. | runtime .. | released .. | rating .. | watched .. => List.pairwise_singleton ..

theorem positionsFrom_sorted (first : Nat) :
    (siblings : List Filter) → (positionsFrom first siblings).Pairwise (· < ·)
  | [] => .nil
  | child :: rest => by
    rw [positionsFrom, List.pairwise_append]
    refine ⟨map_cons_sorted (positions_sorted child) first, positionsFrom_sorted (first + 1) rest,
      fun earlier inChild later inRest => ?_⟩
    obtain ⟨below, _, rfl⟩ := List.mem_map.mp inChild
    obtain ⟨index, _, below', _, _, rfl⟩ := mem_positionsFrom.mp inRest
    exact List.cons_lt_cons_iff.mpr (.inl (by omega))

end

/-! ### Reached positions -/

theorem reaches_cons_of_split {before after : List Filter} {child : Filter}
    (split : filter.children = before ++ child :: after) (below : Position) :
    reaches record filter (before.length :: below) =
      (before.all (·.truth record == filter.passes) && reaches record child below) := by
  rw [reaches, split, List.take_left, List.getElem?_append_right (Nat.le_refl _), Nat.sub_self]
  rfl

theorem at?_eq_some_of_append {filter part : Filter} {above below : Position}
    (found : filter.at? (above ++ below) = some part) :
    ∃ around, filter.at? above = some around ∧ around.at? below = some part := by
  induction above generalizing filter with
  | nil => exact ⟨filter, rfl, found⟩
  | cons index above inductionHypothesis =>
    rw [List.cons_append, at?] at found
    obtain ⟨child, there, found⟩ := Option.bind_eq_some_iff.mp found
    obtain ⟨around, found, inside⟩ := inductionHypothesis found
    exact ⟨around, by rw [at?, there, Option.bind_some, found], inside⟩

theorem IsReached.nil : IsReached record filter [] where
  there := rfl
  openAt above index below _ same := absurd same.symm (by simp)

theorem isOpenAt_iff {before after : List Filter} {child : Filter}
    (split : filter.children = before ++ child :: after) :
    filter.IsOpenAt record before.length ↔
      ∀ earlier ∈ before, earlier.truth record = filter.passes := by
  have alone {only : Filter} (split : [only] = before ++ child :: after) : before = [] := by
    cases before with
    | nil => rfl
    | cons _ before => cases before <;> cases split
  cases filter with
  | all children | any children =>
    rw [IsOpenAt, show children = before ++ child :: after from split, List.take_left]
    rfl
  | not | group =>
    rw [alone split]
    exact iff_of_true trivial nofun
  | _ => cases before <;> cases split

theorem isReached_cons_iff {before after : List Filter} {child : Filter}
    (split : filter.children = before ++ child :: after) (below : Position) :
    IsReached record filter (before.length :: below) ↔
      (∀ earlier ∈ before, earlier.truth record = filter.passes) ∧
        IsReached record child below := by
  have inside := at?_cons_of_split split
  rw [← isOpenAt_iff split]
  constructor
  · intro reached
    refine ⟨reached.openAt [] _ below filter rfl rfl, ⟨inside below ▸ reached.there, ?_⟩⟩
    intro above index rest around same found
    refine reached.openAt (before.length :: above) index rest around ?_ ?_
    · rw [same, List.cons_append]
    · rw [inside, found]
  · rintro ⟨opened, reached⟩
    refine ⟨(inside below).symm ▸ reached.there, ?_⟩
    intro above index rest around same found
    cases above with
    | nil =>
      obtain ⟨rfl, rfl⟩ := List.cons.inj same
      cases found
      exact opened
    | cons first above =>
      obtain ⟨rfl, rest⟩ := List.cons.inj same
      rw [inside] at found
      exact reached.openAt above _ _ around rest found

theorem exists_split_of_getElem? {siblings : List Filter} {index : Nat} {child : Filter}
    (found : siblings[index]? = some child) :
    ∃ before after, siblings = before ++ child :: after ∧ before.length = index := by
  obtain ⟨inside, rfl⟩ := List.getElem?_eq_some_iff.mp found
  obtain ⟨before, child, after, rfl, rfl, _⟩ := List.exists_of_modify id inside
  exact ⟨before, after, by simp, rfl⟩

/-- What is found step by step is what the lists around a position allow. -/
theorem reaches_iff (record : Record) (filter : Filter) (position : Position) :
    reaches record filter position = true ↔ IsReached record filter position := by
  induction position generalizing filter with
  | nil => exact iff_of_true rfl .nil
  | cons index below inductionHypothesis =>
    cases found : filter.children[index]? with
    | none =>
      refine iff_of_false ?_ fun reached => ?_
      · rw [reaches, found, Option.any_none, Bool.and_false]
        exact Bool.false_ne_true
      · have there := reached.there
        rw [at?, found] at there
        cases there
    | some child =>
      obtain ⟨before, after, split, rfl⟩ := exists_split_of_getElem? found
      rw [reaches_cons_of_split split, isReached_cons_iff split, Bool.and_eq_true,
        inductionHypothesis, List.all_eq_true]
      simp only [beq_iff_eq]

/-- What is visited is what is reached. -/
theorem mem_visited {position : Position} :
    position ∈ filter.visited record ↔ IsReached record filter position := by
  rw [visited, List.mem_filter, mem_positions, reaches_iff]
  exact and_iff_right_of_imp IsReached.there

theorem not_reaches_of_not_mem {position : Position}
    (unvisited : position ∉ filter.visited record) :
    reaches record filter position = false :=
  Bool.eq_false_iff.mpr fun reached => unvisited (mem_visited.mpr ((reaches_iff ..).mp reached))

/-! ### Children that are asked -/

/-- The children that are asked, given the answer that leaves the next one to be asked. -/
def asked (record : Record) (passes : Bool) : List Filter → List Filter
  | [] => []
  | child :: rest =>
    child :: if child.truth record == passes then asked record passes rest else []

/-- The visited positions in siblings of which the first one has the given place. -/
def visitedFrom (record : Record) (passes : Bool) (first : Nat) : List Filter → List Position
  | [] => []
  | child :: rest =>
    (child.visited record).map (first :: ·) ++
      if child.truth record == passes then visitedFrom record passes (first + 1) rest else []

theorem visitedFrom_append (passes : Bool) (first : Nat) (before rest : List Filter) :
    visitedFrom record passes first (before ++ rest) =
      visitedFrom record passes first before ++
        if before.all (·.truth record == passes) then
          visitedFrom record passes (first + before.length) rest
        else [] := by
  induction before generalizing first with
  | nil => simp [visitedFrom]
  | cons child before inductionHypothesis =>
    rw [List.cons_append, visitedFrom, visitedFrom, List.all_cons, inductionHypothesis,
      List.length_cons, Nat.add_assoc, Nat.add_comm 1]
    cases child.truth record == passes <;> simp

/-- Of the positions in the children from some place on, those are visited that are in the
children asked, if the earlier ones leave the list open. -/
theorem filter_positionsFrom (record : Record) {before rest : List Filter}
    (split : filter.children = before ++ rest) :
    (positionsFrom before.length rest).filter (reaches record filter) =
      if before.all (·.truth record == filter.passes) then
        visitedFrom record filter.passes before.length rest
      else [] := by
  induction rest generalizing before with
  | nil => simp [positionsFrom, visitedFrom]
  | cons child rest inductionHypothesis =>
    have next : filter.children = (before ++ [child]) ++ rest := by simp [split]
    have others := inductionHypothesis next
    rw [List.length_append, List.length_singleton, List.all_append, List.all_cons, List.all_nil,
      Bool.and_true] at others
    have here : reaches record filter ∘ (before.length :: ·) = fun below =>
        before.all (·.truth record == filter.passes) && reaches record child below :=
      funext (reaches_cons_of_split split)
    rw [positionsFrom, List.filter_append, others, List.filter_map, here, visitedFrom, visited]
    cases before.all (·.truth record == filter.passes) <;> simp

theorem visited_eq (record : Record) (filter : Filter) :
    filter.visited record =
      [] :: visitedFrom record filter.passes 0 filter.children := by
  have inside := filter_positionsFrom record (List.nil_append filter.children).symm
  rw [visited, positions_eq, List.filter_cons_of_pos rfl]
  exact congrArg _ inside

/-! ### Visited parts -/

/-- The parts that are visited, in their order. -/
def visitedParts (record : Record) (filter : Filter) : List Filter :=
  (filter.visited record).filterMap filter.at?

theorem filterMap_visitedFrom (record : Record) {before rest : List Filter}
    (split : filter.children = before ++ rest) :
    (visitedFrom record filter.passes before.length rest).filterMap filter.at? =
      (asked record filter.passes rest).flatMap (visitedParts record) := by
  induction rest generalizing before with
  | nil => rfl
  | cons child rest inductionHypothesis =>
    have next : filter.children = (before ++ [child]) ++ rest := by simp [split]
    have others := inductionHypothesis next
    rw [List.length_append, List.length_singleton] at others
    have here : filter.at? ∘ (before.length :: ·) = child.at? := funext (at?_cons_of_split split)
    rw [visitedFrom, asked, List.filterMap_append, List.filterMap_map, here, List.flatMap_cons,
      visitedParts]
    cases child.truth record == filter.passes with
    | true => exact congrArg _ others
    | false => rfl

theorem visitedParts_eq (record : Record) (filter : Filter) :
    filter.visitedParts record =
      filter :: (asked record filter.passes filter.children).flatMap (visitedParts record) := by
  have inside := filterMap_visitedFrom record (List.nil_append filter.children).symm
  rw [visitedParts, visited_eq]
  exact congrArg (filter :: ·) inside

theorem asked_singleton (record : Record) (passes : Bool) (child : Filter) :
    asked record passes [child] = [child] := by
  rw [asked]
  split <;> rfl

theorem visitedParts_of_child {child : Filter} (only : filter.children = [child]) :
    filter.visitedParts record = filter :: child.visitedParts record := by
  rw [visitedParts_eq, only, asked_singleton, List.flatMap_singleton]

/-! ### Evaluation -/

universe u

variable {State : Type u} (visit : Filter → State → State)

/-- The state of a visitor after some parts. -/
def visitEach (parts : List Filter) (state : State) : State :=
  parts.foldl (fun state part => visit part state) state

theorem visitEach_append (first second : List Filter) (state : State) :
    visitEach visit (first ++ second) state =
      visitEach visit second (visitEach visit first state) :=
  List.foldl_append

mutual

/-- Evaluation answers with the truth value and shows the visitor the parts that are
visited, one after the other. -/
theorem evaluateWith_eq : (filter : Filter) → (state : State) →
    evaluateWith visit record filter state =
      (filter.truth record, visitEach visit (filter.visitedParts record) state)
  | all children, state => by
    rw [evaluateWith, allHold_eq children, visitedParts_eq]
    rfl
  | any children, state => by
    rw [evaluateWith, someHolds_eq children, visitedParts_eq]
    rfl
  | not inner, state => by
    rw [evaluateWith, evaluateWith_eq inner,
      visitedParts_of_child (show (not inner).children = [inner] from rfl)]
    rfl
  | group field value, state => by
    rw [evaluateWith, evaluateWith_eq value,
      visitedParts_of_child (show (group field value).children = [value] from rfl)]
    rfl
  | term .., state | runtime .., state | released .., state | rating .., state
  | watched .., state => rfl

theorem allHold_eq : (children : List Filter) → (state : State) →
    allHold visit record children state =
      ((truths record children).all id,
        visitEach visit ((asked record true children).flatMap (visitedParts record)) state)
  | [], state => rfl
  | child :: rest, state => by
    rw [allHold, evaluateWith_eq child, truths, asked, List.flatMap_cons, visitEach_append]
    cases child.truth record with
    | true => exact allHold_eq rest _
    | false => rfl

theorem someHolds_eq : (children : List Filter) → (state : State) →
    someHolds visit record children state =
      ((truths record children).any id,
        visitEach visit ((asked record false children).flatMap (visitedParts record)) state)
  | [], state => rfl
  | child :: rest, state => by
    rw [someHolds, evaluateWith_eq child, truths, asked, List.flatMap_cons, visitEach_append]
    cases child.truth record with
    | true => rfl
    | false => exact someHolds_eq rest _

end

/-! ### Parts that are not visited -/

theorem IsReached.of_append {above below : Position}
    (reached : IsReached record filter (above ++ below)) : IsReached record filter above where
  there := by
    obtain ⟨part, found⟩ := Option.isSome_iff_exists.mp reached.there
    obtain ⟨around, found, _⟩ := at?_eq_some_of_append found
    rw [found]
    rfl
  openAt outer index inner around same found := by
    refine reached.openAt outer index (inner ++ below) around ?_ found
    rw [same, List.append_assoc, List.cons_append]

theorem truth_withChildren {others : List Filter}
    (same : others.map (truth record) = filter.children.map (truth record)) :
    (filter.withChildren others).truth record = filter.truth record := by
  cases filter with
  | all children | any children =>
    simp only [withChildren, truth, truths_eq_map]
    rw [same]
    rfl
  | not | group =>
    obtain ⟨other, rfl⟩ : ∃ other, others = [other] :=
      List.length_eq_one_iff.mp (by simpa [children] using congrArg List.length same)
    simpa [withChildren, truth, children] using same
  | _ => rfl

/-- A list that an earlier child settles has the truth value that this child gives it. -/
theorem truth_of_settled {before after : List Filter} {child : Filter}
    (split : filter.children = before ++ child :: after)
    (settled : before.all (·.truth record == filter.passes) = false) :
    filter.truth record = !filter.passes := by
  obtain ⟨settling, earlier, settles⟩ := List.all_eq_false.mp settled
  have inside : settling ∈ filter.children := split ▸ List.mem_append_left _ earlier
  have differs : settling.truth record = !filter.passes := Bool.eq_not.mpr (by simpa using settles)
  cases filter with
  | all children =>
    rw [truth, truths_eq_map]
    exact List.all_eq_false.mpr ⟨_, List.mem_map_of_mem inside, by simpa [passes] using differs⟩
  | any children =>
    rw [truth, truths_eq_map]
    exact List.any_eq_true.mpr ⟨_, List.mem_map_of_mem inside, by simpa [passes] using differs⟩
  | not | group =>
    -- A single child has no earlier siblings.
    cases before with
    | nil => cases earlier
    | cons _ before => cases before <;> cases split
  | _ => cases inside

/-- What takes the place of an unreached part changes neither the truth value nor which
positions are visited. -/
theorem replaced_of_not_reaches {position : Position}
    (unreached : reaches record filter position = false) (other : Filter) :
    (filter.replaced position other).truth record = filter.truth record ∧
      (filter.replaced position other).visited record = filter.visited record := by
  induction position generalizing filter with
  | nil => cases unreached
  | cons index rest inductionHypothesis =>
    rcases replaced_cons_cases filter index rest other with
      ⟨_, same⟩ | ⟨before, child, after, split, rfl, changedSplit, changed⟩
    · rw [same]
      exact ⟨rfl, rfl⟩
    have passesToo : (filter.replaced (before.length :: rest) other).passes = filter.passes := by
      rw [changed, passes_withChildren]
    rw [reaches_cons_of_split split] at unreached
    rw [visited_eq, visited_eq record filter, passesToo, split, changedSplit, visitedFrom_append,
      visitedFrom_append]
    cases opened : before.all (·.truth record == filter.passes) with
    | true =>
      rw [opened, Bool.true_and] at unreached
      obtain ⟨truthToo, visitedToo⟩ := inductionHypothesis unreached
      refine ⟨?_, ?_⟩
      · rw [changed]
        refine truth_withChildren ?_
        rw [split, List.map_append, List.map_append, List.map_cons, List.map_cons, truthToo]
      · rw [visitedFrom, visitedFrom, truthToo, visitedToo]
    | false =>
      refine ⟨?_, rfl⟩
      rw [truth_of_settled split opened,
        truth_of_settled changedSplit (by rw [passesToo, opened]), passesToo]

theorem at?_replaced_cons (filter : Filter) (index first : Nat) (rest below : Position)
    (other : Filter) :
    (filter.replaced (index :: rest) other).at? (first :: below) =
      filter.children[first]?.bind fun child =>
        (if index = first then child.replaced rest other else child).at? below := by
  rw [at?, replaced, children_withChildren (List.length_modify ..), List.getElem?_modify]
  cases filter.children[first]? <;> rfl

/-- Replacing changes the look of what is at or inside its position only. -/
theorem surface_at?_replaced {position place : Position} (apart : ¬position <+: place)
    (other : Filter) :
    ((filter.replaced position other).at? place).map surface =
      (filter.at? place).map surface := by
  induction position generalizing filter place with
  | nil => exact absurd List.nil_prefix apart
  | cons index rest inductionHypothesis =>
    cases place with
    | nil => exact congrArg some (surface_withChildren _)
    | cons first below =>
      rw [at?_replaced_cons, at?]
      cases filter.children[first]? with
      | none => rfl
      | some child =>
        rw [Option.bind_some, Option.bind_some]
        split
        case isTrue same =>
          refine inductionHypothesis fun inside => apart ?_
          exact List.cons_prefix_cons.mpr ⟨same, inside⟩
        case isFalse => rfl

theorem surfaces_replaced {position : Position} (unvisited : position ∉ filter.visited record)
    (other : Filter) :
    ((filter.replaced position other).visitedParts record).map surface =
      (filter.visitedParts record).map surface := by
  have sameVisited := (replaced_of_not_reaches (not_reaches_of_not_mem unvisited) other).2
  rw [visitedParts, visitedParts, sameVisited, List.map_filterMap,
    List.map_filterMap]
  refine List.filterMap_congr fun place visited => surface_at?_replaced ?_ other
  rintro ⟨below, rfl⟩
  exact unvisited (mem_visited.mpr (mem_visited.mp visited).of_append)

/-- Evaluation visits, each once and in the order of their positions, the parts that no
earlier sibling makes superfluous, and nothing else. It answers with the truth value that
all parts together give, whatever the visitor carries along. What takes the place of a part
that is not visited changes neither which positions are visited nor, for a visitor that
looks at each part on its own, the outcome. -/
theorem evaluation_visits_reached (filter : Filter) (record : Record) :
    (∀ position, position ∈ filter.visited record ↔ IsReached record filter position) ∧
    (filter.visited record).Pairwise (· < ·) ∧
    (∀ (State : Type u) (visit : Filter → State → State) (state : State),
      evaluateWith visit record filter state =
        (filter.truth record,
          ((filter.visited record).filterMap filter.at?).foldl
            (fun state part => visit part state) state)) ∧
    ∀ position ∉ filter.visited record, ∀ other,
      (filter.replaced position other).visited record = filter.visited record ∧
      ∀ (State : Type u) (visit : Filter → State → State) (state : State),
        evaluateWith (fun part => visit part.surface) record (filter.replaced position other)
            state =
          evaluateWith (fun part => visit part.surface) record filter state := by
  refine ⟨fun position => mem_visited, (positions_sorted filter).filter _,
    fun State visit state => evaluateWith_eq visit filter state, fun position unvisited other => ?_⟩
  obtain ⟨truthToo, visitedToo⟩ :=
    replaced_of_not_reaches (not_reaches_of_not_mem unvisited) other
  refine ⟨visitedToo, fun State visit state => ?_⟩
  have surfaces (parts : List Filter) : visitEach (fun part => visit part.surface) parts state =
      visitEach visit (parts.map surface) state := by rw [visitEach, visitEach, List.foldl_map]
  rw [evaluateWith_eq, evaluateWith_eq, truthToo, surfaces, surfaces,
    surfaces_replaced unvisited]

/-- The first list is settled by its first child, and the outer one by a negation, so the
genre is not looked at. With a list of everything else in its place the visitor sees the
same five parts. -/
theorem evaluation_visits_reached_settled :
    let record : Record :=
      ⟨"1", "Heat", "Movie", .ofList ["Crime"], none, none, true, some 1995, none, none⟩
    let filter : Filter := .all [.any [.watched true, .runtime .greater 90],
      .not (.released .less 2000), .group .genre (.term .genre "Crime")]
    let other : Filter := .any [filter, .watched false]
    let count (_ : Filter) (seen : Nat) := seen + 1
    filter.visited record = [[], [0], [0, 0], [1], [1, 0]] ∧
      IsReached record filter [1, 0] ∧ ¬IsReached record filter [0, 1] ∧
      [2] ∉ filter.visited record ∧
      (filter.replaced [2] other).visited record = filter.visited record ∧
      evaluateWith count record filter 0 = (false, 5) ∧
      evaluateWith count record (filter.replaced [2] other) 0 = (false, 5) := by
  intro record filter other count
  obtain ⟨reached, _, outcome, same⟩ := evaluation_visits_reached.{0} filter record
  have positions : filter.visited record = [[], [0], [0, 0], [1], [1, 0]] := by decide +kernel
  have unvisited : [2] ∉ filter.visited record := by
    rw [positions]
    decide
  have counted : evaluateWith count record filter 0 = (false, 5) := by
    rw [outcome, positions]
    decide +kernel
  obtain ⟨visitedToo, outcomeToo⟩ := same [2] unvisited other
  refine ⟨positions, (reached _).mp (by rw [positions]; decide),
    mt (reached _).mpr (by rw [positions]; decide), unvisited, visitedToo, counted, ?_⟩
  exact (outcomeToo Nat count 0).trans counted

end PlaylistRules.Filter
