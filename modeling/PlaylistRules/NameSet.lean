/-
This file defines sets of names, kept in the order of their code points and
without repeats.
-/

namespace PlaylistRules

/-- A set of names in ascending order. -/
structure NameSet where
  names : List String
  ascending : names.Pairwise (· < ·)

namespace NameSet

/-- The list with a name put in its place, unless it is there already. -/
def insertInto (name : String) : List String → List String
  | [] => [name]
  | head :: rest =>
    if name < head then name :: head :: rest
    else if head < name then head :: insertInto name rest
    else head :: rest

theorem mem_insertInto {name other : String} {names : List String}
    (member : other ∈ insertInto name names) : other = name ∨ other ∈ names := by
  induction names with
  | nil => simpa [insertInto] using member
  | cons head rest inductionHypothesis =>
    simp only [insertInto] at member
    split at member
    · simpa using member
    · split at member
      · rcases List.mem_cons.mp member with rfl | inRest
        · simp
        · rcases inductionHypothesis inRest with rfl | inTail
          · simp
          · simp [inTail]
      · exact Or.inr member

theorem insertInto_ascending (name : String) {names : List String}
    (ascending : names.Pairwise (· < ·)) : (insertInto name names).Pairwise (· < ·) := by
  induction names with
  | nil => simp [insertInto]
  | cons head rest inductionHypothesis =>
    rw [List.pairwise_cons] at ascending
    simp only [insertInto]
    split
    case isTrue before =>
      refine List.pairwise_cons.mpr ⟨fun other member => ?_, List.pairwise_cons.mpr ascending⟩
      rcases List.mem_cons.mp member with rfl | inRest
      · exact before
      · exact String.lt_trans before (ascending.1 other inRest)
    case isFalse =>
      split
      case isTrue after =>
        refine List.pairwise_cons.mpr ⟨fun other member => ?_, inductionHypothesis ascending.2⟩
        rcases mem_insertInto member with rfl | inRest
        · exact after
        · exact ascending.1 other inRest
      case isFalse => exact List.pairwise_cons.mpr ascending

/-- The empty set. -/
def empty : NameSet := ⟨[], List.Pairwise.nil⟩

/-- The set with one more name. -/
def insert (set : NameSet) (name : String) : NameSet :=
  ⟨insertInto name set.names, insertInto_ascending name set.ascending⟩

/-- The set of the listed names. -/
def ofList (names : List String) : NameSet :=
  names.foldl insert empty

/-- Whether the set holds a name. -/
def contains (set : NameSet) (name : String) : Bool :=
  set.names.contains name

end NameSet

end PlaylistRules
