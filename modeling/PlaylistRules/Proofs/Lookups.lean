/-
This file proves how values are looked up in lists of keys and values: the first pair
with the key decides, so pairs with other keys may come and go.
-/

import Mathlib.Data.List.Basic

namespace PlaylistRules

variable {Key Value : Type} [BEq Key] [LawfulBEq Key]

theorem lookup_cons_of_ne {key first : Key} (other : key ≠ first) (value : Value)
    (rest : List (Key × Value)) : ((first, value) :: rest).lookup key = rest.lookup key := by
  rw [List.lookup_cons, beq_false_of_ne other]

theorem lookup_eq_none_of_new {key : Key} {entries : List (Key × Value)}
    (new : key ∉ entries.map Prod.fst) : entries.lookup key = none := by
  refine List.lookup_eq_none_iff.mpr fun entry member => bne_iff_ne.mpr ?_
  rintro rfl
  exact new (List.mem_map_of_mem member)

/-- Without the pairs of one key only that key is gone. -/
theorem lookup_filter_ne [DecidableEq Key] (entries : List (Key × Value)) (gone key : Key) :
    (entries.filter (·.1 != gone)).lookup key =
      if key = gone then none else entries.lookup key := by
  induction entries with
  | nil => simp
  | cons head entries inductionHypothesis =>
    obtain ⟨first, value⟩ := head
    by_cases isGone : first = gone
    · subst isGone
      rw [List.filter_cons_of_neg (by simp), inductionHypothesis]
      split
      case isTrue => rfl
      case isFalse other => rw [lookup_cons_of_ne other]
    · rw [List.filter_cons_of_pos (by simpa using isGone), List.lookup_cons, List.lookup_cons,
        inductionHypothesis]
      by_cases same : key = first
      · subst same
        simp [isGone]
      · simp [beq_false_of_ne same]

end PlaylistRules
