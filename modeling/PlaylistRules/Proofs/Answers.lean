/-
This file says what a filter answers for a record, with no visitor looking on: a list
answers from the answers of its children, NOT turns the answer of its filter round, and a
group answers as the value in it.
-/

import PlaylistRules.Filter.Evaluation

namespace PlaylistRules.Filter

variable (record : Record)

theorem fst_allHold (children : List Filter) (state : Unit) :
    (allHold (fun _ state => state) record children state).1 =
      children.all (·.evaluate record) := by
  induction children with
  | nil => rfl
  | cons child rest inductionHypothesis =>
    rw [allHold, List.all_cons, ← inductionHypothesis, evaluate]
    dsimp only
    cases (evaluateWith (fun _ state => state) record child state).1 <;> rfl

theorem fst_someHolds (children : List Filter) (state : Unit) :
    (someHolds (fun _ state => state) record children state).1 =
      children.any (·.evaluate record) := by
  induction children with
  | nil => rfl
  | cons child rest inductionHypothesis =>
    rw [someHolds, List.any_cons, ← inductionHypothesis, evaluate]
    dsimp only
    cases (evaluateWith (fun _ state => state) record child state).1 <;> rfl

@[simp]
theorem evaluate_all (children : List Filter) :
    (all children).evaluate record = children.all (·.evaluate record) := by
  rw [evaluate, evaluateWith, fst_allHold]

@[simp]
theorem evaluate_any (children : List Filter) :
    (any children).evaluate record = children.any (·.evaluate record) := by
  rw [evaluate, evaluateWith, fst_someHolds]

@[simp]
theorem evaluate_group (field : Field) (value : Filter) :
    (group field value).evaluate record = value.evaluate record := rfl

end PlaylistRules.Filter
