/-
This file defines the selection of records for an expression: those that match
its filter, in the order of its sort key, up to its count. Several selections
merge into one that keeps the first record of each id.
-/

import PlaylistRules.Filter.Evaluation
import PlaylistRules.SortKey

namespace PlaylistRules

/-! ### Order -/

/-- The list shuffled by a drawn number. Each record in turn goes to the place
that the number has left over after division by the places there are, so every
order comes from some number. -/
def shuffled (draw : Nat) : List α → List α
  | [] => []
  | first :: rest =>
    let places := rest.length + 1
    (shuffled (draw / places) rest).insertIdx (draw % places) first

/-- The records in the order of a sort key. All orders but the random one keep
records apart only by the key, and leave equal ones as they come. -/
def sortRecords (draw : Nat) (key : SortKey) (records : List Record) : List Record :=
  match key with
  | .random => shuffled draw records
  | .sourceOrder => records
  | key => records.mergeSort key.precedes

/-! ### Selection -/

namespace Expression

/-- The order that the sort key of an expression means. -/
def order (expression : Expression) : SortKey :=
  SortKey.ofText expression.sortKey

/-- The records that match the filter of an expression. -/
def matching (expression : Expression) (records : List Record) : List Record :=
  records.filter expression.filter.evaluate

/-- The records that an expression selects. -/
def select (draw : Nat) (expression : Expression) (records : List Record) : List Record :=
  (sortRecords draw expression.order (expression.matching records)).take expression.count

end Expression

/-! ### Union -/

/-- The records whose ids are neither among the seen ones nor ids of records
before them. -/
def firstOfEachId : (seen : List String) → List Record → List Record
  | _, [] => []
  | seen, record :: rest =>
    if seen.contains record.id then firstOfEachId seen rest
    else record :: firstOfEachId (record.id :: seen) rest

/-- The selections one after the other, with the first record of each id. -/
def union (selections : List (List Record)) : List Record :=
  firstOfEachId [] selections.flatten

end PlaylistRules
