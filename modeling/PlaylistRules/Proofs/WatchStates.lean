/-
This file proves that the watch states of users are kept apart. What a user sees is made
from the records and the ids listed for that user: the ids decide every flag of a listed
user, and the flags of the records count for everyone else. The entries of other users are
read by neither.
-/

import PlaylistRules.Catalog
import PlaylistRules.Proofs.Lookups
import PlaylistRules.Proofs.Union

namespace PlaylistRules

/-- A record without its watched flag. -/
def Record.unflagged (record : Record) : Record :=
  { record with watched := false }

namespace Catalog

/-! ### Entries of users -/

/-- Two catalogs with the same records, where only the entry of one user may differ. -/
structure DiffersAt (name : String) (first second : Catalog) : Prop where
  items : second.items = first.items
  others : ∀ other ≠ name, second.watchedBy? other = first.watchedBy? other

/-- The catalog with an entry for a user in the place of any earlier one, or with none. -/
def withEntry (catalog : Catalog) (name : String) : Option NameSet → Catalog
  | some ids => { catalog with watched := listUser catalog.watched (name, ids) }
  | none => { catalog with watched := catalog.watched.filter (·.1 != name) }

/-- The entry of a user is the one that was put in. -/
theorem watchedBy?_withEntry (catalog : Catalog) (name other : String) (ids : Option NameSet) :
    (catalog.withEntry name ids).watchedBy? other =
      if other = name then ids else catalog.watchedBy? other := by
  cases ids with
  | none => exact lookup_filter_ne catalog.watched name other
  | some ids =>
    rw [withEntry, watchedBy?, listUser, List.lookup_append, lookup_filter_ne]
    by_cases same : other = name
    · subst same
      simp
    · rw [if_neg same, if_neg same, lookup_cons_of_ne same, List.lookup_nil, Option.or_none]
      rfl

/-- Adding, changing or removing the entry of a user leaves all else as it was. -/
theorem differsAt_withEntry (catalog : Catalog) (name : String) (ids : Option NameSet) :
    catalog.DiffersAt name (catalog.withEntry name ids) where
  items := by cases ids <;> rfl
  others other different := by rw [watchedBy?_withEntry, if_neg different]

/-! ### Records as a user sees them -/

@[simp]
theorem unflagged_withWatched (record : Record) (ids : Option NameSet) :
    (withWatched record ids).unflagged = record.unflagged := by
  cases ids <;> rfl

/-- The ids of a listed user leave nothing of the flag that the record had. -/
theorem withWatched_unflagged (record : Record) (ids : NameSet) :
    withWatched record.unflagged (some ids) = withWatched record (some ids) :=
  rfl

theorem unflagged_itemsFor (catalog : Catalog) (user : Option String) :
    (catalog.itemsFor user).map Record.unflagged = catalog.items.map Record.unflagged := by
  simp [itemsFor]

/-- Users see the same when the records and their own entries are the same. -/
theorem itemsFor_congr {first second : Catalog} {user other : Option String}
    (items : second.items = first.items)
    (entry : other.bind second.watchedBy? = user.bind first.watchedBy?) :
    second.itemsFor other = first.itemsFor user := by
  rw [itemsFor, itemsFor, items, entry]

/-- A listed user sees the same whatever the flags of the records are. -/
theorem itemsFor_congr_unflagged {catalog : Catalog} {user : Option String}
    (listed : (user.bind catalog.watchedBy?).isSome) {items : List Record}
    (same : items.map Record.unflagged = catalog.items.map Record.unflagged) :
    { catalog with items }.itemsFor user = catalog.itemsFor user := by
  obtain ⟨ids, entry⟩ := Option.isSome_iff_exists.mp listed
  have throughUnflagged (records : List Record) :
      records.map (withWatched · (some ids)) =
        (records.map Record.unflagged).map (withWatched · (some ids)) := by
    rw [List.map_map]
    exact List.map_congr_left fun record _ => (withWatched_unflagged record ids).symm
  have sameEntry : user.bind { catalog with items }.watchedBy? = some ids := entry
  rw [itemsFor, itemsFor, sameEntry, entry, throughUnflagged, same, ← throughUnflagged]

/-! ### Isolation -/

/-- A user sees the records of the catalog, in their order and with nothing but the watched
flag changed. What the user sees, and so what a rule without the random order selects for
the user, does not depend on the entries of other users. It does not depend on the flags of
the records either if the user is listed, and otherwise it is what is seen without a user. -/
theorem watch_states_apart (catalog : Catalog) (user : Option String) (rule : Rule)
    (steady : Steady rule.expressions) :
    let alike (first second : List Record) :=
      first = second ∧ ∀ draws otherDraws, rule.select draws first = rule.select otherDraws second
    (catalog.itemsFor user).map Record.unflagged = catalog.items.map Record.unflagged ∧
      (∀ (other : String) (changed : Catalog), user ≠ some other →
        catalog.DiffersAt other changed →
          alike (changed.itemsFor user) (catalog.itemsFor user)) ∧
      (∀ items : List Record, (user.bind catalog.watchedBy?).isSome →
        items.map Record.unflagged = catalog.items.map Record.unflagged →
          alike ({ catalog with items }.itemsFor user) (catalog.itemsFor user)) ∧
      ∀ changed : Catalog, user.bind changed.watchedBy? = none → changed.items = catalog.items →
        alike (changed.itemsFor user) (catalog.itemsFor none) := by
  intro alike
  have alike_of_eq {first second : List Record} (same : first = second) : alike first second := by
    subst same
    exact ⟨rfl, fun draws otherDraws => Rule.select_congr rfl steady otherDraws draws first⟩
  refine ⟨unflagged_itemsFor catalog user, ?_, ?_, ?_⟩
  · intro other changed notOther differs
    refine alike_of_eq (itemsFor_congr differs.items ?_)
    cases user with
    | none => rfl
    | some name => exact differs.others name fun same => notOther (congrArg some same)
  · exact fun items listed same => alike_of_eq (itemsFor_congr_unflagged listed same)
  · exact fun changed unlisted items => alike_of_eq (itemsFor_congr items unlisted)

/-- Of two records with one id, the first has the flag set. A listed user who watched
neither gets the first, and everyone else the second. -/
theorem watch_states_apart_one_id_twice :
    let record (year : Int) (watched : Bool) : Record :=
      ⟨"1", "", "Movie", .empty, none, none, watched, some year, none, none⟩
    let catalog : Catalog := ⟨[record 1990 true, record 1991 false], [("ada", .ofList ["2"])]⟩
    let rule : Rule := ⟨"Unseen", ["\x7bwatchstatus:false | none | 5\x7d"], none, true⟩
    let chosen (catalog : Catalog) (user : Option String) :=
      (rule.select (fun _ => 0) (catalog.itemsFor user)).items.map (·.year)
    Steady rule.expressions ∧
      chosen catalog (some "ada") = [some 1990] ∧ chosen catalog none = [some 1991] ∧
      chosen ⟨[record 1990 true, record 1991 true], catalog.watched⟩ (some "ada") = [some 1990] ∧
      chosen (catalog.withEntry "ben" (some (.ofList ["1"]))) (some "ada") = [some 1990] ∧
      chosen (catalog.withEntry "ada" none) (some "ben") = [some 1991] := by
  intro record catalog rule chosen
  have steady : Steady rule.expressions := by decide
  have listedSees : chosen catalog (some "ada") = [some 1990] := by decide
  have unlistedSees : chosen catalog none = [some 1991] := by decide
  have yearsOf {first second : RuleSelection} (same : first = second) :
      first.items.map (·.year) = second.items.map (·.year) := by rw [same]
  obtain ⟨-, otherEntry, ownFlags, -⟩ := watch_states_apart catalog (some "ada") rule steady
  obtain ⟨-, -, -, unlisted⟩ := watch_states_apart catalog (some "ben") rule steady
  refine ⟨steady, listedSees, unlistedSees, ?_, ?_, ?_⟩
  · have alike := ownFlags [record 1990 true, record 1991 true] (by decide) rfl
    exact (yearsOf (alike.2 _ _)).trans listedSees
  · have alike := otherEntry "ben" _ (by decide)
      (differsAt_withEntry catalog "ben" (some (.ofList ["1"])))
    exact (yearsOf (alike.2 _ _)).trans listedSees
  · have alike := unlisted (catalog.withEntry "ada" none) (by decide) rfl
    exact (yearsOf (alike.2 _ _)).trans unlistedSees

end Catalog

end PlaylistRules
