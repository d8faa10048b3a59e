/-
This file proves that sets of rules are maps that keep the order of insertion. A map
holds no key twice. A set whose rules are the values of a map goes on being like that
when a rule is inserted or removed in both.
-/

import PlaylistRules.Proofs.RuleSets
import PlaylistRules.Proofs.Union

namespace PlaylistRules

/-! ### Maps -/

/-- Rules with their keys, in the order in which the keys were first inserted. -/
structure RuleMap where
  entries : List (String × Rule)
  distinct : (entries.map Prod.fst).Nodup

namespace RuleMap

/-- The map without rules. -/
def empty : RuleMap := ⟨[], List.nodup_nil⟩

/-- The entries with another rule at a key. -/
def withRule (key : String) (rule : Rule) (entries : List (String × Rule)) :
    List (String × Rule) :=
  entries.map fun entry => if entry.1 = key then (key, rule) else entry

theorem keys_withRule (key : String) (rule : Rule) (entries : List (String × Rule)) :
    (withRule key rule entries).map Prod.fst = entries.map Prod.fst := by
  rw [withRule, List.map_map]
  refine List.map_congr_left fun entry _ => ?_
  rw [Function.comp_apply]
  split
  case isTrue same => exact same.symm
  case isFalse => rfl

/-- The map with a rule at a key: in the place of the rule that was there, or else at
the end. -/
def insert (map : RuleMap) (key : String) (rule : Rule) : RuleMap where
  entries :=
    if key ∈ map.entries.map Prod.fst then withRule key rule map.entries
    else map.entries ++ [(key, rule)]
  distinct := by
    split
    case isTrue =>
      rw [keys_withRule]
      exact map.distinct
    case isFalse new =>
      rw [List.map_append]
      exact map.distinct.append (List.nodup_singleton _) (List.disjoint_singleton.mpr new)

/-- The map without the rule at a key. -/
def erase (map : RuleMap) (key : String) : RuleMap where
  entries := map.entries.filter (·.1 != key)
  distinct := map.distinct.sublist (List.filter_sublist.map _)

theorem entries_insert (map : RuleMap) (key : String) (rule : Rule) :
    (map.insert key rule).entries =
      if key ∈ map.entries.map Prod.fst then withRule key rule map.entries
      else map.entries ++ [(key, rule)] := rfl

theorem entries_erase (map : RuleMap) (key : String) :
    (map.erase key).entries = map.entries.filter (·.1 != key) := rfl

theorem mem_insert {map : RuleMap} {key : String} {rule : Rule} {entry : String × Rule}
    (member : entry ∈ (map.insert key rule).entries) :
    entry = (key, rule) ∨ entry ∈ map.entries := by
  rw [insert] at member
  split at member
  case isTrue =>
    obtain ⟨old, inMap, same⟩ := List.mem_map.mp member
    split at same
    case isTrue => exact .inl same.symm
    case isFalse => exact .inr (same ▸ inMap)
  case isFalse =>
    rcases List.mem_append.mp member with inMap | last
    · exact .inr inMap
    · exact .inl (List.mem_singleton.mp last)

theorem mem_of_mem_erase {map : RuleMap} {key : String} {entry : String × Rule}
    (member : entry ∈ (map.erase key).entries) : entry ∈ map.entries :=
  List.mem_of_mem_filter member

end RuleMap

/-! ### Sets as maps -/

namespace RuleSet

/-- A rule with its key. -/
def entryOf (rule : Rule) : String × Rule :=
  (key rule.name, rule)

/-- The rules of a set with their keys. -/
def entries (set : RuleSet) : List (String × Rule) :=
  set.rules.map entryOf

theorem withRule_of_new {wanted : String} {rules : List Rule}
    (new : wanted ∉ (rules.map entryOf).map Prod.fst) (rule : Rule) :
    RuleMap.withRule wanted rule (rules.map entryOf) = rules.map entryOf := by
  refine (List.map_congr_left fun entry member => if_neg ?_).trans (List.map_id _)
  rintro rfl
  exact new (List.mem_map_of_mem member)

/-- What replacing the first rule with a key comes to: nothing if there is none, and else
another rule at that key. -/
theorem replaceFirst_cases (rule : Rule) {rules : List Rule}
    (distinct : ((rules.map entryOf).map Prod.fst).Nodup) :
    (replaceFirst rule rules = none ∧ key rule.name ∉ (rules.map entryOf).map Prod.fst) ∨
    ∃ old after, replaceFirst rule rules = some (old, after) ∧
      key rule.name ∈ (rules.map entryOf).map Prod.fst ∧
      after.map entryOf = RuleMap.withRule (key rule.name) rule (rules.map entryOf) := by
  induction rules with
  | nil => exact .inl ⟨rfl, List.not_mem_nil⟩
  | cons head rest inductionHypothesis =>
    rw [List.map_cons, List.map_cons, List.nodup_cons] at distinct
    rw [replaceFirst, hasKey]
    by_cases same : key head.name = key rule.name
    · refine .inr ⟨head, rule :: rest, ?_, ?_, ?_⟩
      · rw [if_pos (beq_iff_eq.mpr same)]
      · rw [← same]
        exact List.mem_cons_self
      · have stays := withRule_of_new distinct.1 rule
        rw [List.map_cons, List.map_cons, RuleMap.withRule, List.map_cons,
          if_pos (show (entryOf head).1 = _ from same)]
        rw [RuleMap.withRule, show (entryOf head).1 = _ from same] at stays
        rw [stays]
        rfl
    · rw [if_neg (mt beq_iff_eq.mp same)]
      rcases inductionHypothesis distinct.2 with ⟨none, new⟩ | ⟨old, after, some, there, entries⟩
      · rw [none]
        refine .inl ⟨rfl, fun member => ?_⟩
        rcases List.mem_cons.mp member with first | later
        · exact same first.symm
        · exact new later
      · rw [some]
        refine .inr ⟨old, head :: after, rfl, List.mem_cons_of_mem _ there, ?_⟩
        rw [List.map_cons, List.map_cons, RuleMap.withRule, List.map_cons,
          if_neg (show ¬(entryOf head).1 = _ from same), entries]
        rfl

/-- What taking out the first rule with a key comes to. -/
theorem takeFirst_cases (wanted : String) {rules : List Rule}
    (distinct : ((rules.map entryOf).map Prod.fst).Nodup) :
    (takeFirst wanted rules = none ∧
      (rules.map entryOf).filter (·.1 != wanted) = rules.map entryOf) ∨
    ∃ old after, takeFirst wanted rules = some (old, after) ∧
      after.map entryOf = (rules.map entryOf).filter (·.1 != wanted) := by
  induction rules with
  | nil => exact .inl ⟨rfl, rfl⟩
  | cons head rest inductionHypothesis =>
    rw [List.map_cons, List.map_cons, List.nodup_cons] at distinct
    rw [takeFirst, hasKey, List.map_cons]
    by_cases same : key head.name = wanted
    · refine .inr ⟨head, rest, if_pos (beq_iff_eq.mpr same), ?_⟩
      rw [List.filter_cons_of_neg (by simpa [entryOf] using same)]
      refine (List.filter_eq_self.mpr fun entry member => bne_iff_ne.mpr fun taken => ?_).symm
      refine distinct.1 ?_
      rw [show (entryOf head).1 = wanted from same, ← taken]
      exact List.mem_map_of_mem member
    · rw [if_neg (mt beq_iff_eq.mp same), List.filter_cons_of_pos (by simpa [entryOf] using same)]
      rcases inductionHypothesis distinct.2 with ⟨none, stays⟩ | ⟨old, after, some, entries⟩
      · rw [none]
        exact .inl ⟨rfl, congrArg _ stays⟩
      · rw [some]
        exact .inr ⟨old, head :: after, rfl, congrArg _ entries⟩

variable {set : RuleSet} {map : RuleMap}

/-- Inserting a rule into a set is inserting it into the map. -/
theorem entries_upsert (same : set.entries = map.entries) (rule : Rule) :
    (set.upsert rule).2.entries = (map.insert (key rule.name) rule).entries := by
  have distinct := map.distinct
  rw [← same] at distinct
  rw [RuleMap.entries_insert, ← same, upsert]
  rcases replaceFirst_cases rule distinct with ⟨none, new⟩ | ⟨old, after, some, there, entries⟩
  · rw [none]
    exact List.map_append.trans (if_neg new).symm
  · rw [some]
    exact entries.trans (if_pos there).symm

/-- Removing a rule from a set is erasing it from the map. -/
theorem entries_remove (same : set.entries = map.entries) (name : String) :
    (set.remove name).2.entries = (map.erase (key name)).entries := by
  have distinct := map.distinct
  rw [← same] at distinct
  rw [RuleMap.entries_erase, ← same, remove]
  rcases takeFirst_cases (key name) distinct with ⟨none, stays⟩ | ⟨old, after, some, entries⟩
  · rw [none]
    exact stays.symm
  · rw [some]
    exact entries

@[simp]
theorem version_upsert (set : RuleSet) (rule : Rule) :
    (set.upsert rule).2.version = set.version := by
  rw [upsert]
  split <;> rfl

@[simp]
theorem version_remove (set : RuleSet) (name : String) :
    (set.remove name).2.version = set.version := by
  rw [remove]
  split <;> rfl

theorem key_of_get? {rule : Rule} {name : String} (found : set.get? name = some rule) :
    key rule.name = key name :=
  eq_of_beq (List.find?_some (p := hasKey (key name)) found)

theorem mem_of_get? {rule : Rule} {name : String} (found : set.get? name = some rule) :
    rule ∈ set.rules :=
  List.mem_of_find?_eq_some found

end RuleSet

/-! ### Rules that run -/

/-- Whether a rule has expressions, and all of them can be read. -/
structure Rule.IsSound (rule : Rule) : Prop where
  nonempty : rule.expressions ≠ []
  valid : ∀ text ∈ rule.expressions, isValid text = true

instance (rule : Rule) : Decidable rule.IsSound :=
  decidable_of_iff (rule.expressions ≠ [] ∧ ∀ text ∈ rule.expressions, isValid text = true)
    ⟨fun ⟨nonempty, valid⟩ => ⟨nonempty, valid⟩, fun ⟨nonempty, valid⟩ => ⟨nonempty, valid⟩⟩

/-- Whether all rules of a map are sound. -/
def RuleMap.IsSound (map : RuleMap) : Prop :=
  ∀ entry ∈ map.entries, entry.2.IsSound

namespace RuleMap.IsSound

variable {map : RuleMap}

theorem empty : RuleMap.empty.IsSound := nofun

theorem insert (sound : map.IsSound) {rule : Rule} (good : rule.IsSound) (key : String) :
    (map.insert key rule).IsSound := by
  intro entry member
  rcases mem_insert member with rfl | inMap
  · exact good
  · exact sound entry inMap

theorem erase (sound : map.IsSound) (key : String) : (map.erase key).IsSound :=
  fun entry member => sound entry (mem_of_mem_erase member)

end RuleMap.IsSound

end PlaylistRules
