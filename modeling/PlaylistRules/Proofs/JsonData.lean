/-
This file says how objects of named fields stand in JSON values, where some fields may be
absent. Whatever is written from them can be spelled out and read back, and a field is
found under its name.
-/

import PlaylistRules.Proofs.JsonNumbers
import PlaylistRules.Proofs.RuleSets

namespace PlaylistRules.Json

/-! ### Named fields -/

theorem holdFaithful_iff (members : List (String × Json)) :
    HoldFaithful members ↔ ∀ member ∈ members, IsFaithful member.2 := by
  induction members with
  | nil => simp [HoldFaithful]
  | cons member members inductionHypothesis => simp [HoldFaithful, inductionHypothesis]

theorem isFaithful_ofMembers {members : List (String × Option Json)}
    (each : ∀ member ∈ members, ∀ value ∈ member.2, IsFaithful value) :
    IsFaithful (ofMembers members) := by
  refine (holdFaithful_iff _).mpr fun member inObject => ?_
  obtain ⟨⟨name, value?⟩, inMembers, found⟩ := List.mem_filterMap.mp inObject
  obtain ⟨value, present, rfl⟩ := Option.map_eq_some_iff.mp found
  exact each _ inMembers value present

/-- Under names that differ, the member with a name is the one that was written. -/
theorem member?_ofMembers {members : List (String × Option Json)}
    (distinct : (members.map (·.1)).Nodup) {name : String} {value? : Option Json}
    (member : (name, value?) ∈ members) :
    member? (members.filterMap fun (name, value?) => value?.map (name, ·)) name = some value? := by
  have others {rest : List (String × Option Json)} (absent : name ∉ rest.map (·.1)) :
      (rest.filterMap fun (name, value?) => value?.map (name, ·)).filter (·.1 == name) = [] := by
    refine List.filter_eq_nil_iff.mpr fun entry inObject same => absent ?_
    obtain ⟨⟨other, other?⟩, inRest, found⟩ := List.mem_filterMap.mp inObject
    obtain ⟨_, _, rfl⟩ := Option.map_eq_some_iff.mp found
    rw [beq_iff_eq] at same
    exact same ▸ List.mem_map_of_mem (f := Prod.fst) inRest
  obtain ⟨before, after, rfl⟩ := List.append_of_mem member
  rw [List.map_append, List.map_cons, List.nodup_append, List.nodup_cons] at distinct
  obtain ⟨_, ⟨absentAfter, _⟩, apart⟩ := distinct
  have absentBefore : name ∉ before.map (·.1) := fun inBefore =>
    apart name inBefore name List.mem_cons_self rfl
  rw [member?, List.filterMap_append, List.filter_append, others absentBefore, List.nil_append,
    List.filterMap_cons]
  cases value? with
  | none =>
    dsimp only [Option.map_none]
    rw [others absentAfter]
  | some value =>
    dsimp only [Option.map_some]
    rw [List.filter_cons, if_pos (beq_self_eq_true name), others absentAfter]

/-- Written fields are read back by their names, those that are absent as absent. -/
theorem fields?_ofMembers (members fields : List (String × Option Json))
    (distinct : (members.map (·.1)).Nodup) (subset : fields ⊆ members) :
    fields? (fields.map (·.1)) (ofMembers members) = some (fields.map (·.2)) := by
  rw [ofMembers, fields?]
  induction fields with
  | nil => rfl
  | cons field fields inductionHypothesis =>
    obtain ⟨inMembers, others⟩ := List.cons_subset.mp subset
    rw [List.map_cons, List.map_cons, List.mapM_cons, member?_ofMembers distinct inMembers,
      inductionHypothesis others]
    rfl

/-- The value of a field that may be absent was read, if there is one. -/
theorem exists_of_mem_optional {read : Json → Option α} {field : Option Json} {value? : Option α}
    (found : optional read field = some value?) {value : α} (present : value ∈ value?) :
    ∃ item, read item = some value := by
  unfold optional at found
  split at found
  case h_1 =>
    cases found
    cases present
  case h_2 =>
    cases found
    cases present
  case h_3 item _ =>
    obtain ⟨other, readItem, same⟩ := Option.map_eq_some_iff.mp found
    rw [← same] at present
    cases present
    exact ⟨item, readItem⟩

/-- A field that may be absent is read back, if its values are and none of them is null. -/
theorem optional_map {read : Json → Option α} {write : α → Json} {value? : Option α}
    (present : ∀ value ∈ value?, write value ≠ .null)
    (back : ∀ value ∈ value?, read (write value) = some value) :
    optional read (value?.map write) = some value? := by
  cases value? with
  | none => rfl
  | some value =>
    have notNull := present value rfl
    rw [Option.map_some, optional, back value rfl]
    · rfl
    · exact notNull

end PlaylistRules.Json
