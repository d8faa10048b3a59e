/-
This file proves that the text of a set of rules holds that set.
-/

import PlaylistRules.Proofs.JsonText
import PlaylistRules.Storage.RuleFile

namespace PlaylistRules

open Number

/-! ### Plain data -/

namespace Json

@[simp]
theorem isFaithful_ofTexts (texts : List String) : IsFaithful (ofTexts texts) := by
  refine (areFaithful_iff _).mpr fun item member => ?_
  obtain ⟨text, _, rfl⟩ := List.mem_map.mp member
  trivial

/-- What is seen of each written value is seen of the list. -/
theorem listOf?_map_of_seen {read : Json → Option β} {write : α → Json} {seen : α → β}
    {values : List α} (each : ∀ value ∈ values, read (write value) = some (seen value)) :
    listOf? read (.array (values.map write)) = some (values.map seen) := by
  rw [listOf?]
  induction values with
  | nil => rfl
  | cons value values inductionHypothesis =>
    rw [List.map_cons, List.mapM_cons, each value List.mem_cons_self,
      inductionHypothesis fun other member => each other (List.mem_cons_of_mem _ member)]
    rfl

theorem listOf?_map {read : Json → Option α} {write : α → Json} {values : List α}
    (back : ∀ value ∈ values, read (write value) = some value) :
    listOf? read (.array (values.map write)) = some values :=
  (listOf?_map_of_seen back).trans (congrArg some (List.map_id values))

theorem listOf?_ofTexts (texts : List String) : listOf? string? (ofTexts texts) = some texts :=
  listOf?_map fun _ _ => rfl

theorem integer?_ofNat {number : Nat} (small : number < 2 ^ 64) :
    (Numeral.ofInt number).integer? = some (number : Int) := by
  have positive : ¬(number : Int) < 0 := by omega
  simpa [Numeral.integer?, Numeral.ofInt, positive] using small

theorem natural?_ofNat {number bound : Nat} (small : number < bound) (fits : bound ≤ 2 ^ 64) :
    natural? bound (ofNat number) = some number := by
  have within : (0 : Int) ≤ number ∧ (number : Int) ≤ bound - 1 := by omega
  have read := integer?_ofNat (Nat.lt_of_lt_of_le small fits)
  simp only [natural?, ofNat, ofInt, Json.integer?, read, Option.bind_eq_bind, Option.bind_some,
    within]
  rfl

end Json

/-! ### Rules -/

namespace Rule

theorem isFaithful_toJson (rule : Rule) : Json.IsFaithful rule.toJson := by
  have texts := Json.isFaithful_ofTexts rule.expressions
  cases user : rule.user <;>
    simp [toJson, Json.ofMembers, user, Json.IsFaithful, Json.HoldFaithful, texts]

/-- A rule is read back from its JSON value. -/
theorem ofJson?_toJson (rule : Rule) : ofJson? rule.toJson = some rule := by
  obtain ⟨name, expressions, user, enabled⟩ := rule
  cases user <;>
    simp [toJson, ofJson?, Json.ofMembers, Json.fields?, Json.member?, Json.required,
      Json.optional, Json.defaulted, Json.string?, Json.bool?, Json.listOf?_ofTexts]

end Rule

/-! ### Sets of rules -/

namespace RuleSet

theorem isFaithful_toJson (set : RuleSet) : Json.IsFaithful set.toJson := by
  have rules : Json.AreFaithful (set.rules.map Rule.toJson) := by
    refine (Json.areFaithful_iff _).mpr fun item member => ?_
    obtain ⟨rule, _, rfl⟩ := List.mem_map.mp member
    exact rule.isFaithful_toJson
  simp [toJson, Json.ofNat, Json.ofInt, Json.IsFaithful, Json.HoldFaithful, rules,
    Json.isStandard_ofInt]

/-- A set of rules is read back from its JSON value, if its version has 32 bits. -/
theorem ofJson?_toJson {set : RuleSet} (small : set.version < 2 ^ 32) :
    ofJson? set.toJson = some set := by
  have rules : Json.listOf? Rule.ofJson? (.array (set.rules.map Rule.toJson)) = some set.rules :=
    Json.listOf?_map fun rule _ => rule.ofJson?_toJson
  have version := Json.natural?_ofNat small (by decide)
  have fields : set.toJson.fields? ["version", "rules"] =
      some [some (.ofNat set.version), some (.array (set.rules.map Rule.toJson))] := by
    simp [toJson, Json.fields?, Json.member?]
  rw [ofJson?, fields]
  simp only [Option.bind_eq_bind, Option.bind_some, Json.defaulted, version, rules]
  rfl

end RuleSet

namespace Storage.RuleFile

/-- The text of a set of rules holds that set. -/
theorem ofText_text {set : RuleSet} (small : set.version < 2 ^ 32) :
    ofText (text set) = .ok set := by
  rw [ofText, RuleSet.parse?, text, Json.parse?_pretty set.isFaithful_toJson, Option.bind_some,
    RuleSet.ofJson?_toJson small]

/-- What loading a rule file gives. -/
def loaded (path : Path) : Except FileFault String → Except RuleFileFault RuleSet
  | .ok text => ofText text
  | .error fault => .error (.read path fault)

/-- Loading reads the file and changes nothing. -/
theorem run_load (path : Path) (disk : Disk) :
    (load path).run disk = (loaded path (disk.read path), disk) := by
  change FileTask.run (FileTask.read path _) disk = _
  rw [FileTask.run]
  cases disk.read path <;> rfl

end Storage.RuleFile

end PlaylistRules
