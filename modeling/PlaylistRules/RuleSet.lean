/-
This file defines sets of rules: rules in the order of their insertion, looked up
by name without regard to letter case.
-/

import PlaylistRules.Rule

namespace PlaylistRules

open Text

/-- A set of rules with the version of its file format. -/
structure RuleSet where
  version : Nat
  rules : List Rule
deriving DecidableEq

namespace RuleSet

/-- The version that new rule sets have. -/
def currentVersion : Nat := 1

/-- The set without rules. -/
def empty : RuleSet := ⟨currentVersion, []⟩

/-- The key of a name: names that differ in letter case only have one key. -/
def key (name : String) : String := lowercase name

/-- Whether a rule has the given key. -/
def hasKey (wanted : String) (rule : Rule) : Bool :=
  key rule.name == wanted

/-- The rule with a name. -/
def get? (set : RuleSet) (name : String) : Option Rule :=
  set.rules.find? (hasKey (key name))

/-- Puts a rule in the place of the first one with its key, and gives the one
that was there. -/
def replaceFirst (rule : Rule) : List Rule → Option (Rule × List Rule)
  | [] => none
  | head :: rest =>
    if hasKey (key rule.name) head then some (head, rule :: rest)
    else (replaceFirst rule rest).map fun (old, rest) => (old, head :: rest)

/-- Takes out the first rule with a key. -/
def takeFirst (wanted : String) : List Rule → Option (Rule × List Rule)
  | [] => none
  | head :: rest =>
    if hasKey wanted head then some (head, rest)
    else (takeFirst wanted rest).map fun (old, rest) => (old, head :: rest)

/-- Inserts a rule, in the place of the rule with the same name or else at the
end. The first component is the rule that was replaced. -/
def upsert (set : RuleSet) (rule : Rule) : Option Rule × RuleSet :=
  match replaceFirst rule set.rules with
  | some (old, rules) => (some old, { set with rules })
  | none => (none, { set with rules := set.rules ++ [rule] })

/-- Removes the rule with a name. The first component is the rule that was there. -/
def remove (set : RuleSet) (name : String) : Option Rule × RuleSet :=
  match takeFirst (key name) set.rules with
  | some (old, rules) => (some old, { set with rules })
  | none => (none, set)

/-- The names of the rules in their order. -/
def names (set : RuleSet) : List String :=
  set.rules.map (·.name)

/-! ### JSON -/

/-- A set of rules as a JSON value. -/
def toJson (set : RuleSet) : Json :=
  .object [("version", .ofNat set.version), ("rules", .array (set.rules.map Rule.toJson))]

/-- A set of rules read from a JSON value. Both fields have defaults. -/
def ofJson? (value : Json) : Option RuleSet := do
  let [version, rules] ← value.fields? ["version", "rules"] | none
  return ⟨← Json.defaulted currentVersion (Json.natural? (2 ^ 32)) version,
    ← Json.defaulted [] (Json.listOf? Rule.ofJson?) rules⟩

/-- A set of rules read from JSON text. -/
def parse? (text : String) : Option RuleSet :=
  (Json.parse? text).bind ofJson?

end RuleSet

end PlaylistRules
