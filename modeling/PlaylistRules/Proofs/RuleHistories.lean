/-
This file says what sets of rules answer over time. A history of requests of any length
gets the answers that a map from keys to rules would give, and leaves the rules in the
order of that map. What carries this is that no two rules share a key. The first rule
with a key is then the only one, so that looking up, replacing and removing mean the
same rule.
-/

import PlaylistRules.Proofs.Lookups
import PlaylistRules.Proofs.RuleMaps

namespace PlaylistRules

/-! ### Requests -/

/-- A request to a set of rules. -/
inductive RuleRequest where
  | upsert (rule : Rule)
  | get (name : String)
  | remove (name : String)
  | names
deriving DecidableEq

/-- The answer to a request. -/
inductive RuleReply where
  | rule (found : Option Rule)
  | names (names : List String)
deriving DecidableEq

/-- The answers to requests one after the other, and the state that they leave. -/
def answerEach (answer : State → RuleRequest → RuleReply × State) :
    State → List RuleRequest → List RuleReply × State
  | state, [] => ([], state)
  | state, request :: rest =>
    let (reply, state) := answer state request
    let (replies, state) := answerEach answer state rest
    (reply :: replies, state)

namespace RuleRequest

/-- Whether a request writes at a key. -/
def concerns (wanted : String) : RuleRequest → Bool
  | upsert rule => wanted == RuleSet.key rule.name
  | get _ => false
  | remove name => wanted == RuleSet.key name
  | names => false

/-- The rule that a request leaves where it writes. -/
def written? : RuleRequest → Option Rule
  | upsert rule => some rule
  | _ => none

end RuleRequest

/-! ### Answers of a set and of a map -/

namespace RuleSet

/-- What a set answers, and the set afterwards. -/
def answer (set : RuleSet) : RuleRequest → RuleReply × RuleSet
  | .upsert rule => (.rule (set.upsert rule).1, (set.upsert rule).2)
  | .get name => (.rule (set.get? name), set)
  | .remove name => (.rule (set.remove name).1, (set.remove name).2)
  | .names => (.names set.names, set)

/-- No two rules of a set share a key. -/
def IsDistinct (set : RuleSet) : Prop :=
  (set.entries.map Prod.fst).Nodup

instance (set : RuleSet) : Decidable set.IsDistinct :=
  inferInstanceAs (Decidable (List.Nodup _))

/-- The map that a set without shared keys stands for. -/
def toMap (set : RuleSet) (distinct : set.IsDistinct) : RuleMap :=
  ⟨set.entries, distinct⟩

end RuleSet

namespace RuleMap

/-- The rule at a key. -/
def get? (map : RuleMap) (key : String) : Option Rule :=
  map.entries.lookup key

/-- What a map answers, and the map afterwards. -/
def answer (map : RuleMap) : RuleRequest → RuleReply × RuleMap
  | .upsert rule =>
    (.rule (map.get? (RuleSet.key rule.name)), map.insert (RuleSet.key rule.name) rule)
  | .get name => (.rule (map.get? (RuleSet.key name)), map)
  | .remove name => (.rule (map.get? (RuleSet.key name)), map.erase (RuleSet.key name))
  | .names => (.names (map.entries.map (·.2.name)), map)

end RuleMap

/-! ### One rule with a key -/

namespace RuleSet

theorem find?_eq_lookup (wanted : String) (rules : List Rule) :
    rules.find? (hasKey wanted) = (rules.map entryOf).lookup wanted := by
  induction rules with
  | nil => rfl
  | cons head rest inductionHypothesis =>
    rw [List.find?_cons, List.map_cons, entryOf, hasKey]
    by_cases same : key head.name = wanted
    · simp [same]
    · rw [beq_false_of_ne same, lookup_cons_of_ne (Ne.symm same)]
      exact inductionHypothesis

/-- Looking up a name in a set is looking up its key among the entries. -/
theorem get?_eq_lookup (set : RuleSet) (name : String) :
    set.get? name = set.entries.lookup (key name) :=
  find?_eq_lookup (key name) set.rules

/-- Replacing means the rule that looking up finds. -/
theorem replaceFirst_eq (rule : Rule) (rules : List Rule) :
    (replaceFirst rule rules = none ∧ rules.find? (hasKey (key rule.name)) = none) ∨
      ∃ old before after, rules = before ++ old :: after ∧
        rules.find? (hasKey (key rule.name)) = some old ∧
        replaceFirst rule rules = some (old, before ++ rule :: after) := by
  induction rules with
  | nil => exact .inl ⟨rfl, rfl⟩
  | cons head rest inductionHypothesis =>
    rw [replaceFirst, List.find?_cons]
    cases same : hasKey (key rule.name) head with
    | true => exact .inr ⟨head, [], rest, rfl, rfl, rfl⟩
    | false =>
      rcases inductionHypothesis with ⟨kept, absent⟩ | ⟨old, before, after, rfl, found, replaced⟩
      · rw [kept]
        exact .inl ⟨rfl, absent⟩
      · rw [replaced]
        exact .inr ⟨old, head :: before, after, rfl, found, rfl⟩

/-- Removing means the rule that looking up finds. -/
theorem takeFirst_eq (wanted : String) (rules : List Rule) :
    (takeFirst wanted rules = none ∧ rules.find? (hasKey wanted) = none) ∨
      ∃ old before after, rules = before ++ old :: after ∧
        rules.find? (hasKey wanted) = some old ∧
        takeFirst wanted rules = some (old, before ++ after) := by
  induction rules with
  | nil => exact .inl ⟨rfl, rfl⟩
  | cons head rest inductionHypothesis =>
    rw [takeFirst, List.find?_cons]
    cases same : hasKey wanted head with
    | true => exact .inr ⟨head, [], rest, rfl, rfl, rfl⟩
    | false =>
      rcases inductionHypothesis with ⟨kept, absent⟩ | ⟨old, before, after, rfl, found, taken⟩
      · rw [kept]
        exact .inl ⟨rfl, absent⟩
      · rw [taken]
        exact .inr ⟨old, head :: before, after, rfl, found, rfl⟩

end RuleSet

/-! ### The map after a request -/

namespace RuleMap

variable (map : RuleMap) (key other : String) (rule : Rule)

theorem lookup_withRule (entries : List (String × Rule)) :
    (withRule key rule entries).lookup other =
      if other = key then (entries.lookup key).map fun _ => rule else entries.lookup other := by
  induction entries with
  | nil => simp [withRule]
  | cons entry rest inductionHypothesis =>
    obtain ⟨first, old⟩ := entry
    rw [withRule] at inductionHypothesis
    rw [withRule, List.map_cons]
    by_cases here : first = key
    · subst here
      rw [if_pos rfl]
      by_cases same : other = first
      · simp [same]
      · rw [lookup_cons_of_ne same, lookup_cons_of_ne same, inductionHypothesis, if_neg same,
          if_neg same]
    · rw [if_neg here]
      by_cases same : other = key
      · subst same
        rw [lookup_cons_of_ne (Ne.symm here), lookup_cons_of_ne (Ne.symm here)]
        exact inductionHypothesis
      · rw [if_neg same] at inductionHypothesis ⊢
        simp only [List.lookup_cons, inductionHypothesis]

/-- Inserting changes what is at its key and nothing else. -/
theorem get?_insert :
    (map.insert key rule).get? other = if other = key then some rule else map.get? other := by
  rw [get?, get?, entries_insert]
  split
  case isTrue there =>
    rw [lookup_withRule]
    split
    case isTrue =>
      cases found : map.entries.lookup key with
      | some old => rfl
      | none =>
        obtain ⟨entry, inMap, same⟩ := List.mem_map.mp there
        have differs := List.lookup_eq_none_iff.mp found entry inMap
        exact absurd same.symm (bne_iff_ne.mp differs)
    case isFalse => rfl
  case isFalse new =>
    rw [List.lookup_append]
    split
    case isTrue same => simp [same, lookup_eq_none_of_new new]
    case isFalse differs => simp [lookup_cons_of_ne differs]

/-- Erasing takes away what is at its key and nothing else. -/
theorem get?_erase :
    (map.erase key).get? other = if other = key then none else map.get? other :=
  lookup_filter_ne map.entries key other

/-- Answering a request changes what is at the key that the request concerns. -/
theorem get?_answer (request : RuleRequest) :
    (map.answer request).2.get? other =
      if request.concerns other then request.written? else map.get? other := by
  cases request with
  | upsert rule =>
    simp only [answer, get?_insert, RuleRequest.concerns, RuleRequest.written?, beq_iff_eq]
  | remove name =>
    simp only [answer, get?_erase, RuleRequest.concerns, RuleRequest.written?, beq_iff_eq]
  | get | names => rfl

end RuleMap

/-! ### A set and its map -/

namespace RuleSet

variable {set : RuleSet} {map : RuleMap}

theorem get?_of_entries (same : set.entries = map.entries) (name : String) :
    set.get? name = map.get? (key name) := by
  rw [get?_eq_lookup, same]
  rfl

theorem fst_upsert (set : RuleSet) (rule : Rule) : (set.upsert rule).1 = set.get? rule.name := by
  rw [upsert, get?]
  rcases replaceFirst_eq rule set.rules with ⟨kept, absent⟩ | ⟨old, _, _, _, found, replaced⟩
  · rw [kept, absent]
  · rw [replaced, found]

theorem fst_remove (set : RuleSet) (name : String) : (set.remove name).1 = set.get? name := by
  rw [remove, get?]
  rcases takeFirst_eq (key name) set.rules with ⟨kept, absent⟩ | ⟨old, _, _, _, found, taken⟩
  · rw [kept, absent]
  · rw [taken, found]

/-- A set answers a request like the map with its entries, and both go on alike. -/
theorem answer_of_entries (same : set.entries = map.entries) (request : RuleRequest) :
    (set.answer request).1 = (map.answer request).1 ∧
      (set.answer request).2.entries = (map.answer request).2.entries ∧
      (set.answer request).2.version = set.version := by
  cases request with
  | upsert rule =>
    refine ⟨?_, entries_upsert same rule, version_upsert set rule⟩
    rw [answer, fst_upsert, get?_of_entries same]
    rfl
  | get name => exact ⟨congrArg RuleReply.rule (get?_of_entries same name), same, rfl⟩
  | remove name =>
    refine ⟨?_, entries_remove same name, version_remove set name⟩
    rw [answer, fst_remove, get?_of_entries same]
    rfl
  | names =>
    refine ⟨congrArg RuleReply.names ?_, same, rfl⟩
    rw [← same, entries, List.map_map]
    rfl

/-- A set answers a history of requests like the map with its entries. -/
theorem answerEach_of_entries (same : set.entries = map.entries) (requests : List RuleRequest) :
    (answerEach answer set requests).1 = (answerEach RuleMap.answer map requests).1 ∧
      (answerEach answer set requests).2.entries =
        (answerEach RuleMap.answer map requests).2.entries ∧
      (answerEach answer set requests).2.version = set.version := by
  induction requests generalizing set map with
  | nil => exact ⟨rfl, same, rfl⟩
  | cons request rest inductionHypothesis =>
    obtain ⟨reply, entries, version⟩ := answer_of_entries same request
    obtain ⟨replies, later, laterVersion⟩ := inductionHypothesis entries
    exact ⟨congrArg₂ List.cons reply replies, later, laterVersion.trans version⟩

end RuleSet

/-! ### The latest rule -/

/-- None of the requests writes at a key. -/
def IsUntouched (wanted : String) (requests : List RuleRequest) : Prop :=
  ∀ request ∈ requests, request.concerns wanted = false

/-- One of the requests upserts the rule at a key, and none after it writes there. -/
def IsLatest (wanted : String) (rule : Rule) (requests : List RuleRequest) : Prop :=
  ∃ before after, requests = before ++ .upsert rule :: after ∧
    RuleSet.key rule.name = wanted ∧ IsUntouched wanted after

theorem isLatest_cons (wanted : String) (rule : Rule) (request : RuleRequest)
    (rest : List RuleRequest) :
    IsLatest wanted rule (request :: rest) ↔
      IsLatest wanted rule rest ∨
        IsUntouched wanted rest ∧ request.concerns wanted = true ∧
          request.written? = some rule := by
  constructor
  · rintro ⟨before, after, split, sameKey, untouched⟩
    cases before with
    | nil =>
      obtain ⟨rfl, rfl⟩ := List.cons.inj split
      exact .inr ⟨untouched, beq_iff_eq.mpr sameKey.symm, rfl⟩
    | cons first before =>
      obtain ⟨rfl, rfl⟩ := List.cons.inj split
      exact .inl ⟨before, after, rfl, sameKey, untouched⟩
  · rintro (⟨before, after, rfl, sameKey, untouched⟩ | ⟨untouched, concerned, written⟩)
    · exact ⟨request :: before, after, rfl, sameKey, untouched⟩
    · cases request with
      | upsert other =>
        obtain rfl := Option.some.inj written
        exact ⟨[], rest, rfl, (eq_of_beq concerned).symm, untouched⟩
      | get | remove | names => cases written

/-- At a key stands the rule that was upserted there last and not removed since, or the one
from the start if nothing was written there. -/
theorem RuleMap.get?_answerEach (map : RuleMap) (wanted : String) (rule : Rule)
    (requests : List RuleRequest) :
    (answerEach RuleMap.answer map requests).2.get? wanted = some rule ↔
      IsLatest wanted rule requests ∨
        IsUntouched wanted requests ∧ map.get? wanted = some rule := by
  induction requests generalizing map with
  | nil =>
    have untouched : IsUntouched wanted [] := nofun
    simp [answerEach, IsLatest, untouched]
  | cons request rest inductionHypothesis =>
    refine (inductionHypothesis (map.answer request).2).trans ?_
    rw [RuleMap.get?_answer, isLatest_cons, or_assoc]
    refine or_congr_right ?_
    cases concerned : request.concerns wanted with
    | true => simp [IsUntouched, concerned]
    | false => simp [IsUntouched, concerned]

/-! ### One request -/

namespace RuleSet

/-- How inserting a rule changes a set: the rule stands where one with its key stood, or
else at the end, and nothing else moves. -/
structure Upserts (set : RuleSet) (rule : Rule) : Prop where
  reply : (set.upsert rule).1 = set.get? rule.name
  replaced : ∀ old, set.get? rule.name = some old →
    ∃ before after, set.rules = before ++ old :: after ∧
      (set.upsert rule).2.rules = before ++ rule :: after
  appended : set.get? rule.name = none → (set.upsert rule).2.rules = set.rules ++ [rule]
  found : ∀ name, (set.upsert rule).2.get? name =
    if key name = key rule.name then some rule else set.get? name

/-- How removing a name changes a set: the rule with its key is gone, and nothing else
moves. -/
structure Removes (set : RuleSet) (name : String) : Prop where
  reply : (set.remove name).1 = set.get? name
  removed : ∀ old, set.get? name = some old →
    ∃ before after, set.rules = before ++ old :: after ∧
      (set.remove name).2.rules = before ++ after
  absent : set.get? name = none → (set.remove name).2 = set
  found : ∀ other, (set.remove name).2.get? other =
    if key other = key name then none else set.get? other

variable {set : RuleSet}

theorem IsDistinct.upserts (distinct : set.IsDistinct) (rule : Rule) : set.Upserts rule where
  reply := fst_upsert set rule
  replaced old found := by
    rw [get?] at found
    rw [upsert]
    rcases replaceFirst_eq rule set.rules with
      ⟨_, absent⟩ | ⟨other, before, after, split, first, replaced⟩
    · cases absent.symm.trans found
    · obtain rfl := Option.some.inj (first.symm.trans found)
      exact ⟨before, after, split, by rw [replaced]⟩
  appended absent := by
    rw [get?] at absent
    rw [upsert]
    rcases replaceFirst_eq rule set.rules with ⟨kept, _⟩ | ⟨_, _, _, _, found, _⟩
    · rw [kept]
    · cases absent.symm.trans found
  found name := by
    have same : set.entries = (set.toMap distinct).entries := rfl
    rw [get?_of_entries (entries_upsert same rule), RuleMap.get?_insert, get?_of_entries same]

theorem IsDistinct.removes (distinct : set.IsDistinct) (name : String) : set.Removes name where
  reply := fst_remove set name
  removed old found := by
    rw [get?] at found
    rw [remove]
    rcases takeFirst_eq (key name) set.rules with
      ⟨_, absent⟩ | ⟨other, before, after, split, first, taken⟩
    · cases absent.symm.trans found
    · obtain rfl := Option.some.inj (first.symm.trans found)
      exact ⟨before, after, split, by rw [taken]⟩
  absent missing := by
    rw [get?] at missing
    rw [remove]
    rcases takeFirst_eq (key name) set.rules with ⟨kept, _⟩ | ⟨_, _, _, _, found, _⟩
    · rw [kept]
    · cases missing.symm.trans found
  found other := by
    have same : set.entries = (set.toMap distinct).entries := rfl
    rw [get?_of_entries (entries_remove same name), RuleMap.get?_erase, get?_of_entries same]

/-- After any history of requests a set without shared keys has given the answers of the
map with its entries and is left with the entries of that map. It still shares no key and
has its old version. At each name it finds the rule that was inserted last and not removed
since; and every further rule that is inserted and every name that is removed changes it
at one place only. -/
theorem answers_like_map (start : RuleSet) (distinct : start.IsDistinct)
    (requests : List RuleRequest) :
    let ofMap := answerEach RuleMap.answer (start.toMap distinct) requests
    let ofSet := answerEach answer start requests
    ofSet.1 = ofMap.1 ∧ ofSet.2.entries = ofMap.2.entries ∧ ofSet.2.IsDistinct ∧
      ofSet.2.version = start.version ∧
      (∀ name rule, ofSet.2.get? name = some rule ↔
        IsLatest (key name) rule requests ∨
          IsUntouched (key name) requests ∧ start.get? name = some rule) ∧
      (∀ rule, ofSet.2.Upserts rule) ∧ ∀ name, ofSet.2.Removes name := by
  intro ofMap ofSet
  have same : start.entries = (start.toMap distinct).entries := rfl
  obtain ⟨replies, entries, version⟩ := answerEach_of_entries same requests
  have still : ofSet.2.IsDistinct := by
    rw [IsDistinct, entries]
    exact ofMap.2.distinct
  refine ⟨replies, entries, still, version, fun name rule => ?_, still.upserts, still.removes⟩
  rw [get?_of_entries entries, get?_of_entries same]
  exact RuleMap.get?_answerEach _ _ _ _

/-- A rule is spelled anew in its place, another one is removed, and a third is new. -/
theorem answers_like_map_spellings :
    let rule (name : String) (enabled : Bool) : Rule := ⟨name, [], none, enabled⟩
    let start : RuleSet := ⟨3, [rule "ΟΔΟΣ" true, rule "Été" true]⟩
    let requests : List RuleRequest := [.upsert (rule "οδος" false), .get "ΟΔΟς",
      .remove "ÉTÉ", .get "été", .upsert (rule "Noir" true), .names]
    let ofSet := answerEach answer start requests
    start.IsDistinct ∧
      ofSet.1 = [.rule (some (rule "ΟΔΟΣ" true)), .rule (some (rule "οδος" false)),
        .rule (some (rule "Été" true)), .rule none, .rule none, .names ["οδος", "Noir"]] ∧
      ofSet.2.IsDistinct ∧ ofSet.2.version = 3 := by
  intro rule start requests ofSet
  have distinct : start.IsDistinct := by decide +kernel
  obtain ⟨_, _, still, version, _⟩ := answers_like_map start distinct requests
  exact ⟨distinct, by decide +kernel, still, version⟩

end RuleSet

end PlaylistRules
