/-
This file proves that data decoded from JSON text loses nothing more when it is written
and decoded again. What was missing has its default by then, what was unknown is gone, and
names stand in their order, so the second reading finds the value of the first one. A
catalog keeps its users without an order: they may come in another one each time.
-/

import PlaylistRules.Proofs.CatalogJson

namespace PlaylistRules

open Number

/-- A version that was read has 32 bits. -/
theorem RuleSet.version_lt_of_ofJson? {value : Json} {set : RuleSet}
    (found : ofJson? value = some set) : set.version < 2 ^ 32 := by
  simp only [ofJson?, Option.bind_eq_bind, Option.bind_eq_some_iff] at found
  obtain ⟨fields, _, parts⟩ := found
  split at parts
  case h_2 => cases parts
  case h_1 version _ _ =>
    simp only [Option.bind_eq_some_iff] at parts
    obtain ⟨number, read, _, _, same⟩ := parts
    cases same
    cases version with
    | none =>
      cases read
      exact (by decide : currentVersion < 2 ^ 32)
    | some value => exact Json.lt_of_natural? read

/-! ### Kinds of data -/

/-- The kinds of data that are kept as JSON text. -/
inductive DataKind where
  | record
  | rule
  | ruleSet
  | filter
  | expression
  | playlist
  | catalog
deriving DecidableEq

namespace DataKind

/-- The values of a kind. -/
abbrev Value : DataKind → Type
  | record => Record
  | rule => Rule
  | ruleSet => RuleSet
  | filter => Filter
  | expression => Expression
  | playlist => Playlist
  | catalog => Catalog

/-- The value of a kind that a JSON value holds. -/
def read? : (kind : DataKind) → Json → Option kind.Value
  | record => Record.ofJson?
  | rule => Rule.ofJson?
  | ruleSet => RuleSet.ofJson?
  | filter => Filter.ofJson? Filter.containerLimit
  | expression => Expression.ofJson?
  | playlist => Playlist.ofJson?
  | catalog => Catalog.ofJson?

/-- The value of a kind that a JSON text holds. -/
def decode? (kind : DataKind) (text : String) : Option kind.Value :=
  (Json.parse? text).bind kind.read?

/-- Whether a value is written as a JSON value. All but catalogs are written in one way. -/
def Writes : (kind : DataKind) → kind.Value → Json → Prop
  | record, value, json => json = Record.toJson value
  | rule, value, json => json = Rule.toJson value
  | ruleSet, value, json => json = RuleSet.toJson value
  | filter, value, json => json = Filter.toJson value
  | expression, value, json => json = Expression.toJson value
  | playlist, value, json => json = Playlist.toJson value
  | catalog, value, json => Catalog.IsWrittenAs value json

/-- Whether two values are the same. The users of a catalog have no order. -/
def Same : (kind : DataKind) → kind.Value → kind.Value → Prop
  | catalog, first, second =>
    Catalog.items first = Catalog.items second ∧
      (Catalog.watched first).Perm (Catalog.watched second)
  | record, first, second => first = second
  | rule, first, second => first = second
  | ruleSet, first, second => first = second
  | filter, first, second => first = second
  | expression, first, second => first = second
  | playlist, first, second => first = second

/-- The floating-point numbers in a value. -/
def numbers : (kind : DataKind) → kind.Value → List Binary64
  | record, value => (Record.rating value).toList
  | filter, value => Filter.ratings value
  | expression, value => Filter.ratings (Expression.filter value)
  | catalog, value => (Catalog.items value).flatMap fun record => record.rating.toList
  | rule, _ | ruleSet, _ | playlist, _ => []

/-! ### Decoding what was encoded -/

theorem isFaithful_of_writes {kind : DataKind} {value : kind.Value} {json : Json}
    (writes : kind.Writes value json) : json.IsFaithful := by
  cases kind with
  | record => exact writes ▸ Record.isFaithful_toJson value
  | rule => exact writes ▸ Rule.isFaithful_toJson value
  | ruleSet => exact writes ▸ RuleSet.isFaithful_toJson value
  | filter => exact writes ▸ Filter.isFaithful_toJson value
  | expression => exact writes ▸ Expression.isFaithful_toJson value
  | playlist => exact writes ▸ Playlist.isFaithful_toJson value
  | catalog => exact Catalog.isFaithful_of_isWrittenAs writes

/-- What was read is read back from what it is written as. -/
theorem read?_of_writes {kind : DataKind} {source : Json} {value : kind.Value}
    (found : kind.read? source = some value)
    (back : ∀ number ∈ kind.numbers value, Json.IsReadAsWritten number) {json : Json}
    (writes : kind.Writes value json) :
    ∃ again, kind.read? json = some again ∧ kind.Same again value := by
  cases kind with
  | record =>
    refine ⟨value, ?_, rfl⟩
    rw [show json = _ from writes]
    exact Record.ofJson?_toJson (Record.isStorable_of_ofJson? found) fun rating present =>
      back rating (Option.mem_toList.mpr present)
  | rule =>
    refine ⟨value, ?_, rfl⟩
    rw [show json = _ from writes]
    exact Rule.ofJson?_toJson value
  | ruleSet =>
    refine ⟨value, ?_, rfl⟩
    rw [show json = _ from writes]
    exact RuleSet.ofJson?_toJson (RuleSet.version_lt_of_ofJson? found)
  | filter =>
    refine ⟨value, ?_, rfl⟩
    rw [show json = _ from writes]
    exact Filter.ofJson?_toJson (Filter.storable_of_ofJson? found) back
  | expression =>
    refine ⟨value, ?_, rfl⟩
    rw [show json = _ from writes]
    exact Expression.ofJson?_toJson (Expression.isStorable_of_ofJson? found) back
  | playlist =>
    refine ⟨value, ?_, rfl⟩
    rw [show json = _ from writes]
    exact Playlist.ofJson?_toJson (Playlist.isWritable_of_ofJson? found)
  | catalog =>
    refine Catalog.exists_of_isWrittenAs (Catalog.isStorable_of_ofJson? found)
      (fun record member rating present => back rating ?_) writes
    exact List.mem_flatMap.mpr ⟨record, member, Option.mem_toList.mpr present⟩

/-- The same values are written in the same ways. -/
theorem writes_congr {kind : DataKind} {first second : kind.Value} (same : kind.Same first second)
    (json : Json) : kind.Writes first json ↔ kind.Writes second json := by
  cases kind with
  | catalog =>
    obtain ⟨items, watched⟩ := same
    refine exists₂_congr fun entries members => ?_
    rw [items]
    exact and_congr_left fun _ =>
      ⟨fun perm => perm.trans watched, fun perm => perm.trans watched.symm⟩
  | _ => exact iff_of_eq (congrArg (Writes _ · json) same)

/-- Decoding is stable. What a text decodes to, if its floating-point numbers are read as
they are written, is decoded again from every text that it is written as, on one line or
over several, and it is written in the same ways then. -/
theorem decoding_stable (kind : DataKind) {text : String} {value : kind.Value}
    (decoded : kind.decode? text = some value)
    (back : ∀ number ∈ kind.numbers value, Json.IsReadAsWritten number) {json : Json}
    (writes : kind.Writes value json) {written : String}
    (form : written = json.compact ∨ written = json.pretty) :
    ∃ again, kind.decode? written = some again ∧ kind.Same again value ∧
      ∀ other, kind.Writes again other ↔ kind.Writes value other := by
  obtain ⟨source, _, found⟩ := Option.bind_eq_some_iff.mp decoded
  obtain ⟨again, read, same⟩ := read?_of_writes found back writes
  have parsed : Json.parse? written = some json := by
    rcases form with rfl | rfl
    · exact Json.parse?_compact (isFaithful_of_writes writes)
    · exact Json.parse?_pretty (isFaithful_of_writes writes)
  refine ⟨again, ?_, same, writes_congr same⟩
  rw [decode?, parsed, Option.bind_some, read]

/-- The record names a genre twice, has a member of an unknown name, and leaves out its type
and its watched flag. -/
theorem decoding_stable_defaults :
    let text := "\x7b\"id\":\"m\",\"name\":\"M\",\"genres\":[\"b\",\"a\",\"b\"]," ++
      "\"community_rating\":7.5,\"seen\":1\x7d"
    let written := "\x7b\"id\":\"m\",\"name\":\"M\",\"type\":\"\",\"genres\":[\"a\",\"b\"]," ++
      "\"watched\":false,\"community_rating\":7.5\x7d"
    ∃ value : Record, record.decode? text = some value ∧
      (∀ number ∈ record.numbers value, Json.IsReadAsWritten number) ∧
      value.toJson.compact = written ∧ record.decode? written = some value := by
  intro text written
  have checked : ((record.decode? text).map fun value =>
      decide ((∀ number ∈ record.numbers value, Json.IsReadAsWritten number) ∧
        (Record.toJson value).compact = written)) = some true := by
    decide +kernel
  obtain ⟨value, decoded, holds⟩ := Option.map_eq_some_iff.mp checked
  obtain ⟨back, compact⟩ := of_decide_eq_true holds
  obtain ⟨again, decodedAgain, same, _⟩ :=
    decoding_stable record decoded back rfl (.inl compact.symm)
  exact ⟨value, decoded, back, compact, same ▸ decodedAgain⟩

end DataKind

end PlaylistRules
