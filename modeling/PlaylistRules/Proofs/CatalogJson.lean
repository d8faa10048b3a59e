/-
This file proves that records, playlists and catalogs are read from JSON values as they
are written. What may be missing has a default, and what was read from a default is
written like everything else. A set of names has one ascending list, whatever the order in
which its names come, and a catalog lists each user once.
-/

import Mathlib.Data.List.Nodup
import PlaylistRules.Catalog
import PlaylistRules.Playlist
import PlaylistRules.Proofs.FilterJson
import PlaylistRules.Proofs.Instants
import PlaylistRules.Proofs.Lookups

namespace PlaylistRules

open Number Calendar

/-! ### Sets of names -/

namespace NameSet

theorem mem_insertInto_iff {name other : String} {names : List String} :
    other ∈ insertInto name names ↔ other = name ∨ other ∈ names := by
  refine ⟨mem_insertInto, fun member => ?_⟩
  induction names with
  | nil => simpa [insertInto] using member
  | cons head rest inductionHypothesis =>
    rw [insertInto]
    split
    case isTrue => simpa using member
    case isFalse notBefore =>
      split
      case isTrue =>
        rcases member with same | inNames
        · exact List.mem_cons_of_mem _ (inductionHypothesis (.inl same))
        · rcases List.mem_cons.mp inNames with same | inRest
          · exact same ▸ List.mem_cons_self
          · exact List.mem_cons_of_mem _ (inductionHypothesis (.inr inRest))
      case isFalse notAfter =>
        -- Neither before nor after the head, the name is the head.
        rcases member with rfl | inNames
        · exact List.mem_cons.mpr (.inl (String.le_antisymm (String.not_lt.mp notAfter)
            (String.not_lt.mp notBefore)))
        · exact inNames

theorem mem_ofList {names : List String} {name : String} :
    name ∈ (ofList names).names ↔ name ∈ names := by
  have general (set : NameSet) :
      name ∈ (names.foldl insert set).names ↔ name ∈ set.names ∨ name ∈ names := by
    induction names generalizing set with
    | nil => simp
    | cons head rest inductionHypothesis =>
      rw [List.foldl_cons, inductionHypothesis, insert, mem_insertInto_iff, List.mem_cons]
      tauto
  rw [ofList, general empty]
  simp [empty]

/-- Sets with the same names are equal. -/
theorem eq_of_mem_iff {first second : NameSet}
    (same : ∀ name, name ∈ first.names ↔ name ∈ second.names) : first = second := by
  have distinct (set : NameSet) : set.names.Nodup := by
    refine List.Pairwise.imp (fun before => ?_) set.ascending
    rintro rfl
    exact String.lt_irrefl _ before
  have perm := (List.perm_ext_iff_of_nodup (distinct first) (distinct second)).mpr same
  have names : first.names = second.names :=
    perm.eq_of_pairwise (fun _ _ _ _ before after =>
      absurd (String.lt_trans before after) (String.lt_irrefl _)) first.ascending second.ascending
  cases first
  cases second
  cases names
  rfl

/-- The names of a set make up the set, in any order. -/
theorem ofList_of_perm {names : List String} {set : NameSet} (perm : names.Perm set.names) :
    ofList names = set :=
  eq_of_mem_iff fun _ => mem_ofList.trans perm.mem_iff

end NameSet

/-! ### Records -/

namespace Record

/-- A record whose numbers have the sizes that reading allows, and whose instant has a
text. -/
structure IsStorable (record : Record) : Prop where
  runtime : ∀ minutes ∈ record.runtime, -2 ^ 63 ≤ minutes ∧ minutes ≤ 2 ^ 63 - 1
  year : ∀ year ∈ record.year, -2 ^ 31 ≤ year ∧ year ≤ 2 ^ 31 - 1
  rating : ∀ rating ∈ record.rating, rating.isFinite = true
  dateAdded : ∀ instant ∈ record.dateAdded, instant.IsWritable

theorem isFaithful_toJson (record : Record) : record.toJson.IsFaithful := by
  refine Json.isFaithful_ofMembers ?_
  simp [Json.IsFaithful, namesJson]

theorem namesOfJson?_of_perm {names : List String} {set : NameSet} (perm : names.Perm set.names) :
    namesOfJson? (.ofTexts names) = some set := by
  rw [namesOfJson?, Json.listOf?_ofTexts, Option.map_some, NameSet.ofList_of_perm perm]

theorem isWritable_of_instantOfJson? {value : Json} {instant : Instant}
    (found : instantOfJson? value = some instant) : instant.IsWritable := by
  obtain ⟨text, _, read⟩ := Option.bind_eq_some_iff.mp found
  exact Instant.isWritable_of_parse? read

theorem instantOfJson?_text {instant : Instant} (writable : instant.IsWritable) :
    instantOfJson? (.string instant.text) = some instant := by
  rw [instantOfJson?, Json.string?, Option.bind_some, Instant.parse?_text writable]

theorem isStorable_of_ofJson? {value : Json} {record : Record}
    (found : ofJson? value = some record) : record.IsStorable := by
  simp only [ofJson?, Option.bind_eq_bind, Option.bind_eq_some_iff] at found
  obtain ⟨fields, _, parts⟩ := found
  split at parts
  case h_2 => cases parts
  case h_1 =>
    simp only [Option.bind_eq_some_iff] at parts
    obtain ⟨_, _, _, _, _, _, _, _, runtime, readRuntime, _, _, _, _, year, readYear, rating,
      readRating, dateAdded, readDate, same⟩ := parts
    cases same
    refine ⟨fun minutes present => ?_, fun number present => ?_, fun number present => ?_,
      fun instant present => ?_⟩
    · obtain ⟨_, read⟩ := Json.exists_of_mem_optional readRuntime present
      exact Json.bounds_of_integer? read
    · obtain ⟨_, read⟩ := Json.exists_of_mem_optional readYear present
      exact Json.bounds_of_integer? read
    · obtain ⟨_, read⟩ := Json.exists_of_mem_optional readRating present
      exact Json.isFinite_of_binary64? read
    · obtain ⟨_, read⟩ := Json.exists_of_mem_optional readDate present
      exact isWritable_of_instantOfJson? read

/-- A record is read back from its JSON value, if its rating is. -/
theorem ofJson?_toJson {record : Record} (storable : record.IsStorable)
    (back : ∀ rating ∈ record.rating, Json.IsReadAsWritten rating) :
    ofJson? record.toJson = some record := by
  have fields : record.toJson.fields? ["id", "name", "type", "genres", "runtime_minutes",
      "language", "watched", "release_year", "community_rating", "date_added"] = some _ :=
    Json.fields?_ofMembers _ _ (by simp) (List.Subset.refl _)
  have runtime : Json.optional (Json.integer? (-2 ^ 63) (2 ^ 63 - 1))
      (record.runtime.map Json.ofInt) = some record.runtime :=
    Json.optional_map (fun _ _ => nofun) fun minutes present =>
      Json.integer?_of_bounds (storable.runtime minutes present).1
        (storable.runtime minutes present).2 (by decide) (by decide)
  have language : Json.optional Json.string? (record.language.map Json.string) =
      some record.language :=
    Json.optional_map (fun _ _ => nofun) fun _ _ => rfl
  have year : Json.optional (Json.integer? (-2 ^ 31) (2 ^ 31 - 1))
      (record.year.map Json.ofInt) = some record.year :=
    Json.optional_map (fun _ _ => nofun) fun number present =>
      Json.integer?_of_bounds (storable.year number present).1
        (storable.year number present).2 (by decide) (by decide)
  have rating : Json.optional Json.binary64? (record.rating.map Json.ofBinary64) =
      some record.rating :=
    Json.optional_map
      (fun number present => by
        rw [Json.ofBinary64, if_pos (storable.rating number present)]
        nofun)
      fun number present =>
        Json.binary64?_ofBinary64 (back number present) (storable.rating number present)
  have dateAdded : Json.optional instantOfJson?
      (record.dateAdded.map fun instant => Json.string instant.text) = some record.dateAdded :=
    Json.optional_map (fun _ _ => nofun) fun instant present =>
      instantOfJson?_text (storable.dateAdded instant present)
  have genres : namesOfJson? (namesJson record.genres) = some record.genres :=
    namesOfJson?_of_perm (List.Perm.refl _)
  rw [ofJson?, fields]
  simp only [List.map_cons, List.map_nil, Option.bind_eq_bind, Option.bind_some, Json.required,
    Json.defaulted, Json.string?, Json.bool?, runtime, language, year, rating, dateAdded, genres]
  rfl

end Record

/-! ### Playlists -/

namespace Playlist

theorem isFaithful_toJson (playlist : Playlist) : playlist.toJson.IsFaithful := by
  refine Json.isFaithful_ofMembers ?_
  simp [Json.IsFaithful]

theorem isWritable_of_ofJson? {value : Json} {playlist : Playlist}
    (found : ofJson? value = some playlist) : playlist.createdAt.IsWritable := by
  simp only [ofJson?, Option.bind_eq_bind, Option.bind_eq_some_iff] at found
  obtain ⟨fields, _, parts⟩ := found
  split at parts
  case h_2 => cases parts
  case h_1 =>
    simp only [Option.bind_eq_some_iff, Json.required] at parts
    obtain ⟨_, _, _, _, _, _, _, _, createdAt, ⟨_, _, read⟩, same⟩ := parts
    cases same
    exact Record.isWritable_of_instantOfJson? read

/-- A playlist is read back from its JSON value. -/
theorem ofJson?_toJson {playlist : Playlist} (writable : playlist.createdAt.IsWritable) :
    ofJson? playlist.toJson = some playlist := by
  have fields : playlist.toJson.fields? ["id", "name", "user", "items", "created_at"] = some _ :=
    Json.fields?_ofMembers _ _ (by simp) (List.Subset.refl _)
  have user : Json.optional Json.string? (playlist.user.map Json.string) = some playlist.user :=
    Json.optional_map (fun _ _ => nofun) fun _ _ => rfl
  rw [ofJson?, fields]
  simp only [List.map_cons, List.map_nil, Option.bind_eq_bind, Option.bind_some, Json.required,
    Json.string?, user, Json.listOf?_ofTexts, Record.instantOfJson?_text writable]
  rfl

end Playlist

/-! ### Catalogs -/

namespace Catalog

/-- A catalog whose records can be stored and that lists each user once. -/
structure IsStorable (catalog : Catalog) : Prop where
  items : ∀ record ∈ catalog.items, record.IsStorable
  distinct : (catalog.watched.map (·.1)).Nodup

theorem nodup_listUser {watched : List (String × NameSet)} (distinct : (watched.map (·.1)).Nodup)
    (entry : String × NameSet) : ((listUser watched entry).map (·.1)).Nodup := by
  rw [listUser, List.map_append, List.nodup_append]
  refine ⟨distinct.sublist (List.filter_sublist.map _), List.nodup_singleton _, ?_⟩
  intro user inOthers other isEntry same
  obtain ⟨found, inFilter, rfl⟩ := List.mem_map.mp inOthers
  rw [List.map_singleton, List.mem_singleton] at isEntry
  simpa [same, isEntry] using (List.mem_filter.mp inFilter).2

theorem nodup_foldl_listUser (entries : List (String × NameSet))
    {watched : List (String × NameSet)} (distinct : (watched.map (·.1)).Nodup) :
    ((entries.foldl listUser watched).map (·.1)).Nodup := by
  induction entries generalizing watched with
  | nil => exact distinct
  | cons entry rest inductionHypothesis => exact inductionHypothesis (nodup_listUser distinct entry)

/-- Users who differ are listed one after the other. -/
theorem foldl_listUser_of_distinct (watched : List (String × NameSet))
    {entries : List (String × NameSet)}
    (distinct : ((watched ++ entries).map (·.1)).Nodup) :
    entries.foldl listUser watched = watched ++ entries := by
  induction entries generalizing watched with
  | nil => exact (List.append_nil watched).symm
  | cons entry rest inductionHypothesis =>
    have absent : watched.filter (·.1 != entry.1) = watched := by
      rw [List.map_append, List.nodup_append] at distinct
      refine List.filter_eq_self.mpr fun other member => bne_iff_ne.mpr fun same => ?_
      exact distinct.2.2 _ (List.mem_map_of_mem member) entry.1 List.mem_cons_self same
    rw [List.foldl_cons, listUser, absent, inductionHypothesis, List.append_assoc,
      List.singleton_append]
    rwa [List.append_assoc, List.singleton_append]

theorem isStorable_of_ofJson? {value : Json} {catalog : Catalog}
    (found : ofJson? value = some catalog) : catalog.IsStorable := by
  simp only [ofJson?, Option.bind_eq_bind, Option.bind_eq_some_iff] at found
  obtain ⟨fields, _, parts⟩ := found
  split at parts
  case h_2 => cases parts
  case h_1 items watched _ =>
    simp only [Option.bind_eq_some_iff] at parts
    obtain ⟨records, readItems, entries, readWatched, same⟩ := parts
    cases same
    constructor
    · intro record member
      cases items with
      | none =>
        cases readItems
        cases member
      | some value =>
        obtain ⟨item, read⟩ := Json.exists_of_mem_listOf? readItems member
        exact Record.isStorable_of_ofJson? read
    · cases watched with
      | none =>
        cases readWatched
        exact List.nodup_nil
      | some value =>
        cases value with
        | object members =>
          simp only [Json.defaulted, watchedOfJson?, Option.bind_eq_bind,
            Option.bind_eq_some_iff] at readWatched
          obtain ⟨read, _, same⟩ := readWatched
          cases same
          exact nodup_foldl_listUser read List.nodup_nil
        | _ => cases readWatched

/-- The values that a catalog may be written as: the users may come in any order, and so
may the ids of each of them. -/
def IsWrittenAs (catalog : Catalog) (value : Json) : Prop :=
  ∃ (entries : List (String × NameSet)) (members : List (String × List String)),
    entries.Perm catalog.watched ∧
    List.Forall₂ (fun entry member => entry.1 = member.1 ∧ member.2.Perm entry.2.names)
      entries members ∧
    value = .object [
      ("items", .array (catalog.items.map Record.toJson)),
      ("watched", .object (members.map fun (user, ids) => (user, .ofTexts ids)))]

theorem isWrittenAs_toJson (catalog : Catalog) : catalog.IsWrittenAs catalog.toJson := by
  refine ⟨catalog.watched, catalog.watched.map fun entry => (entry.1, entry.2.names),
    List.Perm.refl _, ?_, ?_⟩
  · rw [List.forall₂_map_right_iff, List.forall₂_same]
    exact fun entry _ => ⟨rfl, List.Perm.refl _⟩
  · rw [toJson, List.map_map]
    rfl

theorem isFaithful_of_isWrittenAs {catalog : Catalog} {value : Json}
    (written : catalog.IsWrittenAs value) : value.IsFaithful := by
  obtain ⟨_, members, _, _, rfl⟩ := written
  have items : Json.AreFaithful (catalog.items.map Record.toJson) :=
    (Json.areFaithful_iff _).mpr (List.forall_mem_map.mpr fun record _ => record.isFaithful_toJson)
  have watched : Json.HoldFaithful (members.map fun (user, ids) => (user, .ofTexts ids)) :=
    (Json.holdFaithful_iff _).mpr (List.forall_mem_map.mpr fun member _ =>
      Json.isFaithful_ofTexts member.2)
  exact ⟨items, watched, trivial⟩

theorem mapM_members {entries : List (String × NameSet)} {members : List (String × List String)}
    (same : List.Forall₂ (fun entry member => entry.1 = member.1 ∧ member.2.Perm entry.2.names)
      entries members) :
    (members.map fun (user, ids) => (user, Json.ofTexts ids)).mapM
      (fun (user, ids) => (Record.namesOfJson? ids).map (user, ·)) = some entries := by
  induction same with
  | nil => rfl
  | cons first rest inductionHypothesis =>
    rw [List.map_cons, List.mapM_cons, inductionHypothesis]
    dsimp only
    rw [Record.namesOfJson?_of_perm first.2, ← first.1]
    rfl

/-- A catalog is read back from every value that it may be written as, with its users in
the order of that value. -/
theorem exists_of_isWrittenAs {catalog : Catalog} (storable : catalog.IsStorable)
    (back : ∀ record ∈ catalog.items, ∀ rating ∈ record.rating, Json.IsReadAsWritten rating)
    {value : Json} (written : catalog.IsWrittenAs value) :
    ∃ again, ofJson? value = some again ∧ again.items = catalog.items ∧
      again.watched.Perm catalog.watched := by
  obtain ⟨entries, members, perm, same, rfl⟩ := written
  have items : Json.listOf? Record.ofJson? (.array (catalog.items.map Record.toJson)) =
      some catalog.items :=
    Json.listOf?_map fun record member =>
      Record.ofJson?_toJson (storable.items record member) (back record member)
  have distinct : (entries.map (·.1)).Nodup := (perm.map _).nodup_iff.mpr storable.distinct
  have listed : entries.foldl listUser [] = entries :=
    foldl_listUser_of_distinct [] distinct
  have watched : watchedOfJson? (.object (members.map fun (user, ids) => (user, .ofTexts ids))) =
      some entries := by
    rw [watchedOfJson?, mapM_members same]
    exact congrArg some listed
  refine ⟨⟨catalog.items, entries⟩, ?_, rfl, perm⟩
  have fields : Json.fields? ["items", "watched"] (.object [
      ("items", .array (catalog.items.map Record.toJson)),
      ("watched", .object (members.map fun (user, ids) => (user, .ofTexts ids)))]) = some _ :=
    Json.fields?_ofMembers [("items", some _), ("watched", some _)] [("items", _), ("watched", _)]
      (by simp) (List.Subset.refl _)
  rw [ofJson?, fields]
  simp only [List.map_cons, List.map_nil, Option.bind_eq_bind, Option.bind_some, Json.defaulted,
    items, watched]
  rfl

end Catalog

end PlaylistRules
