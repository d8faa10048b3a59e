/-
This file proves that saving is all or nothing on a disk that may refuse any change to it.
Either the file at the path holds the set that was saved, or what stands there is as
before; besides the temporary file no other file changes. So after any saves in turn the
last one that succeeded is loaded.

Loading after a save that failed gives what it gave before, with one exception. Where it
found nothing because a directory was missing, the save may have made that directory, and
then loading may fail at a name of the path that is too long.
-/

import PlaylistRules.Proofs.Parents
import PlaylistRules.Proofs.Saves

namespace PlaylistRules.Storage

open Disk

namespace FileTask

/-- Whether a place is that of the temporary file of a path. -/
def IsAside (disk : Disk) (path : Path) (place : Location) : Prop :=
  IsPlain (path.withExtension "tmp") ∧ place = disk.place (path.withExtension "tmp")

namespace Outcome

variable {disk after : Disk} {path : Path} {text : String}

/-- Making a directory on the way to a goal. -/
theorem grows_of_tried {goal : Location} {changed : Location → Prop}
    {answer : Except FileFault Unit} (tried : Tried disk (disk.makeDirectory path) answer after)
    (way : disk.place path <:+ goal ∧ disk.place path ≠ goal) : Grows goal changed disk after := by
  cases tried with
  | refused fault => exact .refl goal changed disk
  | works =>
    rcases makeDirectory_cases disk path with
      ⟨fault, same⟩ | ⟨directory, name, slash, leads, nothing, made⟩
    · rw [same]
      exact .refl goal changed disk
    · rw [made]
      rw [place_of_approach leads] at way
      refine ⟨rfl, fun place _ => ?_⟩
      rw [entry?_put]
      split
      case isTrue here => exact .inr ⟨by rw [here, nothing], rfl, by rw [here]; exact way⟩
      case isFalse => exact .inl rfl

/-- Making a directory with its parents changes nothing but on the way to what is below all
of them. -/
theorem grows_of_makeLineage {goal : Location} (changed : Location → Prop) {paths : List Path}
    {answer : Except FileFault Unit} (outcome : Outcome (makeLineage paths) disk answer after)
    (way : ∀ path ∈ paths, disk.place path <:+ goal ∧ disk.place path ≠ goal) :
    Grows goal changed disk after := by
  let keeps (before after : Disk) : Prop :=
    (∀ path ∈ paths, before.place path <:+ goal ∧ before.place path ≠ goal) →
      Grows goal changed before after
  refine @rel_makeLineage keeps (fun disk _ => .refl goal changed disk) ?_ paths ?_ disk after
    answer outcome way
  · intro before between after first second way
    have grows := first way
    exact grows.trans (second fun path member => by rw [grows.place]; exact way path member)
  · exact fun path member _ _ _ tried way => grows_of_tried tried (way path member)

/-! ### Writing -/

/-- Writing into a file that was opened for it leaves some content there. -/
theorem entry?_of_filled {name : String} {directory : Location} {answer : Except FileFault Unit}
    (filled : Filled ((disk.put (name :: directory) (.file .empty)).opening (name :: directory))
      disk.opened.length text answer after) :
    ∃ content, (answer = .ok () → content = text.toUTF8) ∧ ∀ place, after.entry? place =
      if place = name :: directory then some (.file content) else disk.entry? place := by
  cases filled with
  | works => exact ⟨_, fun _ => rfl, entry?_fill_opening disk name directory text⟩
  | refused fault spoils =>
    cases spoils with
    | untouched => exact ⟨.empty, nofun, fun place => entry?_put disk name directory place _⟩
    | touched opened there written =>
      rw [getElem?_opened_opening, Option.some.injEq, Option.some.injEq] at opened
      rw [← opened]
      refine ⟨written, nofun, fun place => ?_⟩
      rw [entry?_put, entry?_opening, entry?_put]
      split <;> rfl

/-- Writing does nothing, or there is some content at the place of the path, which is the
text if nothing was refused. -/
theorem write_cases {answer : Except FileFault Unit}
    (outcome : Outcome (write path text) disk answer after) :
    (∃ fault, answer = .error fault ∧ after = disk) ∨
    ∃ directory name content, disk.approach path = .ok (directory, .name name false) ∧
      (answer = .ok () → content = text.toUTF8) ∧
      ∀ place, after.entry? place =
        if place = name :: directory then some (.file content) else disk.entry? place := by
  cases outcome with | create tried rest =>
  cases tried with
  | refused fault => exact .inl ⟨fault, rest.of_done⟩
  | works =>
    rcases create_cases disk path with ⟨fault, failed⟩ | ⟨directory, name, leads, _, made⟩
    · rw [failed] at rest
      exact .inl ⟨fault, rest.of_done⟩
    · rw [made] at rest
      cases rest with | fill filled rest =>
      obtain ⟨rfl, rfl⟩ := rest.of_done
      obtain ⟨content, written⟩ := entry?_of_filled filled
      exact .inr ⟨directory, name, content, leads, written⟩

/-- Moving a file to another place is refused, or the file stands there and nothing is left
where it was. -/
theorem moved_cases {target : Path} {directory : Location} {name : String} {content : ByteArray}
    {answer : Except FileFault Unit}
    (leads : disk.approach path = .ok (directory, .name name false))
    (there : disk.entry? (name :: directory) = some (.file content))
    (elsewhere : disk.place target ≠ name :: directory)
    (tried : Tried disk (disk.move path target) answer after) :
    (∃ fault, answer = .error fault ∧ after = disk) ∨
    answer = .ok () ∧ KeepsDirectories disk after ∧ ∃ directory' name',
      disk.approach target = .ok (directory', .name name' false) ∧
      name :: directory ≠ name' :: directory' ∧
      ∀ place, after.entry? place =
        if place = name' :: directory' then some (.file content)
        else if place = name :: directory then none else disk.entry? place := by
  cases tried with
  | refused fault => exact .inl ⟨fault, rfl, rfl⟩
  | works =>
    rcases move_cases disk path target with
      ⟨fault, failed⟩ | ⟨_, _, directory', name', moved, source, arrives, file, free, moves⟩
    · rw [failed]
      exact .inl ⟨fault, rfl, rfl⟩
    · rw [leads] at source
      cases source
      rw [there] at file
      cases file
      have apart : name :: directory ≠ name' :: directory' := by
        rw [← place_of_approach arrives]
        exact elsewhere.symm
      rw [moves, if_neg apart]
      exact .inr ⟨rfl, .moveTo there free, directory', name', arrives, apart,
        entry?_moveTo disk name name' directory directory' content⟩

/-- Replacing a file fails, and at most what is aside is changed; or the file holds the text
and nothing is left at the temporary path. -/
theorem replace_entries {answer : Except (Path × FileFault) Unit}
    (apart : ¬IsAside disk path (disk.place path))
    (outcome : Outcome (replace path text) disk answer after) :
    (∃ fault, answer = .error fault ∧
      ∀ place, ¬IsAside disk path place → after.entry? place = disk.entry? place) ∨
    answer = .ok () ∧ ∃ directory name directory' name',
      after.approach (path.withExtension "tmp") = .ok (directory, .name name false) ∧
      after.approach path = .ok (directory', .name name' false) ∧
      name :: directory ≠ name' :: directory' ∧
      ∀ place, after.entry? place =
        if place = name' :: directory' then some (.file text.toUTF8)
        else if place = name :: directory then none else disk.entry? place := by
  obtain ⟨written, middle, first, rest⟩ := outcome.of_bind
  have keeps : KeepsDirectories disk middle := .outcome first
  -- Whatever fails from here on, at most the temporary file has been written.
  rcases first.write_cases with
    ⟨fault, rfl, rfl⟩ | ⟨directory, name, content, leads, whole, entries⟩
  · obtain ⟨rfl, rfl⟩ := rest.of_done
    exact .inl ⟨_, rfl, fun _ _ => rfl⟩
  obtain ⟨front, split, isName⟩ := isPlain_of_approach leads
  have aside : IsAside disk path (name :: directory) :=
    ⟨⟨front, name, split, isName⟩, (place_of_approach leads).symm⟩
  have others (place : Location) (other : ¬IsAside disk path place) :
      middle.entry? place = disk.entry? place := by
    rw [entries, if_neg]
    rintro rfl
    exact other aside
  rcases written with fault | done
  · obtain ⟨rfl, rfl⟩ := rest.of_done
    exact .inl ⟨_, rfl, others⟩
  have stands : middle.entry? (name :: directory) = some (.file text.toUTF8) := by
    rw [entries, if_pos rfl, whole rfl]
  have elsewhere : middle.place path ≠ name :: directory := by
    rw [keeps.place]
    exact fun same => apart (same ▸ aside)
  cases rest with | move tried rest =>
  rcases moved_cases (keeps.approach leads) stands elsewhere tried with
    ⟨fault, rfl, rfl⟩ | ⟨rfl, kept, directory', name', target, different, moved⟩
  · obtain ⟨rfl, rfl⟩ := rest.of_done
    exact .inl ⟨_, rfl, others⟩
  · obtain ⟨rfl, rfl⟩ := rest.of_done
    refine .inr ⟨rfl, directory, name, directory', name', kept.approach (keeps.approach leads),
      kept.approach target, different, fun place => ?_⟩
    rw [moved]
    split
    · rfl
    split
    case isTrue => rfl
    case isFalse other => rw [entries, if_neg other]

/-- What replacing a file does to the two paths. -/
theorem replace_cases {answer : Except (Path × FileFault) Unit}
    (apart : ¬IsAside disk path (disk.place path))
    (outcome : Outcome (replace path text) disk answer after) :
    (∃ fault, answer = .error fault ∧
      ∀ place, ¬IsAside disk path place → after.entry? place = disk.entry? place) ∨
    answer = .ok () ∧ after.contentAt? path = some text.toUTF8 ∧
      after.isPresent (path.withExtension "tmp") = false ∧
      ∀ place, place ≠ disk.place path → ¬IsAside disk path place →
        after.entry? place = disk.entry? place := by
  have kept : KeepsDirectories disk after := .outcome outcome
  refine (outcome.replace_entries apart).imp_right ?_
  rintro ⟨rfl, directory, name, directory', name', source, target, elsewhere, entries⟩
  refine ⟨rfl, (contentAt?_eq_some_iff ..).mpr ⟨directory', name', target, ?_⟩, ?_,
    fun place other notAside => ?_⟩
  · rw [file?_eq_some_iff, entries, if_pos rfl]
  · rw [Disk.isPresent, find?_of_approach source, entries, if_neg elsewhere, if_pos rfl]
    rfl
  · rw [← kept.place, place_of_approach target] at other
    rw [entries, if_neg other, if_neg]
    rintro rfl
    obtain ⟨front, split, isName⟩ := isPlain_of_approach source
    refine notAside ⟨⟨front, name, split, isName⟩, ?_⟩
    rw [← kept.place, place_of_approach source]

/-- Replacing a file changes nothing but at the place of the path and at that of the temporary
path, even if these are one. -/
theorem entry?_of_replace {place : Location} {answer : Except (Path × FileFault) Unit}
    (apart : place ≠ disk.place path) (aside : place ≠ disk.place (path.withExtension "tmp"))
    (outcome : Outcome (replace path text) disk answer after) :
    after.entry? place = disk.entry? place := by
  obtain ⟨written, middle, first, rest⟩ := outcome.of_bind
  have keeps : KeepsDirectories disk middle := .outcome first
  have wrote : middle.entry? place = disk.entry? place := by
    rcases first.write_cases with
      ⟨_, _, rfl⟩ | ⟨directory, name, content, leads, _, entries⟩
    · rfl
    · rw [entries, if_neg]
      rwa [← place_of_approach leads]
  rw [← wrote]
  rcases written with fault | done
  · rw [rest.of_done.2]
  cases rest with | move tried rest =>
  cases tried with
  | refused fault => rw [rest.of_done.2]
  | works =>
    rcases move_cases middle (path.withExtension "tmp") path with
      ⟨fault, failed⟩ | ⟨_, _, directory, name, content, source, target, there, _, moved⟩
    · rw [failed] at rest
      rw [rest.of_done.2]
    · rw [moved] at rest
      rw [rest.of_done.2]
      refine (entry?_moved there place).trans ?_
      rw [← place_of_approach source, ← place_of_approach target, keeps.place, keeps.place,
        if_neg apart, if_neg aside]

end Outcome

end FileTask

namespace RuleFile

variable {path : Path} {set : RuleSet} {disk between after : Disk}

/-! ### Saving -/

/-- The temporary file is nowhere on the way to a path. -/
theorem not_isAside_of_suffix (inside : ".." ∉ path.pieces)
    (extension : path.extension? ≠ some "tmp") {place : Location}
    (way : place <:+ disk.place path) : ¬FileTask.IsAside disk path place := by
  rintro ⟨⟨front, last, pieces, isName⟩, rfl⟩
  cases split : path.reversedPieces with
  | cons name before => exact not_suffix_place_withExtension inside extension split disk way
  | nil =>
    rw [Path.withExtension, split] at pieces
    simp only at pieces
    rw [Path.reversedPieces, pieces, List.reverse_append, List.reverse_singleton,
      List.singleton_append, List.dropWhile_cons_of_neg (Bool.eq_false_iff.mp isName.busy)] at split
    cases split

/-- Making the directory of a file changes nothing but on the way to it. -/
theorem grows_of_makeParent (changed : Location → Prop) (inside : ".." ∉ path.pieces)
    {answer : Except RuleFileFault Unit}
    (outcome : FileTask.Outcome (makeParent path) disk answer after) :
    Grows (disk.place path) changed disk after := by
  rw [makeParent] at outcome
  split at outcome
  case h_1 =>
    obtain ⟨_, rfl⟩ := outcome.of_done
    exact .refl _ changed after
  case h_2 parent above =>
    obtain ⟨made, middle, first, rest⟩ := outcome.of_bind
    have grows := first.grows_of_makeLineage changed fun relative member =>
      place_of_mem_lineage_parent inside above member disk
    rcases made with fault | made
    · rw [rest.of_done.2]
      exact grows
    · rw [rest.of_done.2]
      exact grows

/-- What saving comes to: it fails, and nothing changed but aside and on the way to the file;
or the file holds the text of the set and nothing is left at the temporary path. -/
theorem save_cases (inside : ".." ∉ path.pieces) (extension : path.extension? ≠ some "tmp")
    {answer : Except RuleFileFault Unit}
    (outcome : FileTask.Outcome (save path set) disk answer after) :
    (∃ fault, answer = .error fault ∧
      Grows (disk.place path) (FileTask.IsAside disk path) disk after) ∨
    answer = .ok () ∧ after.contentAt? path = some (text set).toUTF8 ∧
      after.isPresent (path.withExtension "tmp") = false ∧
      ∀ place, place ≠ disk.place path → ¬FileTask.IsAside disk path place →
        after.file? place = disk.file? place := by
  obtain ⟨made, middle, first, rest⟩ := outcome.of_bind
  have grows := grows_of_makeParent (FileTask.IsAside disk path) inside first
  have sameAside : FileTask.IsAside middle path = FileTask.IsAside disk path := by
    funext place
    rw [FileTask.IsAside, FileTask.IsAside, grows.place]
  rcases made with fault | made
  · obtain ⟨rfl, rfl⟩ := rest.of_done
    exact .inl ⟨fault, rfl, grows⟩
  obtain ⟨replaced, final, second, last⟩ := FileTask.Outcome.of_bind rest
  have target : ¬FileTask.IsAside middle path (middle.place path) :=
    not_isAside_of_suffix inside extension List.suffix_rfl
  have ending := second.replace_cases target
  rw [sameAside, grows.place] at ending
  rcases ending with ⟨fault, rfl, others⟩ | ⟨rfl, content, gone, others⟩
  · obtain ⟨rfl, rfl⟩ := last.of_done
    have still : Grows (disk.place path) (FileTask.IsAside disk path) middle after :=
      ⟨(KeepsDirectories.outcome second).current, fun place same => .inl (others place same)⟩
    exact .inl ⟨_, rfl, grows.trans still⟩
  · obtain ⟨rfl, rfl⟩ := last.of_done
    exact .inr ⟨rfl, content, gone, fun place other same =>
      (file?_congr (others place other same)).trans (grows.file? same)⟩

/-! ### Saving at any path -/

/-- Making the directory of a file changes no file. -/
theorem file?_of_makeParent {answer : Except RuleFileFault Unit}
    (outcome : FileTask.Outcome (makeParent path) disk answer after) (place : Location) :
    after.file? place = disk.file? place := by
  rw [makeParent] at outcome
  split at outcome
  case h_1 => rw [outcome.of_done.2]
  case h_2 parent above =>
    obtain ⟨made, middle, first, rest⟩ := outcome.of_bind
    rw [← first.file?_of_makeLineage place]
    rcases made with fault | made <;> rw [rest.of_done.2]

/-- Saving changes no file but the one at the path and the temporary one. -/
theorem file?_of_save {place : Location} (apart : place ≠ disk.place path)
    (aside : place ≠ disk.place (path.withExtension "tmp"))
    {answer : Except RuleFileFault Unit}
    (outcome : FileTask.Outcome (save path set) disk answer after) :
    after.file? place = disk.file? place := by
  obtain ⟨made, middle, first, rest⟩ := outcome.of_bind
  have keeps : KeepsDirectories disk middle := .outcome first
  rw [← file?_of_makeParent first place]
  rcases made with fault | made
  · rw [rest.of_done.2]
  obtain ⟨replaced, final, second, last⟩ := FileTask.Outcome.of_bind rest
  have same : final.file? place = middle.file? place :=
    file?_congr (second.entry?_of_replace (by rwa [keeps.place]) (by rwa [keeps.place]))
  rcases replaced with fault | done <;> rw [last.of_done.2, same]

theorem preserves_of_save {other : Path} (apart : disk.place other ≠ disk.place path)
    (aside : disk.place other ≠ disk.place (path.withExtension "tmp"))
    {answer : Except RuleFileFault Unit}
    (outcome : FileTask.Outcome (save path set) disk answer after) :
    Preserves other disk after :=
  ⟨.outcome outcome, fun _ => file?_of_save apart aside outcome⟩

/-- Whether a file is safe from writes that break off: it is not its own temporary file, or
nothing is refused. -/
def IsSafe (mayRefuse : Bool) (disk : Disk) (path : Path) : Prop :=
  mayRefuse = true → disk.place (path.withExtension "tmp") ≠ disk.place path

theorem IsSafe.of_keeps {mayRefuse : Bool} (safe : IsSafe mayRefuse disk path)
    (keeps : KeepsDirectories disk after) : IsSafe mayRefuse after path :=
  fun may => keeps.place_ne (safe may)

/-- A save fails and leaves the file as it is, or the file holds the text of the set. -/
theorem comesTo_save_cases {mayRefuse : Bool} (safe : IsSafe mayRefuse disk path)
    {answer : Except RuleFileFault Unit}
    (comes : FileTask.ComesTo mayRefuse (save path set) disk answer after) :
    (∃ fault, answer = .error fault ∧ Preserves path disk after) ∨
    answer = .ok () ∧ after.contentAt? path = some (text set).toUTF8 := by
  have keeps : KeepsDirectories disk after := .outcome comes.outcome
  cases mayRefuse with
  | false =>
    rcases run_save_cases path set disk with
      ⟨fault, _, failed, preserves⟩ | ⟨_, saved, content⟩
    · cases failed.symm.trans comes
      exact .inl ⟨fault, rfl, preserves⟩
    · cases saved.symm.trans comes
      exact .inr ⟨rfl, content⟩
  | true =>
    obtain ⟨made, middle, first, rest⟩ := FileTask.Outcome.of_bind comes
    have parents := file?_of_makeParent first
    have placed := (KeepsDirectories.outcome first).place
    rcases made with fault | made
    · obtain ⟨rfl, rfl⟩ := rest.of_done
      exact .inl ⟨fault, rfl, keeps, fun _ => parents _⟩
    obtain ⟨replaced, final, second, last⟩ := FileTask.Outcome.of_bind rest
    have notAside : ¬FileTask.IsAside middle path (middle.place path) := by
      rintro ⟨-, same⟩
      rw [placed, placed] at same
      exact safe rfl same.symm
    rcases second.replace_cases notAside with ⟨fault, rfl, others⟩ | ⟨rfl, content, -, -⟩
    · obtain ⟨rfl, rfl⟩ := last.of_done
      refine .inl ⟨_, rfl, keeps, fun _ => ?_⟩
      rw [← parents, ← placed path]
      exact file?_congr (others _ notAside)
    · obtain ⟨rfl, rfl⟩ := last.of_done
      exact .inr ⟨rfl, content⟩

/-! ### Loading -/

/-- Whether loading gives the same before and after. The exception is a path with a name that
is too long: before a directory above that name is there, nothing is found. -/
def LoadsAlike (path : Path) (before after : Disk) : Prop :=
  (((load path).run after).1 = ((load path).run before).1 ∧
    ((loadOrEmpty path).run after).1 = ((loadOrEmpty path).run before).1) ∨
  (((load path).run before).1 = .error (.read path .notFound) ∧
    ((loadOrEmpty path).run before).1 = .ok .empty ∧
    ((load path).run after).1 = .error (.read path .nameTooLong) ∧
    ((loadOrEmpty path).run after).1 = .error (.read path .nameTooLong) ∧
    ∃ piece ∈ path.pieces, isTooLong piece = true)

theorem fst_run_load (path : Path) (disk : Disk) :
    ((load path).run disk).1 = loaded path (disk.read path) := by
  rw [run_load]

theorem fst_run_loadOrEmpty (path : Path) (disk : Disk) :
    ((loadOrEmpty path).run disk).1 = orEmpty (loaded path (disk.read path)) := by
  rw [loadOrEmpty, FileTask.run_bind, run_load]
  rfl

theorem loadsAlike_of_showsAlike (shows : ShowsAlike path (disk.find? path) (after.find? path)) :
    LoadsAlike path disk after := by
  rw [LoadsAlike, fst_run_load, fst_run_load, fst_run_loadOrEmpty, fst_run_loadOrEmpty,
    Disk.read, Disk.read]
  rcases shows with same | ⟨gap, long, piece⟩
  · rw [same]
    exact .inl ⟨rfl, rfl⟩
  · rw [gap, long]
    exact .inr ⟨rfl, rfl, rfl, rfl, piece⟩

namespace LoadsAlike

theorem refl (path : Path) (disk : Disk) : LoadsAlike path disk disk := .inl ⟨rfl, rfl⟩

theorem trans (first : LoadsAlike path disk between) (second : LoadsAlike path between after) :
    LoadsAlike path disk after := by
  rcases first with ⟨same, sameOrEmpty⟩ | ⟨gap, empty, long, longOrEmpty, piece⟩
  · rw [LoadsAlike, ← same, ← sameOrEmpty]
    exact second
  · rcases second with ⟨same, sameOrEmpty⟩ | ⟨gap, _⟩
    · exact .inr ⟨gap, empty, same.trans long, sameOrEmpty.trans longOrEmpty, piece⟩
    · rw [long] at gap
      cases gap

/-- A set that is loaded is still loaded. -/
theorem load_eq_ok (alike : LoadsAlike path disk after)
    (loads : (load path).run disk = (.ok set, disk)) :
    (load path).run after = (.ok set, after) := by
  rcases alike with ⟨same, _⟩ | ⟨gap, _⟩
  · rw [loads, fst_run_load] at same
    rw [run_load, same]
  · rw [loads] at gap
    cases gap

end LoadsAlike

/-! ### Single saves -/

/-- What holds after a save that succeeded. -/
structure IsSaved (path : Path) (set : RuleSet) (before after : Disk) : Prop where
  loads : (load path).run after = (.ok set, after)
  present : after.isPresent path = true
  noTemporary : after.isPresent (path.withExtension "tmp") = false
  others : ∀ place, place ≠ before.place path →
    place ≠ before.place (path.withExtension "tmp") → after.file? place = before.file? place

/-- What holds after a save that failed. -/
structure IsUnsaved (path : Path) (before after : Disk) : Prop where
  target : after.entry? (before.place path) = before.entry? (before.place path)
  present : after.isPresent path = before.isPresent path
  loads : LoadsAlike path before after
  others : ∀ place, place ≠ before.place (path.withExtension "tmp") →
    after.file? place = before.file? place

/-- A save that succeeds has saved the set, and one that fails has saved nothing. -/
theorem isSaved_or_isUnsaved (inside : ".." ∉ path.pieces)
    (extension : path.extension? ≠ some "tmp") (tree : IsTree disk)
    (version : set.version < 2 ^ 32) {answer : Except RuleFileFault Unit}
    (outcome : FileTask.Outcome (save path set) disk answer after) :
    (answer = .ok () ∧ IsSaved path set disk after) ∨
    ∃ fault, answer = .error fault ∧ IsUnsaved path disk after := by
  have aside (place : Location) : place <:+ disk.place path → ¬FileTask.IsAside disk path place :=
    not_isAside_of_suffix inside extension
  rcases save_cases inside extension outcome with
    ⟨fault, rfl, grows⟩ | ⟨rfl, content, gone, others⟩
  · have shows := find?_alike inside tree grows aside
    refine .inr ⟨fault, rfl, grows.entry?_goal (aside _ List.suffix_rfl), ?_,
      loadsAlike_of_showsAlike shows, fun place other => grows.file? fun same => other same.2⟩
    rw [isPresent, isPresent]
    rcases shows with same | ⟨gap, long, _⟩
    · rw [same]
    · rw [gap, long]
      rfl
  · refine .inl ⟨rfl, ?_, ?_, gone, fun place other notTemporary =>
      others place other fun same => notTemporary same.2⟩
    · rw [run_load, read_of_contentAt? content, textOf?_toUTF8, loaded, ofText_text version]
    · obtain ⟨directory, name, leads, there⟩ := (contentAt?_eq_some_iff ..).mp content
      rw [isPresent, find?_of_approach leads, (file?_eq_some_iff ..).mp there]
      rfl

/-! ### Saves in turn -/

/-- Sets that are saved at a path one after the other, each with the answer of its save. -/
inductive SavesInTurn (path : Path) :
    Disk → List (RuleSet × Except RuleFileFault Unit) → Disk → Prop where
  | none (disk : Disk) : SavesInTurn path disk [] disk
  | next {disk between after : Disk} {set : RuleSet} {answer : Except RuleFileFault Unit}
      {later : List (RuleSet × Except RuleFileFault Unit)}
      (outcome : FileTask.Outcome (save path set) disk answer between)
      (rest : SavesInTurn path between later after) :
      SavesInTurn path disk ((set, answer) :: later) after

/-- The set of the last save that succeeded. -/
def lastSaved? : List (RuleSet × Except RuleFileFault Unit) → Option RuleSet
  | [] => none
  | (set, .ok ()) :: later => (lastSaved? later).or (some set)
  | (_, .error _) :: later => lastSaved? later

/-- What is loaded after saves in turn: the last set that was saved, or what was loaded
before if none was. -/
def LoadsLast (path : Path) (before : Disk) (last : Option RuleSet) (after : Disk) : Prop :=
  match last with
  | some set => (load path).run after = (.ok set, after)
  | none => LoadsAlike path before after

theorem loadsLast_of_savesInTurn (inside : ".." ∉ path.pieces)
    (extension : path.extension? ≠ some "tmp") (tree : IsTree disk)
    {saves : List (RuleSet × Except RuleFileFault Unit)}
    (versions : ∀ attempt ∈ saves, attempt.1.version < 2 ^ 32)
    (inTurn : SavesInTurn path disk saves after) :
    LoadsLast path disk (lastSaved? saves) after := by
  induction inTurn with
  | none disk => exact .refl path disk
  | @next disk between after set answer later outcome rest inductionHypothesis =>
    obtain ⟨version, others⟩ := List.forall_mem_cons.mp versions
    have loads := inductionHypothesis (tree.outcome outcome) others
    cases last : lastSaved? later with
    | some newer =>
      have stillLast : lastSaved? ((set, answer) :: later) = some newer := by
        cases answer <;> simp [lastSaved?, last]
      rw [last] at loads
      rw [stillLast]
      exact loads
    | none =>
      rw [last] at loads
      rcases isSaved_or_isUnsaved inside extension tree version outcome with
        ⟨rfl, saved⟩ | ⟨fault, rfl, unsaved⟩
      · rw [lastSaved?, last]
        exact LoadsAlike.load_eq_ok loads saved.loads
      · rw [lastSaved?, last]
        exact unsaved.loads.trans loads

/-- Saving at a path that never goes up, and does not have the extension of the temporary
file, is all or nothing, whatever the disk refuses; and after any saves in turn the set of
the last one that succeeded is loaded, or what was loaded before if none did. -/
theorem save_all_or_nothing (inside : ".." ∉ path.pieces)
    (extension : path.extension? ≠ some "tmp") (tree : IsTree disk) :
    (∀ set answer after, set.version < 2 ^ 32 →
      FileTask.Outcome (save path set) disk answer after →
        (answer = .ok () ∧ IsSaved path set disk after) ∨
        ∃ fault, answer = .error fault ∧ IsUnsaved path disk after) ∧
    ∀ saves after, (∀ attempt ∈ saves, attempt.1.version < 2 ^ 32) →
      SavesInTurn path disk saves after → LoadsLast path disk (lastSaved? saves) after :=
  ⟨fun _ _ _ version outcome => isSaved_or_isUnsaved inside extension tree version outcome,
    fun _ _ versions inTurn => loadsLast_of_savesInTurn inside extension tree versions inTurn⟩

/-- A disk without entries. -/
def emptyDisk : Disk := ⟨[], [], []⟩

theorem isTree_emptyDisk : IsTree emptyDisk := by
  refine ⟨rfl, fun there => ?_⟩
  cases there

/-- A set is saved, and the next save is refused. -/
theorem save_all_or_nothing_refused :
    let path : Path := ⟨["rules.json"]⟩
    let set : RuleSet := ⟨3, [⟨"Noir", ["{genre:Noir | rating | 5}"], none, true⟩]⟩
    let saved := ((save path set).run emptyDisk).2
    let refused : Except RuleFileFault Unit := .error (.write (path.withExtension "tmp") .busy)
    ".." ∉ path.pieces ∧ path.extension? ≠ some "tmp" ∧ IsTree emptyDisk ∧
      set.version < 2 ^ 32 ∧ IsSaved path set emptyDisk saved ∧
      FileTask.Outcome (save path .empty) saved refused saved ∧ IsUnsaved path saved saved ∧
      SavesInTurn path emptyDisk [(set, .ok ()), (.empty, refused)] saved ∧
      LoadsLast path emptyDisk (some set) saved := by
  intro path set saved refused
  have inside : ".." ∉ path.pieces := by decide +kernel
  have extension : path.extension? ≠ some "tmp" := by decide +kernel
  have works : ((save path set).run emptyDisk).1 = .ok () := by decide +kernel
  have outcome := FileTask.outcome_run (save path set) emptyDisk
  rw [works] at outcome
  have refusal : FileTask.Outcome (save path .empty) saved refused saved := by
    have parent : path.parent? = some ⟨[""]⟩ := by decide +kernel
    have lineage : Path.lineage ⟨[""]⟩ = [] := by decide +kernel
    rw [save, makeParent, parent]
    simp only [FileTask.makeDirectories, lineage, FileTask.makeLineage]
    exact .create (.refused .busy) (.done _ _)
  obtain ⟨single, inTurn⟩ := save_all_or_nothing inside extension isTree_emptyDisk
  have saves : IsSaved path set emptyDisk saved := by
    rcases single set _ _ (by decide) outcome with ⟨_, saves⟩ | ⟨_, failed, _⟩
    · exact saves
    · cases failed
  have savedTree := isTree_emptyDisk.outcome outcome
  have unsaved : IsUnsaved path saved saved := by
    rcases (save_all_or_nothing inside extension savedTree).1 _ _ _ (by decide) refusal with
      ⟨done, _⟩ | ⟨_, _, unsaved⟩
    · exact absurd done (by simp [refused])
    · exact unsaved
  have both : SavesInTurn path emptyDisk [(set, .ok ()), (.empty, refused)] saved :=
    .next outcome (.next refusal (.none saved))
  exact ⟨inside, extension, isTree_emptyDisk, by decide, saves, refusal, unsaved, both,
    inTurn _ _ (by decide) both⟩

/-! ### Names that are too long -/

/-- A name that no directory can hold. -/
def longName : String := String.ofList (List.replicate 300 'a')

/-- A rule file in a directory of that name. -/
def longPath : Path := ⟨["data", longName, "rules.json"]⟩

/-- A disk with the directory above the long name. -/
def dataDisk : Disk := ⟨[(["data"], .directory)], [], []⟩

theorem isTooLong_longName : isTooLong longName = true := by decide +kernel

/-- Paths that are made of the pieces of the long path can lead somewhere. -/
theorem isUsable_of_longName (pieces : path.pieces ⊆ longPath.pieces)
    (nonempty : path.isEmpty = false) (short : path.text.utf8ByteSize ≤ 4095) : IsUsable path := by
  refine ⟨List.any_eq_false.mpr fun piece member => ?_, nonempty, short⟩
  have zeroless : '\x00' ∉ longName.toList := by
    have listed : longName.toList = List.replicate 300 'a' := String.toList_ofList
    rw [listed]
    simp only [List.mem_replicate]
    decide
  have any := pieces member
  simp only [longPath, List.mem_cons, List.not_mem_nil, or_false] at any
  rcases any with rfl | rfl | rfl
  · decide
  · simpa using zeroless
  · decide

theorem approach_longName (relative : disk.current = []) :
    disk.approach ⟨["data", longName]⟩ =
      (disk.walk [] ["data"]).bind fun _ => .error .nameTooLong := by
  have usable : IsUsable ⟨["data", longName]⟩ :=
    isUsable_of_longName (by simp [longPath]) (by decide +kernel) (by decide +kernel)
  have split : solidPieces ⟨["data", longName]⟩ = [longName, "data"] := by decide +kernel
  rw [approach_of_solidPieces usable split, startOf, relative]
  simp only [isTooLong_longName, if_true]
  rfl

theorem approach_longPath (relative : disk.current = []) :
    disk.approach longPath =
      (disk.walk [] ["data", longName]).bind fun place =>
        .ok (place, .name "rules.json" false) := by
  have usable : IsUsable longPath :=
    isUsable_of_longName (List.Subset.refl _) (by decide +kernel) (by decide +kernel)
  have split : solidPieces longPath = ["rules.json", longName, "data"] := by decide +kernel
  rw [approach_of_solidPieces usable split, startOf, relative]
  rfl

/-- The save makes the directory above the long name, and fails there. -/
theorem run_save_longPath (set : RuleSet) : (save longPath set).run emptyDisk =
    (.error (.createDirectory ⟨["data", longName]⟩ .nameTooLong), dataDisk) := by
  have gap : emptyDisk.approach ⟨["data", longName]⟩ = .error .notFound := by
    rw [approach_longName rfl]
    decide +kernel
  have long : dataDisk.approach ⟨["data", longName]⟩ = .error .nameTooLong := by
    rw [approach_longName rfl]
    decide +kernel
  have first : emptyDisk.makeDirectory ⟨["data", longName]⟩ = (.error .notFound, emptyDisk) := by
    rw [Disk.makeDirectory, gap]
  have above : emptyDisk.makeDirectory ⟨["data"]⟩ = (.ok (), dataDisk) := rfl
  have second : dataDisk.makeDirectory ⟨["data", longName]⟩ =
      (.error .nameTooLong, dataDisk) := by
    rw [Disk.makeDirectory, long]
  have missing : dataDisk.isDirectory ⟨["data", longName]⟩ = false := by
    rw [Disk.isDirectory, find?_of_approach_error long]
  have directories : (FileTask.makeLineage [⟨["data", longName]⟩, ⟨["data"]⟩]).run emptyDisk =
      (.error .nameTooLong, dataDisk) := by
    simp only [FileTask.makeLineage, FileTask.run_bind, FileTask.run, first, above, second,
      missing, Bool.false_eq_true, if_false]
  have parent : longPath.parent? = some ⟨["data", longName]⟩ := by decide +kernel
  have lineage : Path.lineage ⟨["data", longName]⟩ = [⟨["data", longName]⟩, ⟨["data"]⟩] := by
    decide +kernel
  rw [save, FileTask.run_bind, makeParent, parent]
  simp only [FileTask.run_bind, FileTask.makeDirectories, lineage, directories]
  rfl

/-- Before a save that fails no rules are loaded, because nothing is found. After it loading
fails, because the directory is there and the name in it is too long. -/
theorem failed_save_uncovers_longName :
    ".." ∉ longPath.pieces ∧ longPath.extension? ≠ some "tmp" ∧ IsTree emptyDisk ∧
      (∃ fault, ((save longPath .empty).run emptyDisk).1 = .error fault) ∧
      ((loadOrEmpty longPath).run emptyDisk).1 = .ok .empty ∧
      ((loadOrEmpty longPath).run ((save longPath .empty).run emptyDisk).2).1 =
        .error (.read longPath .nameTooLong) := by
  have gap : emptyDisk.approach longPath = .error .notFound := by
    rw [approach_longPath rfl]
    decide +kernel
  have long : dataDisk.approach longPath = .error .nameTooLong := by
    rw [approach_longPath rfl]
    decide +kernel
  have empty : ((loadOrEmpty longPath).run emptyDisk).1 = .ok .empty := by
    rw [fst_run_loadOrEmpty, Disk.read, find?_of_approach_error gap]
    rfl
  have fails : ((loadOrEmpty longPath).run dataDisk).1 = .error (.read longPath .nameTooLong) := by
    rw [fst_run_loadOrEmpty, Disk.read, find?_of_approach_error long]
    rfl
  rw [run_save_longPath]
  exact ⟨by decide +kernel, by decide +kernel, isTree_emptyDisk, ⟨_, rfl⟩, empty, fails⟩

end RuleFile

end PlaylistRules.Storage
