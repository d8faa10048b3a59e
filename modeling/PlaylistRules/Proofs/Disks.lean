/-
This file proves what the operations on paths leave alone. Each of them changes at
most the entries at the locations that its paths lead to, and none of them takes a
directory away. So whatever a path led to through directories it still leads to after
any task, and what is read there depends on the entry at its location alone.
-/

import PlaylistRules.Proofs.Lookups
import PlaylistRules.Storage.Task

namespace PlaylistRules.Storage

namespace Disk

/-! ### Entries -/

@[simp]
theorem entry?_cons (disk : Disk) (name : String) (directory : Location) :
    disk.entry? (name :: directory) = disk.entries.lookup (name :: directory) := rfl

theorem entry?_erase (disk : Disk) (name : String) (directory place : Location) :
    Disk.entry? (disk.erase (name :: directory)) place =
      if place = name :: directory then none else disk.entry? place := by
  cases place with
  | nil => rfl
  | cons first rest => exact lookup_filter_ne disk.entries _ _

theorem entry?_put (disk : Disk) (name : String) (directory place : Location) (entry : Entry) :
    Disk.entry? (disk.put (name :: directory) entry) place =
      if place = name :: directory then some entry else disk.entry? place := by
  cases place with
  | nil => rfl
  | cons first rest =>
    rw [entry?_cons, put, List.lookup_append, erase, lookup_filter_ne]
    split
    case isTrue same => simp [same]
    case isFalse other => simp [List.lookup_cons, beq_false_of_ne other]

/-! ### Operations -/

/-- The disk with one more open file, whose place is given. -/
def opening (disk : Disk) (location : Location) : Disk :=
  { disk with opened := disk.opened ++ [some location] }

@[simp]
theorem entry?_opening (disk : Disk) (location place : Location) :
    Disk.entry? (disk.opening location) place = disk.entry? place := rfl

/-- A file that was moved is at the second place, and nothing is left at the first one. -/
theorem entry?_moveTo (disk : Disk) (name other : String) (directory around : Location)
    (content : ByteArray) (place : Location) :
    Disk.entry? (disk.moveTo (name :: directory) (other :: around) content) place =
      if place = other :: around then some (.file content)
      else if place = name :: directory then none else disk.entry? place := by
  rw [← entry?_erase, ← entry?_put]
  rfl

theorem create_eq {disk : Disk} {path : Path} {directory : Location} {name : String}
    (leads : disk.approach path = .ok (directory, .name name false))
    (free : disk.entry? (name :: directory) ≠ some .directory) :
    disk.create path = (.ok disk.opened.length,
      (disk.put (name :: directory) (.file .empty)).opening (name :: directory)) := by
  rw [create, leads]
  exact if_neg free

/-- What opening a file for writing can do: nothing, or an empty file is put where the
path leads, unless there is a directory. -/
theorem create_cases (disk : Disk) (path : Path) :
    (∃ fault, disk.create path = (.error fault, disk)) ∨
    ∃ directory name, disk.approach path = .ok (directory, .name name false) ∧
      disk.entry? (name :: directory) ≠ some .directory ∧
      disk.create path = (.ok disk.opened.length,
        (disk.put (name :: directory) (.file .empty)).opening (name :: directory)) := by
  cases leads : disk.approach path with
  | error fault => exact .inl ⟨fault, by rw [create, leads]⟩
  | ok found =>
    obtain ⟨directory, ending⟩ := found
    rcases ending with _ | _ | ⟨name, _ | _⟩
    case name.false =>
      by_cases occupied : disk.entry? (name :: directory) = some .directory
      · exact .inl ⟨.isADirectory, by rw [create, leads]; exact if_pos occupied⟩
      · exact .inr ⟨directory, name, rfl, occupied, create_eq leads occupied⟩
    all_goals exact .inl ⟨.isADirectory, by rw [create, leads]⟩

/-- What writing into an open file can do: nothing, or the file at its place gets
another content. -/
theorem fill_cases (disk : Disk) (handle : Handle) (text : String) :
    disk.fill handle text = disk ∨
    ∃ name directory content, disk.opened[handle]? = some (some (name :: directory)) ∧
      disk.entry? (name :: directory) = some (.file content) ∧
      disk.fill handle text =
        disk.put (name :: directory) (.file (overwritten content text)) := by
  rw [fill]
  split
  case h_1 location place =>
    split
    case h_1 content found =>
      cases location with
      | nil => cases found
      | cons name directory => exact .inr ⟨name, directory, content, place, found, rfl⟩
    case h_2 => exact .inl rfl
  case h_2 => exact .inl rfl

/-- Writing changes contents of files and no other entries. -/
theorem entry?_fill (disk : Disk) (handle : Handle) (text : String) (place : Location) :
    Disk.entry? (disk.fill handle text) place = disk.entry? place ∨
    ∃ content written, disk.entry? place = some (.file content) ∧
      Disk.entry? (disk.fill handle text) place = some (.file written) := by
  rcases fill_cases disk handle text with same | ⟨name, directory, content, _, there, filled⟩
  · exact .inl (by rw [same])
  · rw [filled, entry?_put]
    split
    case isTrue same => exact .inr ⟨content, _, by rw [same, there], rfl⟩
    case isFalse => exact .inl rfl

theorem fill_eq {disk : Disk} {handle : Handle} {location : Location} {content : ByteArray}
    (place : disk.opened[handle]? = some (some location))
    (there : disk.entry? location = some (.file content)) (text : String) :
    disk.fill handle text = disk.put location (.file (overwritten content text)) := by
  rw [fill, place]
  simp only [there]

/-- What moving a file can do: nothing, or the file goes where the second path leads,
unless there is a directory. A file that is moved to its own place stays there. -/
theorem move_cases (disk : Disk) (source target : Path) :
    (∃ fault, disk.move source target = (.error fault, disk)) ∨
    ∃ sourceDirectory sourceName targetDirectory targetName content,
      disk.approach source = .ok (sourceDirectory, .name sourceName false) ∧
      disk.approach target = .ok (targetDirectory, .name targetName false) ∧
      disk.entry? (sourceName :: sourceDirectory) = some (.file content) ∧
      disk.entry? (targetName :: targetDirectory) ≠ some .directory ∧
      disk.move source target = (.ok (),
        if sourceName :: sourceDirectory = targetName :: targetDirectory then disk
        else disk.moveTo (sourceName :: sourceDirectory) (targetName :: targetDirectory)
          content) := by
  rw [move]
  split
  case h_3 sourceDirectory sourceName sourceSlash targetDirectory targetName targetSlash
      leads leads' =>
    split
    case h_3 content found =>
      split
      case isTrue => exact .inl ⟨_, rfl⟩
      case isFalse noSlash =>
        split
        case isTrue => exact .inl ⟨_, rfl⟩
        case isFalse free =>
          simp only [Bool.or_eq_true, not_or, Bool.not_eq_true] at noSlash
          obtain ⟨rfl, rfl⟩ := noSlash
          refine .inr ⟨_, _, _, _, content, leads, leads', found, free, ?_⟩
          split <;> rfl
    all_goals exact .inl ⟨_, rfl⟩
  all_goals exact .inl ⟨_, rfl⟩

/-- Moving a file within a directory: it goes over any other file. -/
theorem move_eq {disk : Disk} {source target : Path} {directory : Location}
    {sourceName targetName : String}
    (sourceLeads : disk.approach source = .ok (directory, .name sourceName false))
    (targetLeads : disk.approach target = .ok (directory, .name targetName false))
    (sourceFree : disk.entry? (sourceName :: directory) ≠ some .directory)
    (targetFree : disk.entry? (targetName :: directory) ≠ some .directory)
    (apart : sourceName ≠ targetName) :
    disk.move source target =
      match disk.entry? (sourceName :: directory) with
      | some (.file content) =>
        (.ok (), disk.moveTo (sourceName :: directory) (targetName :: directory) content)
      | _ => (.error .notFound, disk) := by
  have elsewhere : sourceName :: directory ≠ targetName :: directory := fun same =>
    apart (List.cons.inj same).1
  rw [move, sourceLeads, targetLeads]
  cases there : disk.entry? (sourceName :: directory) with
  | none => simp only [there]
  | some entry =>
    cases entry with
    | directory => exact absurd there sourceFree
    | file content =>
      simp only [there, Bool.or_self, Bool.false_eq_true, if_false, targetFree, elsewhere]

/-- What making a directory can do: nothing, or a directory is put where there was
nothing. -/
theorem makeDirectory_cases (disk : Disk) (path : Path) :
    (∃ fault, disk.makeDirectory path = (.error fault, disk)) ∨
    ∃ directory name slash, disk.approach path = .ok (directory, .name name slash) ∧
      disk.entry? (name :: directory) = none ∧
      disk.makeDirectory path = (.ok (), disk.put (name :: directory) .directory) := by
  cases leads : disk.approach path with
  | error fault => exact .inl ⟨fault, by rw [makeDirectory, leads]⟩
  | ok found =>
    obtain ⟨directory, ending⟩ := found
    rcases ending with _ | _ | ⟨name, slash⟩
    case name =>
      cases there : disk.entry? (name :: directory) with
      | some entry =>
        exact .inl ⟨.alreadyExists, by rw [makeDirectory, leads]; simp only [there]; rfl⟩
      | none =>
        refine .inr ⟨directory, name, slash, rfl, there, ?_⟩
        rw [makeDirectory, leads]
        simp only [there]
        rfl
    all_goals exact .inl ⟨.alreadyExists, by rw [makeDirectory, leads]⟩

/-! ### Looking up -/

/-- The pieces of a path from the last one with a text to the first one. -/
def solidPieces (path : Path) : List String :=
  path.pieces.reverse.dropWhile (· == "")

/-- Whether a path can lead anywhere. -/
structure IsUsable (path : Path) : Prop where
  noZero : path.hasZero = false
  nonempty : path.isEmpty = false
  short : path.text.utf8ByteSize ≤ 4095

/-- Paths that cannot lead anywhere meet the same fault on every disk. -/
theorem approach_of_not_isUsable {path : Path} (unusable : ¬IsUsable path) :
    ∃ fault, ∀ disk : Disk, disk.approach path = .error fault := by
  by_cases zero : path.hasZero = true
  · exact ⟨.zeroInPath, fun disk => by rw [approach, if_pos zero]⟩
  by_cases empty : path.isEmpty = true
  · exact ⟨.notFound, fun disk => by rw [approach, if_neg zero, if_pos empty]⟩
  by_cases long : 4095 < path.text.utf8ByteSize
  · exact ⟨.nameTooLong, fun disk => by rw [approach, if_neg zero, if_neg empty, if_pos long]⟩
  · exact absurd ⟨Bool.eq_false_iff.mpr zero, Bool.eq_false_iff.mpr empty, Nat.not_lt.mp long⟩
      unusable

/-- A path of slashes alone leads to the root. -/
theorem approach_of_no_piece {path : Path} (usable : IsUsable path) (split : solidPieces path = [])
    (disk : Disk) : disk.approach path = .ok ([], .here) := by
  rw [solidPieces] at split
  rw [approach, usable.noZero, usable.nonempty, if_neg Bool.false_ne_true,
    if_neg Bool.false_ne_true, if_neg (Nat.not_lt.mpr usable.short), split]

/-- Any other path leads from the directory of its other pieces on with its last piece. -/
theorem approach_of_solidPieces {path : Path} {last : String} {front : List String}
    (usable : IsUsable path) (split : solidPieces path = last :: front) (disk : Disk) :
    disk.approach path = (disk.walk (disk.startOf path) front.reverse).bind fun directory =>
      if isTooLong last then .error .nameTooLong
      else .ok (directory, .ofPiece last (path.pieces.getLast? == some "")) := by
  rw [solidPieces] at split
  rw [approach, usable.noZero, usable.nonempty, if_neg Bool.false_ne_true,
    if_neg Bool.false_ne_true, if_neg (Nat.not_lt.mpr usable.short), split]
  simp only
  cases disk.walk (disk.startOf path) front.reverse <;> rfl

theorem approach_eq_ok_iff (disk : Disk) (path : Path) (found : Location × Ending) :
    disk.approach path = .ok found ↔ IsUsable path ∧
      ((solidPieces path = [] ∧ found = ([], .here)) ∨
      ∃ last front directory, solidPieces path = last :: front ∧
        disk.walk (disk.startOf path) front.reverse = .ok directory ∧ isTooLong last = false ∧
        found = (directory, .ofPiece last (path.pieces.getLast? == some ""))) := by
  by_cases usable : IsUsable path
  case neg =>
    obtain ⟨fault, fails⟩ := approach_of_not_isUsable usable
    simp [fails, usable]
  cases split : solidPieces path with
  | nil =>
    rw [approach_of_no_piece usable split, Except.ok.injEq]
    constructor
    · rintro rfl
      exact ⟨usable, .inl ⟨rfl, rfl⟩⟩
    · rintro ⟨_, ⟨_, rfl⟩ | ⟨_, _, _, none, _⟩⟩
      · rfl
      · cases none
  | cons last front =>
    rw [approach_of_solidPieces usable split]
    constructor
    · intro leads
      cases walked : disk.walk (disk.startOf path) front.reverse with
      | error fault =>
        rw [walked] at leads
        cases leads
      | ok directory =>
        rw [walked, Except.bind] at leads
        split at leads
        · cases leads
        case isFalse short =>
          exact ⟨usable, .inr ⟨last, front, directory, rfl, walked, Bool.eq_false_iff.mpr short,
            (Except.ok.inj leads).symm⟩⟩
    · rintro ⟨_, ⟨none, _⟩ | ⟨_, _, directory, same, walked, short, rfl⟩⟩
      · cases none
      · cases same
        rw [walked, Except.bind, short, if_neg Bool.false_ne_true]

/-- What a path leads to whose last piece is a name. -/
theorem find?_of_approach {disk : Disk} {path : Path} {directory : Location} {name : String}
    (leads : disk.approach path = .ok (directory, .name name false)) :
    disk.find? path =
      match disk.entry? (name :: directory) with
      | none => .error .notFound
      | some entry => .ok (name :: directory, entry) := by
  rw [find?, leads]
  simp only [Bool.false_eq_true, if_false]
  cases disk.entry? (name :: directory) with
  | none => rfl
  | some entry => cases entry <;> rfl

/-- What a file holds, as text. -/
def textOf? (content : ByteArray) : Except FileFault String :=
  match String.fromUTF8? content with
  | some text => .ok text
  | none => .error .invalidText

/-- What is read at a path whose last piece is a name. -/
theorem read_of_approach {disk : Disk} {path : Path} {directory : Location} {name : String}
    (leads : disk.approach path = .ok (directory, .name name false)) :
    disk.read path =
      match disk.entry? (name :: directory) with
      | none => .error .notFound
      | some .directory => .error .isADirectory
      | some (.file content) => textOf? content := by
  rw [read, find?_of_approach leads]
  cases disk.entry? (name :: directory) with
  | none => rfl
  | some entry => cases entry <;> rfl

@[simp]
theorem textOf?_toUTF8 (text : String) : textOf? text.toUTF8 = .ok text := by
  rw [textOf?, String.fromUTF8?, String.toUTF8_eq_toByteArray, dif_pos text.isValidUTF8]
  rfl

@[simp]
theorem overwritten_empty (text : String) : overwritten .empty text = text.toUTF8 := by
  rw [overwritten, ByteArray.extract_eq_empty_iff.mpr (Nat.zero_le _), ByteArray.append_empty]

theorem isDirectory_iff (disk : Disk) (path : Path) :
    disk.isDirectory path = true ↔ ∃ place, disk.find? path = .ok (place, .directory) := by
  rw [isDirectory]
  generalize disk.find? path = found
  rcases found with fault | ⟨place, entry⟩
  · simp
  · cases entry <;> simp

theorem makeDirectory_of_isDirectory {disk : Disk} {path : Path}
    (there : disk.isDirectory path = true) :
    disk.makeDirectory path = (.error .alreadyExists, disk) := by
  obtain ⟨place, found⟩ := (isDirectory_iff disk path).mp there
  rw [find?] at found
  rw [makeDirectory]
  split at found
  case h_1 => cases found
  case h_2 leads => rw [leads]
  case h_3 leads => rw [leads]
  case h_4 leads =>
    rw [leads]
    split at found
    case h_1 => cases found
    case h_2 there => simp only [there, Option.isSome_some, if_true]
    case h_3 => split at found <;> cases found

/-! ### Directories -/

/-- Every directory is still there. -/
structure KeepsDirectories (before after : Disk) : Prop where
  current : after.current = before.current
  directory : ∀ place, before.entry? place = some .directory → after.entry? place = some .directory

namespace KeepsDirectories

variable {before between after disk : Disk}

theorem refl (disk : Disk) : KeepsDirectories disk disk := ⟨rfl, fun _ there => there⟩

theorem trans (first : KeepsDirectories before between) (second : KeepsDirectories between after) :
    KeepsDirectories before after :=
  ⟨second.current.trans first.current, fun place there =>
    second.directory place (first.directory place there)⟩

theorem walk (keeps : KeepsDirectories before after) {pieces : List String} :
    ∀ {here found : Location}, before.walk here pieces = .ok found →
      after.walk here pieces = .ok found := by
  induction pieces with
  | nil => exact id
  | cons piece rest inductionHypothesis =>
    intro here found walked
    rw [Disk.walk] at walked ⊢
    by_cases idle : Path.isIdle piece = true
    · rw [if_pos idle] at walked ⊢
      exact inductionHypothesis walked
    rw [if_neg idle] at walked ⊢
    by_cases up : piece = ".."
    · rw [if_pos up] at walked ⊢
      exact inductionHypothesis walked
    rw [if_neg up] at walked ⊢
    by_cases long : isTooLong piece = true
    · rw [if_pos long] at walked
      cases walked
    rw [if_neg long] at walked ⊢
    split at walked
    case h_1 there =>
      rw [keeps.directory _ there]
      exact inductionHypothesis walked
    all_goals cases walked

theorem approach (keeps : KeepsDirectories before after) {path : Path}
    {found : Location × Ending} (leads : before.approach path = .ok found) :
    after.approach path = .ok found := by
  rw [approach_eq_ok_iff] at leads ⊢
  refine ⟨leads.1, leads.2.imp_right ?_⟩
  rintro ⟨last, front, directory, split, walked, short, rfl⟩
  have start : after.startOf path = before.startOf path := by
    rw [startOf, startOf, keeps.current]
  exact ⟨last, front, directory, split, by rw [start]; exact keeps.walk walked, short, rfl⟩

theorem find?_directory (keeps : KeepsDirectories before after) {path : Path} {place : Location}
    (found : before.find? path = .ok (place, .directory)) :
    after.find? path = .ok (place, .directory) := by
  rw [find?] at found ⊢
  cases leads : before.approach path with
  | error fault =>
    rw [leads] at found
    cases found
  | ok ends =>
    obtain ⟨directory, ending⟩ := ends
    rw [leads] at found
    rw [keeps.approach leads]
    rcases ending with _ | _ | ⟨name, slash⟩
    case name =>
      simp only at found ⊢
      cases there : before.entry? (name :: directory) with
      | none =>
        rw [there] at found
        cases found
      | some entry =>
        rw [there] at found
        cases entry with
        | directory =>
          rw [keeps.directory _ there]
          exact found
        | file content =>
          simp only at found
          split at found <;> cases found
    all_goals exact found

/-- A path that leads to a directory goes on doing so. -/
theorem isDirectory (keeps : KeepsDirectories before after) {path : Path}
    (there : before.isDirectory path = true) : after.isDirectory path = true := by
  obtain ⟨place, found⟩ := (isDirectory_iff before path).mp there
  exact (isDirectory_iff after path).mpr ⟨place, keeps.find?_directory found⟩

theorem put_directory (disk : Disk) (name : String) (directory : Location) :
    KeepsDirectories disk (disk.put (name :: directory) .directory) where
  current := rfl
  directory place there := by
    rw [entry?_put]
    split
    case isTrue => rfl
    case isFalse => exact there

theorem put_file {name : String} {directory : Location}
    (free : disk.entry? (name :: directory) ≠ some .directory) (content : ByteArray) :
    KeepsDirectories disk (disk.put (name :: directory) (.file content)) where
  current := rfl
  directory place there := by
    rw [entry?_put, if_neg]
    · exact there
    · rintro rfl
      exact free there

theorem moveTo {source name : String} {directory sourceDirectory : Location}
    {content moved : ByteArray}
    (there : disk.entry? (source :: sourceDirectory) = some (.file content))
    (free : disk.entry? (name :: directory) ≠ some .directory) :
    KeepsDirectories disk
      (disk.moveTo (source :: sourceDirectory) (name :: directory) moved) where
  current := rfl
  directory place occupied := by
    rw [entry?_moveTo, if_neg, if_neg]
    · exact occupied
    · rintro rfl
      rw [there] at occupied
      cases occupied
    · rintro rfl
      exact free occupied

theorem opening (keeps : KeepsDirectories before after) (place : Location) :
    KeepsDirectories before (after.opening place) :=
  ⟨keeps.current, keeps.directory⟩

theorem create (disk : Disk) (path : Path) : KeepsDirectories disk (disk.create path).2 := by
  rcases create_cases disk path with ⟨fault, same⟩ | ⟨directory, name, _, free, made⟩
  · rw [same]
    exact refl disk
  · rw [made]
    exact (put_file free .empty).opening _

theorem fill (disk : Disk) (handle : Handle) (text : String) :
    KeepsDirectories disk (disk.fill handle text) := by
  rcases fill_cases disk handle text with same | ⟨name, directory, content, _, there, filled⟩
  · rw [same]
    exact refl disk
  · rw [filled]
    exact put_file (by rw [there]; nofun) _

theorem move (disk : Disk) (source target : Path) :
    KeepsDirectories disk (disk.move source target).2 := by
  rcases move_cases disk source target with
    ⟨fault, same⟩ | ⟨_, _, _, _, _, _, _, there, free, moved⟩
  · rw [same]
    exact refl disk
  · rw [moved]
    split
    · exact refl disk
    · exact moveTo there free

theorem makeDirectory (disk : Disk) (path : Path) :
    KeepsDirectories disk (disk.makeDirectory path).2 := by
  rcases makeDirectory_cases disk path with ⟨fault, same⟩ | ⟨directory, name, _, _, _, made⟩
  · rw [same]
    exact refl disk
  · rw [made]
    exact put_directory disk name directory

/-- No task takes a directory away. -/
theorem run (task : FileTask α) (disk : Disk) : KeepsDirectories disk (task.run disk).2 := by
  induction task generalizing disk with
  | done result => exact refl disk
  | makeDirectory path next inductionHypothesis =>
    exact (makeDirectory disk path).trans (inductionHypothesis _ _)
  | create path next inductionHypothesis =>
    exact (create disk path).trans (inductionHypothesis _ _)
  | fill handle text next inductionHypothesis =>
    exact (fill disk handle text).trans (inductionHypothesis _ _)
  | move source target next inductionHypothesis =>
    exact (move disk source target).trans (inductionHypothesis _ _)
  | _ path next inductionHypothesis => exact inductionHypothesis _ disk

end KeepsDirectories

end Disk

end PlaylistRules.Storage
