/-
This file proves where paths lead and which files the tasks that write change. The
place of a path is what its pieces say, whether or not the directories on the way are
there yet, so it stays the same while a task makes them. Writing changes the file at the
place of the path alone, replacing also that at the place of the temporary path, and
making directories changes no file.
-/

import PlaylistRules.Proofs.Disks

namespace PlaylistRules.Storage

namespace Disk

/-! ### Places -/

/-- Where pieces lead to from a location if every directory is there. -/
def course : Location → List String → Location
  | here, [] => here
  | here, piece :: rest =>
    if Path.isIdle piece then course here rest
    else if piece = ".." then course here.tail rest
    else course (piece :: here) rest

/-- The place that a path names. -/
def place (disk : Disk) (path : Path) : Location :=
  course (disk.startOf path) path.pieces

/-- Whether a piece is a name, and not a way to stay or to go up. -/
structure IsName (piece : String) : Prop where
  busy : Path.isIdle piece = false
  inside : piece ≠ ".."

/-- Whether a path ends in a name. -/
def IsPlain (path : Path) : Prop :=
  ∃ front name, path.pieces = front ++ [name] ∧ IsName name

theorem course_append (here : Location) (first second : List String) :
    course here (first ++ second) = course (course here first) second := by
  induction first generalizing here with
  | nil => rfl
  | cons piece first inductionHypothesis =>
    rw [List.cons_append, course, course]
    split
    · exact inductionHypothesis here
    · split <;> exact inductionHypothesis _

theorem course_name {name : String} (isName : IsName name) (here : Location) :
    course here [name] = name :: here := by
  rw [course, isName.busy, if_neg Bool.false_ne_true, if_neg isName.inside]
  rfl

theorem course_idle {pieces : List String} (idle : ∀ piece ∈ pieces, Path.isIdle piece = true)
    (here : Location) : course here pieces = here := by
  induction pieces with
  | nil => rfl
  | cons piece pieces inductionHypothesis =>
    rw [course, if_pos (idle piece List.mem_cons_self)]
    exact inductionHypothesis fun other member => idle other (List.mem_cons_of_mem _ member)

/-- Walking leads to where the pieces say. -/
theorem walk_eq_course {disk : Disk} {pieces : List String} :
    ∀ {here found : Location}, disk.walk here pieces = .ok found → found = course here pieces := by
  induction pieces with
  | nil =>
    intro here found walked
    exact (Except.ok.inj walked).symm
  | cons piece rest inductionHypothesis =>
    intro here found walked
    rw [walk] at walked
    rw [course]
    split
    case isTrue idle =>
      rw [if_pos idle] at walked
      exact inductionHypothesis walked
    case isFalse busy =>
      rw [if_neg busy] at walked
      split
      case isTrue up =>
        rw [if_pos up] at walked
        exact inductionHypothesis walked
      case isFalse inside =>
        rw [if_neg inside] at walked
        split at walked
        case isTrue => cases walked
        case isFalse =>
          split at walked
          case h_1 => exact inductionHypothesis walked
          all_goals cases walked

theorem ofPiece_eq_name_iff (piece name : String) (slash given : Bool) :
    Ending.ofPiece piece given = .name name slash ↔
      piece ≠ "." ∧ piece ≠ ".." ∧ piece = name ∧ given = slash := by
  rw [Ending.ofPiece]
  split
  case isTrue same => simp [same]
  case isFalse here =>
    split
    case isTrue same => simp [same]
    case isFalse above => simp [here, above]

/-- A list around its last member without a property, which was found from the end. -/
theorem reverse_of_dropWhile {Member : Type} {idle : Member → Bool} {list front : List Member}
    {last : Member} (split : list.dropWhile idle = last :: front) :
    ∃ passed, list.reverse = front.reverse ++ last :: passed ∧ idle last = false ∧
      ∀ member ∈ passed, idle member = true := by
  have whole := List.takeWhile_append_dropWhile (p := idle) (l := list)
  have stop := List.head?_dropWhile_not idle list
  rw [split] at whole stop
  refine ⟨(list.takeWhile idle).reverse, ?_, by simpa using stop, fun member inside =>
    List.all_eq_true.mp List.all_takeWhile member (List.mem_reverse.mp inside)⟩
  conv_lhs => rw [← whole]
  simp

/-- The pieces of a path around its last piece with a text. -/
theorem pieces_of_solidPieces {path : Path} {last : String} {front : List String}
    (split : solidPieces path = last :: front) :
    ∃ blanks, path.pieces = front.reverse ++ last :: blanks ∧ last ≠ "" ∧
      (∀ piece ∈ blanks, piece = "") ∧ (path.pieces.getLast? ≠ some "" → blanks = []) := by
  obtain ⟨blanks, pieces, solid, empty⟩ := reverse_of_dropWhile split
  rw [List.reverse_reverse] at pieces
  simp only [beq_iff_eq, beq_eq_false_iff_ne] at solid empty
  refine ⟨blanks, pieces, solid, empty, fun noSlash => ?_⟩
  rcases List.eq_nil_or_concat blanks with none | ⟨others, piece, rfl⟩
  · exact none
  · refine absurd ?_ noSlash
    rw [pieces, List.concat_eq_append, ← List.cons_append, ← List.append_assoc,
      List.getLast?_concat,
      empty piece (by simp)]

theorem place_of_approach {disk : Disk} {path : Path} {directory : Location} {name : String}
    {slash : Bool} (leads : disk.approach path = .ok (directory, .name name slash)) :
    disk.place path = name :: directory := by
  obtain ⟨_, ⟨_, same⟩ | ⟨last, front, directory', split, walked, _, same⟩⟩ :=
    (approach_eq_ok_iff disk path _).mp leads
  · cases same
  obtain ⟨rfl, ending⟩ := Prod.mk.inj same
  obtain ⟨notHere, inside, rfl, _⟩ := (ofPiece_eq_name_iff ..).mp ending.symm
  obtain ⟨blanks, pieces, nonempty, empty, _⟩ := pieces_of_solidPieces split
  have isName : IsName last := ⟨by simp [Path.isIdle, nonempty, notHere], inside⟩
  rw [place, pieces, ← List.singleton_append, ← List.append_assoc, course_append, course_append,
    course_name isName, ← walk_eq_course walked]
  exact course_idle (fun piece member => by rw [empty piece member]; rfl) _

theorem isPlain_of_approach {disk : Disk} {path : Path} {directory : Location} {name : String}
    (leads : disk.approach path = .ok (directory, .name name false)) :
    ∃ front, path.pieces = front ++ [name] ∧ IsName name := by
  obtain ⟨_, ⟨_, same⟩ | ⟨last, front, directory', split, _, _, same⟩⟩ :=
    (approach_eq_ok_iff disk path _).mp leads
  · cases same
  obtain ⟨notHere, inside, rfl, noSlash⟩ :=
    (ofPiece_eq_name_iff ..).mp (Prod.mk.inj same).2.symm
  obtain ⟨blanks, pieces, nonempty, _, none⟩ := pieces_of_solidPieces split
  rw [none (by simpa using noSlash)] at pieces
  exact ⟨front.reverse, pieces, by simp [Path.isIdle, nonempty, notHere], inside⟩

/-! ### Files -/

/-- The content of the file at a place, if there is a file. -/
def file? (disk : Disk) (place : Location) : Option ByteArray :=
  match disk.entry? place with
  | some (.file content) => some content
  | _ => none

theorem file?_eq_some_iff (disk : Disk) (place : Location) (content : ByteArray) :
    disk.file? place = some content ↔ disk.entry? place = some (.file content) := by
  rw [file?]
  rcases disk.entry? place with _ | _ | content <;> simp

/-- The content of the file that a path leads to, if it leads to one. -/
def contentAt? (disk : Disk) (path : Path) : Option ByteArray :=
  match disk.find? path with
  | .ok (_, .file content) => some content
  | _ => none

/-- A path leads to a file exactly if it ends in the name of one and the directories on the
way are there. -/
theorem contentAt?_eq_some_iff (disk : Disk) (path : Path) (content : ByteArray) :
    disk.contentAt? path = some content ↔
      ∃ directory name, disk.approach path = .ok (directory, .name name false) ∧
        disk.file? (name :: directory) = some content := by
  rw [contentAt?]
  constructor
  · intro found
    split at found
    case h_1 place content' leads =>
      cases found
      rw [find?] at leads
      split at leads
      case h_4 directory name slash approached =>
        split at leads
        case h_3 content' there =>
          split at leads
          case isTrue => cases leads
          case isFalse noSlash =>
            cases leads
            rw [Bool.not_eq_true] at noSlash
            subst noSlash
            exact ⟨directory, name, approached, (file?_eq_some_iff ..).mpr there⟩
        all_goals cases leads
      all_goals cases leads
    case h_2 => cases found
  · rintro ⟨directory, name, leads, there⟩
    rw [find?_of_approach leads, (file?_eq_some_iff ..).mp there]

theorem read_of_contentAt? {disk : Disk} {path : Path} {content : ByteArray}
    (found : disk.contentAt? path = some content) : disk.read path = textOf? content := by
  obtain ⟨directory, name, leads, there⟩ := (contentAt?_eq_some_iff ..).mp found
  rw [read_of_approach leads, (file?_eq_some_iff ..).mp there]

/-- A path that leads to no file reads as a fault. -/
theorem read_of_contentAt?_eq_none {disk : Disk} {path : Path}
    (nothing : disk.contentAt? path = none) : ∃ fault, disk.read path = .error fault := by
  rw [contentAt?] at nothing
  rw [read]
  generalize disk.find? path = found at nothing
  rcases found with fault | ⟨place, _ | content⟩
  · exact ⟨fault, rfl⟩
  · exact ⟨.isADirectory, rfl⟩
  · cases nothing

theorem file?_congr {before after : Disk} {place : Location}
    (same : after.entry? place = before.entry? place) : after.file? place = before.file? place := by
  rw [file?, file?, same]

/-- Making a directory changes no file. -/
theorem file?_makeDirectory (disk : Disk) (path : Path) (place : Location) :
    (disk.makeDirectory path).2.file? place = disk.file? place := by
  rcases makeDirectory_cases disk path with
    ⟨fault, same⟩ | ⟨directory, name, _, _, nothing, made⟩
  · rw [same]
  · by_cases same : place = name :: directory
    · rw [made, file?, file?, entry?_put, if_pos same, same, nothing]
    · rw [made, file?, file?, entry?_put, if_neg same]

/-! ### Files that stay -/

/-- Whether the file at the place of a path is found by that path. A path that crosses a
missing directory and leaves it again may miss the file at its place. -/
def IsFound (disk : Disk) (path : Path) : Prop :=
  IsPlain path → disk.contentAt? path = disk.file? (disk.place path)

/-- Whether nothing that could be read stands at the place of a path. -/
def IsAbsent (disk : Disk) (path : Path) : Prop :=
  IsPlain path → disk.file? (disk.place path) = none

theorem contentAt?_cases (disk : Disk) (path : Path) :
    disk.contentAt? path = none ∨
      IsPlain path ∧ disk.contentAt? path = disk.file? (disk.place path) := by
  cases found : disk.contentAt? path with
  | none => exact .inl rfl
  | some content =>
    obtain ⟨directory, name, leads, there⟩ := (contentAt?_eq_some_iff ..).mp found
    obtain ⟨front, split, isName⟩ := isPlain_of_approach leads
    rw [place_of_approach leads]
    exact .inr ⟨⟨front, name, split, isName⟩, there.symm⟩

theorem IsAbsent.contentAt?_eq_none {disk : Disk} {path : Path} (absent : IsAbsent disk path) :
    disk.contentAt? path = none := by
  rcases contentAt?_cases disk path with nothing | ⟨plain, same⟩
  · exact nothing
  · exact same.trans (absent plain)

theorem IsAbsent.isFound {disk : Disk} {path : Path} (absent : IsAbsent disk path) :
    IsFound disk path :=
  fun plain => absent.contentAt?_eq_none.trans (absent plain).symm

theorem isFound_of_contentAt? {disk : Disk} {path : Path} {content : ByteArray}
    (found : disk.contentAt? path = some content) : IsFound disk path := by
  intro plain
  rcases contentAt?_cases disk path with nothing | ⟨_, same⟩
  · rw [found] at nothing
    cases nothing
  · exact same

theorem KeepsDirectories.place {before after : Disk} (keeps : KeepsDirectories before after)
    (path : Path) : after.place path = before.place path := by
  rw [Disk.place, Disk.place, startOf, startOf, keeps.current]

theorem KeepsDirectories.place_ne {before after : Disk} (keeps : KeepsDirectories before after)
    {first second : Path} (apart : before.place first ≠ before.place second) :
    after.place first ≠ after.place second := by
  rwa [keeps.place, keeps.place]

/-- The directories are all there, and the file at the place of a path is the same. -/
structure Preserves (path : Path) (before after : Disk) : Prop where
  keeps : KeepsDirectories before after
  file : IsPlain path → after.file? (before.place path) = before.file? (before.place path)

namespace Preserves

variable {path : Path} {before between after : Disk}

theorem refl (path : Path) (disk : Disk) : Preserves path disk disk :=
  ⟨.refl disk, fun _ => rfl⟩

theorem trans (first : Preserves path before between) (second : Preserves path between after) :
    Preserves path before after where
  keeps := first.keeps.trans second.keeps
  file plain := by
    rw [← first.file plain, ← first.keeps.place path]
    exact second.file plain

theorem isAbsent (preserves : Preserves path before after) (absent : IsAbsent before path) :
    IsAbsent after path := by
  intro plain
  rw [preserves.keeps.place, preserves.file plain]
  exact absent plain

/-- What a path leads to stays the same. -/
theorem contentAt? (preserves : Preserves path before after) (found : IsFound before path) :
    after.contentAt? path = before.contentAt? path := by
  cases there : before.contentAt? path with
  | some content =>
    obtain ⟨directory, name, leads, file⟩ := (contentAt?_eq_some_iff ..).mp there
    obtain ⟨front, split, isName⟩ := isPlain_of_approach leads
    have same := preserves.file ⟨front, name, split, isName⟩
    rw [place_of_approach leads, file] at same
    exact (contentAt?_eq_some_iff ..).mpr ⟨directory, name, preserves.keeps.approach leads, same⟩
  | none =>
    rcases contentAt?_cases after path with nothing | ⟨plain, same⟩
    · exact nothing
    · rw [same, preserves.keeps.place, preserves.file plain, ← found plain, there]

end Preserves

/-! ### Temporary paths -/

theorem withExtension_plain {path : Path} {front : List String} {name : String}
    (split : path.pieces = front ++ [name]) (isName : IsName name) (extension : String) :
    path.withExtension extension = ⟨front ++ [Path.stem name ++ "." ++ extension]⟩ := by
  have reversed : path.reversedPieces = name :: front.reverse := by
    rw [Path.reversedPieces, split, List.reverse_append, List.reverse_singleton,
      List.singleton_append, List.dropWhile_cons_of_neg (by rw [isName.busy]; nofun)]
  rw [Path.withExtension, reversed]
  simp only [if_neg isName.inside, List.reverse_reverse]

theorem isName_temporary (stem : String) : IsName (stem ++ "." ++ "tmp") := by
  have long : (stem ++ "." ++ "tmp").length = stem.length + 4 := by
    rw [String.length_append, String.length_append]
    rfl
  have other {short : String} (fewer : short.length < 4) : stem ++ "." ++ "tmp" ≠ short := by
    intro same
    rw [same] at long
    omega
  refine ⟨?_, other (by decide)⟩
  rw [Path.isIdle, beq_false_of_ne (other (by decide)), beq_false_of_ne (other (by decide))]
  rfl

theorem place_plain {path : Path} {front : List String} {name : String}
    (split : path.pieces = front ++ [name]) (isName : IsName name) (disk : Disk) :
    disk.place path = name :: course (disk.startOf path) front := by
  rw [place, split, course_append, course_name isName]

/-- The temporary file of a path that ends in a name has a place of its own, unless the
name is that of temporary files. -/
theorem place_temporary_ne {path : Path} (plain : IsPlain path)
    (other : path.withExtension "tmp" ≠ path) (disk : Disk) :
    disk.place (path.withExtension "tmp") ≠ disk.place path := by
  obtain ⟨front, name, split, isName⟩ := plain
  have shape := withExtension_plain split isName "tmp"
  intro same
  refine other ?_
  rw [shape, place_plain rfl (isName_temporary _), place_plain split isName] at same
  rw [shape, (List.cons.inj same).1, ← split]

end Disk

namespace FileTask

open Disk

/-! ### Tasks in sequence -/

theorem run_andThen (task : FileTask α) (rest : α → FileTask β) (disk : Disk) :
    (task.andThen rest).run disk = (rest (task.run disk).1).run (task.run disk).2 := by
  induction task generalizing disk with
  | done result => rfl
  | read path next inductionHypothesis => exact inductionHypothesis _ disk
  | isPresent path next inductionHypothesis => exact inductionHypothesis _ disk
  | isDirectory path next inductionHypothesis => exact inductionHypothesis _ disk
  | makeDirectory path next inductionHypothesis => exact inductionHypothesis _ _
  | create path next inductionHypothesis => exact inductionHypothesis _ _
  | fill handle text next inductionHypothesis => exact inductionHypothesis _ _
  | move source target next inductionHypothesis => exact inductionHypothesis _ _

@[simp]
theorem run_bind (task : FileTask α) (rest : α → FileTask β) (disk : Disk) :
    (task >>= rest).run disk = (rest (task.run disk).1).run (task.run disk).2 :=
  run_andThen task rest disk

/-! ### Making directories -/

theorem file?_makeLineage (paths : List Path) (disk : Disk) (place : Location) :
    ((makeLineage paths).run disk).2.file? place = disk.file? place := by
  induction paths generalizing disk with
  | nil => rfl
  | cons path parents inductionHypothesis =>
    rw [makeLineage, run, ← file?_makeDirectory disk path place]
    split
    case h_1 =>
      rw [run_bind, ← inductionHypothesis (disk.makeDirectory path).2]
      split
      case h_1 =>
        refine Eq.trans ?_ (file?_makeDirectory _ path place)
        rw [run]
        split <;> rfl
      case h_2 => rfl
    case h_2 => cases (disk.makeDirectory path).1 <;> rfl

/-- Making directories changes no file. -/
theorem file?_makeDirectories (path : Path) (disk : Disk) (place : Location) :
    ((makeDirectories path).run disk).2.file? place = disk.file? place :=
  file?_makeLineage path.lineage disk place

/-! ### Writing -/

/-- The place of a file that was opened last. -/
theorem getElem?_opened_opening (disk : Disk) (location : Location) (entry : Entry) :
    ((disk.put location entry).opening location).opened[disk.opened.length]? =
      some (some location) :=
  List.getElem?_concat_length

/-- A text is all that a file holds which was opened for it. -/
theorem entry?_fill_opening (disk : Disk) (name : String) (directory : Location) (text : String)
    (place : Location) :
    Disk.entry? (((disk.put (name :: directory) (.file .empty)).opening (name :: directory)).fill
        disk.opened.length text) place =
      if place = name :: directory then some (.file text.toUTF8) else disk.entry? place := by
  have there : Disk.entry? ((disk.put (name :: directory) (.file .empty)).opening
      (name :: directory)) (name :: directory) = some (.file .empty) := by
    rw [entry?_opening, entry?_put, if_pos rfl]
  rw [fill_eq (getElem?_opened_opening ..) there, overwritten_empty, entry?_put, entry?_opening,
    entry?_put]
  split <;> rfl

/-- What writing a file can do: nothing, or the file at the place of the path holds the
text. -/
theorem run_write_cases (path : Path) (text : String) (disk : Disk) :
    (∃ fault, (write path text).run disk = (.error fault, disk)) ∨
    ∃ directory name after, disk.approach path = .ok (directory, .name name false) ∧
      disk.entry? (name :: directory) ≠ some .directory ∧
      (write path text).run disk = (.ok (), after) ∧
      ∀ place, after.entry? place =
        if place = name :: directory then some (.file text.toUTF8) else disk.entry? place := by
  rcases create_cases disk path with ⟨fault, failed⟩ | ⟨directory, name, leads, free, made⟩
  · exact .inl ⟨fault, by rw [write, run, failed]; rfl⟩
  · exact .inr ⟨directory, name, _, leads, free, by rw [write, run, made]; rfl,
      entry?_fill_opening disk name directory text⟩

/-- Moving a file to its own path succeeds. -/
theorem move_self {disk : Disk} {path : Path} {directory : Location} {name : String}
    {content : ByteArray} (leads : disk.approach path = .ok (directory, .name name false))
    (there : disk.entry? (name :: directory) = some (.file content)) :
    disk.move path path = (.ok (), disk) := by
  rw [Disk.move, leads]
  simp only [there]
  rfl

/-- Whatever was at the second place before, a move puts the file there. A move to its own
place leaves it. -/
theorem entry?_moved {disk : Disk} {name other : String} {directory around : Location}
    {content : ByteArray} (there : disk.entry? (name :: directory) = some (.file content))
    (place : Location) :
    Disk.entry? (if name :: directory = other :: around then disk
        else disk.moveTo (name :: directory) (other :: around) content) place =
      if place = other :: around then some (.file content)
      else if place = name :: directory then none else disk.entry? place := by
  split
  case isTrue same =>
    split
    case isTrue target => rw [target, ← same, there]
    case isFalse elsewhere => rw [if_neg (same ▸ elsewhere)]
  case isFalse => rw [entry?_moveTo]

/-- What replacing a file can do: nothing; the text is left at the temporary path, which
is another one, while the file stays; or the file holds the text and there is no other
temporary file. -/
theorem run_replace_cases (path : Path) (text : String) (disk : Disk) :
    (∃ fault, (replace path text).run disk = (.error fault, disk)) ∨
    (∃ fault after, path.withExtension "tmp" ≠ path ∧
      (replace path text).run disk = (.error fault, after) ∧
      ∀ place, place ≠ disk.place (path.withExtension "tmp") →
        after.entry? place = disk.entry? place) ∨
    ∃ directory name after, after.approach path = .ok (directory, .name name false) ∧
      (replace path text).run disk = (.ok (), after) ∧
      ∀ place, after.entry? place =
        if place = disk.place path then some (.file text.toUTF8)
        else if place = disk.place (path.withExtension "tmp") then none
        else disk.entry? place := by
  rw [replace]
  simp only [run_bind]
  rcases run_write_cases (path.withExtension "tmp") text disk with
    ⟨fault, failed⟩ | ⟨directory, name, middle, leads, free, wrote, entries⟩
  · rw [failed]
    exact .inl ⟨_, rfl⟩
  have keeps := KeepsDirectories.run (write (path.withExtension "tmp") text) disk
  rw [wrote] at keeps ⊢
  have there : middle.entry? (name :: directory) = some (.file text.toUTF8) := by
    rw [entries, if_pos rfl]
  have temporary := place_of_approach leads
  have same (other : Path) : middle.place other = disk.place other := by
    rw [place, place, startOf, startOf, keeps.current]
  rcases move_cases middle (path.withExtension "tmp") path with
    ⟨fault, failed⟩ | ⟨_, _, directory', name', content, leads', target, file, free', moved⟩
  · refine .inr (.inl ⟨(path, fault), middle, fun equal => ?_, ?_, fun place other => ?_⟩)
    · rw [equal] at failed leads
      rw [move_self (keeps.approach leads) there] at failed
      cases failed
    · rw [run, failed]
      rfl
    · rw [entries, if_neg (by rwa [← temporary])]
  · rw [keeps.approach leads] at leads'
    cases leads'
    rw [there] at file
    cases file
    have placed := place_of_approach target
    rw [same] at placed
    refine .inr (.inr ⟨directory', name', _, ?_, by rw [run, moved]; rfl, fun place => ?_⟩)
    · split
      · exact target
      · exact (KeepsDirectories.moveTo there free').approach target
    · rw [placed, temporary]
      refine (entry?_moved there place).trans ?_
      split
      · rfl
      split
      case isTrue => rfl
      case isFalse other => rw [entries, if_neg other]

end FileTask

end PlaylistRules.Storage
