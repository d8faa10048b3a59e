/-
This file proves what two saves of rule files come to that share a disk and take turns
in any order. Both write their text into one temporary file, so the outcome depends on
whether one of them makes that file while the other has made it and not moved it yet.
Saves that do not overlap in this way are atomic and leave the set of the one that moved
its file last. Of two saves that overlap exactly one succeeds; the other one finds its
file gone.
-/

import Mathlib.Data.List.Induction
import PlaylistRules.Proofs.Disks
import PlaylistRules.Proofs.RuleSets

namespace PlaylistRules.Storage.RuleFile

open Disk

/-! ### Phases -/

/-- What is left of a save after the text was written. -/
def moving (path : Path) : FileTask (Except RuleFileFault Unit) :=
  .move (path.withExtension "tmp") path fun
    | .ok () => .done (.ok ())
    | .error fault => .done (.error (.write path fault))

/-- What is left of a save that has made the temporary file. -/
def filling (path : Path) (set : RuleSet) (handle : Handle) :
    FileTask (Except RuleFileFault Unit) :=
  .fill handle (text set) fun
    | .ok () => moving path
    | .error fault => .done (.error (.write (path.withExtension "tmp") fault))

/-- What is left of a save once the directory is there. -/
def making (path : Path) (set : RuleSet) : FileTask (Except RuleFileFault Unit) :=
  .create (path.withExtension "tmp") fun
    | .ok handle => filling path set handle
    | .error fault => .done (.error (.write (path.withExtension "tmp") fault))

/-- What is left of a save after the directory could not be made because something is
there. -/
def confirming (path parent : Path) (set : RuleSet) : FileTask (Except RuleFileFault Unit) :=
  .isDirectory parent fun found =>
    if found then making path set else .done (.error (.createDirectory parent .alreadyExists))

theorem replace_eq_making (path : Path) (set : RuleSet) :
    (do
      match ← FileTask.replace path (text set) with
      | .ok () => return .ok ()
      | .error (failed, fault) => return .error (.write failed fault)) = making path set := by
  refine congrArg (FileTask.create _) (funext fun answer => ?_)
  cases answer with
  | error fault => rfl
  | ok handle =>
    refine congrArg (FileTask.fill _ _) (funext fun answer => ?_)
    cases answer with
    | error fault => rfl
    | ok done =>
      refine congrArg (FileTask.move _ _) (funext fun answer => ?_)
      cases answer <;> rfl

/-- What is left of a save once it is known whether the directory is there. -/
def afterParent (path : Path) (set : RuleSet) :
    Except RuleFileFault Unit → FileTask (Except RuleFileFault Unit)
  | .error fault => .done (.error fault)
  | .ok () => making path set

theorem save_eq (path : Path) (set : RuleSet) :
    save path set = (makeParent path).andThen (afterParent path set) := by
  refine congrArg (makeParent path).andThen (funext fun answer => ?_)
  cases answer with
  | error fault => rfl
  | ok done => exact replace_eq_making path set

/-- Whether the parent of a path names a directory that is to be made. -/
def NamesParent (path parent : Path) : Prop :=
  path.parent? = some parent ∧ parent.isEmpty = false

theorem save_eq_making {path : Path} (alone : ∀ parent, ¬NamesParent path parent) (set : RuleSet) :
    save path set = making path set := by
  rw [save_eq, makeParent]
  cases named : path.parent? with
  | none => rfl
  | some parent =>
    have empty : parent.isEmpty = true := by
      by_contra nonempty
      exact alone parent ⟨named, Bool.eq_false_iff.mpr nonempty⟩
    have noLineage : parent.lineage = [] := by
      rw [Path.lineage, Path.lineageWithin, if_pos empty]
    simp only [FileTask.makeDirectories, noLineage]
    rfl

theorem makeParent_eq {path parent : Path} (named : NamesParent path parent) :
    ∃ next, makeParent path = .makeDirectory parent next ∧
      ∀ set, (next (.error .alreadyExists)).andThen (afterParent path set) =
        confirming path parent set := by
  have lineage : ∃ rest, parent.lineage = parent :: rest := by
    rw [Path.lineage, Path.lineageWithin, named.2]
    exact ⟨_, rfl⟩
  obtain ⟨rest, lineage⟩ := lineage
  rw [makeParent, named.1]
  simp only [FileTask.makeDirectories, lineage, FileTask.makeLineage, bind, FileTask.andThen]
  refine ⟨_, rfl, fun set => congrArg (FileTask.isDirectory parent) (funext fun found => ?_)⟩
  cases found <;> rfl

/-- The first step of a save finds that the directory is there. -/
theorem step_save {path parent : Path} (named : NamesParent path parent) (set : RuleSet)
    {disk : Disk} (there : disk.isDirectory parent = true) :
    (save path set).step disk = (confirming path parent set, disk) := by
  obtain ⟨next, first, rest⟩ := makeParent_eq named
  rw [save_eq, first, FileTask.andThen, FileTask.step, makeDirectory_of_isDirectory there]
  exact congrArg (·, disk) (rest set)

theorem step_confirming {path parent : Path} (set : RuleSet) {disk : Disk}
    (there : disk.isDirectory parent = true) :
    (confirming path parent set).step disk = (making path set, disk) := by
  rw [confirming, FileTask.step, there]
  rfl

/-! ### Phases of a save -/

/-- How far a save has come. -/
inductive Phase where
  | starting (parent : Path)
  | confirming (parent : Path)
  | making
  | filling (handle : Handle)
  | moving
  | finished (result : Except RuleFileFault Unit)

namespace Phase

/-- What is left of a save in a phase. -/
def task (path : Path) (set : RuleSet) : Phase → FileTask (Except RuleFileFault Unit)
  | starting _ => save path set
  | confirming parent => RuleFile.confirming path parent set
  | making => RuleFile.making path set
  | filling handle => RuleFile.filling path set handle
  | moving => RuleFile.moving path
  | finished result => .done result

/-- The phases before the temporary file is made name the directory of the path. -/
def Fits (path : Path) : Phase → Prop
  | starting parent | confirming parent => NamesParent path parent
  | _ => True

/-- Whether the temporary file was made and not moved yet. -/
def IsMiddle : Phase → Prop
  | filling _ | moving => True
  | _ => False

/-- The number of steps to the end. -/
def left : Phase → Nat
  | starting _ => 5
  | confirming _ => 4
  | making => 3
  | filling _ => 2
  | moving => 1
  | finished _ => 0

/-- The phase after a step and the disk after it. -/
def advance (path : Path) (text : String) (source target : Location) (disk : Disk) :
    Phase → Phase × Disk
  | starting parent => (confirming parent, disk)
  | confirming _ => (making, disk)
  | making => (filling disk.opened.length, (disk.put source (.file .empty)).opening source)
  | filling handle => (moving, disk.fill handle text)
  | moving =>
    match disk.entry? source with
    | some (.file content) => (finished (.ok ()), disk.moveTo source target content)
    | _ => (finished (.error (.write path .notFound)), disk)
  | finished result => (finished result, disk)

end Phase

/-- A path that can be saved to: its directory is there, and neither the file nor the
temporary file next to it has the place of a directory or of the other one. -/
structure Ready (disk : Disk) (path : Path) (directory : Location) (name temporary : String) :
    Prop where
  parent : ∀ parent, NamesParent path parent → disk.isDirectory parent = true
  target : disk.approach path = .ok (directory, .name name false)
  source : disk.approach (path.withExtension "tmp") = .ok (directory, .name temporary false)
  targetFree : disk.entry? (name :: directory) ≠ some .directory
  sourceFree : disk.entry? (temporary :: directory) ≠ some .directory
  apart : temporary ≠ name

section

variable {disk : Disk} {path : Path} {directory : Location} {name temporary : String}

theorem Ready.of_keeps (ready : Ready disk path directory name temporary) {after : Disk}
    (keeps : KeepsDirectories disk after)
    (targetFree : after.entry? (name :: directory) ≠ some .directory)
    (sourceFree : after.entry? (temporary :: directory) ≠ some .directory) :
    Ready after path directory name temporary where
  parent parent named := keeps.isDirectory (ready.parent parent named)
  target := keeps.approach ready.target
  source := keeps.approach ready.source
  targetFree := targetFree
  sourceFree := sourceFree
  apart := ready.apart

/-- A step of a save is the step of its phase. -/
theorem step_task (ready : Ready disk path directory name temporary) (set : RuleSet)
    {phase : Phase} (fits : phase.Fits path) :
    (phase.task path set).step disk =
      ((phase.advance path (text set) (temporary :: directory) (name :: directory) disk).1.task
          path set,
        (phase.advance path (text set) (temporary :: directory) (name :: directory) disk).2) := by
  cases phase with
  | starting parent => exact step_save fits set (ready.parent parent fits)
  | confirming parent => exact step_confirming set (ready.parent parent fits)
  | making =>
    rw [Phase.task, making, FileTask.step, create_eq ready.source ready.sourceFree]
    rfl
  | filling handle => rfl
  | moving =>
    rw [Phase.task, moving, FileTask.step, Phase.advance,
      move_eq ready.source ready.target ready.sourceFree ready.targetFree ready.apart]
    rcases disk.entry? (temporary :: directory) with _ | _ | content <;> rfl
  | finished result => rfl

theorem advance_left (phase : Phase) (text : String) (source target : Location) :
    (phase.advance path text source target disk).1.left = phase.left - 1 := by
  cases phase with
  | moving => rw [Phase.advance]; split <;> rfl
  | _ => rfl

theorem Phase.Fits.advance {phase : Phase} (fits : phase.Fits path) (text : String)
    (source target : Location) : (phase.advance path text source target disk).1.Fits path := by
  cases phase with
  | starting parent => exact fits
  | moving => rw [Phase.advance]; split <;> trivial
  | _ => trivial

/-- A path can be saved to at any time while it is saved to. -/
theorem Ready.advance (ready : Ready disk path directory name temporary) (phase : Phase)
    (text : String) :
    Ready (phase.advance path text (temporary :: directory) (name :: directory) disk).2 path
      directory name temporary := by
  cases phase with
  | making =>
    refine ready.of_keeps ((KeepsDirectories.put_file ready.sourceFree _).opening _) ?_ ?_
    · rw [Phase.advance, entry?_opening, entry?_put]
      split
      · nofun
      · exact ready.targetFree
    · rw [Phase.advance, entry?_opening, entry?_put, if_pos rfl]
      nofun
  | filling handle =>
    have keeps (place : Location) (free : disk.entry? place ≠ some .directory) :
        Disk.entry? (disk.fill handle text) place ≠ some .directory := by
      rcases entry?_fill disk handle text place with same | ⟨_, _, _, file⟩
      · rwa [same]
      · rw [file]
        nofun
    exact ready.of_keeps (KeepsDirectories.fill disk handle text) (keeps _ ready.targetFree)
      (keeps _ ready.sourceFree)
  | moving =>
    rw [Phase.advance]
    split
    case h_1 content there =>
      refine ready.of_keeps (KeepsDirectories.moveTo there ready.targetFree) ?_ ?_
      · rw [entry?_moveTo, if_pos rfl]
        nofun
      · rw [entry?_moveTo, if_neg fun same => ready.apart (List.cons.inj same).1, if_pos rfl]
        nofun
    case h_2 => exact ready
  | _ => exact ready

end

/-! ### Races -/

/-- One of two saves. -/
inductive Saver where
  | first
  | second
deriving DecidableEq

/-- The other one. -/
def Saver.other : Saver → Saver
  | first => second
  | second => first

theorem Saver.other_ne (saver : Saver) : saver.other ≠ saver := by
  cases saver <;> decide

@[simp]
theorem Saver.other_other (saver : Saver) : saver.other.other = saver := by
  cases saver <;> rfl

theorem Saver.eq_or_eq_other (one saver : Saver) : one = saver ∨ one = saver.other := by
  cases one <;> cases saver <;> decide

/-- Another value for one of the two saves. -/
def Saver.change (saver : Saver) (values : Saver → α) (value : α) : Saver → α :=
  fun one => if one = saver then value else values one

@[simp]
theorem Saver.change_self (values : Saver → α) (saver : Saver) (value : α) :
    saver.change values value saver = value :=
  if_pos rfl

@[simp]
theorem Saver.change_other (values : Saver → α) (saver : Saver) (value : α) :
    saver.change values value saver.other = values saver.other :=
  if_neg saver.other_ne

theorem Saver.change_same (values : Saver → α) (saver : Saver) :
    saver.change values (values saver) = values := by
  funext one
  rw [change]
  split
  case isTrue same => rw [same]
  case isFalse => rfl

/-- What holds of both saves is shown for either of them. -/
theorem Saver.forall_iff (holds : Saver → Prop) (saver : Saver) :
    (∀ one, holds one) ↔ holds saver ∧ holds saver.other := by
  refine ⟨fun all => ⟨all _, all _⟩, fun ⟨self, other⟩ one => ?_⟩
  rcases eq_or_eq_other one saver with rfl | rfl
  · exact self
  · exact other

/-- Two saves on a disk. -/
structure Race where
  tasks : Saver → FileTask (Except RuleFileFault Unit)
  disk : Disk

namespace Race

/-- Two saves of sets to a path that have not started. -/
def start (path : Path) (sets : Saver → RuleSet) (disk : Disk) : Race :=
  ⟨fun saver => save path (sets saver), disk⟩

/-- One of the saves makes a step. -/
def turn (race : Race) (saver : Saver) : Race :=
  ⟨saver.change race.tasks ((race.tasks saver).step race.disk).1,
    ((race.tasks saver).step race.disk).2⟩

/-- The saves make steps in the given order. -/
def run (race : Race) (turns : List Saver) : Race :=
  turns.foldl turn race

/-- Whether a save has made its temporary file and is about to fill or to move it. -/
def isMiddle : FileTask (Except RuleFileFault Unit) → Bool
  | .fill .. | .move .. => true
  | _ => false

/-- Whether a save is about to move its temporary file. -/
def isMoving : FileTask (Except RuleFileFault Unit) → Bool
  | .move .. => true
  | _ => false

/-- The saves that move a file, in the order in which they do. -/
def movers (race : Race) : List Saver → List Saver
  | [] => []
  | saver :: rest =>
    (if isMoving (race.tasks saver) then [saver] else []) ++ (race.turn saver).movers rest

/-- At some time both saves have made the temporary file and not moved it. -/
def Overlaps (race : Race) (turns : List Saver) : Prop :=
  ∃ early, early <+: turns ∧ ∀ saver, isMiddle ((race.run early).tasks saver) = true

end Race

/-! ### Saves in turn -/

section

variable {path : Path} {source target : Location} {sets : Saver → RuleSet}
  {original : Option Entry} {movers : List Saver} {phases : Saver → Phase} {disk : Disk}

/-- What is on the disk in the phases of a save that is alone with the temporary file. -/
def Phase.Holds (source : Location) (text : String) (disk : Disk) (movers : List Saver) :
    Phase → Prop
  | filling handle =>
    disk.entry? source = some (.file .empty) ∧ disk.opened[handle]? = some (some source)
  | moving => disk.entry? source = some (.file text.toUTF8)
  | finished result => result = .ok () ∧ movers ≠ []
  | _ => True

theorem Phase.Holds.of_not_isMiddle {text : String} {phase : Phase}
    (holds : phase.Holds source text disk movers) (outside : ¬phase.IsMiddle) (after : Disk)
    (more : List Saver) : phase.Holds source text after (movers ++ more) := by
  cases phase with
  | filling | moving => exact absurd trivial outside
  | finished result => exact ⟨holds.1, List.append_ne_nil_of_left_ne_nil holds.2 more⟩
  | _ => trivial

/-- What is at the path after the saves that moved a file: what the last of them wrote. -/
def settled (sets : Saver → RuleSet) (original : Option Entry) (movers : List Saver) :
    Option Entry :=
  match movers.getLast? with
  | none => original
  | some saver => some (.file (text (sets saver)).toUTF8)

theorem settled_concat (sets : Saver → RuleSet) (original : Option Entry) (movers : List Saver)
    (saver : Saver) :
    settled sets original (movers ++ [saver]) = some (.file (text (sets saver)).toUTF8) := by
  rw [settled, List.getLast?_concat]

/-- At most one of the saves is in the middle. Then the file holds what the last mover
wrote, and the temporary file belongs to the save in the middle. -/
structure Orderly (source target : Location) (sets : Saver → RuleSet) (original : Option Entry)
    (movers : List Saver) (phases : Saver → Phase) (disk : Disk) : Prop where
  content : disk.entry? target = settled sets original movers
  alone : ∀ saver, (phases saver).IsMiddle → ¬(phases saver.other).IsMiddle
  holds : ∀ saver, (phases saver).Holds source (text (sets saver)) disk movers

/-- What two saves come to that were in the middle at once: both still are, with one
temporary file; or one of them succeeded and took that file away, and the other one does
not find it. -/
inductive Entangled (path : Path) (source : Location) (phases : Saver → Phase) (disk : Disk) : Prop
  | both (content : ByteArray) : (∀ saver, (phases saver).IsMiddle) →
    disk.entry? source = some (.file content) → Entangled path source phases disk
  | one (winner : Saver) : phases winner = .finished (.ok ()) →
    (phases winner.other).IsMiddle → disk.entry? source = none → Entangled path source phases disk
  | none (winner : Saver) : phases winner = .finished (.ok ()) →
    phases winner.other = .finished (.error (.write path .notFound)) →
    Entangled path source phases disk

theorem alone_change {saver : Saver} {next : Phase}
    (alone : next.IsMiddle → ¬(phases saver.other).IsMiddle) (one : Saver) :
    (saver.change phases next one).IsMiddle → ¬(saver.change phases next one.other).IsMiddle := by
  rcases Saver.eq_or_eq_other one saver with rfl | rfl
  · simpa using alone
  · simpa using fun other self => alone self other

/-- The saves that move a file at the next step of one of them. -/
def Phase.moves (saver : Saver) : Phase → List Saver
  | moving => [saver]
  | _ => []

theorem Orderly.change (orderly : Orderly source target sets original movers phases disk)
    (saver : Saver) {next : Phase} {after : Disk} {more : List Saver}
    (content : after.entry? target = settled sets original (movers ++ more))
    (alone : next.IsMiddle → ¬(phases saver.other).IsMiddle)
    (holds : next.Holds source (text (sets saver)) after (movers ++ more))
    (other : (phases saver.other).IsMiddle → after = disk ∧ more = []) :
    Orderly source target sets original (movers ++ more) (saver.change phases next) after := by
  refine ⟨content, alone_change alone, (Saver.forall_iff _ saver).mpr ⟨?_, ?_⟩⟩
  · rwa [Saver.change_self]
  · rw [Saver.change_other]
    by_cases middle : (phases saver.other).IsMiddle
    · obtain ⟨rfl, rfl⟩ := other middle
      rw [List.append_nil]
      exact orderly.holds saver.other
    · exact (orderly.holds saver.other).of_not_isMiddle middle after more

/-- A step that changes nothing on the disk and does not lead into the middle. -/
theorem Orderly.pass (orderly : Orderly source target sets original movers phases disk)
    (saver : Saver) {next : Phase} (outside : ¬next.IsMiddle)
    (holds : next.Holds source (text (sets saver)) disk movers) :
    Orderly source target sets original (movers ++ []) (saver.change phases next) disk := by
  refine orderly.change saver ?_ (fun middle => absurd middle outside) ?_ fun _ => ⟨rfl, rfl⟩
  · rw [List.append_nil]
    exact orderly.content
  · rwa [List.append_nil]

/-- A step of a save while at most one of them is in the middle. -/
theorem Orderly.turn {directory : Location} {name temporary : String}
    (orderly : Orderly (temporary :: directory) (name :: directory) sets original movers phases
      disk)
    (apart : name :: directory ≠ temporary :: directory) (saver : Saver) {next : Phase}
    {after : Disk}
    (step : (phases saver).advance path (text (sets saver)) (temporary :: directory)
      (name :: directory) disk = (next, after)) :
    (next.IsMiddle ∧ (phases saver.other).IsMiddle ∧
      Entangled path (temporary :: directory) (saver.change phases next) after) ∨
    (¬(next.IsMiddle ∧ (phases saver.other).IsMiddle) ∧
      Orderly (temporary :: directory) (name :: directory) sets original
        (movers ++ (phases saver).moves saver) (saver.change phases next) after) := by
  have holds := orderly.holds saver
  have alone := orderly.alone saver
  have same : movers ++ [] = movers := List.append_nil movers
  cases phase : phases saver with
  | starting parent | confirming parent =>
    rw [phase] at step
    obtain ⟨rfl, rfl⟩ := Prod.mk.inj step
    exact .inr ⟨fun both => both.1, orderly.pass saver id trivial⟩
  | making =>
    rw [phase] at step
    obtain ⟨rfl, rfl⟩ := Prod.mk.inj step
    have made : Disk.entry? ((disk.put (temporary :: directory) (.file .empty)).opening
        (temporary :: directory)) (temporary :: directory) = some (.file .empty) := by
      rw [entry?_opening, entry?_put, if_pos rfl]
    by_cases other : (phases saver.other).IsMiddle
    · refine .inl ⟨trivial, other, .both .empty ?_ made⟩
      exact (Saver.forall_iff _ saver).mpr (by simpa using ⟨trivial, other⟩)
    · refine .inr ⟨fun both => other both.2, orderly.change saver ?_ (fun _ => other)
        ⟨made, ?_⟩ fun middle => absurd middle other⟩
      · rw [entry?_opening, entry?_put, if_neg apart, orderly.content]
        exact congrArg _ same.symm
      · exact List.getElem?_concat_length
  | filling handle =>
    rw [phase] at step holds alone
    obtain ⟨rfl, rfl⟩ := Prod.mk.inj step
    have written : disk.fill handle (text (sets saver)) =
        disk.put (temporary :: directory) (.file (text (sets saver)).toUTF8) := by
      rw [fill_eq holds.2 holds.1, overwritten_empty]
    rw [written]
    refine .inr ⟨fun both => alone trivial both.2, orderly.change saver ?_ alone ?_ fun middle =>
      absurd middle (alone trivial)⟩
    · rw [entry?_put, if_neg apart, orderly.content]
      exact congrArg _ same.symm
    · exact (entry?_put ..).trans (if_pos rfl)
  | moving =>
    rw [phase] at step holds alone
    rw [Phase.advance, show disk.entry? (temporary :: directory) = _ from holds] at step
    obtain ⟨rfl, rfl⟩ := Prod.mk.inj step
    refine .inr ⟨fun both => both.1, orderly.change saver ?_ nofun ⟨rfl, ?_⟩ fun middle =>
      absurd middle (alone trivial)⟩
    · rw [entry?_moveTo, if_pos rfl]
      exact (settled_concat sets original movers saver).symm
    · exact List.append_ne_nil_of_right_ne_nil movers (List.cons_ne_nil _ _)
  | finished result =>
    rw [phase] at step holds
    obtain ⟨rfl, rfl⟩ := Prod.mk.inj step
    exact .inr ⟨fun both => both.1, orderly.pass saver id holds⟩

/-- A step of a save in the middle fills the temporary file, if it is there, or moves it
away. -/
theorem advance_of_there {directory : Location} {name temporary : String} {phase next : Phase}
    {text : String} {content : ByteArray} {after : Disk} (middle : phase.IsMiddle)
    (apart : name :: directory ≠ temporary :: directory)
    (there : disk.entry? (temporary :: directory) = some (.file content))
    (step : phase.advance path text (temporary :: directory) (name :: directory) disk =
      (next, after)) :
    (next.IsMiddle ∧ ∃ written, after.entry? (temporary :: directory) = some (.file written)) ∨
      (next = .finished (.ok ()) ∧ after.entry? (temporary :: directory) = none) := by
  cases phase with
  | filling handle =>
    obtain ⟨rfl, rfl⟩ := Prod.mk.inj step
    rcases entry?_fill disk handle text (temporary :: directory) with same | ⟨_, written, _, file⟩
    · exact .inl ⟨trivial, content, same.trans there⟩
    · exact .inl ⟨trivial, written, file⟩
  | moving =>
    rw [Phase.advance, there] at step
    obtain ⟨rfl, rfl⟩ := Prod.mk.inj step
    refine .inr ⟨rfl, ?_⟩
    rw [entry?_moveTo, if_neg (Ne.symm apart), if_pos rfl]
  | _ => exact middle.elim

/-- Where the temporary file is gone, a save in the middle goes on without it until it is
to move it. -/
theorem advance_of_gone {source : Location} {phase next : Phase} {text : String} {after : Disk}
    (middle : phase.IsMiddle) (gone : disk.entry? source = none)
    (step : phase.advance path text source target disk = (next, after)) :
    (next.IsMiddle ∧ after.entry? source = none) ∨
      next = .finished (.error (.write path .notFound)) := by
  cases phase with
  | filling handle =>
    obtain ⟨rfl, rfl⟩ := Prod.mk.inj step
    refine .inl ⟨trivial, ?_⟩
    rcases entry?_fill disk handle text source with same | ⟨_, _, there, _⟩
    · exact same.trans gone
    · rw [gone] at there
      cases there
  | moving =>
    rw [Phase.advance, gone] at step
    obtain ⟨rfl, rfl⟩ := Prod.mk.inj step
    exact .inr rfl
  | _ => exact middle.elim

/-- Two saves that were in the middle at once stay entangled. -/
theorem Entangled.turn {directory : Location} {name temporary : String}
    (entangled : Entangled path (temporary :: directory) phases disk)
    (apart : name :: directory ≠ temporary :: directory) (saver : Saver) {next : Phase}
    {after : Disk}
    (step : (phases saver).advance path (text (sets saver)) (temporary :: directory)
      (name :: directory) disk = (next, after)) :
    Entangled path (temporary :: directory) (saver.change phases next) after := by
  have idle {result : Except RuleFileFault Unit} (phase : phases saver = .finished result) :
      saver.change phases next = phases ∧ after = disk := by
    rw [phase] at step
    obtain ⟨rfl, rfl⟩ := Prod.mk.inj step
    rw [← phase]
    exact ⟨Saver.change_same phases saver, rfl⟩
  cases entangled with
  | both content middle there =>
    rcases advance_of_there (middle saver) apart there step with
      ⟨stays, written, file⟩ | ⟨rfl, gone⟩
    · refine .both written ((Saver.forall_iff _ saver).mpr ?_) file
      simpa using ⟨stays, middle saver.other⟩
    · exact .one saver (Saver.change_self ..) (by simpa using middle saver.other) gone
  | one winner won middle gone =>
    rcases Saver.eq_or_eq_other saver winner with rfl | rfl
    · obtain ⟨same, rfl⟩ := idle won
      rw [same]
      exact .one saver won middle gone
    · have kept : winner.other.change phases next winner = .finished (.ok ()) := by
        have other := Saver.change_other phases winner.other next
        rwa [Saver.other_other, won] at other
      rcases advance_of_gone middle gone step with ⟨stays, gone⟩ | rfl
      · exact .one winner kept (by simpa using stays) gone
      · exact .none winner kept (Saver.change_self ..)
  | none winner won lost =>
    have done : ∃ result, phases saver = .finished result := by
      rcases Saver.eq_or_eq_other saver winner with rfl | rfl
      · exact ⟨_, won⟩
      · exact ⟨_, lost⟩
    obtain ⟨result, phase⟩ := done
    obtain ⟨same, rfl⟩ := idle phase
    rw [same]
    exact .none winner won lost

end

/-! ### Whole races -/

namespace Phase

/-- The phase in which a save starts: a directory is made only if the path names one. -/
def first (path : Path) : Phase :=
  match path.parent? with
  | some parent => if parent.isEmpty then making else starting parent
  | none => making

theorem first_cases (path : Path) :
    (∃ parent, first path = starting parent ∧ NamesParent path parent) ∨
    (first path = making ∧ ∀ parent, ¬NamesParent path parent) := by
  rw [first]
  cases named : path.parent? with
  | none => exact .inr ⟨rfl, fun parent names => by rw [names.1] at named; cases named⟩
  | some parent =>
    cases empty : parent.isEmpty with
    | true =>
      refine .inr ⟨if_pos empty, fun other names => ?_⟩
      rw [names.1] at named
      rw [← Option.some.inj named, names.2] at empty
      cases empty
    | false => exact .inl ⟨parent, if_neg (by rw [empty]; nofun), named, empty⟩

theorem task_first (path : Path) (set : RuleSet) : (first path).task path set = save path set := by
  rcases first_cases path with ⟨parent, same, _⟩ | ⟨same, alone⟩
  · rw [same]
    rfl
  · rw [same, save_eq_making alone]
    rfl

theorem isMiddle_task {path : Path} (set : RuleSet) {phase : Phase} (fits : phase.Fits path) :
    Race.isMiddle (phase.task path set) = true ↔ phase.IsMiddle := by
  cases phase with
  | starting parent =>
    obtain ⟨next, first, _⟩ := makeParent_eq fits
    rw [task, save_eq, first]
    exact ⟨nofun, nofun⟩
  | filling | moving => exact ⟨fun _ => trivial, fun _ => rfl⟩
  | _ => exact ⟨nofun, nofun⟩

theorem moves_eq {path : Path} (set : RuleSet) {phase : Phase} (fits : phase.Fits path)
    (saver : Saver) :
    (if Race.isMoving (phase.task path set) then [saver] else []) = phase.moves saver := by
  cases phase with
  | starting parent =>
    obtain ⟨next, first, _⟩ := makeParent_eq fits
    rw [task, save_eq, first]
    rfl
  | _ => rfl

end Phase

namespace Race

theorem tasks_turn_self (race : Race) (saver : Saver) :
    (race.turn saver).tasks saver = ((race.tasks saver).step race.disk).1 :=
  Saver.change_self ..

theorem tasks_turn_other (race : Race) (saver : Saver) :
    (race.turn saver).tasks saver.other = race.tasks saver.other :=
  Saver.change_other ..

theorem run_concat (race : Race) (turns : List Saver) (saver : Saver) :
    race.run (turns ++ [saver]) = (race.run turns).turn saver := by
  rw [run, List.foldl_append]
  rfl

theorem movers_concat (race : Race) (turns : List Saver) (saver : Saver) :
    race.movers (turns ++ [saver]) = race.movers turns ++
      (if isMoving ((race.run turns).tasks saver) then [saver] else []) := by
  induction turns generalizing race with
  | nil => exact List.append_nil _
  | cons one turns inductionHypothesis =>
    rw [List.cons_append, movers, inductionHypothesis, movers, List.append_assoc]
    rfl

theorem overlaps_concat (race : Race) (turns : List Saver) (saver : Saver) :
    race.Overlaps (turns ++ [saver]) ↔ race.Overlaps turns ∨
      ∀ one, isMiddle ((race.run (turns ++ [saver])).tasks one) = true := by
  constructor
  · rintro ⟨early, initial, middle⟩
    rcases List.prefix_concat_iff.mp initial with rfl | earlier
    · exact .inr middle
    · exact .inl ⟨early, earlier, middle⟩
  · rintro (⟨early, initial, middle⟩ | middle)
    · exact ⟨early, initial.trans (List.prefix_append _ _), middle⟩
    · exact ⟨_, List.prefix_rfl, middle⟩

theorem Overlaps.mono {race : Race} {early turns : List Saver} (overlaps : race.Overlaps early)
    (initial : early <+: turns) : race.Overlaps turns := by
  obtain ⟨moment, within, middle⟩ := overlaps
  exact ⟨moment, within.trans initial, middle⟩

end Race

/-- Both saves of a race are in given phases, and their path can be saved to. -/
structure Follows (path : Path) (directory : Location) (name temporary : String)
    (sets : Saver → RuleSet) (phases : Saver → Phase) (race : Race) : Prop where
  tasks : ∀ saver, race.tasks saver = (phases saver).task path (sets saver)
  fits : ∀ saver, (phases saver).Fits path
  ready : Ready race.disk path directory name temporary

section

variable {path : Path} {directory : Location} {name temporary : String} {sets : Saver → RuleSet}
  {phases : Saver → Phase} {race : Race} {disk : Disk}

theorem Follows.turn (follows : Follows path directory name temporary sets phases race)
    (saver : Saver) {next : Phase} {after : Disk}
    (step : (phases saver).advance path (text (sets saver)) (temporary :: directory)
      (name :: directory) race.disk = (next, after)) :
    (race.turn saver).disk = after ∧
      Follows path directory name temporary sets (saver.change phases next) (race.turn saver) := by
  have taken := step_task follows.ready (sets saver) (follows.fits saver)
  rw [← follows.tasks saver, step] at taken
  have ready := follows.ready.advance (phases saver) (text (sets saver))
  have fits : ((phases saver).advance path (text (sets saver)) (temporary :: directory)
      (name :: directory) race.disk).1.Fits path := (follows.fits saver).advance _ _ _
  rw [step] at ready fits
  have ended : (race.turn saver).disk = after := congrArg Prod.snd taken
  refine ⟨ended, ?_, ?_, by rwa [ended]⟩
  · refine (Saver.forall_iff _ saver).mpr ⟨?_, ?_⟩
    · rw [Race.tasks_turn_self, Saver.change_self, taken]
    · rw [Race.tasks_turn_other, Saver.change_other, follows.tasks]
  · refine (Saver.forall_iff _ saver).mpr ⟨?_, ?_⟩
    · rwa [Saver.change_self]
    · rw [Saver.change_other]
      exact follows.fits saver.other

theorem Follows.start (ready : Ready disk path directory name temporary) (sets : Saver → RuleSet) :
    Follows path directory name temporary sets (fun _ => Phase.first path)
      (Race.start path sets disk) where
  tasks saver := (Phase.task_first path (sets saver)).symm
  fits saver := by
    rcases Phase.first_cases path with ⟨parent, same, named⟩ | ⟨same, _⟩
    · rw [same]
      exact named
    · rw [same]
      trivial
  ready := ready

theorem Orderly.start (sets : Saver → RuleSet) (disk : Disk) (source target : Location) :
    Orderly source target sets (disk.entry? target) [] (fun _ => Phase.first path) disk := by
  rcases Phase.first_cases path with ⟨parent, same, _⟩ | ⟨same, _⟩
  all_goals
    rw [same]
    exact ⟨rfl, fun _ => nofun, fun _ => trivial⟩

theorem Follows.isMiddle_iff (follows : Follows path directory name temporary sets phases race) :
    (∀ saver, Race.isMiddle (race.tasks saver) = true) ↔ ∀ saver, (phases saver).IsMiddle :=
  forall_congr' fun saver => by
    rw [follows.tasks, Phase.isMiddle_task (sets saver) (follows.fits saver)]

theorem left_change {saver : Saver} {next : Phase} {turns : List Saver}
    (before : ∀ one, (phases one).left + turns.count one ≤ 5 ∨ (phases one).left = 0)
    (next_left : next.left = (phases saver).left - 1) (one : Saver) :
    (saver.change phases next one).left + (turns ++ [saver]).count one ≤ 5 ∨
      (saver.change phases next one).left = 0 := by
  rcases Saver.eq_or_eq_other one saver with rfl | rfl
  · have := before one
    rw [Saver.change_self, next_left, List.count_append, List.count_singleton_self]
    omega
  · have := before saver.other
    rw [Saver.change_other, List.count_append,
      List.count_eq_zero.mpr fun member => saver.other_ne (List.mem_singleton.mp member)]
    omega

/-- The phases of both saves after any turns, and what is on the disk then. -/
theorem run_start (ready : Ready disk path directory name temporary) (sets : Saver → RuleSet)
    (turns : List Saver) :
    ∃ phases, Follows path directory name temporary sets phases
        ((Race.start path sets disk).run turns) ∧
      (∀ saver, (phases saver).left + turns.count saver ≤ 5 ∨ (phases saver).left = 0) ∧
      (((Race.start path sets disk).Overlaps turns ∧
          Entangled path (temporary :: directory) phases
            ((Race.start path sets disk).run turns).disk) ∨
        (¬(Race.start path sets disk).Overlaps turns ∧
          Orderly (temporary :: directory) (name :: directory) sets
            (disk.entry? (name :: directory)) ((Race.start path sets disk).movers turns) phases
            ((Race.start path sets disk).run turns).disk)) := by
  have apart : name :: directory ≠ temporary :: directory := fun same =>
    ready.apart (List.cons.inj same).1.symm
  induction turns using List.reverseRecOn with
  | nil =>
    have orderly : Orderly (temporary :: directory) (name :: directory) sets
        (disk.entry? (name :: directory)) [] (fun _ => Phase.first path) disk :=
      Orderly.start sets disk _ _
    refine ⟨_, Follows.start ready sets, fun saver => .inl ?_, .inr ⟨?_, orderly⟩⟩
    · rcases Phase.first_cases path with ⟨parent, same, _⟩ | ⟨same, _⟩
      all_goals simp [same, Phase.left]
    · rintro ⟨early, initial, middle⟩
      rw [List.prefix_nil.mp initial] at middle
      have both := (Follows.start ready sets).isMiddle_iff.mp middle
      exact orderly.alone .first (both .first) (both .second)
  | append_singleton turns saver inductionHypothesis =>
    obtain ⟨phases, follows, left, outcome⟩ := inductionHypothesis
    rcases step : (phases saver).advance path (text (sets saver)) (temporary :: directory)
      (name :: directory) ((Race.start path sets disk).run turns).disk with ⟨next, after⟩
    obtain ⟨ended, follows'⟩ := follows.turn saver step
    have fewer : next.left = (phases saver).left - 1 := by
      have advanced : ((phases saver).advance path (text (sets saver)) (temporary :: directory)
          (name :: directory) ((Race.start path sets disk).run turns).disk).1.left =
            (phases saver).left - 1 := advance_left _ _ _ _
      rwa [step] at advanced
    rw [← Race.run_concat] at follows' ended
    refine ⟨_, follows', left_change left fewer, ?_⟩
    rw [Race.overlaps_concat, follows'.isMiddle_iff, ended]
    rcases outcome with ⟨overlaps, entangled⟩ | ⟨separate, orderly⟩
    · exact .inl ⟨.inl overlaps, entangled.turn apart saver step⟩
    · have both : (∀ one, (saver.change phases next one).IsMiddle) ↔
          next.IsMiddle ∧ (phases saver.other).IsMiddle := by
        rw [Saver.forall_iff _ saver, Saver.change_self, Saver.change_other]
      rcases orderly.turn apart saver step with ⟨self, other, entangled⟩ | ⟨single, orderly⟩
      · exact .inl ⟨.inr (both.mpr ⟨self, other⟩), entangled⟩
      · refine .inr ⟨not_or_intro separate fun middle => single (both.mp middle), ?_⟩
        rw [Race.movers_concat, follows.tasks, Phase.moves_eq _ (follows.fits saver)]
        exact orderly

theorem Phase.eq_finished {phase : Phase} (ended : phase.left = 0) :
    ∃ result, phase = .finished result := by
  cases phase with
  | finished result => exact ⟨result, rfl⟩
  | _ => cases ended

/-- After five turns each, both saves have come to a result. -/
theorem finished_of_count {turns : List Saver}
    (left : ∀ saver, (phases saver).left + turns.count saver ≤ 5 ∨ (phases saver).left = 0)
    (enough : ∀ saver, 5 ≤ turns.count saver) (saver : Saver) :
    ∃ result, phases saver = .finished result := by
  refine Phase.eq_finished ?_
  have := left saver
  have := enough saver
  omega

/-- What is read at the path after saves in turn: the old text or that of the last mover. -/
theorem read_of_orderly (ready : Ready disk path directory name temporary)
    {movers : List Saver} {after : Disk}
    (orderly : Orderly (temporary :: directory) (name :: directory) sets
      (disk.entry? (name :: directory)) movers phases after)
    (leads : after.approach path = .ok (directory, .name name false)) :
    after.read path =
      match movers.getLast? with
      | none => disk.read path
      | some saver => .ok (text (sets saver)) := by
  rw [read_of_approach leads, orderly.content, settled]
  cases movers.getLast? with
  | none => exact (read_of_approach ready.target).symm
  | some saver => exact textOf?_toUTF8 _

end

/-! ### Atomic saves -/

/-- Two saves do what each of them does alone: whoever reads the path finds the old text
or the whole text of one of the sets, both saves succeed, and in the end the file holds
the set of the save that moved its file last. -/
structure Race.IsAtomic (race : Race) (path : Path) (sets : Saver → RuleSet)
    (turns : List Saver) : Prop where
  whole : ∀ early, early <+: turns →
    (race.run early).disk.read path = race.disk.read path ∨
    ∃ saver, (race.run early).disk.read path = .ok (text (sets saver))
  succeeds : ∀ saver, (race.run turns).tasks saver = .done (.ok ())
  last : ∃ saver, (race.movers turns).getLast? = some saver ∧
    ((load path).run (race.run turns).disk).1 = .ok (sets saver)

section

variable {path : Path} {directory : Location} {name temporary : String} {disk : Disk}

/-- Saves that do not overlap are atomic. -/
theorem isAtomic_of_not_overlaps (ready : Ready disk path directory name temporary)
    {sets : Saver → RuleSet} (small : ∀ saver, (sets saver).version < 2 ^ 32)
    {turns : List Saver} (enough : ∀ saver, 5 ≤ turns.count saver)
    (separate : ¬(Race.start path sets disk).Overlaps turns) :
    (Race.start path sets disk).IsAtomic path sets turns := by
  have reads (early : List Saver) (initial : early <+: turns) :
      ((Race.start path sets disk).run early).disk.read path =
        match ((Race.start path sets disk).movers early).getLast? with
        | none => disk.read path
        | some saver => .ok (text (sets saver)) := by
    obtain ⟨phases, follows, _, ⟨overlaps, _⟩ | ⟨_, orderly⟩⟩ := run_start ready sets early
    · exact absurd (overlaps.mono initial) separate
    · exact read_of_orderly ready orderly follows.ready.target
  obtain ⟨phases, follows, left, ⟨overlaps, _⟩ | ⟨_, orderly⟩⟩ := run_start ready sets turns
  · exact absurd overlaps separate
  have ended (saver : Saver) : phases saver = .finished (.ok ()) ∧
      (Race.start path sets disk).movers turns ≠ [] := by
    obtain ⟨result, finished⟩ := finished_of_count left enough saver
    have holds := orderly.holds saver
    rw [finished] at holds ⊢
    exact ⟨by rw [holds.1], holds.2⟩
  refine ⟨fun early initial => ?_, fun saver => ?_, ?_⟩
  · have read := reads early initial
    cases last : ((Race.start path sets disk).movers early).getLast? with
    | none => exact .inl (by rw [read, last]; rfl)
    | some saver => exact .inr ⟨saver, by rw [read, last]⟩
  · rw [follows.tasks, (ended saver).1]
    rfl
  · obtain ⟨movers, saver, split⟩ := List.eq_nil_or_concat'
      ((Race.start path sets disk).movers turns) |>.resolve_left (ended .first).2
    have last : ((Race.start path sets disk).movers turns).getLast? = some saver := by
      rw [split, List.getLast?_concat]
    refine ⟨saver, last, ?_⟩
    rw [run_load, reads turns List.prefix_rfl, last]
    simp only [loaded, ofText_text (small saver)]

/-- Of two saves that overlap one succeeds, and the other one finds its file gone. -/
theorem tasks_of_overlaps (ready : Ready disk path directory name temporary)
    {sets : Saver → RuleSet} {turns : List Saver} (enough : ∀ saver, 5 ≤ turns.count saver)
    (overlaps : (Race.start path sets disk).Overlaps turns) :
    ∃ winner, ((Race.start path sets disk).run turns).tasks winner = .done (.ok ()) ∧
      ((Race.start path sets disk).run turns).tasks winner.other =
        .done (.error (.write path .notFound)) := by
  obtain ⟨phases, follows, left, ⟨_, entangled⟩ | ⟨separate, _⟩⟩ := run_start ready sets turns
  · have ended := finished_of_count left enough
    cases entangled with
    | both content middle _ =>
      obtain ⟨result, finished⟩ := ended .first
      have self := middle .first
      rw [finished] at self
      exact self.elim
    | one winner _ middle _ =>
      obtain ⟨result, finished⟩ := ended winner.other
      rw [finished] at middle
      exact middle.elim
    | none winner won lost =>
      refine ⟨winner, ?_, ?_⟩
      · rw [follows.tasks, won]
        rfl
      · rw [follows.tasks, lost]
        rfl
  · exact absurd overlaps separate

/-- Two saves are atomic exactly if they do not overlap. Of two saves that overlap one
succeeds, and the other one fails since its temporary file is gone. -/
theorem saves_atomic_iff (ready : Ready disk path directory name temporary)
    (sets : Saver → RuleSet) (small : ∀ saver, (sets saver).version < 2 ^ 32)
    (turns : List Saver) (enough : ∀ saver, 5 ≤ turns.count saver) :
    ((Race.start path sets disk).IsAtomic path sets turns ↔
      ¬(Race.start path sets disk).Overlaps turns) ∧
    ((Race.start path sets disk).Overlaps turns →
      ∃ winner, ((Race.start path sets disk).run turns).tasks winner = .done (.ok ()) ∧
        ((Race.start path sets disk).run turns).tasks winner.other =
          .done (.error (.write path .notFound))) := by
  refine ⟨⟨fun atomic overlaps => ?_, isAtomic_of_not_overlaps ready small enough⟩,
    tasks_of_overlaps ready enough⟩
  obtain ⟨winner, _, lost⟩ := tasks_of_overlaps ready enough overlaps
  rw [atomic.succeeds winner.other] at lost
  cases lost

end

/-! ### Two saves to an empty directory -/

/-- A disk with an empty directory for the rules. -/
def emptyFolder : Disk := ⟨[(["data"], .directory)], [], []⟩

/-- The path of the rules in that directory. -/
def folderRules : Path := ⟨["data", "rules.json"]⟩

/-- The set without rules, and a set with one rule. -/
def emptyAndClassics : Saver → RuleSet
  | .first => .empty
  | .second => ⟨1, [⟨"Classics", ["\x7bgenre:Drama | rating | 10\x7d"], none, true⟩]⟩

theorem ready_folderRules : Ready emptyFolder folderRules ["data"] "rules.json" "rules.tmp" where
  parent parent named := by
    have only : folderRules.parent? = some ⟨["data"]⟩ := by decide +kernel
    rw [← Option.some.inj (only.symm.trans named.1)]
    decide +kernel
  target := by decide +kernel
  source := by decide +kernel
  targetFree := by decide
  sourceFree := by decide
  apart := by decide

/-- The second save looks for the directory before the first one makes its file, and goes
on after the first one has moved it. -/
theorem saves_atomic_iff_in_turn :
    let race := Race.start folderRules emptyAndClassics emptyFolder
    let turns : List Saver := [.first, .second, .second, .first, .first, .first, .first,
      .second, .second, .second]
    Ready emptyFolder folderRules ["data"] "rules.json" "rules.tmp" ∧
    (∀ saver, (emptyAndClassics saver).version < 2 ^ 32) ∧
    (∀ saver, 5 ≤ turns.count saver) ∧
    (race.IsAtomic folderRules emptyAndClassics turns ↔ ¬race.Overlaps turns) ∧
    (race.Overlaps turns → ∃ winner, (race.run turns).tasks winner = .done (.ok ()) ∧
      (race.run turns).tasks winner.other = .done (.error (.write folderRules .notFound))) := by
  have small (saver : Saver) : (emptyAndClassics saver).version < 2 ^ 32 := by
    cases saver <;> decide
  refine ⟨ready_folderRules, small, fun saver => ?_,
    saves_atomic_iff ready_folderRules emptyAndClassics small _ fun saver => ?_⟩
  all_goals cases saver <;> decide

/-- The second save makes its file after the first one has filled the same file and before
it moves it. -/
def overlappingTurns : List Saver :=
  [.first, .first, .first, .first, .second, .second, .second, .first, .second, .second]

/-- In overlapping turns an empty file is moved over the rules. -/
theorem not_isAtomic_overlapping :
    let race := Race.start folderRules emptyAndClassics emptyFolder
    (race.run (overlappingTurns.take 8)).disk.read folderRules = .ok "" ∧
    (∀ saver, text (emptyAndClassics saver) ≠ "") ∧
    ¬race.IsAtomic folderRules emptyAndClassics overlappingTurns := by
  have torn : ((Race.start folderRules emptyAndClassics emptyFolder).run
      (overlappingTurns.take 8)).disk.read folderRules = .ok "" := by
    decide +kernel
  have missing : emptyFolder.read folderRules = .error .notFound := by decide +kernel
  have written (saver : Saver) : text (emptyAndClassics saver) ≠ "" := by
    cases saver <;> decide +kernel
  refine ⟨torn, written, fun atomic => ?_⟩
  rcases atomic.whole _ (List.take_prefix 8 overlappingTurns) with old | ⟨saver, new⟩
  · rw [torn] at old
    exact nomatch old.trans missing
  · rw [torn] at new
    exact written saver (Except.ok.inj new).symm

end PlaylistRules.Storage.RuleFile
