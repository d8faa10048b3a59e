/-
This file says what a task can come to on a disk that may refuse any change to it, as a
disk does that is full or protected. What is refused changes nothing, but a write that is
refused may leave any content in its file. Whatever all operations keep is kept by a task,
however much of it is refused: no directory goes away, and the entries stay a tree.
-/

import PlaylistRules.Proofs.Places
import PlaylistRules.Storage.CatalogFile
import PlaylistRules.Storage.ConfigFile
import PlaylistRules.Storage.RuleFile

namespace PlaylistRules.Storage

namespace Disk

/-! ### Refusals -/

/-- What an operation comes to that may be refused: what it does, or a fault and no change. -/
inductive Tried {Answer : Type} (disk : Disk) (done : Except FileFault Answer × Disk) :
    Except FileFault Answer → Disk → Prop where
  | works : Tried disk done done.1 done.2
  | refused (fault : FileFault) : Tried disk done (.error fault) disk

/-- What happens to an open file when it is written: nothing, or it gets another content. -/
inductive Spoils (disk : Disk) (handle : Handle) : Disk → Prop where
  | untouched : Spoils disk handle disk
  | touched {name : String} {directory : Location} {content : ByteArray}
      (place : disk.opened[handle]? = some (some (name :: directory)))
      (there : disk.entry? (name :: directory) = some (.file content)) (written : ByteArray) :
      Spoils disk handle (disk.put (name :: directory) (.file written))

/-- What writing comes to: the text is there, or there is a fault and any other content. -/
inductive Filled (disk : Disk) (handle : Handle) (text : String) :
    Except FileFault Unit → Disk → Prop where
  | works : Filled disk handle text (.ok ()) (disk.fill handle text)
  | refused (fault : FileFault) {after : Disk} (spoils : Spoils disk handle after) :
      Filled disk handle text (.error fault) after

theorem spoils_fill (disk : Disk) (handle : Handle) (text : String) :
    Spoils disk handle (disk.fill handle text) := by
  rcases fill_cases disk handle text with same | ⟨name, directory, content, place, there, filled⟩
  · rw [same]
    exact .untouched
  · rw [filled]
    exact .touched place there _

theorem Filled.spoils {disk after : Disk} {handle : Handle} {text : String}
    {answer : Except FileFault Unit} (filled : Filled disk handle text answer after) :
    Spoils disk handle after := by
  cases filled with
  | works => exact spoils_fill disk handle text
  | refused fault spoils => exact spoils

end Disk

namespace FileTask

open Disk

/-- A result of a task and the disk afterwards, if any change may be refused. -/
inductive Outcome {α : Type} : FileTask α → Disk → α → Disk → Prop where
  | done (result : α) (disk : Disk) : Outcome (done result) disk result disk
  | read {path : Path} {next : Except FileFault String → FileTask α} {disk after : Disk}
      {result : α}
      (rest : Outcome (next (disk.read path)) disk result after) :
      Outcome (read path next) disk result after
  | isPresent {path : Path} {next : Bool → FileTask α} {disk after : Disk} {result : α}
      (rest : Outcome (next (disk.isPresent path)) disk result after) :
      Outcome (isPresent path next) disk result after
  | isDirectory {path : Path} {next : Bool → FileTask α} {disk after : Disk} {result : α}
      (rest : Outcome (next (disk.isDirectory path)) disk result after) :
      Outcome (isDirectory path next) disk result after
  | makeDirectory {path : Path} {next : Except FileFault Unit → FileTask α}
      {disk between after : Disk} {answer : Except FileFault Unit} {result : α}
      (tried : Tried disk (disk.makeDirectory path) answer between)
      (rest : Outcome (next answer) between result after) :
      Outcome (makeDirectory path next) disk result after
  | create {path : Path} {next : Except FileFault Handle → FileTask α}
      {disk between after : Disk} {answer : Except FileFault Handle} {result : α}
      (tried : Tried disk (disk.create path) answer between)
      (rest : Outcome (next answer) between result after) :
      Outcome (create path next) disk result after
  | fill {handle : Handle} {text : String} {next : Except FileFault Unit → FileTask α}
      {disk between after : Disk} {answer : Except FileFault Unit} {result : α}
      (filled : Filled disk handle text answer between)
      (rest : Outcome (next answer) between result after) :
      Outcome (fill handle text next) disk result after
  | move {source target : Path} {next : Except FileFault Unit → FileTask α}
      {disk between after : Disk} {answer : Except FileFault Unit} {result : α}
      (tried : Tried disk (disk.move source target) answer between)
      (rest : Outcome (next answer) between result after) :
      Outcome (move source target next) disk result after

/-- A disk that refuses nothing. -/
theorem outcome_run (task : FileTask α) (disk : Disk) :
    Outcome task disk (task.run disk).1 (task.run disk).2 := by
  induction task generalizing disk with
  | done result => exact .done result disk
  | read path next inductionHypothesis => exact .read (inductionHypothesis _ disk)
  | isPresent path next inductionHypothesis => exact .isPresent (inductionHypothesis _ disk)
  | isDirectory path next inductionHypothesis => exact .isDirectory (inductionHypothesis _ disk)
  | makeDirectory path next inductionHypothesis =>
    exact .makeDirectory .works (inductionHypothesis _ _)
  | create path next inductionHypothesis => exact .create .works (inductionHypothesis _ _)
  | fill handle text next inductionHypothesis => exact .fill .works (inductionHypothesis _ _)
  | move source target next inductionHypothesis => exact .move .works (inductionHypothesis _ _)

/-- What a task comes to on a disk without space, where nothing can be written: every file that
is opened for a text stays empty. All else is done. -/
def runFull (fault : FileFault) : FileTask α → Disk → α × Disk
  | done result, disk => (result, disk)
  | read path next, disk => (next (disk.read path)).runFull fault disk
  | isPresent path next, disk => (next (disk.isPresent path)).runFull fault disk
  | isDirectory path next, disk => (next (disk.isDirectory path)).runFull fault disk
  | makeDirectory path next, disk =>
    (next (disk.makeDirectory path).1).runFull fault (disk.makeDirectory path).2
  | create path next, disk => (next (disk.create path).1).runFull fault (disk.create path).2
  | fill _ _ next, disk => (next (.error fault)).runFull fault disk
  | move source target next, disk =>
    (next (disk.move source target).1).runFull fault (disk.move source target).2

theorem outcome_runFull (fault : FileFault) (task : FileTask α) (disk : Disk) :
    Outcome task disk (task.runFull fault disk).1 (task.runFull fault disk).2 := by
  induction task generalizing disk with
  | done result => exact .done result disk
  | read path next inductionHypothesis => exact .read (inductionHypothesis _ disk)
  | isPresent path next inductionHypothesis => exact .isPresent (inductionHypothesis _ disk)
  | isDirectory path next inductionHypothesis => exact .isDirectory (inductionHypothesis _ disk)
  | makeDirectory path next inductionHypothesis =>
    exact .makeDirectory .works (inductionHypothesis _ _)
  | create path next inductionHypothesis => exact .create .works (inductionHypothesis _ _)
  | fill handle text next inductionHypothesis =>
    exact .fill (.refused fault .untouched) (inductionHypothesis _ disk)
  | move source target next inductionHypothesis => exact .move .works (inductionHypothesis _ _)

namespace Outcome

variable {disk after : Disk}

/-- A task that goes on with the result of another one comes to what that one comes to, and
then to what the rest does. -/
theorem of_bind {task : FileTask α} {next : α → FileTask β} {result : β}
    (outcome : Outcome (task >>= next) disk result after) :
    ∃ value between, Outcome task disk value between ∧
      Outcome (next value) between result after := by
  change Outcome (task.andThen next) disk result after at outcome
  induction task generalizing disk with
  | done value => exact ⟨value, disk, .done value disk, outcome⟩
  | read path following inductionHypothesis =>
    cases outcome with | read rest =>
    obtain ⟨value, between, first, last⟩ := inductionHypothesis _ rest
    exact ⟨value, between, .read first, last⟩
  | isPresent path following inductionHypothesis =>
    cases outcome with | isPresent rest =>
    obtain ⟨value, between, first, last⟩ := inductionHypothesis _ rest
    exact ⟨value, between, .isPresent first, last⟩
  | isDirectory path following inductionHypothesis =>
    cases outcome with | isDirectory rest =>
    obtain ⟨value, between, first, last⟩ := inductionHypothesis _ rest
    exact ⟨value, between, .isDirectory first, last⟩
  | makeDirectory path following inductionHypothesis =>
    cases outcome with | makeDirectory tried rest =>
    obtain ⟨value, between, first, last⟩ := inductionHypothesis _ rest
    exact ⟨value, between, .makeDirectory tried first, last⟩
  | create path following inductionHypothesis =>
    cases outcome with | create tried rest =>
    obtain ⟨value, between, first, last⟩ := inductionHypothesis _ rest
    exact ⟨value, between, .create tried first, last⟩
  | fill handle text following inductionHypothesis =>
    cases outcome with | fill filled rest =>
    obtain ⟨value, between, first, last⟩ := inductionHypothesis _ rest
    exact ⟨value, between, .fill filled first, last⟩
  | move source target following inductionHypothesis =>
    cases outcome with | move tried rest =>
    obtain ⟨value, between, first, last⟩ := inductionHypothesis _ rest
    exact ⟨value, between, .move tried first, last⟩

theorem of_done {value result : α} (outcome : Outcome (FileTask.done value) disk result after) :
    result = value ∧ after = disk := by
  cases outcome
  exact ⟨rfl, rfl⟩

/-- A relation that every operation keeps to is kept to by every outcome. -/
theorem rel {task : FileTask α} {result : α} (outcome : Outcome task disk result after)
    (Rel : Disk → Disk → Prop) (refl : ∀ disk, Rel disk disk)
    (trans : ∀ {first second third}, Rel first second → Rel second third → Rel first third)
    (makeDirectory : ∀ disk path, Rel disk (disk.makeDirectory path).2)
    (create : ∀ disk path, Rel disk (disk.create path).2)
    (spoils : ∀ {disk handle after}, Spoils disk handle after → Rel disk after)
    (move : ∀ disk source target, Rel disk (disk.move source target).2) : Rel disk after := by
  have tries {Answer : Type} {before between : Disk} {answer : Except FileFault Answer}
      {worked : Except FileFault Answer × Disk} (tried : Tried before worked answer between)
      (keeps : Rel before worked.2) : Rel before between := by
    cases tried with
    | works => exact keeps
    | refused fault => exact refl before
  induction outcome with
  | done result disk => exact refl disk
  | read _ inductionHypothesis => exact inductionHypothesis
  | isPresent _ inductionHypothesis => exact inductionHypothesis
  | isDirectory _ inductionHypothesis => exact inductionHypothesis
  | makeDirectory tried _ inductionHypothesis =>
    exact trans (tries tried (makeDirectory _ _)) inductionHypothesis
  | create tried _ inductionHypothesis =>
    exact trans (tries tried (create _ _)) inductionHypothesis
  | fill filled _ inductionHypothesis => exact trans (spoils filled.spoils) inductionHypothesis
  | move tried _ inductionHypothesis => exact trans (tries tried (move _ _ _)) inductionHypothesis

end Outcome

/-! ### Tasks that only look -/

/-- Whether a task only looks at the disk. -/
inductive Looks : FileTask α → Prop where
  | done (result : α) : Looks (done result)
  | read (path : Path) {next : Except FileFault String → FileTask α}
      (rest : ∀ answer, Looks (next answer)) : Looks (read path next)
  | isPresent (path : Path) {next : Bool → FileTask α} (rest : ∀ answer, Looks (next answer)) :
      Looks (isPresent path next)
  | isDirectory (path : Path) {next : Bool → FileTask α} (rest : ∀ answer, Looks (next answer)) :
      Looks (isDirectory path next)

theorem Looks.bind {task : FileTask α} {next : α → FileTask β} (first : Looks task)
    (rest : ∀ value, Looks (next value)) : Looks (task >>= next) := by
  change Looks (task.andThen next)
  induction first with
  | done result => exact rest result
  | read path _ inductionHypothesis => exact .read path inductionHypothesis
  | isPresent path _ inductionHypothesis => exact .isPresent path inductionHypothesis
  | isDirectory path _ inductionHypothesis => exact .isDirectory path inductionHypothesis

/-- A task that only looks has one outcome, and leaves the disk as it is. -/
theorem Outcome.of_looks {task : FileTask α} {disk after : Disk} {result : α}
    (outcome : Outcome task disk result after) (looks : Looks task) :
    result = (task.run disk).1 ∧ after = disk := by
  induction looks with
  | done value => exact outcome.of_done
  | read path _ inductionHypothesis =>
    cases outcome with | read rest => exact inductionHypothesis _ rest
  | isPresent path _ inductionHypothesis =>
    cases outcome with | isPresent rest => exact inductionHypothesis _ rest
  | isDirectory path _ inductionHypothesis =>
    cases outcome with | isDirectory rest => exact inductionHypothesis _ rest

theorem Looks.snd_run {task : FileTask α} (looks : Looks task) (disk : Disk) :
    (task.run disk).2 = disk :=
  ((outcome_run task disk).of_looks looks).2

/-! ### With refusals and without -/

/-- What a task comes to: any outcome if changes may be refused, and else what it does on a
disk that refuses nothing. -/
def ComesTo (mayRefuse : Bool) (task : FileTask α) (disk : Disk) (result : α) (after : Disk) :
    Prop :=
  match mayRefuse with
  | true => Outcome task disk result after
  | false => task.run disk = (result, after)

namespace ComesTo

variable {mayRefuse : Bool} {task : FileTask α} {disk after : Disk} {result : α}

theorem of_run (mayRefuse : Bool) (task : FileTask α) (disk : Disk) :
    ComesTo mayRefuse task disk (task.run disk).1 (task.run disk).2 := by
  cases mayRefuse with
  | true => exact outcome_run task disk
  | false => rfl

theorem outcome (comes : ComesTo mayRefuse task disk result after) :
    Outcome task disk result after := by
  cases mayRefuse with
  | true => exact comes
  | false =>
    have outcome := outcome_run task disk
    rwa [show task.run disk = (result, after) from comes] at outcome

theorem of_bind {next : α → FileTask β} {result : β}
    (comes : ComesTo mayRefuse (task >>= next) disk result after) :
    ∃ value between, ComesTo mayRefuse task disk value between ∧
      ComesTo mayRefuse (next value) between result after := by
  cases mayRefuse with
  | true => exact Outcome.of_bind comes
  | false =>
    refine ⟨(task.run disk).1, (task.run disk).2, rfl, ?_⟩
    rw [ComesTo, run_bind] at comes
    exact comes

theorem of_done {value : α} (comes : ComesTo mayRefuse (FileTask.done value) disk result after) :
    result = value ∧ after = disk :=
  comes.outcome.of_done

/-- After a task that only looks, the rest goes on from the same disk. -/
theorem of_looks_bind {next : α → FileTask β} {result : β} (looks : Looks task)
    (comes : ComesTo mayRefuse (task >>= next) disk result after) :
    ComesTo mayRefuse (next (task.run disk).1) disk result after := by
  obtain ⟨value, between, first, rest⟩ := comes.of_bind
  obtain ⟨rfl, rfl⟩ := first.outcome.of_looks looks
  exact rest

end ComesTo

end FileTask

namespace Disk

/-! ### Trees -/

/-- Whether the current directory is there, and with each entry the directory around it. -/
structure IsTree (disk : Disk) : Prop where
  current : disk.entry? disk.current = some .directory
  parent : ∀ {name directory entry}, disk.entry? (name :: directory) = some entry →
    disk.entry? directory = some .directory

namespace IsTree

variable {disk : Disk}

theorem tail (tree : IsTree disk) {place : Location}
    (there : disk.entry? place = some .directory) : disk.entry? place.tail = some .directory := by
  cases place with
  | nil => exact there
  | cons name directory => exact tree.parent there

/-- Where there is nothing, there is nothing below. -/
theorem entry?_eq_none (tree : IsTree disk) {place below : Location} (suffix : place <:+ below)
    (missing : disk.entry? place = none) : disk.entry? below = none := by
  induction below with
  | nil => rwa [← List.suffix_nil.mp suffix]
  | cons name directory inductionHypothesis =>
    rcases List.suffix_cons_iff.mp suffix with rfl | inside
    · exact missing
    · refine Option.eq_none_iff_forall_ne_some.mpr fun entry there => ?_
      have around := tree.parent there
      rw [inductionHypothesis inside] at around
      cases around

theorem startOf (tree : IsTree disk) (path : Path) :
    disk.entry? (disk.startOf path) = some .directory := by
  rw [Disk.startOf]
  split
  · rfl
  · exact tree.current

/-- Walking leads from directories to directories. -/
theorem walk (tree : IsTree disk) {pieces : List String} {here found : Location}
    (there : disk.entry? here = some .directory) (walked : disk.walk here pieces = .ok found) :
    disk.entry? found = some .directory := by
  induction pieces generalizing here with
  | nil =>
    rw [← Except.ok.inj walked]
    exact there
  | cons piece rest inductionHypothesis =>
    rw [Disk.walk] at walked
    split at walked
    · exact inductionHypothesis there walked
    split at walked
    · exact inductionHypothesis (tree.tail there) walked
    split at walked
    · cases walked
    split at walked
    case h_1 next => exact inductionHypothesis next walked
    all_goals cases walked

theorem approach (tree : IsTree disk) {path : Path} {directory : Location} {ending : Ending}
    (leads : disk.approach path = .ok (directory, ending)) :
    disk.entry? directory = some .directory := by
  obtain ⟨_, ⟨_, same⟩ | ⟨last, front, directory', _, walked, _, same⟩⟩ :=
    (approach_eq_ok_iff disk path _).mp leads
  · rw [(Prod.mk.inj same).1]
    rfl
  · rw [(Prod.mk.inj same).1]
    exact tree.walk (tree.startOf path) walked

/-- An entry may be put into a directory in any place where there is no directory yet. -/
theorem put (tree : IsTree disk) {name : String} {directory : Location}
    (around : disk.entry? directory = some .directory)
    (free : disk.entry? (name :: directory) ≠ some .directory) (entry : Entry) :
    IsTree (disk.put (name :: directory) entry) := by
  have keeps {place : Location} (there : disk.entry? place = some .directory) :
      Disk.entry? (disk.put (name :: directory) entry) place = some .directory := by
    rw [entry?_put, if_neg]
    · exact there
    · rintro rfl
      exact free there
  refine ⟨keeps tree.current, fun {inner outer found} there => keeps ?_⟩
  rw [entry?_put] at there
  split at there
  case isTrue same =>
    rw [(List.cons.inj same).2]
    exact around
  case isFalse => exact tree.parent there

theorem erase (tree : IsTree disk) {name : String} {directory : Location} {content : ByteArray}
    (file : disk.entry? (name :: directory) = some (.file content)) :
    IsTree (disk.erase (name :: directory)) := by
  have keeps {place : Location} (there : disk.entry? place = some .directory) :
      Disk.entry? (disk.erase (name :: directory)) place = some .directory := by
    rw [entry?_erase, if_neg]
    · exact there
    · rintro rfl
      rw [file] at there
      cases there
  refine ⟨keeps tree.current, fun {inner outer found} there => keeps ?_⟩
  rw [entry?_erase] at there
  split at there
  case isTrue => cases there
  case isFalse => exact tree.parent there

theorem makeDirectory (tree : IsTree disk) (path : Path) :
    IsTree (disk.makeDirectory path).2 := by
  rcases makeDirectory_cases disk path with
    ⟨fault, same⟩ | ⟨directory, name, slash, leads, nothing, made⟩
  · rwa [same]
  · rw [made]
    exact tree.put (tree.approach leads) (by rw [nothing]; nofun) _

theorem create (tree : IsTree disk) (path : Path) : IsTree (disk.create path).2 := by
  rcases create_cases disk path with ⟨fault, same⟩ | ⟨directory, name, leads, free, made⟩
  · rwa [same]
  · rw [made]
    have filled := tree.put (tree.approach leads) free (.file .empty)
    exact ⟨filled.current, filled.parent⟩

theorem spoils (tree : IsTree disk) {handle : Handle} {after : Disk}
    (spoils : Spoils disk handle after) : IsTree after := by
  cases spoils with
  | untouched => exact tree
  | touched place there written =>
    exact tree.put (tree.parent there) (by rw [there]; nofun) _

theorem move (tree : IsTree disk) (source target : Path) :
    IsTree (disk.move source target).2 := by
  rcases move_cases disk source target with
    ⟨fault, same⟩ | ⟨sourceDirectory, sourceName, directory, name, content, _, leads, there, free,
      moved⟩
  · rwa [same]
  rw [moved]
  split
  case isTrue => exact tree
  case isFalse apart =>
    have without := tree.erase there
    have around : Disk.entry? (disk.erase (sourceName :: sourceDirectory)) directory =
        some .directory := by
      rw [entry?_erase, if_neg]
      · exact tree.approach leads
      · rintro same
        have directory := tree.approach leads
        rw [same, there] at directory
        cases directory
    have filled := without.put around (by rwa [entry?_erase, if_neg (Ne.symm apart)])
      (.file content)
    exact ⟨filled.current, filled.parent⟩

/-- Every task leaves a tree, whatever is refused. -/
theorem outcome (tree : IsTree disk) {task : FileTask α} {result : α} {after : Disk}
    (outcome : FileTask.Outcome task disk result after) : IsTree after :=
  outcome.rel (fun before after => IsTree before → IsTree after) (fun _ => id)
    (fun first second tree => second (first tree)) (fun _ path tree => tree.makeDirectory path)
    (fun _ path tree => tree.create path) (fun spoils tree => tree.spoils spoils)
    (fun _ source target tree => tree.move source target) tree

end IsTree

/-- No task takes a directory away, whatever is refused. -/
theorem KeepsDirectories.outcome {disk after : Disk} {task : FileTask α} {result : α}
    (outcome : FileTask.Outcome task disk result after) : KeepsDirectories disk after := by
  refine outcome.rel KeepsDirectories .refl .trans .makeDirectory .create (fun spoils => ?_) .move
  cases spoils with
  | untouched => exact .refl _
  | touched place there written => exact .put_file (by rw [there]; nofun) written

theorem Preserves.of_looks {path : Path} {disk after : Disk} {task : FileTask α} {result : α}
    (looks : task.Looks) (outcome : FileTask.Outcome task disk result after) :
    Preserves path disk after := by
  rw [(outcome.of_looks looks).2]
  exact .refl path disk

end Disk

/-! ### Loading -/

open FileTask

theorem RuleFile.looks_load (path : Path) : Looks (load path) := by
  refine .bind (.read path .done) fun answer => ?_
  cases answer <;> exact .done _

theorem RuleFile.looks_loadOrEmpty (path : Path) : Looks (loadOrEmpty path) :=
  (looks_load path).bind fun _ => .done _

theorem CatalogFile.looks_fetch (path : Path) (user : Option String) :
    Looks (fetch path user) := by
  refine .bind (.bind (.read path .done) fun answer => ?_) fun _ => .done _
  cases answer <;> exact .done _

theorem ConfigFile.looks_load (path : Path) : Looks (load path) := by
  refine .bind (.isPresent path .done) fun found => ?_
  cases found with
  | false => exact .done _
  | true =>
    refine .bind (.read path .done) fun answer => ?_
    cases answer <;> exact .done _

end PlaylistRules.Storage
