/-
This file proves what saving and loading a configuration come to. The text is written in place,
in directories that are made if need be: saving fails, or the file holds the text, and no other
file changes. Where nothing is refused it fails exactly if the file cannot be written. Loading
gives the configuration that was saved, and nothing is set where no file is.
-/

import PlaylistRules.Proofs.AtomicSaves
import PlaylistRules.Proofs.ConfigText

namespace PlaylistRules.Storage

open Disk

theorem Disk.isPresent_of_contentAt? {disk : Disk} {path : Path} {content : ByteArray}
    (there : disk.contentAt? path = some content) :
    disk.isPresent path = true := by
  rw [contentAt?] at there
  rw [isPresent]
  split at there
  case h_1 found => rw [found]; rfl
  case h_2 => cases there

namespace ConfigFile

/-! ### Saving -/

/-- Whether the file at a path can be written: the directories around it are there or can be
made, and then the path leads to a name that no directory has. -/
def CanWrite (disk : Disk) (path : Path) : Prop :=
  ∃ between directory name, (FileTask.makeParent path).run disk = (.ok (), between) ∧
    between.approach path = .ok (directory, .name name false) ∧
    between.entry? (name :: directory) ≠ some .directory

variable {disk after : Disk} {path : Path} {config : Config} {answer : Except ConfigFault Unit}

/-- The directories around the path are made, and then the text is written. -/
theorem writeText_eq (path : Path) (text : String) (writeFault : FileFault → ConfigFault) :
    writeText path text writeFault = FileTask.makeParent path >>= fun
      | .error fault => .done (.error (.createDirectory fault))
      | .ok () => FileTask.write path text >>= fun wrote => .done (wrote.mapError writeFault) := by
  rw [writeText, FileTask.makeParent]
  cases path.parent?
  all_goals
    refine congrArg (Bind.bind _) (funext fun made => ?_)
    rcases made with fault | ⟨⟨⟩⟩
    · rfl
    · refine congrArg (Bind.bind _) (funext fun wrote => ?_)
      cases wrote <;> rfl

/-- Saving fails, or the file holds the text of the configuration. -/
theorem save_cases (outcome : FileTask.Outcome (save path config) disk answer after) :
    (∃ fault, answer = .error fault) ∨
      answer = .ok () ∧ after.contentAt? path = some config.text.toUTF8 := by
  rw [save, writeText_eq] at outcome
  obtain ⟨made, between, first, rest⟩ := outcome.of_bind
  rcases made with fault | ⟨⟨⟩⟩
  · exact .inl ⟨_, rest.of_done.1⟩
  obtain ⟨wrote, final, second, last⟩ := FileTask.Outcome.of_bind rest
  obtain ⟨rfl, rfl⟩ := last.of_done
  rcases wrote with fault | ⟨⟨⟩⟩
  · exact .inl ⟨.write fault, rfl⟩
  rcases second.write_cases with
    ⟨_, failed, _⟩ | ⟨directory, name, content, leads, written, entries⟩
  · cases failed
  have kept : KeepsDirectories between after := .outcome second
  refine .inr ⟨rfl, (contentAt?_eq_some_iff ..).mpr ⟨directory, name, kept.approach leads, ?_⟩⟩
  rw [file?_eq_some_iff, entries, if_pos rfl, written rfl]

/-- Saving changes no file but the one at the path. -/
theorem file?_of_save (outcome : FileTask.Outcome (save path config) disk answer after)
    {place : Location} (other : place ≠ disk.place path) :
    after.file? place = disk.file? place := by
  rw [save, writeText_eq] at outcome
  obtain ⟨made, between, first, rest⟩ := outcome.of_bind
  have keeps : KeepsDirectories disk between := .outcome first
  rw [← first.file?_of_makeParent place]
  rcases made with fault | ⟨⟨⟩⟩
  · rw [rest.of_done.2]
  obtain ⟨wrote, final, second, last⟩ := FileTask.Outcome.of_bind rest
  rw [last.of_done.2]
  rcases second.write_cases with ⟨_, _, rfl⟩ | ⟨directory, name, content, leads, _, entries⟩
  · rfl
  · refine file?_congr ?_
    rw [entries, if_neg]
    rwa [← place_of_approach leads, keeps.place]

/-- Where nothing is refused, a file that can be written is saved. -/
theorem run_save_of_canWrite (free : CanWrite disk path) (config : Config) :
    ((save path config).run disk).1 = .ok () := by
  obtain ⟨between, directory, name, made, leads, free⟩ := free
  have wrote : ((FileTask.write path config.text).run between).1 = .ok () := by
    rw [FileTask.write, FileTask.run, create_eq leads free]
    rfl
  rw [save, writeText_eq, FileTask.run_bind, made]
  dsimp only
  rw [FileTask.run_bind]
  exact congrArg (Except.mapError ConfigFault.write) wrote

/-- Where a file cannot be written, at most directories are made. -/
theorem run_save_of_not_canWrite (blocked : ¬CanWrite disk path) (config : Config) :
    ∃ fault, (save path config).run disk =
      (.error fault, ((FileTask.makeParent path).run disk).2) := by
  rw [save, writeText_eq, FileTask.run_bind]
  rcases made : (FileTask.makeParent path).run disk with ⟨fault | ⟨⟨⟩⟩, between⟩
  · exact ⟨_, rfl⟩
  dsimp only
  rw [FileTask.run_bind]
  rcases FileTask.run_write_cases path config.text between with
    ⟨fault, failed⟩ | ⟨directory, name, _, leads, free, _⟩
  · rw [failed]
    exact ⟨_, rfl⟩
  · exact absurd ⟨between, directory, name, made, leads, free⟩ blocked

/-- A directory cannot be written. -/
theorem not_canWrite_of_isDirectory (there : disk.isDirectory path = true) :
    ¬CanWrite disk path := by
  rintro ⟨between, directory, name, made, leads, free⟩
  have keeps := KeepsDirectories.run (FileTask.makeParent path) disk
  rw [made] at keeps
  obtain ⟨place, found⟩ := (isDirectory_iff disk path).mp there
  have still := keeps.find?_directory found
  rw [find?_of_approach leads] at still
  split at still
  case h_1 => cases still
  case h_2 entry there =>
    cases still
    exact free there

/-- A file that is there can be written. -/
theorem canWrite_of_contentAt? {content : ByteArray}
    (there : disk.contentAt? path = some content) : CanWrite disk path := by
  obtain ⟨directory, name, leads, file⟩ := (contentAt?_eq_some_iff ..).mp there
  refine ⟨disk, directory, name, FileTask.run_makeParent_of_approach leads, leads, ?_⟩
  rw [(file?_eq_some_iff ..).mp file]
  exact nofun

/-- There is no file at a path that cannot be written, and making the directories around it
does not bring one. -/
theorem contentAt?_of_not_canWrite (fails : ¬CanWrite disk path) :
    disk.contentAt? path = none ∧
      ((FileTask.makeParent path).run disk).2.contentAt? path = none := by
  refine ⟨Option.eq_none_iff_forall_ne_some.mpr fun content there =>
    fails (canWrite_of_contentAt? there), ?_⟩
  refine Option.eq_none_iff_forall_ne_some.mpr fun content there => fails ?_
  rcases made : (FileTask.makeParent path).run disk with ⟨fault | ⟨⟨⟩⟩, between⟩
  all_goals
    rw [made] at there
    obtain ⟨directory, name, leads, file⟩ := (contentAt?_eq_some_iff ..).mp there
  · obtain ⟨_, nowhere⟩ := FileTask.approach_of_makeParent_eq_error made
    rw [leads] at nowhere
    cases nowhere
  · refine ⟨between, directory, name, made, leads, ?_⟩
    rw [(file?_eq_some_iff ..).mp file]
    exact nofun

/-- Where there is no file, there is nothing or a directory. -/
theorem isPresent_or_isDirectory_of_contentAt? (none : disk.contentAt? path = none) :
    disk.isPresent path = false ∨ disk.isDirectory path = true := by
  cases found : disk.find? path with
  | error fault => exact .inl (by rw [isPresent, found]; rfl)
  | ok shown =>
    obtain ⟨place, directory | content⟩ := shown
    · exact .inr ((isDirectory_iff ..).mpr ⟨place, found⟩)
    · rw [contentAt?, found] at none
      cases none

/-! ### Loading -/

/-- What loading a configuration file gives. -/
def loaded (present : Bool) (text : Except FileFault String) :
    Except ConfigFault Config :=
  if present then
    match text with
    | .ok text => ConfigFile.ofText text
    | .error fault => .error (.read fault)
  else .ok Config.empty

theorem run_load (path : Path) (disk : Disk) :
    (ConfigFile.load path).run disk = (loaded (disk.isPresent path) (disk.read path), disk) := by
  change FileTask.run (FileTask.isPresent path _) disk = _
  rw [FileTask.run]
  cases disk.isPresent path with
  | false => rfl
  | true =>
    change FileTask.run (FileTask.read path _) disk = _
    rw [FileTask.run]
    cases disk.read path <;> rfl

/-- Whether the file at a path is loaded as a configuration, which sets nothing if there is no
file. -/
def Loads (disk : Disk) (path : Path) (config : Config) : Prop :=
  ((load path).run disk).1 = .ok config

theorem Loads.unique {other : Config} (loads : Loads disk path config)
    (loads' : Loads disk path other) : config = other :=
  Except.ok.inj (loads.symm.trans loads')

/-- What is loaded comes from a file, unless nothing is there. -/
theorem Loads.isPresent (loads : Loads disk path config) :
    disk.isPresent path = (disk.contentAt? path).isSome := by
  cases there : disk.contentAt? path with
  | some content => exact isPresent_of_contentAt? there
  | none =>
    obtain ⟨fault, failed⟩ := read_of_contentAt?_eq_none there
    rw [Loads, run_load, failed] at loads
    cases present : disk.isPresent path with
    | false => rfl
    | true =>
      rw [present] at loads
      cases loads

/-- The same file is loaded as the same configuration. -/
theorem Loads.of_contentAt? {content : ByteArray} (loads : Loads disk path config)
    (there : disk.contentAt? path = some content) (same : after.contentAt? path = some content) :
    Loads after path config := by
  rw [Loads, run_load, isPresent_of_contentAt? there, read_of_contentAt? there] at loads
  rw [Loads, run_load, isPresent_of_contentAt? same, read_of_contentAt? same]
  exact loads

theorem loads_of_not_isPresent (absent : disk.isPresent path = false) :
    Loads disk path .empty := by
  rw [Loads, run_load, absent]
  rfl

theorem Loads.eq_empty (loads : Loads disk path config) (absent : disk.isPresent path = false) :
    config = .empty :=
  loads.unique (loads_of_not_isPresent absent)

theorem loads_of_contentAt? (there : disk.contentAt? path = some config.text.toUTF8) :
    Loads disk path config := by
  rw [Loads, run_load, isPresent_of_contentAt? there, read_of_contentAt? there, textOf?_toUTF8,
    loaded, if_pos rfl]
  dsimp only
  rw [ofText, config.parse?_text]

/-- A directory is not loaded. -/
theorem load_of_isDirectory (there : disk.isDirectory path = true) :
    ((load path).run disk).1 = .error (.read .isADirectory) := by
  obtain ⟨place, found⟩ := (isDirectory_iff disk path).mp there
  have present : disk.isPresent path = true := by rw [isPresent, found]; rfl
  have reads : disk.read path = .error .isADirectory := by rw [Storage.Disk.read, found]
  rw [run_load, present, reads]
  rfl

theorem Loads.not_isDirectory (loads : Loads disk path config) :
    ¬disk.isDirectory path = true := by
  intro there
  rw [Loads, load_of_isDirectory there] at loads
  cases loads

/-- As long as the file stays, or nothing comes where none was found, what was loaded is loaded
again, or a directory has come. -/
theorem Loads.again (loads : Loads disk path config)
    (same : after.contentAt? path = disk.contentAt? path) :
    Loads after path config ∨ disk.isPresent path = false ∧ after.isDirectory path = true := by
  cases there : disk.contentAt? path with
  | some content => exact .inl (loads.of_contentAt? there (same.trans there))
  | none =>
    have absent : disk.isPresent path = false := by rw [loads.isPresent, there]; rfl
    rcases isPresent_or_isDirectory_of_contentAt? (same.trans there) with still | directory
    · rw [loads.eq_empty absent]
      exact .inl (loads_of_not_isPresent still)
    · exact .inr ⟨absent, directory⟩

end ConfigFile

end PlaylistRules.Storage
