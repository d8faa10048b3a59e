/-
This file proves what saving and loading a set of rules come to while nothing else uses
the disk and nothing is refused. Saving either fails and leaves the file as it was, or the
file holds the text of the set. Loading gives the set that was saved.
-/

import PlaylistRules.Proofs.Places
import PlaylistRules.Proofs.RuleMaps

namespace PlaylistRules.Storage

open Disk

namespace RuleFile

/-! ### Saving -/

theorem file?_makeParent (path : Path) (disk : Disk) (place : Location) :
    ((makeParent path).run disk).2.file? place = disk.file? place := by
  rw [makeParent]
  split
  case h_1 => rfl
  case h_2 parent _ =>
    rw [FileTask.run_bind, ← FileTask.file?_makeDirectories parent disk place]
    split <;> rfl

/-- What saving can do: it fails, and the file stays; or the file holds the text of the set. -/
theorem run_save_cases (path : Path) (set : RuleSet) (disk : Disk) :
    (∃ fault after, (save path set).run disk = (.error fault, after) ∧
      Preserves path disk after) ∨
    ∃ after, (save path set).run disk = (.ok (), after) ∧
      after.contentAt? path = some (text set).toUTF8 := by
  have keeps := KeepsDirectories.run (save path set) disk
  have parents := file?_makeParent path disk
  have placed := (KeepsDirectories.run (makeParent path) disk).place
  rw [save] at keeps ⊢
  rw [FileTask.run_bind] at keeps ⊢
  generalize (makeParent path).run disk = made at keeps parents placed ⊢
  obtain ⟨_ | _, middle⟩ := made
  · exact .inl ⟨_, middle, rfl, keeps, fun _ => parents _⟩
  simp only [FileTask.run_bind] at keeps parents placed ⊢
  rcases FileTask.run_replace_cases path (text set) middle with
    ⟨fault, failed⟩ | ⟨fault, after, other, failed, entries⟩ |
      ⟨directory, name, after, leads, replaced, entries⟩
  · rw [failed] at keeps ⊢
    exact .inl ⟨_, middle, rfl, keeps, fun _ => parents _⟩
  · rw [failed] at keeps ⊢
    rw [placed] at entries
    refine .inl ⟨_, after, rfl, keeps, fun plain => ?_⟩
    rw [← parents]
    exact file?_congr (entries _ (place_temporary_ne plain other disk).symm)
  · rw [replaced] at keeps ⊢
    rw [placed, placed] at entries
    refine .inr ⟨after, rfl, (contentAt?_eq_some_iff ..).mpr ⟨directory, name, leads, ?_⟩⟩
    have target := place_of_approach leads
    have kept : KeepsDirectories disk after := keeps
    rw [kept.place] at target
    rw [file?_eq_some_iff, entries, if_pos target.symm]

/-! ### Files of maps -/

/-- Whether the file at a path holds a set of rules that are those of a map. -/
structure Stores (disk : Disk) (path : Path) (map : RuleMap) (set : RuleSet) : Prop where
  version : set.version = RuleSet.currentVersion
  entries : set.entries = map.entries
  content : disk.contentAt? path = some (text set).toUTF8

/-- Whether the rules of a map are kept at a path: in a file, or in none as long as there
are no rules. -/
def Holds (disk : Disk) (path : Path) (map : RuleMap) : Prop :=
  (IsAbsent disk path ∧ map.entries = []) ∨ ∃ set, Stores disk path map set

section

variable {disk after : Disk} {path : Path} {map : RuleMap} {set : RuleSet}

/-- A set that was saved is loaded, if its version has 32 bits. -/
theorem run_load_of_small (small : set.version < 2 ^ 32)
    (content : disk.contentAt? path = some (text set).toUTF8) :
    (load path).run disk = (.ok set, disk) := by
  rw [run_load, read_of_contentAt? content, textOf?_toUTF8, loaded, ofText_text small]

theorem run_load_of_content (version : set.version = RuleSet.currentVersion)
    (content : disk.contentAt? path = some (text set).toUTF8) :
    (load path).run disk = (.ok set, disk) :=
  run_load_of_small (version ▸ by decide) content

theorem Stores.load (stores : Stores disk path map set) : (load path).run disk = (.ok set, disk) :=
  run_load_of_content stores.version stores.content

theorem Holds.isFound (holds : Holds disk path map) : IsFound disk path := by
  obtain ⟨absent, _⟩ | ⟨set, stores⟩ := holds
  · exact absent.isFound
  · exact isFound_of_contentAt? stores.content

/-- The rules are still there if their file is. -/
theorem Holds.preserved (holds : Holds disk path map) (preserves : Preserves path disk after) :
    Holds after path map := by
  have same := preserves.contentAt? holds.isFound
  obtain ⟨absent, empty⟩ | ⟨set, stores⟩ := holds
  · exact .inl ⟨preserves.isAbsent absent, empty⟩
  · exact .inr ⟨set, stores.version, stores.entries, same.trans stores.content⟩

/-- Loading gives the rules of the map, or fails because the path leads nowhere. -/
theorem Holds.loadOrEmpty_cases (holds : Holds disk path map) :
    (∃ fault, (loadOrEmpty path).run disk = (.error fault, disk)) ∨
    ∃ set, (loadOrEmpty path).run disk = (.ok set, disk) ∧
      set.version = RuleSet.currentVersion ∧ set.entries = map.entries := by
  rw [loadOrEmpty, FileTask.run_bind]
  obtain ⟨absent, empty⟩ | ⟨set, stores⟩ := holds
  · obtain ⟨fault, failed⟩ := read_of_contentAt?_eq_none absent.contentAt?_eq_none
    rw [run_load, failed, loaded]
    by_cases missing : fault = .notFound
    · rw [missing]
      exact .inr ⟨RuleSet.empty, rfl, rfl, empty.symm⟩
    · refine .inl ⟨.read path fault, ?_⟩
      cases fault
      case notFound => exact absurd rfl missing
      all_goals rfl
  · rw [stores.load]
    exact .inr ⟨set, rfl, stores.version, stores.entries⟩

end

end RuleFile

end PlaylistRules.Storage
