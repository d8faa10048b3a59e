/-
This file proves what assignments to the configuration come to, on disks that may refuse any
change as well. An assignment succeeds exactly if its key is known, its word stands for a
value of that key and the configuration is saved. One that is rejected leaves the disk as it
is. After any assignments every key has the value that the last successful one gave it, and
all other keys have the values that were there from the start.

There are two exceptions. The file is emptied before it is written, so a save that breaks off
leaves another file behind. And if there was no file, an assignment that cannot write one may
make a directory on the way, and the path may then lead to a directory, which cannot be
loaded.
-/

import PlaylistRules.Proofs.Sessions

namespace PlaylistRules

open Storage CommandLine ConfigFile
open Disk hiding Ending

/-! ### Keys -/

/-- A key of the configuration. -/
inductive ConfigKey where
  | catalog
  | playlistsFolder
  | rulesFile
  | user
  | color
deriving DecidableEq

/-- What a key may be set to. -/
inductive ConfigValue where
  | text (value : String)
  | truth (value : Bool)
deriving DecidableEq

namespace ConfigKey

/-- The name by which a key is assigned. -/
def name : ConfigKey → String
  | catalog => "catalog"
  | playlistsFolder => "playlists_dir"
  | rulesFile => "rules_file"
  | user => "user"
  | color => "output.color"

/-- What a configuration sets a key to. -/
def value? (config : Config) : ConfigKey → Option ConfigValue
  | catalog => config.catalog.map .text
  | playlistsFolder => config.playlistsFolder.map .text
  | rulesFile => config.rulesFile.map .text
  | user => config.user.map .text
  | color => config.color.map .truth

/-- The words for a truth value, in small letters. -/
def truthWords : Bool → List String
  | true => ["true", "yes", "1", "on"]
  | false => ["false", "no", "0", "off"]

/-- Whether a word stands for a value of a key: every word for a text, and the words for the
truth values, letter case aside. -/
inductive Denotes : ConfigKey → String → ConfigValue → Prop where
  | text {key : ConfigKey} (isText : key ≠ color) (word : String) : Denotes key word (.text word)
  | truth {word : String} {value : Bool} (known : Text.lowercase word ∈ truthWords value) :
      Denotes color word (.truth value)

end ConfigKey

/-- Whether a word may be assigned to the key with a name. -/
def IsAssignment (name word : String) : Prop :=
  ∃ key value, ConfigKey.name key = name ∧ key.Denotes word value

theorem ConfigKey.name_injective : Function.Injective ConfigKey.name := by
  intro first second same
  cases first <;> cases second <;> first | rfl | exact absurd same (by decide)

/-- The words for the two truth values are apart. -/
theorem ConfigKey.not_mem_truthWords {word : String} (known : word ∈ truthWords false) :
    word ∉ truthWords true := by
  have apart : ∀ word ∈ truthWords false, word ∉ truthWords true := by decide
  exact apart word known

theorem Config.boolean?_eq_some_iff (word : String) (value : Bool) :
    Config.boolean? word = some value ↔ Text.lowercase word ∈ ConfigKey.truthWords value := by
  have shape : Config.boolean? word =
      if Text.lowercase word ∈ ConfigKey.truthWords true then some true
      else if Text.lowercase word ∈ ConfigKey.truthWords false then some false else none := by
    simp only [Config.boolean?, List.contains_iff_mem]
    rfl
  rw [shape]
  cases value with
  | true =>
    split
    case isTrue known => exact iff_of_true rfl known
    case isFalse unknown =>
      refine iff_of_false ?_ unknown
      split <;> exact nofun
  | false =>
    split
    case isTrue known =>
      exact iff_of_false nofun fun other => ConfigKey.not_mem_truthWords other known
    case isFalse =>
      split
      case isTrue known => exact iff_of_true rfl known
      case isFalse unknown => exact iff_of_false nofun unknown

/-- A key for texts takes every word. -/
theorem Config.assign_text {key : ConfigKey} (isText : key ≠ .color) (config : Config)
    (word : String) :
    ∃ after, config.assign key.name word = .ok after ∧ key.value? after = some (.text word) ∧
      ∀ other ≠ key, other.value? after = other.value? config := by
  cases key
  case color => exact absurd rfl isText
  all_goals
    refine ⟨_, rfl, rfl, fun other apart => ?_⟩
    cases other <;> first | rfl | exact absurd rfl apart

/-- What an assignment does to a configuration. -/
theorem Config.assign_cases (config : Config) (name word : String) :
    (¬IsAssignment name word ∧ ∃ fault, config.assign name word = .error fault) ∨
    ∃ key value after, ConfigKey.name key = name ∧ key.Denotes word value ∧
      config.assign name word = .ok after ∧ key.value? after = some value ∧
      ∀ other ≠ key, other.value? after = other.value? config := by
  by_cases known : ∃ key, ConfigKey.name key = name
  case neg =>
    have other (key : ConfigKey) : name ≠ key.name := fun same => known ⟨key, same.symm⟩
    refine .inl ⟨?_, .unknownKey name, ?_⟩
    · rintro ⟨key, _, same, _⟩
      exact known ⟨key, same⟩
    rw [assign]
    · exact other .catalog
    · exact other .playlistsFolder
    · exact other .rulesFile
    · exact other .user
    · exact other .color
  obtain ⟨key, rfl⟩ := known
  by_cases isText : key = .color
  case neg =>
    obtain ⟨after, assigned, value, others⟩ := assign_text isText config word
    exact .inr ⟨key, .text word, after, rfl, .text isText word, assigned, value, others⟩
  case pos =>
    subst isText
    cases word? : boolean? word with
    | some value =>
      have assigned : config.assign (ConfigKey.name .color) word =
          .ok { config with color := some value } := by
        rw [ConfigKey.name, assign, word?]
      refine .inr ⟨.color, .truth value, _, rfl, ?_, assigned, rfl, fun other apart => ?_⟩
      · exact .truth ((boolean?_eq_some_iff word value).mp word?)
      · cases other <;> first | rfl | exact absurd rfl apart
    | none =>
      have rejected : config.assign (ConfigKey.name .color) word =
          .error (.invalidBoolean word) := by
        rw [ConfigKey.name, assign, word?]
      refine .inl ⟨?_, _, rejected⟩
      rintro ⟨key, value, same, denotes⟩
      obtain rfl := ConfigKey.name_injective same
      cases denotes with
      | text isText => exact isText rfl
      | truth known =>
        rw [(boolean?_eq_some_iff ..).mpr known] at word?
        cases word?

/-! ### One command -/

section

variable {environment : Environment} {path : Path} {call : ProgramCall} {name word : String}
  {mayRefuse : Bool} {before after : Disk}

theorem run_loadConfig (configured : environment.configPath? = some path) (disk : Disk) :
    (loadConfig environment).run disk =
      (((ConfigFile.load path).run disk).1.mapError fun fault => .setting (.file fault), disk) := by
  rw [loadConfig, configPath, configured]
  simp only [FileTask.run_bind]
  rw [ConfigFile.run_load]
  cases ConfigFile.loaded (disk.isPresent path) (disk.read path) <;> rfl

/-- What an assignment comes to: the configuration is not loaded or the assignment is rejected,
and nothing happens; or another configuration is saved. -/
inductive AssignmentCase (mayRefuse : Bool) (path : Path) (name word : String)
    (before after : Disk) (succeeds : Prop) : Prop where
  | rejected (fails : ¬succeeds) (same : after = before)
      (reason : (∀ config, ¬Loads before path config) ∨ ¬IsAssignment name word)
  | saved (key : ConfigKey) (value : ConfigValue) (config changed : Config)
      (loads : Loads before path config) (assigned : config.assign name word = .ok changed)
      (named : key.name = name) (denotes : key.Denotes word value)
      (given : key.value? changed = some value)
      (others : ∀ other ≠ key, other.value? changed = other.value? config)
      (answer : Except ConfigFault Unit)
      (comes : FileTask.ComesTo mayRefuse (ConfigFile.save path changed) before answer after)
      (works : succeeds ↔ answer = .ok ())

theorem assignmentCase_of_assignConfig (configured : environment.configPath? = some path)
    {display : Display} {answer : Answer}
    (comes : FileTask.ComesTo mayRefuse (assignConfig display environment name word) before answer
      after) :
    AssignmentCase mayRefuse path name word before after (answer.fault = none) := by
  rw [assignConfig] at comes
  replace comes := comes.of_looks_bind (looks_loadConfig environment)
  rw [run_loadConfig configured, configPath, configured] at comes
  cases loads : ((ConfigFile.load path).run before).1 with
  | error fault =>
    rw [loads] at comes
    obtain ⟨rfl, same⟩ := comes.of_done
    refine .rejected (Option.some_ne_none _) same (.inl fun config loads' => ?_)
    rw [Loads, loads] at loads'
    cases loads'
  | ok config =>
    rw [loads] at comes
    rcases config.assign_cases name word with
      ⟨rejected, fault, refused⟩ | ⟨key, value, changed, named, denotes, assigned, given, others⟩
    · simp only [Except.mapError, refused] at comes
      obtain ⟨rfl, same⟩ := comes.of_done
      exact .rejected (Option.some_ne_none _) same (.inr rejected)
    · simp only [Except.mapError, assigned] at comes
      obtain ⟨saved, between, first, last⟩ := comes.of_bind
      rcases saved with fault | ⟨⟨⟩⟩
      · obtain ⟨rfl, rfl⟩ := last.of_done
        exact .saved key value config changed loads assigned named denotes given others _ first
          (iff_of_false (Option.some_ne_none _) (by simp))
      · obtain ⟨rfl, rfl⟩ := last.of_done
        exact .saved key value config changed loads assigned named denotes given others _ first
          (iff_of_true rfl rfl)

end

namespace ProgramCall

/-- The name of the key and the word of the assignment that a call asks for. -/
def assignment? (environment : Environment) (call : ProgramCall) : Option (String × String) :=
  match Invocation.ofArguments environment call.arguments with
  | .ok ⟨_, .config (.assign name word)⟩ => some (name, word)
  | _ => none

/-- Any name and any word can be asked for. -/
theorem assignment?_of_arguments (environment : Environment) {call : ProgramCall}
    {name word : String} (arguments : call.arguments = ["config", "set", "--", name, word]) :
    call.assignment? environment = some (name, word) := by
  rw [assignment?, arguments]
  rfl

end ProgramCall

/-! ### One assignment -/

/-- What an assignment keeps to. -/
structure Assigns (mayRefuse : Bool) (path : Path) (name word : String) (before after : Disk)
    (exitCode : Nat) : Prop where
  accepted : exitCode = 0 → IsAssignment name word
  rejected : ¬IsAssignment name word → after = before
  /-- An assignment that is accepted succeeds exactly if the configuration is saved. -/
  saves : IsAssignment name word → ∀ config, Loads before path config →
    ∃ changed answer, config.assign name word = .ok changed ∧
      FileTask.ComesTo mayRefuse (ConfigFile.save path changed) before answer after ∧
      (exitCode = 0 ↔ answer = .ok ())
  unrefused : mayRefuse = false → (exitCode = 0 ↔ IsAssignment name word ∧ CanWrite before path)
  again : mayRefuse = false → (∃ content, before.contentAt? path = some content) →
    (exitCode = 0 ↔ IsAssignment name word)
  directories : KeepsDirectories before after
  others : ∀ place, place ≠ before.place path → after.file? place = before.file? place

section

variable {environment : Environment} {path : Path} {call : ProgramCall} {name word : String}
  {mayRefuse : Bool} {before after : Disk} {ending : CommandLine.Ending} {succeeds : Prop}

/-- A call ends as the assignment does that it asks for. -/
theorem assignmentCase_of_task (asked : call.assignment? environment = some (name, word))
    (configured : environment.configPath? = some path)
    (comes : FileTask.ComesTo mayRefuse (call.task environment) before ending after) :
    AssignmentCase mayRefuse path name word before after (ending.exitCode = 0) := by
  rw [ProgramCall.assignment?] at asked
  split at asked
  case h_2 => cases asked
  case h_1 options name' word' accepted =>
    cases asked
    obtain ⟨answer, answers, rfl⟩ := ProgramCall.answer_of_accepted accepted comes
    have assigns := answers.of_looks_bind (looks_loadConfig environment)
    rw [exitCode_ending]
    exact assignmentCase_of_assignConfig configured assigns

namespace AssignmentCase

theorem isAssignment (case : AssignmentCase mayRefuse path name word before after succeeds)
    (holds : succeeds) : IsAssignment name word := by
  cases case with
  | rejected fails => exact absurd holds fails
  | saved key value _ _ _ _ named denotes => exact ⟨key, value, named, denotes⟩

theorem eq_of_not_isAssignment
    (case : AssignmentCase mayRefuse path name word before after succeeds)
    (rejected : ¬IsAssignment name word) : after = before := by
  cases case with
  | rejected _ same => exact same
  | saved key value _ _ _ _ named denotes => exact absurd ⟨key, value, named, denotes⟩ rejected

/-- Where nothing is refused, an assignment succeeds exactly if it is accepted and the file
can be written. -/
theorem iff_canWrite (case : AssignmentCase false path name word before after succeeds)
    (state : (∃ config, Loads before path config) ∨ before.isDirectory path = true) :
    succeeds ↔ IsAssignment name word ∧ CanWrite before path := by
  cases case with
  | rejected fails _ reason =>
    refine iff_of_false fails fun ⟨accepted, free⟩ => ?_
    rcases reason with unloaded | rejected
    · rcases state with ⟨config, loads⟩ | blocked
      · exact unloaded config loads
      · exact not_canWrite_of_isDirectory blocked free
    · exact rejected accepted
  | saved key value _ changed _ _ named denotes _ _ answer comes works =>
    have ran : (ConfigFile.save path changed).run before = (answer, after) := comes
    rw [works]
    by_cases free : CanWrite before path
    · have saved := run_save_of_canWrite free changed
      rw [ran] at saved
      exact iff_of_true saved ⟨⟨key, value, named, denotes⟩, free⟩
    · obtain ⟨fault, failed⟩ := run_save_of_not_canWrite free changed
      cases ran.symm.trans failed
      exact iff_of_false (by simp) fun accepted => free accepted.2

/-- Where nothing is refused, an assignment that fails leaves the file as it is. -/
theorem contentAt?_of_fails (case : AssignmentCase false path name word before after succeeds)
    (fails : ¬succeeds) : after.contentAt? path = before.contentAt? path := by
  cases case with
  | rejected _ same => rw [same]
  | saved _ _ _ changed _ _ _ _ _ _ answer comes works =>
    have ran : (ConfigFile.save path changed).run before = (answer, after) := comes
    have blocked : ¬CanWrite before path := fun free => by
      have saved := run_save_of_canWrite free changed
      rw [ran] at saved
      exact fails (works.mpr saved)
    obtain ⟨fault, failed⟩ := run_save_of_not_canWrite blocked changed
    obtain ⟨missing, still⟩ := contentAt?_of_not_canWrite blocked
    cases ran.symm.trans failed
    rw [missing, still]

theorem assigns {exitCode : Nat}
    (case : AssignmentCase mayRefuse path name word before after (exitCode = 0))
    (keeps : KeepsDirectories before after)
    (state : mayRefuse = false →
      (∃ config, Loads before path config) ∨ before.isDirectory path = true) :
    Assigns mayRefuse path name word before after exitCode := by
  have unrefused (never : mayRefuse = false) :
      exitCode = 0 ↔ IsAssignment name word ∧ CanWrite before path := by
    subst never
    exact case.iff_canWrite (state rfl)
  refine ⟨case.isAssignment, case.eq_of_not_isAssignment, fun accepted config loads => ?_,
    unrefused, fun never ⟨_, there⟩ => ?_, keeps, fun place other => ?_⟩
  · cases case with
    | rejected _ _ reason =>
      rcases reason with unloaded | rejected
      · exact absurd loads (unloaded config)
      · exact absurd accepted rejected
    | saved key value config' changed loads' assigned _ _ _ _ answer comes works =>
      obtain rfl := loads.unique loads'
      exact ⟨changed, answer, assigned, comes, works⟩
  · rw [unrefused never]
    exact and_iff_left (canWrite_of_contentAt? there)
  · cases case with
    | rejected _ same => rw [same]
    | saved _ _ _ _ _ _ _ _ _ _ _ comes => exact file?_of_save comes.outcome other

end AssignmentCase

end

/-! ### Assignments in a row -/

/-- The disk after some assignments, the ones that succeeded, and the calls that failed and yet
left another file. -/
structure Assignments where
  disk : Disk
  done : List (String × String)
  broken : List ProgramCall

namespace Assignments

/-- What there is after one more call that ended on a disk. -/
def ended (environment : Environment) (path : Path) (state : Assignments) (call : ProgramCall)
    (ending : Ending) (disk : Disk) : Assignments where
  disk := disk
  done :=
    if ending.exitCode = 0 then state.done ++ (call.assignment? environment).toList
    else state.done
  broken :=
    if ending.exitCode ≠ 0 ∧ disk.contentAt? path ≠ state.disk.contentAt? path then
      state.broken ++ [call]
    else state.broken

/-- What calls can lead to from a disk. -/
inductive Reached (mayRefuse : Bool) (environment : Environment) (path : Path) (start : Disk) :
    List ProgramCall → Assignments → Prop where
  | start : Reached mayRefuse environment path start [] ⟨start, [], []⟩
  | call {calls : List ProgramCall} {state : Assignments} {call : ProgramCall} {ending : Ending}
      {disk : Disk} (earlier : Reached mayRefuse environment path start calls state)
      (comes : FileTask.ComesTo mayRefuse (call.task environment) state.disk ending disk) :
      Reached mayRefuse environment path start (calls ++ [call])
        (state.ended environment path call ending disk)

/-- What there is after calls on a disk that refuses nothing. -/
def ofCalls (environment : Environment) (path : Path) (disk : Disk) (calls : List ProgramCall) :
    Assignments :=
  calls.foldl (fun state call => state.ended environment path call
    (call.run environment state.disk).1 (call.run environment state.disk).2) ⟨disk, [], []⟩

/-- What calls come to on a disk that refuses nothing is one of the things they can lead to. -/
theorem reached_ofCalls (mayRefuse : Bool) (environment : Environment) (path : Path) (disk : Disk)
    (calls : List ProgramCall) :
    Reached mayRefuse environment path disk calls (ofCalls environment path disk calls) := by
  induction calls using List.reverseRecOn with
  | nil => exact .start
  | append_singleton calls call inductionHypothesis =>
    rw [ofCalls, List.foldl_concat]
    exact .call inductionHypothesis (.of_run ..)

end Assignments

/-- Whether a configuration has the values that assignments gave it, the last one for each key,
and its first values elsewhere. -/
structure HoldsLast (done : List (String × String)) (initial config : Config) : Prop where
  assigned : ∀ key earlier word later, done = earlier ++ (ConfigKey.name key, word) :: later →
    (∀ entry ∈ later, entry.1 ≠ key.name) →
      ∃ value, key.Denotes word value ∧ key.value? config = some value
  untouched : ∀ key, (∀ entry ∈ done, entry.1 ≠ ConfigKey.name key) →
    key.value? config = key.value? initial

theorem HoldsLast.refl (config : Config) : HoldsLast [] config config where
  assigned _ _ _ _ split := by simp at split
  untouched _ _ := rfl

/-- One more assignment. -/
theorem HoldsLast.concat {done : List (String × String)} {initial config after : Config}
    {key : ConfigKey} {word : String} {value : ConfigValue} (holds : HoldsLast done initial config)
    (denotes : key.Denotes word value) (given : key.value? after = some value)
    (others : ∀ other ≠ key, other.value? after = other.value? config) :
    HoldsLast (done ++ [(key.name, word)]) initial after where
  assigned other earlier otherWord later split last := by
    rcases List.eq_nil_or_concat later with rfl | ⟨later, entry, rfl⟩
    · obtain ⟨-, same⟩ := List.append_inj' split rfl
      obtain ⟨sameName, rfl⟩ := Prod.mk.inj (List.cons.inj same).1
      obtain rfl := ConfigKey.name_injective sameName
      exact ⟨value, denotes, given⟩
    · rw [List.concat_eq_append, ← List.cons_append, ← List.append_assoc] at split
      obtain ⟨shorter, same⟩ := List.append_inj' split rfl
      obtain rfl := (List.cons.inj same).1
      have apart : other ≠ key := by
        rintro rfl
        exact last (other.name, word) (by simp) rfl
      rw [others other apart]
      exact holds.assigned other earlier otherWord later shorter fun entry member =>
        last entry (by simp [member])
  untouched other none := by
    have apart : other ≠ key := by
      rintro rfl
      exact none (other.name, word) (by simp) rfl
    rw [others other apart]
    exact holds.untouched other fun entry member => none entry (List.mem_append_left _ member)

/-! ### What holds after assignments -/

/-- Whether a call asks for an assignment that is accepted. -/
def ProgramCall.IsAccepted (environment : Environment) (call : ProgramCall) : Prop :=
  ∃ name word, call.assignment? environment = some (name, word) ∧ IsAssignment name word

/-- What holds after calls that ask for assignments: the last ones that succeeded hold, or a
directory has come to the place where there was no file. -/
inductive Assignments.IsInOrder (environment : Environment) (path : Path) (start : Disk)
    (initial : Config) (calls : List ProgramCall) (state : Assignments) : Prop where
  | loads (config : Config) (loads : Loads state.disk path config)
      (holds : HoldsLast state.done initial config)
      (written : state.done ≠ [] → state.disk.contentAt? path = some config.text.toUTF8)
      (found : state.done = [] → state.disk.isPresent path = start.isPresent path)
  | blocked (none : state.done = []) (absent : start.isPresent path = false)
      (directory : state.disk.isDirectory path = true)
      (accepted : ∃ call ∈ calls, call.IsAccepted environment)

section

variable {environment : Environment} {path : Path} {start : Disk} {initial : Config}
  {calls : List ProgramCall} {state : Assignments} {call : ProgramCall} {name word : String}
  {mayRefuse : Bool} {disk : Disk} {ending : CommandLine.Ending}

theorem Assignments.IsInOrder.loads_or_isDirectory
    (inOrder : state.IsInOrder environment path start initial calls) :
    (∃ config, Loads state.disk path config) ∨ state.disk.isDirectory path = true := by
  cases inOrder with
  | loads config loads => exact .inl ⟨config, loads⟩
  | blocked _ _ directory => exact .inr directory

/-- A call that succeeds. -/
theorem Assignments.ended_of_succeeds (succeeds : ending.exitCode = 0)
    (asked : call.assignment? environment = some (name, word)) :
    state.ended environment path call ending disk =
      ⟨disk, state.done ++ [(name, word)], state.broken⟩ := by
  rw [ended, if_pos succeeds, if_neg fun other => other.1 succeeds, asked]
  rfl

/-- A call that fails and leaves the file as it is. -/
theorem Assignments.ended_of_fails (fails : ending.exitCode ≠ 0)
    (same : disk.contentAt? path = state.disk.contentAt? path) :
    state.ended environment path call ending disk = ⟨disk, state.done, state.broken⟩ := by
  rw [ended, if_neg fails, if_neg fun other => other.2 same]

/-- A call leaves the file as it is if it fails and is not broken. -/
theorem Assignments.contentAt?_of_broken (fails : ending.exitCode ≠ 0)
    (whole : (state.ended environment path call ending disk).broken = []) :
    disk.contentAt? path = state.disk.contentAt? path := by
  by_contra other
  rw [ended] at whole
  dsimp only at whole
  rw [if_pos ⟨fails, other⟩] at whole
  exact List.append_ne_nil_of_right_ne_nil _ (List.cons_ne_nil _ _) whole

theorem Assignments.broken_of_ended
    (whole : (state.ended environment path call ending disk).broken = []) : state.broken = [] := by
  rw [ended] at whole
  dsimp only at whole
  split at whole
  · exact (List.append_eq_nil_iff.mp whole).1
  · exact whole

/-- An assignment that fails and leaves the file as it is leaves everything in order. -/
theorem Assignments.IsInOrder.of_contentAt?
    (inOrder : state.IsInOrder environment path start initial calls)
    (accepted : call.IsAccepted environment) {config : Config}
    (loads : Loads state.disk path config)
    (same : disk.contentAt? path = state.disk.contentAt? path) :
    IsInOrder environment path start initial (calls ++ [call])
      ⟨disk, state.done, state.broken⟩ := by
  cases inOrder with
  | blocked _ _ directory => exact absurd directory loads.not_isDirectory
  | loads config' loads' holds written found =>
    -- Once a call has succeeded there is a file.
    have none (absent : state.disk.isPresent path = false) : state.done = [] := by
      by_contra some
      rw [isPresent_of_contentAt? (written some)] at absent
      cases absent
    rcases loads'.again same with loads | ⟨absent, directory⟩
    · refine .loads config' loads holds (fun some => same.trans (written some)) fun none => ?_
      rw [← found none, loads.isPresent, loads'.isPresent, same]
    · exact .blocked (none absent) ((found (none absent)).symm.trans absent) directory
        ⟨call, List.mem_append_right _ List.mem_cons_self, accepted⟩

/-- A further call that is not broken leaves everything in order. -/
theorem Assignments.IsInOrder.ended
    (inOrder : state.IsInOrder environment path start initial calls)
    (asked : call.assignment? environment = some (name, word))
    (case : AssignmentCase mayRefuse path name word state.disk disk (ending.exitCode = 0))
    (whole : (state.ended environment path call ending disk).broken = []) :
    (state.ended environment path call ending disk).IsInOrder environment path start initial
      (calls ++ [call]) := by
  cases case with
  | rejected fails same =>
    rw [ended_of_fails fails (by rw [same]), same]
    cases inOrder with
    | loads config loads holds written found => exact .loads config loads holds written found
    | blocked none absent directory accepted =>
      obtain ⟨other, member, accepted⟩ := accepted
      exact .blocked none absent directory ⟨other, List.mem_append_left _ member, accepted⟩
  | saved key value config changed loads assigned named denotes given others answer comes works =>
    rcases save_cases comes.outcome with ⟨fault, failed⟩ | ⟨done, content⟩
    · have fails : ending.exitCode ≠ 0 := fun zero => by
        rw [works.mp zero] at failed
        cases failed
      have same := contentAt?_of_broken fails whole
      rw [ended_of_fails fails same]
      exact inOrder.of_contentAt? ⟨name, word, asked, key, value, named, denotes⟩ loads same
    · rw [ended_of_succeeds (works.mpr done) asked, ← named]
      cases inOrder with
      | blocked _ _ directory => exact absurd directory loads.not_isDirectory
      | loads config' loads' holds =>
        obtain rfl := loads'.unique loads
        exact .loads changed (loads_of_contentAt? content) (holds.concat denotes given others)
          (fun _ => content) fun none => absurd none (by simp)

namespace Assignments.Reached

theorem exists_assignment_of_append
    (asked : ∀ other ∈ calls ++ [call], (other.assignment? environment).isSome) :
    (∀ other ∈ calls, (other.assignment? environment).isSome) ∧
      ∃ name word, call.assignment? environment = some (name, word) := by
  obtain ⟨others, last⟩ := List.forall_mem_append.mp asked
  obtain ⟨⟨name, word⟩, last⟩ := Option.isSome_iff_exists.mp (last call List.mem_cons_self)
  exact ⟨others, name, word, last⟩

/-- After calls that ask for assignments everything is in order, unless one is broken. -/
theorem isInOrder (configured : environment.configPath? = some path)
    (loads : Loads start path initial)
    (asked : ∀ call ∈ calls, (call.assignment? environment).isSome)
    (reached : Reached mayRefuse environment path start calls state)
    (whole : state.broken = []) : state.IsInOrder environment path start initial calls := by
  induction reached with
  | start => exact .loads initial loads (.refl initial) (absurd rfl) fun _ => rfl
  | call earlier comes inductionHypothesis =>
    obtain ⟨others, name, word, last⟩ := exists_assignment_of_append asked
    exact (inductionHypothesis others (broken_of_ended whole)).ended last
      (assignmentCase_of_task last configured comes) whole

/-- Only calls that ask for assignments that are accepted can be broken. -/
theorem isAccepted_of_mem_broken (configured : environment.configPath? = some path)
    (asked : ∀ call ∈ calls, (call.assignment? environment).isSome)
    (reached : Reached mayRefuse environment path start calls state) :
    ∀ call ∈ state.broken, call.IsAccepted environment := by
  induction reached with
  | start => nofun
  | @call calls state call ending disk earlier comes inductionHypothesis =>
    obtain ⟨others, name, word, last⟩ := exists_assignment_of_append asked
    have case := assignmentCase_of_task last configured comes
    rw [ended]
    dsimp only
    split
    case isFalse => exact inductionHypothesis others
    case isTrue broken =>
      refine List.forall_mem_append.mpr ⟨inductionHypothesis others,
        List.forall_mem_singleton.mpr ⟨name, word, last, ?_⟩⟩
      by_contra rejected
      exact broken.2 (by rw [case.eq_of_not_isAssignment rejected])

/-- Where nothing is refused, no call is broken. -/
theorem broken_eq_nil (configured : environment.configPath? = some path)
    (asked : ∀ call ∈ calls, (call.assignment? environment).isSome)
    (reached : Reached false environment path start calls state) : state.broken = [] := by
  induction reached with
  | start => rfl
  | @call calls state call ending disk earlier comes inductionHypothesis =>
    obtain ⟨others, name, word, last⟩ := exists_assignment_of_append asked
    have case := assignmentCase_of_task last configured comes
    rw [ended]
    dsimp only
    rw [if_neg]
    · exact inductionHypothesis others
    · exact fun ⟨fails, other⟩ => other (case.contentAt?_of_fails fails)

end Assignments.Reached

/-- Assignments update the configuration by key, and nothing else, from a file that is missing or
loaded, and on a disk that may refuse any change. Every call succeeds exactly if its key and word
are accepted and the configuration is saved, which is so where nothing is refused if the file can
be written. One that is rejected leaves the disk as it is. After any calls, unless one that was
accepted failed and left another file, the configuration that is loaded has the last value that
was assigned with success to each key, the first value elsewhere, and version 1. It can only fail
to be loaded where no file was there and no call has succeeded, if an accepted one has made the
path lead to a directory. -/
theorem last_assignment_wins (configured : environment.configPath? = some path)
    (loads : Loads start path initial)
    (asked : ∀ call ∈ calls, (call.assignment? environment).isSome)
    (reached : Assignments.Reached mayRefuse environment path start calls state) :
    (∀ (call : ProgramCall) name word, call.arguments = ["config", "set", "--", name, word] →
      call.assignment? environment = some (name, word)) ∧
    (start.isPresent path = false → initial = .empty) ∧
    (∀ (call : ProgramCall) name word (ending : CommandLine.Ending) after,
      call.assignment? environment = some (name, word) →
      FileTask.ComesTo mayRefuse (call.task environment) state.disk ending after →
        Assigns mayRefuse path name word state.disk after ending.exitCode) ∧
    (mayRefuse = false → state.broken = []) ∧
    (∀ call ∈ state.broken, call.IsAccepted environment) ∧
    (state.broken = [] →
      (∃ config, Loads state.disk path config ∧ HoldsLast state.done initial config ∧
        (∃ others, config.toJson = .object (("version", .ofNat 1) :: others)) ∧
        (state.done ≠ [] → state.disk.contentAt? path = some config.text.toUTF8 ∧
          ∃ others, Toml.parse? config.text = some (("version", .integer 1) :: others))) ∨
      state.done = [] ∧ start.isPresent path = false ∧ state.disk.isDirectory path = true ∧
        ∃ call ∈ calls, call.IsAccepted environment) := by
  have inOrder := reached.isInOrder configured loads asked
  have unbroken (never : mayRefuse = false) : state.broken = [] := by
    subst never
    exact reached.broken_eq_nil configured asked
  refine ⟨fun call name word arguments =>
    ProgramCall.assignment?_of_arguments environment arguments, fun absent => ?_,
    fun call name word ending after last comes => ?_, unbroken,
    reached.isAccepted_of_mem_broken configured asked, fun whole => ?_⟩
  · exact loads.eq_empty absent
  · exact (assignmentCase_of_task last configured comes).assigns (.outcome comes.outcome)
      fun never => (inOrder (unbroken never)).loads_or_isDirectory
  · cases inOrder whole with
    | loads config loads holds written =>
      exact .inl ⟨config, loads, holds, ⟨_, rfl⟩,
        fun some => ⟨written some, _, config.toml_text⟩⟩
    | blocked none absent directory accepted => exact .inr ⟨none, absent, directory, accepted⟩

end

/-- The call that assigns a word to the key with a name. -/
def assigning (name word : String) : ProgramCall :=
  ⟨["config", "set", "--", name, word], ⟨0, 0⟩, fun _ => ⟨"new", ⟨0, 0⟩⟩, fun _ _ => 0⟩

/-- A user is assigned, a key that is not known, a colour and another user. Then the disk is
full. -/
theorem last_assignment_wins_again :
    let environment : Environment := ⟨[("SMARTLIST_CONFIG", "config.toml")], none⟩
    let path := Path.ofText "config.toml"
    let disk : Disk := ⟨[], [], []⟩
    let calls := [assigning "user" "ann", assigning "users" "bob", assigning "output.color" "YES",
      assigning "user" "-eve"]
    let final := Assignments.ofCalls environment path disk calls
    let refused := ((assigning "user" "bob").task environment).runFull
      (.other "No space left on device") final.disk
    environment.configPath? = some path ∧ Loads disk path .empty ∧
      (∀ call ∈ calls, (call.assignment? environment).isSome) ∧
      Assignments.Reached true environment path disk calls final ∧ final.broken = [] ∧
      final.done = [("user", "ann"), ("output.color", "YES"), ("user", "-eve")] ∧
      (∃ config, Loads final.disk path config ∧ HoldsLast final.done .empty config ∧
        (∃ others, config.toJson = .object (("version", .ofNat 1) :: others)) ∧
        (final.done ≠ [] → final.disk.contentAt? path = some config.text.toUTF8 ∧
          ∃ others, Toml.parse? config.text = some (("version", .integer 1) :: others))) ∧
      refused.1.exitCode ≠ 0 ∧
      Assigns true path "user" "bob" final.disk refused.2 refused.1.exitCode := by
  intro environment path disk calls final refused
  have configured : environment.configPath? = some path := by decide
  have loads : Loads disk path .empty := loads_of_not_isPresent (by decide)
  have asked : ∀ call ∈ calls, (call.assignment? environment).isSome := by
    intro call member
    simp only [calls, List.mem_cons, List.not_mem_nil, or_false] at member
    rcases member with rfl | rfl | rfl | rfl <;>
      rw [ProgramCall.assignment?_of_arguments environment rfl] <;> rfl
  have reached := Assignments.reached_ofCalls true environment path disk calls
  have done : final.done = [("user", "ann"), ("output.color", "YES"), ("user", "-eve")] := by
    decide +kernel
  have apart : final.done ≠ [] := by
    rw [done]
    exact List.cons_ne_nil _ _
  obtain ⟨_, _, assigns, _, _, wins⟩ := last_assignment_wins configured loads asked reached
  have whole : final.broken = [] := List.isEmpty_iff.mp (by decide +kernel)
  exact ⟨configured, loads, asked, reached, whole, done,
    (wins whole).resolve_right fun blocked => apart blocked.1, by decide +kernel,
    assigns (assigning "user" "bob") _ _ refused.1 refused.2
      (ProgramCall.assignment?_of_arguments environment rfl) (FileTask.outcome_runFull ..)⟩

/-- An assignment that is accepted and fails can cost the configuration. There is no file on a
path through a directory that is missing. To write one, the directory is made, and the path then
leads to another directory, from which no configuration is loaded. Or the disk is full: the file
is emptied, and the user is gone that was assigned before. -/
theorem config_lost_by_failed_assignment :
    (let environment : Environment := ⟨[("SMARTLIST_CONFIG", "data/../config.toml")], none⟩
    let path := Path.ofText "data/../config.toml"
    let disk : Disk := ⟨[(["config.toml"], .directory)], [], []⟩
    let call := assigning "user" "ann"
    let ended := call.run environment disk
    environment.configPath? = some path ∧ disk.isPresent path = false ∧ Loads disk path .empty ∧
      call.assignment? environment = some ("user", "ann") ∧ IsAssignment "user" "ann" ∧
      ended.1.exitCode ≠ 0 ∧ ¬∃ config, Loads ended.2 path config) ∧
    (let environment : Environment := ⟨[("SMARTLIST_CONFIG", "config.toml")], none⟩
    let path := Path.ofText "config.toml"
    let disk : Disk := ⟨[], [], []⟩
    let first := (assigning "user" "ann").run environment disk
    let call := assigning "output.color" "yes"
    let second := (call.task environment).runFull (.other "No space left on device") first.2
    environment.configPath? = some path ∧ Loads disk path .empty ∧ first.1.exitCode = 0 ∧
      call.assignment? environment = some ("output.color", "yes") ∧
      IsAssignment "output.color" "yes" ∧
      FileTask.Outcome (call.task environment) first.2 second.1 second.2 ∧
      second.1.exitCode ≠ 0 ∧ Loads second.2 path .empty ∧
      ¬HoldsLast [("user", "ann")] .empty .empty) := by
  refine ⟨?_, ?_⟩
  · intro environment path disk call ended
    have absent : disk.isPresent path = false := by decide
    have directory : ended.2.isDirectory path = true := by decide
    refine ⟨by decide, absent, loads_of_not_isPresent absent,
      ProgramCall.assignment?_of_arguments environment rfl,
      ⟨.user, _, rfl, .text (by decide) "ann"⟩, by decide, ?_⟩
    rintro ⟨config, loads⟩
    exact loads.not_isDirectory directory
  · intro environment path disk first call second
    have empty : Loads second.2 path .empty := by
      rw [Loads]
      decide +kernel
    refine ⟨by decide, loads_of_not_isPresent (by decide), by decide +kernel,
      ProgramCall.assignment?_of_arguments environment rfl,
      ⟨.color, .truth true, rfl, .truth (by decide +kernel)⟩, FileTask.outcome_runFull ..,
      by decide +kernel, empty, fun holds => ?_⟩
    obtain ⟨value, _, given⟩ := holds.assigned .user [] "ann" [] rfl (List.forall_mem_nil _)
    cases given

end PlaylistRules
