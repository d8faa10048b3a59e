/-
This file says when a rule that was removed is gone. Removing takes out the first rule
with a key, and looking up finds the first one that is left. A rule file is loaded as it
is, also if some of its names are the same but for letter case. So a name is gone after
its removal exactly if it was the only one with its key, and every name is if and only if
no two names share a key.
-/

import PlaylistRules.Proofs.Decoded
import PlaylistRules.Proofs.RuleHistories
import PlaylistRules.Proofs.Sessions

namespace PlaylistRules

open Storage CommandLine

/-! ### The rules with a key -/

namespace RuleSet

/-- The names of a set in lowercase. -/
def keys (set : RuleSet) : List String :=
  set.names.map Text.lowercase

theorem isDistinct_iff (set : RuleSet) : set.IsDistinct ↔ set.keys.Nodup := by
  rw [IsDistinct, entries, keys, names, List.map_map, List.map_map]
  rfl

/-- Taking out the first rule with a key leaves the later ones. -/
theorem filter_takeFirst (wanted : String) (rules : List Rule) :
    (takeFirst wanted rules = none ∧ rules.filter (hasKey wanted) = []) ∨
      ∃ old rest, takeFirst wanted rules = some (old, rest) ∧
        rules.filter (hasKey wanted) = old :: rest.filter (hasKey wanted) := by
  induction rules with
  | nil => exact .inl ⟨rfl, rfl⟩
  | cons head rest inductionHypothesis =>
    rw [takeFirst]
    cases same : hasKey wanted head with
    | true => exact .inr ⟨head, rest, rfl, List.filter_cons_of_pos same⟩
    | false =>
      have skipped (rules : List Rule) :
          (head :: rules).filter (hasKey wanted) = rules.filter (hasKey wanted) :=
        List.filter_cons_of_neg (by simp [same])
      rcases inductionHypothesis with ⟨kept, absent⟩ | ⟨old, others, taken, split⟩
      · exact .inl ⟨by simp [kept], (skipped rest).trans absent⟩
      · exact .inr ⟨old, head :: others, by simp [taken], by rw [skipped, skipped, split]⟩

/-- After a name was removed, looking it up finds the second rule with its key. -/
theorem get?_remove (set : RuleSet) (name : String) :
    (set.remove name).2.get? name = (set.rules.filter (hasKey (key name)))[1]? := by
  rw [remove, get?]
  rcases filter_takeFirst (key name) set.rules with ⟨kept, absent⟩ | ⟨old, rest, taken, split⟩
  · rw [kept, absent, ← List.head?_filter, absent]
    rfl
  · rw [taken, split, List.getElem?_cons_succ, ← List.head?_eq_getElem?, List.head?_filter]

theorem count_keys (set : RuleSet) (name : String) :
    set.keys.count (key name) = (set.rules.filter (hasKey (key name))).length := by
  rw [keys, names, List.map_map, List.count, List.countP_map, List.countP_eq_length_filter]
  rfl

theorem get?_remove_of_absent {set : RuleSet} {name : String} (absent : set.get? name = none) :
    (set.remove name).2.get? name = none := by
  rw [get?, ← List.head?_filter, List.head?_eq_none_iff] at absent
  rw [get?_remove, absent]
  rfl

/-- A name that was removed is gone exactly if at most one rule had its key. -/
theorem get?_remove_eq_none_iff (set : RuleSet) (name : String) :
    (set.remove name).2.get? name = none ↔ set.keys.count (key name) ≤ 1 := by
  rw [get?_remove, List.getElem?_eq_none_iff, count_keys]

/-- Every removal leaves no rule with its name exactly if no two names share a key. -/
theorem nodup_keys_iff (set : RuleSet) :
    set.keys.Nodup ↔ ∀ name, (set.remove name).1.isSome = true →
      (set.remove name).2.get? name = none := by
  rw [List.nodup_iff_count_le_one]
  constructor
  · exact fun once name _ => (get?_remove_eq_none_iff set name).mpr (once (key name))
  · intro gone wanted
    by_cases member : wanted ∈ set.keys
    · obtain ⟨name, inNames, rfl⟩ := List.mem_map.mp member
      refine (get?_remove_eq_none_iff set name).mp (gone name ?_)
      obtain ⟨rule, inRules, rfl⟩ := List.mem_map.mp inNames
      rw [fst_remove, get?, List.find?_isSome]
      exact ⟨rule, inRules, beq_self_eq_true _⟩
    · rw [List.count_eq_zero_of_not_mem member]
      exact Nat.zero_le 1

theorem IsDistinct.answerEach {set : RuleSet} (distinct : set.IsDistinct)
    (requests : List RuleRequest) : (answerEach answer set requests).2.IsDistinct := by
  have same : set.entries = (set.toMap distinct).entries := rfl
  obtain ⟨_, entries, _⟩ := answerEach_of_entries same requests
  rw [IsDistinct, entries]
  exact RuleMap.distinct _

end RuleSet

/-! ### Loading -/

section

variable {path : Path} {disk : Disk} {set : RuleSet}

theorem Storage.RuleFile.run_loadOrEmpty_of_load
    (stored : ((RuleFile.load path).run disk).1 = .ok set) :
    (RuleFile.loadOrEmpty path).run disk = (.ok set, disk) := by
  rw [RuleFile.loadOrEmpty, FileTask.run_bind, RuleFile.run_load]
  rw [RuleFile.run_load] at stored
  rw [show RuleFile.loaded path (disk.read path) = .ok set from stored]
  rfl

/-- A set that was loaded has a version of 32 bits. -/
theorem Storage.RuleFile.version_lt_of_load (stored : ((RuleFile.load path).run disk).1 = .ok set) :
    set.version < 2 ^ 32 := by
  rw [RuleFile.run_load] at stored
  cases read : disk.read path with
  | error fault =>
    rw [read] at stored
    cases stored
  | ok text =>
    rw [read, loaded, ofText] at stored
    split at stored
    case h_2 => cases stored
    case h_1 found =>
      cases stored
      obtain ⟨value, _, decoded⟩ := Option.bind_eq_some_iff.mp found
      exact RuleSet.version_lt_of_ofJson? decoded

/-! ### Removing and showing -/

namespace CommandLine

/-- Showing a name that a set has not is a fault, and every other name is shown. -/
theorem run_showRule_cases (stored : ((RuleFile.load path).run disk).1 = .ok set)
    (display : Display) (workspace : Workspace) (same : workspace.rules = path) (name : String) :
    set.get? name = none ∧
        ((showRule display workspace name).run disk).1 = .failed (.unknownRule name) ∨
      (∃ rule, set.get? name = some rule) ∧
        ((showRule display workspace name).run disk).1.fault = none := by
  rw [showRule, FileTask.run_bind, same, RuleFile.run_loadOrEmpty_of_load stored]
  dsimp only
  cases found : set.get? name with
  | none => exact .inl ⟨rfl, rfl⟩
  | some rule => exact .inr ⟨⟨rule, rfl⟩, rfl⟩

/-- Removing without asking fails on a name that the set has not, and leaves the file as it
is; else the set without the rule is saved, or saving fails. -/
theorem run_removeRule_cases (stored : ((RuleFile.load path).run disk).1 = .ok set)
    (display : Display) (workspace : Workspace) (same : workspace.rules = path) (name : String) :
    set.get? name = none ∧
        (removeRule display workspace name true).run disk = (.failed (.unknownRule name), disk) ∨
      (∃ fault after, (removeRule display workspace name true).run disk =
        (.failed (.ruleFile fault), after)) ∨
      ∃ answer after, (removeRule display workspace name true).run disk = (answer, after) ∧
        ((RuleFile.load path).run after).1 = .ok (set.remove name).2 := by
  rw [removeRule, FileTask.run_bind, same, RuleFile.run_loadOrEmpty_of_load stored]
  dsimp only
  cases found : set.get? name with
  | none => exact .inl ⟨rfl, rfl⟩
  | some rule =>
    have spelled : set.remove rule.name = set.remove name := by
      rw [RuleSet.remove, RuleSet.remove, RuleSet.key_of_get? found]
    dsimp only
    rw [if_pos (Bool.true_or _), saveWithout, FileTask.run_bind, spelled]
    rcases RuleFile.run_save_cases path (set.remove name).2 disk with
      ⟨fault, after, failed, _⟩ | ⟨after, saved, content⟩
    · rw [failed]
      exact .inr (.inl ⟨fault, after, rfl⟩)
    · rw [saved]
      have small : (set.remove name).2.version < 2 ^ 32 := by
        rw [RuleSet.version_remove]
        exact RuleFile.version_lt_of_load stored
      exact .inr (.inr ⟨_, after, rfl,
        congrArg Prod.fst (RuleFile.run_load_of_small small content)⟩)

end CommandLine

end

/-! ### Two calls -/

/-- A call that removes a name without asking and ends well or does not find it, and a
later call that shows the name, where both calls find one configuration. -/
structure RemovesThenShows (environment : Environment) (config : Config) (workspace : Workspace)
    (disk : Disk) (set : RuleSet) (name : String) (first second : ProgramCall)
    (options : Options) : Prop where
  placed : environment.workspace none config = .ok workspace
  stored : ((RuleFile.load workspace.rules).run disk).1 = .ok set
  loads : ((loadConfig environment).run disk).1 = .ok config
  removes : first.command? environment = some (.remove name true)
  ends : (first.run environment disk).1.exitCode ≤ 1
  loadsAgain : ((loadConfig environment).run (first.run environment disk).2).1 = .ok config
  shows : Invocation.ofArguments environment second.arguments = .ok ⟨options, .rules (.show name)⟩

section

variable {environment : Environment} {config : Config} {workspace : Workspace} {disk : Disk}
  {set : RuleSet} {name : String} {first second : ProgramCall} {options : Options}

/-- A call on saved rules comes to what its command answers in the workspace. -/
theorem ProgramCall.run_of_loaded {call : ProgramCall} {command : RulesCommand}
    (asks : Invocation.ofArguments environment call.arguments = .ok ⟨options, .rules command⟩)
    (loads : ((loadConfig environment).run disk).1 = .ok config)
    (placed : environment.workspace none config = .ok workspace) :
    ∃ catalog,
      let result := (Program.answerRules (call.circumstances environment)
        (Display.of environment options config) { workspace with catalog := catalog } command).run
          disk
      call.run environment disk = (result.1.ending environment options call.time, result.2) := by
  obtain ⟨catalog, ran⟩ := run_answer_of_loaded call
    (Prod.ext loads ((looks_loadConfig environment).snd_run disk)) placed options command
  exact ⟨catalog, by rw [ProgramCall.run_of_accepted asks, ran]⟩

theorem ProgramCall.exists_options {call : ProgramCall} {command : RulesCommand}
    (asks : call.command? environment = some command) : ∃ options,
      Invocation.ofArguments environment call.arguments = .ok ⟨options, .rules command⟩ := by
  rw [ProgramCall.command?] at asks
  split at asks
  case h_1 options other accepted =>
    cases asks
    exact ⟨options, accepted⟩
  case h_2 => cases asks

/-- What the second of two calls finds is what the set without the name has at it. -/
theorem RemovesThenShows.ending_eq_iff
    (calls : RemovesThenShows environment config workspace disk set name first second options) :
    (second.run environment (first.run environment disk).2).1 =
        (Answer.failed (.unknownRule name)).ending environment options second.time ↔
      (set.remove name).2.get? name = none := by
  obtain ⟨placed, stored, loads, removes, ends, loadsAgain, shows⟩ := calls
  obtain ⟨firstOptions, asks⟩ := ProgramCall.exists_options removes
  obtain ⟨catalog, ran⟩ := ProgramCall.run_of_loaded asks loads placed
  obtain ⟨laterCatalog, ranLater⟩ := ProgramCall.run_of_loaded shows loadsAgain placed
  rw [ranLater]
  rw [ran] at ends ⊢
  dsimp only [Program.answerRules] at ends ⊢
  rcases run_removeRule_cases stored (Display.of environment firstOptions config)
    { workspace with catalog := catalog } rfl name with
    ⟨absent, unchanged⟩ | ⟨fault, after, failed⟩ | ⟨answer, after, removed, storedAfter⟩
  · rw [unchanged]
    rcases run_showRule_cases stored (Display.of environment options config)
      { workspace with catalog := laterCatalog } rfl name with
      ⟨_, shown⟩ | ⟨⟨rule, found⟩, _⟩
    · exact iff_of_true (by rw [shown]) (RuleSet.get?_remove_of_absent absent)
    · cases absent.symm.trans found
  · rw [failed] at ends
    exact absurd ends (Nat.not_le.mpr (show 1 < 5 by decide))
  · rw [removed]
    rcases run_showRule_cases storedAfter (Display.of environment options config)
      { workspace with catalog := laterCatalog } rfl name with
      ⟨absent, shown⟩ | ⟨⟨rule, found⟩, shown⟩
    · exact iff_of_true (by rw [shown]) absent
    · refine iff_of_false (fun same => ?_) (by simp [found])
      have ended := (exitCode_ending environment options second.time _).mpr shown
      rw [same] at ended
      cases ended

end

/-- The names that are loaded may share keys. No two do exactly if every removal, after
whatever was inserted and removed before, leaves nothing to find at the name. And a call
that shows a name after one that removed it reports that there is no such rule exactly if
at most one rule of the file had the key of the name. -/
theorem removed_name_gone_iff (set : RuleSet) :
    (set.keys.Nodup ↔ ∀ requests name,
      let after := (answerEach RuleSet.answer set requests).2
      (after.remove name).1.isSome = true → (after.remove name).2.get? name = none) ∧
    ∀ {environment config workspace disk name first second options},
      RemovesThenShows environment config workspace disk set name first second options →
        ((second.run environment (first.run environment disk).2).1 =
            (Answer.failed (.unknownRule name)).ending environment options second.time ↔
          set.keys.count (RuleSet.key name) ≤ 1) := by
  refine ⟨⟨fun distinct requests name => ?_, fun gone => ?_⟩, fun calls => ?_⟩
  · have still := (set.isDistinct_iff.mpr distinct).answerEach requests
    exact (RuleSet.nodup_keys_iff _).mp ((RuleSet.isDistinct_iff _).mp still) name
  · exact set.nodup_keys_iff.mpr (gone [])
  · rw [calls.ending_eq_iff, RuleSet.get?_remove_eq_none_iff]

/-- The only rule of a file written by hand is removed under another spelling of its name,
and is not found any more. -/
theorem removed_name_gone_iff_alone :
    let text := "\x7b\"rules\":[\x7b\"name\":\"Noir\",\"expressions\":[]\x7d]\x7d"
    let set : RuleSet := ⟨1, [⟨"Noir", [], none, true⟩]⟩
    let call (arguments : List String) : ProgramCall :=
      ⟨"rules" :: arguments, ⟨0, 0⟩, fun _ => ⟨"new", ⟨0, 0⟩⟩, fun _ _ => 0⟩
    let environment : Environment := ⟨[("XDG_DATA_HOME", "/"), ("HOME", "/home")], none⟩
    let folder := (Path.ofText "/").child "smartlist"
    let workspace : Workspace := ⟨none, folder.child "playlists", folder.child "rules.json", none⟩
    let disk : Disk := ⟨[(["smartlist"], .directory),
      (["rules.json", "smartlist"], .file text.toUTF8)], [], []⟩
    let first := call ["remove", "NOIR", "--force"]
    let second := call ["show", "NOIR"]
    let options : Options := ⟨false, false, false, false, none⟩
    RemovesThenShows environment .empty workspace disk set "NOIR" first second options ∧
      (second.run environment (first.run environment disk).2).1 =
        (Answer.failed (.unknownRule "NOIR")).ending environment options second.time := by
  intro text set call environment folder workspace disk first second options
  have calls :
      RemovesThenShows environment .empty workspace disk set "NOIR" first second options :=
    ⟨rfl, by decide +kernel, by decide +kernel, by decide +kernel, by decide +kernel,
      by decide +kernel, by decide +kernel⟩
  exact ⟨calls, ((removed_name_gone_iff set).2 calls).mpr (by decide +kernel)⟩

/-- A file written by hand with two names that are the same but for letter case is loaded.
One is removed, and the other is shown at the same name. -/
theorem not_removed_name_gone_hand_written :
    let text := "\x7b\"rules\":[\x7b\"name\":\"Noir\",\"expressions\":[]\x7d," ++
      "\x7b\"name\":\"NOIR\",\"expressions\":[]\x7d]\x7d"
    let set : RuleSet := ⟨1, [⟨"Noir", [], none, true⟩, ⟨"NOIR", [], none, true⟩]⟩
    let call (arguments : List String) : ProgramCall :=
      ⟨"rules" :: arguments, ⟨0, 0⟩, fun _ => ⟨"new", ⟨0, 0⟩⟩, fun _ _ => 0⟩
    let environment : Environment :=
      ⟨[("SMARTLIST_CONFIG", "config.toml"), ("HOME", "/home")], none⟩
    let disk : Disk := ⟨[(["work"], .directory),
      (["config.toml", "work"], .file "rules_file = \"rules.json\"\n".toUTF8),
      (["rules.json", "work"], .file text.toUTF8)], ["work"], []⟩
    let removed := (call ["remove", "noir", "--force"]).run environment disk
    RuleFile.ofText text = .ok set ∧ ¬set.keys.Nodup ∧ (set.remove "noir").1.isSome = true ∧
      (set.remove "noir").2.get? "noir" ≠ none ∧ removed.1.exitCode = 0 ∧
      ((call ["show", "noir"]).run environment removed.2).1.exitCode = 0 := by
  exact ⟨by decide +kernel, by decide +kernel, by decide +kernel, by decide +kernel,
    by decide +kernel, by decide +kernel⟩

end PlaylistRules
