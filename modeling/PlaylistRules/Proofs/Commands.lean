/-
This file proves what the commands on saved rules do to the files, on disks that may refuse
any change as well. Listing, showing and running leave the rule file alone, and so does
every command that fails. Adding and removing rules do to the file what they do to the map
of its rules. Sound rules run without a word about skipped expressions.
-/

import PlaylistRules.Program
import PlaylistRules.Proofs.AtomicSaves
import PlaylistRules.Proofs.Isolation

namespace PlaylistRules

open Storage Disk

/-! ### Reports -/

section

variable {sourceFault sinkFault : Type}

/-- Whether a report has no skipped expression, neither in its result nor in its events. -/
structure RunReport.IsClean (report : RunReport sourceFault sinkFault) : Prop where
  result : ∀ outcome, report.result = .ok outcome → outcome.skipped = []
  events : ∀ event ∈ report.events, event.message ≠ "skipping expression"

theorem RunReport.IsClean.withFaultEvent [Worded sourceFault] [Worded sinkFault]
    {report : RunReport sourceFault sinkFault} (clean : report.IsClean) :
    report.withFaultEvent.IsClean where
  result := by
    rw [result_withFaultEvent]
    exact clean.result
  events event member := by
    rw [RunReport.withFaultEvent] at member
    split at member
    case h_1 =>
      rcases List.mem_append.mp member with earlier | last
      · exact clean.events event earlier
      · rw [List.mem_singleton.mp last]
        change "rule failed" ≠ "skipping expression"
        decide
    case h_2 => exact clean.events event member

theorem mem_attemptEach {draws : Draws} {records : List Record} {texts : List String}
    {attempt : Attempt} (member : attempt ∈ attemptEach draws records texts) :
    ∃ text ∈ texts, ∃ draw, attempt =
      ⟨text, (Expression.parse text).map fun expression => expression.select draw records⟩ := by
  induction texts generalizing draws with
  | nil => cases member
  | cons text rest inductionHypothesis =>
    rcases List.mem_cons.mp member with rfl | later
    · exact ⟨text, List.mem_cons_self, _, rfl⟩
    · obtain ⟨other, inRest, found⟩ := inductionHypothesis later
      exact ⟨other, List.mem_cons_of_mem _ inRest, found⟩

/-- The records of a rule whose expressions can all be read are fetched and selected
without a word about skipped ones. -/
theorem Rule.message_selectionEvents {rule : Rule}
    (valid : ∀ text ∈ rule.expressions, isValid text = true) (draws : Draws)
    (records : List Record) :
    ∀ event ∈ rule.selectionEvents records (rule.attempts draws records),
      event.message ≠ "skipping expression" := by
  intro event member
  rcases List.mem_cons.mp member with rfl | member
  · change "fetched content" ≠ "skipping expression"
    decide
  obtain ⟨attempt, tried, rfl⟩ := List.mem_map.mp member
  obtain ⟨text, inRule, draw, rfl⟩ := mem_attemptEach tried
  obtain ⟨expression, parsed⟩ := (isValid_iff text).mp (valid text inRule)
  rw [Attempt.event, parsed]
  change "expression evaluated" ≠ "skipping expression"
  decide

/-- A rule whose expressions can all be read skips none. -/
theorem Rule.skipped_select_of_valid {rule : Rule}
    (valid : ∀ text ∈ rule.expressions, isValid text = true) (draws : Draws)
    (records : List Record) : (rule.select draws records).skipped = [] := by
  rw [skipped_select, List.filterMap_eq_nil_iff]
  intro text member
  obtain ⟨expression, parsed⟩ := (isValid_iff text).mp (valid text member)
  rw [faulty?, parsed]

end

/-! ### Actions beside a file -/

/-- Whether an action has answers of a kind only, and leaves the file at the place of a
path as it was on a disk, whatever is refused. -/
def Leaves (path : Path) (start : Disk) (wanted : α → Prop) (action : StateT Nat FileTask α) :
    Prop :=
  -- The disk at the start stays in view, so that places are compared on it alone.
  ∀ used disk result after, Preserves path start disk →
    FileTask.Outcome (action.run used) disk result after →
      wanted result.1 ∧ Preserves path start after

namespace Leaves

variable {path : Path} {start : Disk}

theorem pure {wanted : α → Prop} {answer : α} (good : wanted answer) :
    Leaves path start wanted (pure answer) := by
  intro used disk result after preserves outcome
  obtain ⟨rfl, rfl⟩ := FileTask.Outcome.of_done outcome
  exact ⟨good, preserves⟩

theorem bind {kind : α → Prop} {wanted : β → Prop} {action : StateT Nat FileTask α}
    {next : α → StateT Nat FileTask β} (first : Leaves path start kind action)
    (rest : ∀ answer, kind answer → Leaves path start wanted (next answer)) :
    Leaves path start wanted (action >>= next) := by
  intro used disk result after preserves outcome
  rw [StateT.run_bind] at outcome
  obtain ⟨⟨answer, used'⟩, between, firstly, lastly⟩ := outcome.of_bind
  obtain ⟨good, preserves⟩ := first used disk _ between preserves firstly
  exact rest answer good used' between result after preserves lastly

/-- Fetching records only reads. -/
theorem fetch (catalog : Path) (user : Option String) :
    Leaves path start (fun _ => True) ((CatalogFile.source catalog).fetch user) := by
  intro used disk result after preserves outcome
  change FileTask.Outcome (CatalogFile.fetch catalog user >>= _) disk result after at outcome
  obtain ⟨records, between, first, last⟩ := outcome.of_bind
  rw [last.of_done.2, (first.of_looks (CatalogFile.looks_fetch catalog user)).2]
  exact ⟨trivial, preserves⟩

end Leaves

/-- Making a playlist leaves the files alone that are neither at the place of its file nor
at that of the temporary file. -/
theorem preserves_of_store {folder path : Path} {disk after : Disk} {playlist : Playlist}
    (apart : disk.place path ≠ disk.place (PlaylistFolder.fileOf folder playlist.id))
    (aside : disk.place path ≠
      disk.place ((PlaylistFolder.fileOf folder playlist.id).withExtension "tmp"))
    {answer : Except PlaylistFault Playlist}
    (outcome : FileTask.Outcome (PlaylistFolder.store folder playlist) disk answer after) :
    Preserves path disk after := by
  refine ⟨.outcome outcome, fun _ => ?_⟩
  obtain ⟨made, middle, first, rest⟩ := outcome.of_bind
  have keeps : KeepsDirectories disk middle := .outcome first
  rw [← first.file?_of_makeLineage]
  rcases made with fault | made
  · rw [rest.of_done.2]
  obtain ⟨replaced, final, second, last⟩ := FileTask.Outcome.of_bind rest
  have same := second.entry?_of_replace (by rwa [keeps.place]) (by rwa [keeps.place])
  rcases replaced with fault | done <;> rw [last.of_done.2, file?_congr same]

/-- Whether no playlist with one of the stamps is written to the place of a path. -/
structure Avoids (disk : Disk) (folder : Path) (stamps : Nat → Stamp) (path : Path) : Prop where
  file : ∀ index, disk.place path ≠ disk.place (PlaylistFolder.fileOf folder (stamps index).id)
  temporary : ∀ index, disk.place path ≠
    disk.place ((PlaylistFolder.fileOf folder (stamps index).id).withExtension "tmp")

theorem Avoids.of_keeps {disk after : Disk} {folder path : Path} {stamps : Nat → Stamp}
    (avoids : Avoids disk folder stamps path) (keeps : KeepsDirectories disk after) :
    Avoids after folder stamps path where
  file index := keeps.place_ne (avoids.file index)
  temporary index := keeps.place_ne (avoids.temporary index)

namespace Leaves

variable {path folder : Path} {start : Disk} {stamps : Nat → Stamp}

/-- Making playlists leaves the files at other places alone. -/
theorem create (avoids : Avoids start folder stamps path) (name : String) (user : Option String)
    (items : List String) :
    Leaves path start (fun _ => True)
      ((PlaylistFolder.sink folder stamps).create name user items) := by
  intro used disk result after preserves outcome
  change FileTask.Outcome ((PlaylistFolder.add folder (stamps used) name user items >>= _) >>= _)
    disk result after at outcome
  obtain ⟨counted, between, lifted, last⟩ := outcome.of_bind
  obtain ⟨rfl, rfl⟩ := last.of_done
  obtain ⟨reply, between, first, last⟩ := lifted.of_bind
  obtain ⟨rfl, rfl⟩ := last.of_done
  have avoids := avoids.of_keeps preserves.keeps
  let playlist : Playlist := ⟨(stamps used).id, name, user, items, (stamps used).time⟩
  have stored : Preserves path disk after :=
    @preserves_of_store folder path disk after playlist (avoids.file used)
      (avoids.temporary used) reply first
  exact ⟨trivial, preserves.trans stored⟩

variable {rule : Rule}

theorem run (avoids : Avoids start folder stamps path) (catalog : Path) (draws : Draws)
    (valid : ∀ text ∈ rule.expressions, isValid text = true) :
    Leaves path start RunReport.IsClean
      (rule.run (CatalogFile.source catalog) (PlaylistFolder.sink folder stamps) draws) := by
  rw [Rule.run_eq]
  refine bind (fetch catalog rule.user) fun answer _ => ?_
  cases answer with
  | error fault => exact pure ⟨nofun, nofun⟩
  | ok records =>
    have skipped := rule.skipped_select_of_valid valid draws records
    have selecting := rule.message_selectionEvents valid draws records
    have ending {last : LogEvent} (other : last.message ≠ "skipping expression") :
        ∀ event ∈ rule.selectionEvents records (rule.attempts draws records) ++ [last],
          event.message ≠ "skipping expression" := fun event member =>
      (List.mem_append.mp member).elim (selecting event) fun same =>
        List.mem_singleton.mp same ▸ other
    dsimp only
    split
    case isTrue =>
      refine pure ⟨fun outcome same => by cases same; exact skipped, ending ?_⟩
      change "rule selected no items; no playlist created" ≠ "skipping expression"
      decide
    case isFalse =>
      refine bind (create avoids rule.name rule.user _) fun answer _ => ?_
      cases answer with
      | error fault => exact pure ⟨nofun, selecting⟩
      | ok playlist =>
        refine pure ⟨fun outcome same => by cases same; exact skipped, ending ?_⟩
        change "playlist created" ≠ "skipping expression"
        decide

/-- Rules whose expressions can all be read run beside a file that no playlist takes the
place of, and report no skipped expression. -/
theorem runAll (avoids : Avoids start folder stamps path) (catalog : Path) (draws : Nat → Draws)
    {rules : List Rule} (valid : ∀ rule ∈ rules, ∀ text ∈ rule.expressions, isValid text = true) :
    Leaves path start (fun reports => ∀ report ∈ reports, RunReport.IsClean report)
      (runAll (CatalogFile.source catalog) (PlaylistFolder.sink folder stamps) draws rules) := by
  induction rules generalizing draws with
  | nil => exact pure nofun
  | cons rule rest inductionHypothesis =>
    have others := fun draws => inductionHypothesis draws fun rule member =>
      valid rule (List.mem_cons_of_mem _ member)
    rw [PlaylistRules.runAll]
    split
    case isFalse => exact others _
    case isTrue =>
      refine bind (run avoids catalog _ (valid rule List.mem_cons_self)) fun report clean => ?_
      refine bind (others _) fun reports cleanToo => pure fun other member => ?_
      rcases List.mem_cons.mp member with rfl | later
      · exact clean.withFaultEvent
      · exact cleanToo other later

end Leaves

/-! ### What commands do -/

namespace CommandLine

/-- Whether a command changes the rules. -/
def RulesCommand.isChange : RulesCommand → Bool
  | .add .. | .remove .. => true
  | _ => false

/-- The map of rules that a command makes of a map. -/
def RulesCommand.applied : RulesCommand → RuleMap → RuleMap
  | .add name expressions user disabled, map =>
    map.insert (RuleSet.key name) ⟨name, expressions, user, !disabled⟩
  | .remove name _, map => map.erase (RuleSet.key name)
  | _, map => map

theorem RulesCommand.applied_of_passive {command : RulesCommand}
    (passive : command.isChange = false) (map : RuleMap) : command.applied map = map := by
  cases command with
  | add | remove => cases passive
  | _ => rfl

/-- Whether a command is not an addition without expressions. -/
def RulesCommand.HasExpressions : RulesCommand → Prop
  | .add _ expressions _ _ => expressions ≠ []
  | _ => True

/-- What a command may do to the rules of a map that are kept at a path: nothing if it
fails or only looks, and else what it does to the map. -/
structure Effect (command : RulesCommand) (path : Path) (map : RuleMap) (disk : Disk)
    (answer : Answer) (after : Disk) : Prop where
  unchanged : answer.fault ≠ none ∨ command.isChange = false → Preserves path disk after
  changed : answer.fault = none → command.isChange = true →
    ∃ set, RuleFile.Stores after path (command.applied map) set
  sound : answer.fault = none → map.IsSound → command.HasExpressions →
    (command.applied map).IsSound

namespace Effect

variable {command : RulesCommand} {path : Path} {map : RuleMap} {disk after : Disk}
  {answer : Answer}

theorem failed {fault : CommandFault} (preserves : Preserves path disk after) :
    Effect command path map disk (.failed fault) after :=
  ⟨fun _ => preserves, nofun, nofun⟩

/-- A command that ends in a fault before it changes anything. -/
theorem of_failed {mayRefuse : Bool} {fault : CommandFault}
    (comes : FileTask.ComesTo mayRefuse (.done (.failed fault)) disk answer after) :
    Effect command path map disk answer after := by
  obtain ⟨rfl, rfl⟩ := comes.of_done
  exact .failed (.refl _ _)

theorem looked (look : ∀ map, command.applied map = map) (passive : command.isChange = false)
    (preserves : Preserves path disk after) : Effect command path map disk answer after :=
  ⟨fun _ => preserves, fun _ active => absurd (passive.symm.trans active) Bool.false_ne_true,
    fun _ sound _ => (look map).symm ▸ sound⟩

/-- A command that changed the rules without a fault. -/
theorem stored {set : RuleSet} (active : command.isChange = true) (none : answer.fault = none)
    (stores : RuleFile.Stores after path (command.applied map) set)
    (sound : map.IsSound → command.HasExpressions → (command.applied map).IsSound) :
    Effect command path map disk answer after where
  unchanged := by
    rintro (failed | passive)
    · exact absurd none failed
    · exact absurd (passive.symm.trans active) Bool.false_ne_true
  changed _ _ := ⟨set, stores⟩
  sound _ := sound

/-- The rules of a map are kept on when an effect is applied to it. -/
theorem holds (effect : Effect command path map disk answer after)
    (holds : RuleFile.Holds disk path map) :
    RuleFile.Holds after path (if answer.fault = none then command.applied map else map) := by
  split
  case isTrue none =>
    cases active : command.isChange with
    | true => exact .inr (effect.changed none active)
    | false =>
      rw [command.applied_of_passive active]
      exact holds.preserved (effect.unchanged (.inr active))
  case isFalse failed => exact holds.preserved (effect.unchanged (.inl failed))

end Effect

theorem valid_of_firstFault? {expressions : List String} (none : firstFault? expressions = none) :
    ∀ text ∈ expressions, isValid text = true := by
  intro text member
  have read := List.findSome?_eq_none_iff.mp none text member
  cases parsed : Expression.parse text with
  | error fault =>
    rw [parsed] at read
    cases read
  | ok expression => exact (isValid_iff text).mpr ⟨expression, parsed⟩

variable {display : Display} {workspace : Workspace} {map : RuleMap} {disk after : Disk}
  {answer : Answer} {mayRefuse : Bool}

theorem effect_addRule (holds : RuleFile.Holds disk workspace.rules map)
    (safe : RuleFile.IsSafe mayRefuse disk workspace.rules)
    {name : String} {expressions : List String} {user : Option String} {disabled : Bool}
    (comes : FileTask.ComesTo mayRefuse
      (addRule display workspace ⟨name, expressions, user, !disabled⟩) disk answer after) :
    Effect (.add name expressions user disabled) workspace.rules map disk answer after := by
  rw [addRule] at comes
  split at comes
  case h_1 => exact .of_failed comes
  case h_2 none =>
    have valid := valid_of_firstFault? none
    replace comes := comes.of_looks_bind (RuleFile.looks_loadOrEmpty _)
    rcases holds.loadOrEmpty_cases with ⟨fault, failed⟩ | ⟨set, loaded, version, entries⟩
    · rw [failed] at comes
      exact .of_failed comes
    rw [loaded] at comes
    let rule : Rule := ⟨name, expressions, user, !disabled⟩
    obtain ⟨saved, between, save, last⟩ := FileTask.ComesTo.of_bind comes
    rcases RuleFile.comesTo_save_cases safe save with ⟨fault, rfl, preserves⟩ | ⟨rfl, content⟩
    · obtain ⟨rfl, rfl⟩ := last.of_done
      exact .failed preserves
    · obtain ⟨rfl, rfl⟩ := last.of_done
      refine .stored rfl rfl ⟨?_, RuleSet.entries_upsert entries rule, content⟩ ?_
      · rw [RuleSet.version_upsert, version]
      · intro sound nonempty
        have good : rule.IsSound := ⟨nonempty, valid⟩
        exact sound.insert good _

theorem effect_removeRule (holds : RuleFile.Holds disk workspace.rules map)
    (safe : RuleFile.IsSafe mayRefuse disk workspace.rules)
    {name : String} {force : Bool}
    (comes : FileTask.ComesTo mayRefuse (removeRule display workspace name force) disk answer
      after) :
    Effect (.remove name force) workspace.rules map disk answer after := by
  replace comes := comes.of_looks_bind (RuleFile.looks_loadOrEmpty _)
  rcases holds.loadOrEmpty_cases with ⟨fault, failed⟩ | ⟨set, loaded, version, entries⟩
  · rw [failed] at comes
    exact .of_failed comes
  rw [loaded] at comes
  dsimp only at comes
  cases found : set.get? name with
  | none =>
    rw [found] at comes
    exact .of_failed comes
  | some rule =>
    rw [found] at comes
    dsimp only at comes
    split at comes
    case isFalse => exact .of_failed comes
    case isTrue =>
      obtain ⟨saved, between, save, last⟩ := FileTask.ComesTo.of_bind comes
      rcases RuleFile.comesTo_save_cases safe save with ⟨fault, rfl, preserves⟩ | ⟨rfl, content⟩
      · obtain ⟨rfl, rfl⟩ := last.of_done
        exact .failed preserves
      · obtain ⟨rfl, rfl⟩ := last.of_done
        refine .stored rfl rfl ⟨?_, ?_, content⟩ fun sound _ => sound.erase _
        · rw [RuleSet.version_remove, version]
        · rw [RuleSet.entries_remove entries, RuleSet.key_of_get? found]
          rfl

/-- What running rules comes to: a fault, or the answer about reports without skipped
expressions. -/
def IsCleanAnswer (display : Display) (answer : Answer) : Prop :=
  (∃ fault, answer = .failed fault) ∨
    ∃ rules catalog reports,
      answer = runAnswer display (runningNotices display rules catalog) reports ∧
        ∀ report ∈ reports, RunReport.IsClean report

theorem valid_of_entries {set : RuleSet} (entries : set.entries = map.entries)
    (sound : map.IsSound) {rule : Rule} (member : rule ∈ set.rules) :
    ∀ text ∈ rule.expressions, isValid text = true := by
  refine (sound (RuleSet.entryOf rule) ?_).valid
  rw [← entries]
  exact List.mem_map_of_mem member

theorem valid_of_chosenRules {set : RuleSet} (entries : set.entries = map.entries)
    (sound : map.IsSound) {name : Option String} {rules : List Rule}
    (chosen : chosenRules set name = .ok rules) :
    ∀ rule ∈ rules, ∀ text ∈ rule.expressions, isValid text = true := by
  intro rule member
  cases name with
  | none =>
    cases chosen
    exact valid_of_entries entries sound member
  | some name =>
    rw [chosenRules] at chosen
    split at chosen
    case h_1 found =>
      cases chosen
      have valid := valid_of_entries entries sound (RuleSet.mem_of_get? found)
      rw [List.mem_singleton.mp member]
      exact valid
    case h_2 => cases chosen

/-- Running rules leaves alone the files that no playlist takes the place of, and reports
no skipped expression. -/
theorem leaves_runRules {path : Path} {stamps : Nat → Stamp} {draws : Nat → Draws}
    {name : Option String} (holds : RuleFile.Holds disk workspace.rules map)
    (sound : map.IsSound) (avoids : Avoids disk workspace.playlists stamps path)
    (outcome : FileTask.Outcome (runRules display workspace stamps draws name) disk answer after) :
    IsCleanAnswer display answer ∧ Preserves path disk after := by
  have refused {fault : CommandFault}
      (outcome : FileTask.Outcome (.done (.failed fault)) disk answer after) :
      IsCleanAnswer display answer ∧ Preserves path disk after := by
    obtain ⟨rfl, rfl⟩ := outcome.of_done
    exact ⟨.inl ⟨_, rfl⟩, .refl _ _⟩
  obtain ⟨loaded, between, first, outcome⟩ := outcome.of_bind
  obtain ⟨rfl, rfl⟩ := first.of_looks (RuleFile.looks_loadOrEmpty _)
  rcases holds.loadOrEmpty_cases with ⟨fault, failed⟩ | ⟨set, loaded, _, entries⟩
  · rw [failed] at outcome
    exact refused outcome
  rw [loaded] at outcome
  dsimp only at outcome
  split at outcome
  case h_1 => exact refused outcome
  case h_2 => exact refused outcome
  case h_3 rules catalog chosen _ =>
    have valid := valid_of_chosenRules entries sound chosen
    obtain ⟨reports, between, first, last⟩ := outcome.of_bind
    obtain ⟨clean, preserves⟩ :=
      Leaves.runAll avoids catalog draws valid 0 _ reports _ (.refl _ _) first
    obtain ⟨rfl, rfl⟩ := last.of_done
    exact ⟨.inr ⟨rules, catalog, _, rfl, clean⟩, preserves⟩

theorem looks_listRules (display : Display) (workspace : Workspace) :
    (listRules display workspace).Looks := by
  refine (RuleFile.looks_loadOrEmpty workspace.rules).bind fun loaded => ?_
  cases loaded <;> exact .done _

theorem looks_showRule (display : Display) (workspace : Workspace) (name : String) :
    (showRule display workspace name).Looks := by
  refine (RuleFile.looks_loadOrEmpty workspace.rules).bind fun loaded => ?_
  cases loaded with
  | error fault => exact .done _
  | ok set =>
    dsimp only
    split <;> exact .done _

variable {circumstances : Circumstances} {command : RulesCommand}

/-- What any command does to the rules. -/
theorem effect_answerRules (holds : RuleFile.Holds disk workspace.rules map) (sound : map.IsSound)
    (safe : RuleFile.IsSafe mayRefuse disk workspace.rules)
    (avoids : Avoids disk workspace.playlists circumstances.stamps workspace.rules)
    (comes : FileTask.ComesTo mayRefuse
      (Program.answerRules circumstances display workspace command) disk answer after) :
    Effect command workspace.rules map disk answer after := by
  cases command with
  | list => exact .looked (fun _ => rfl) rfl (.of_looks (looks_listRules ..) comes.outcome)
  | «show» name =>
    exact .looked (fun _ => rfl) rfl (.of_looks (looks_showRule ..) comes.outcome)
  | add name expressions user disabled => exact effect_addRule holds safe comes
  | remove name force => exact effect_removeRule holds safe comes
  | run name =>
    exact .looked (fun _ => rfl) rfl (leaves_runRules holds sound avoids comes.outcome).2

section

variable {path : Path} (apart : disk.place path ≠ disk.place workspace.rules)
  (aside : disk.place path ≠ disk.place (workspace.rules.withExtension "tmp"))

include apart aside

theorem preserves_of_addRule {rule : Rule}
    (outcome : FileTask.Outcome (addRule display workspace rule) disk answer after) :
    Preserves path disk after := by
  rw [addRule] at outcome
  split at outcome
  case h_1 => exact .of_looks (.done _) outcome
  case h_2 =>
    obtain ⟨loaded, between, first, rest⟩ := outcome.of_bind
    obtain ⟨rfl, rfl⟩ := first.of_looks (RuleFile.looks_loadOrEmpty _)
    split at rest
    case h_1 => exact .of_looks (.done _) rest
    case h_2 set _ =>
      obtain ⟨saved, between, save, last⟩ := FileTask.Outcome.of_bind rest
      have kept := RuleFile.preserves_of_save apart aside save
      rcases saved with fault | done <;> rwa [last.of_done.2]

theorem preserves_of_removeRule {name : String} {force : Bool}
    (outcome : FileTask.Outcome (removeRule display workspace name force) disk answer after) :
    Preserves path disk after := by
  obtain ⟨loaded, between, first, rest⟩ := outcome.of_bind
  obtain ⟨rfl, rfl⟩ := first.of_looks (RuleFile.looks_loadOrEmpty _)
  split at rest
  case h_1 => exact .of_looks (.done _) rest
  case h_2 =>
    split at rest
    case h_1 => exact .of_looks (.done _) rest
    case h_2 =>
      split at rest
      case isFalse => exact .of_looks (.done _) rest
      case isTrue =>
        obtain ⟨saved, between, save, last⟩ := FileTask.Outcome.of_bind rest
        have kept := RuleFile.preserves_of_save apart aside save
        rcases saved with fault | done <;> rwa [last.of_done.2]

end

/-- No command changes a file that is none of those it writes. -/
theorem preserves_answerRules {path : Path} (holds : RuleFile.Holds disk workspace.rules map)
    (sound : map.IsSound) (avoids : Avoids disk workspace.playlists circumstances.stamps path)
    (apart : disk.place path ≠ disk.place workspace.rules)
    (aside : disk.place path ≠ disk.place (workspace.rules.withExtension "tmp"))
    (outcome : FileTask.Outcome (Program.answerRules circumstances display workspace command) disk
      answer after) :
    Preserves path disk after := by
  cases command with
  | list => exact .of_looks (looks_listRules ..) outcome
  | «show» name => exact .of_looks (looks_showRule ..) outcome
  | add => exact preserves_of_addRule apart aside outcome
  | remove => exact preserves_of_removeRule apart aside outcome
  | run => exact (leaves_runRules holds sound avoids outcome).2

end CommandLine

end PlaylistRules
