/-
This file proves that the rule file stays healthy however often the program is called
with commands on saved rules. Each call leaves a file that can be loaded and holds the
rules of a map, to which the additions and removals that succeeded were applied. The
configuration must be one that the calls do not change: it may be neither at the place
of the rule file nor at that of its temporary file, and it must be found from the start.

The disk may refuse any change. Only a rule file that is its own temporary file is written
in place, and so stays healthy for sure only where nothing is refused.
-/

import PlaylistRules.Proofs.Commands
import PlaylistRules.Proofs.ConfigFiles

namespace PlaylistRules

open Storage CommandLine Calendar
open Disk hiding Ending

/-! ### Arguments -/

namespace CommandLine

theorem bind_eq_ok {first : Except ε α} {next : α → Except ε β} {result : β}
    (done : (first >>= next) = .ok result) :
    ∃ answer, first = .ok answer ∧ next answer = .ok result := by
  cases first with
  | error fault => cases done
  | ok answer => exact ⟨answer, rfl, done⟩

theorem leastWords_of_finish {reading : Reading} {entry : Level × Given}
    (finished : reading.finish = .ok entry) : entry.1.leastWords ≤ entry.2.words.length := by
  rw [Reading.finish] at finished
  obtain ⟨settled, _, finished⟩ := bind_eq_ok finished
  dsimp only at finished
  split at finished
  case isTrue => cases finished
  case isFalse =>
    split at finished
    case isTrue => cases finished
    case isFalse enough =>
      cases finished
      exact Nat.not_lt.mp enough

/-- A level whose arguments are accepted was given all the words that it needs. -/
theorem leastWords_of_readArguments {arguments : List String} {reading : Reading}
    {levels : List (Level × Given)} (accepted : readArguments reading arguments = .ok levels) :
    ∀ entry ∈ levels, entry.1.leastWords ≤ entry.2.words.length := by
  induction arguments generalizing reading levels with
  | nil =>
    rw [readArguments] at accepted
    obtain ⟨entry, finished, same⟩ := bind_eq_ok accepted
    cases same
    intro other member
    rw [List.mem_singleton.mp member]
    exact leastWords_of_finish finished
  | cons argument rest inductionHypothesis =>
    rw [readArguments] at accepted
    have goesOn
        (accepted : (do readArguments (← reading.readArgument argument) rest) = .ok levels) :
        ∀ entry ∈ levels, entry.1.leastWords ≤ entry.2.words.length := by
      obtain ⟨next, _, accepted⟩ := bind_eq_ok accepted
      exact inductionHypothesis accepted
    split at accepted
    case isFalse => exact goesOn accepted
    case isTrue =>
      split at accepted
      case h_1 =>
        obtain ⟨inner, read, accepted⟩ := bind_eq_ok accepted
        obtain ⟨entry, finished, same⟩ := bind_eq_ok accepted
        cases same
        intro other member
        rcases List.mem_cons.mp member with rfl | later
        · exact leastWords_of_finish finished
        · exact inductionHypothesis read other later
      case h_2 =>
        split at accepted
        case isTrue => cases accepted
        case isFalse => exact goesOn accepted

/-- A rule is added with at least one expression. -/
theorem hasExpressions_of_arguments {environment : Environment} {arguments : List String}
    {invocation : Invocation} {command : RulesCommand}
    (accepted : Invocation.ofArguments environment arguments = .ok invocation)
    (same : invocation.command = .rules command) : command.HasExpressions := by
  rw [Invocation.ofArguments] at accepted
  cases read : readLine arguments with
  | error stop =>
    rw [read] at accepted
    cases accepted
  | ok levels =>
    rw [read] at accepted
    cases accepted
    dsimp only at same
    cases last : levels.getLast? with
    | none =>
      rw [last] at same
      cases same
    | some entry =>
      obtain ⟨level, given⟩ := entry
      have enough := leastWords_of_readArguments read _ (List.mem_of_getLast? last)
      rw [last] at same
      change Command.ofLevel given level = .rules command at same
      cases level
      case addRule =>
        cases same
        intro none
        have few := congrArg List.length none
        rw [List.length_tail, List.length_nil] at few
        change 2 ≤ given.words.length at enough
        omega
      all_goals cases same <;> trivial

end CommandLine

/-! ### The configuration -/

section

variable {environment : Environment} {disk after : Disk} {path : Path} {config : Config}
  {workspace : Workspace}

theorem looks_loadConfig (environment : Environment) : (loadConfig environment).Looks := by
  rw [loadConfig]
  split
  case h_1 => exact .done _
  case h_2 path _ =>
    refine (ConfigFile.looks_load path).bind fun loaded => ?_
    cases loaded <;> exact .done _

/-- A configuration that was loaded is loaded again, or not at all, as long as its file
stays. -/
theorem loadConfig_cases (configured : environment.configPath? = some path)
    (found : IsFound disk path) (loads : ((ConfigFile.load path).run disk).1 = .ok config)
    (preserves : Preserves path disk after) :
    (∃ fault, (loadConfig environment).run after = (.error fault, after)) ∨
      (loadConfig environment).run after = (.ok config, after) := by
  have again : (∃ fault, (ConfigFile.load path).run after = (.error fault, after)) ∨
      (ConfigFile.load path).run after = (.ok config, after) := by
    have unchanged := (ConfigFile.looks_load path).snd_run after
    rcases ConfigFile.Loads.again loads (preserves.contentAt? found) with
      loads | ⟨_, directory⟩
    · exact .inr (Prod.ext loads unchanged)
    · exact .inl ⟨_, Prod.ext (ConfigFile.load_of_isDirectory directory) unchanged⟩
  rw [loadConfig, configPath, configured]
  simp only [FileTask.run_bind]
  rcases again with ⟨fault, failed⟩ | loaded
  · rw [failed]
    exact .inl ⟨_, rfl⟩
  · rw [loaded]
    exact .inr rfl

/-- The rule file and the folder of playlists do not depend on the catalog. -/
theorem workspace_catalog (placed : environment.workspace none config = .ok workspace)
    (catalog : Option String) :
    ∃ catalog',
      environment.workspace catalog config = .ok { workspace with catalog := catalog' } := by
  rw [Environment.workspace] at placed ⊢
  dsimp only at placed ⊢
  split at placed
  case h_2 => cases placed
  case h_1 =>
    split at placed
    case h_2 => cases placed
    case h_1 =>
      cases placed
      exact ⟨_, rfl⟩

/-- A command runs in the workspace of the configuration that was loaded. -/
theorem inWorkspace_of_placed (placed : environment.workspace none config = .ok workspace)
    (options : Options) (answer : Display → Workspace → FileTask Answer) :
    ∃ catalog, Program.inWorkspace environment options (.ok config) answer =
      answer (Display.of environment options config) { workspace with catalog := catalog } := by
  obtain ⟨catalog, placed⟩ := workspace_catalog placed options.catalog
  refine ⟨catalog, ?_⟩
  dsimp only [Program.inWorkspace]
  rw [placed]

/-- A command on saved rules loads the configuration first. -/
theorem answer_rules (circumstances : Circumstances) (options : Options)
    (command : RulesCommand) :
    Program.answer circumstances ⟨options, .rules command⟩ =
      loadConfig circumstances.environment >>= fun loaded =>
        Program.inWorkspace circumstances.environment options loaded fun display workspace =>
          Program.answerRules circumstances display workspace command := rfl

end

/-! ### Endings -/

theorem exitCode_ending (environment : Environment) (options : Options) (time : Instant)
    (answer : Answer) :
    (answer.ending environment options time).exitCode = 0 ↔ answer.fault = none := by
  change (answer.fault.map (·.exitCode)).getD 0 = 0 ↔ answer.fault = none
  cases answer.fault with
  | none => exact ⟨fun _ => rfl, fun _ => rfl⟩
  | some fault =>
    refine ⟨fun zero => ?_, nofun⟩
    cases fault <;> cases zero

/-! ### Calls -/

/-- A call of the program: what it is given besides the variables of the environment. -/
structure ProgramCall where
  arguments : List String
  time : Instant
  stamps : Nat → Stamp
  draws : Nat → Draws

namespace ProgramCall

/-- What the program is given in a call. -/
def circumstances (environment : Environment) (call : ProgramCall) : Circumstances :=
  ⟨environment, call.time, call.stamps, call.draws⟩

/-- What the program does in a call. -/
def task (environment : Environment) (call : ProgramCall) : FileTask Ending :=
  Program.run (call.circumstances environment) call.arguments

/-- What a call comes to on a disk that refuses nothing, and the disk afterwards. -/
def run (environment : Environment) (call : ProgramCall) (disk : Disk) : Ending × Disk :=
  (call.task environment).run disk

/-- Whether a call asks for a command on saved rules, if its arguments make sense. -/
def isOnRules (environment : Environment) (call : ProgramCall) : Bool :=
  match Invocation.ofArguments environment call.arguments with
  | .error _ | .ok ⟨_, .rules _⟩ => true
  | .ok _ => false

/-- The command on saved rules that a call asks for. -/
def command? (environment : Environment) (call : ProgramCall) : Option RulesCommand :=
  match Invocation.ofArguments environment call.arguments with
  | .ok ⟨_, .rules command⟩ => some command
  | _ => none

end ProgramCall

/-- The disk after some calls, and the map to which all additions and removals that
succeeded were applied. -/
structure Session where
  disk : Disk
  rules : RuleMap

namespace Session

/-- The session after a call that ended on a disk. -/
def ended (environment : Environment) (session : Session) (call : ProgramCall) (ending : Ending)
    (disk : Disk) : Session where
  disk := disk
  rules :=
    if ending.exitCode = 0 then
      ((call.command? environment).map (·.applied session.rules)).getD session.rules
    else session.rules

/-- The sessions that calls can lead to from a disk without rules. -/
inductive Reached (mayRefuse : Bool) (environment : Environment) (start : Disk) :
    List ProgramCall → Session → Prop where
  | start : Reached mayRefuse environment start [] ⟨start, .empty⟩
  | call {calls : List ProgramCall} {session : Session} {call : ProgramCall} {ending : Ending}
      {disk : Disk} (earlier : Reached mayRefuse environment start calls session)
      (comes : FileTask.ComesTo mayRefuse (call.task environment) session.disk ending disk) :
      Reached mayRefuse environment start (calls ++ [call])
        (session.ended environment call ending disk)

/-- The session after a call on a disk that refuses nothing. -/
def after (environment : Environment) (session : Session) (call : ProgramCall) : Session :=
  session.ended environment call (call.run environment session.disk).1
    (call.run environment session.disk).2

/-- The session after calls on a disk without rules that refuses nothing. -/
def ofCalls (environment : Environment) (disk : Disk) (calls : List ProgramCall) : Session :=
  calls.foldl (after environment) ⟨disk, .empty⟩

/-- What calls come to on a disk that refuses nothing is one of the things they can lead to. -/
theorem reached_ofCalls (mayRefuse : Bool) (environment : Environment) (disk : Disk)
    (calls : List ProgramCall) :
    Reached mayRefuse environment disk calls (ofCalls environment disk calls) := by
  -- Calls are taken off at the end, as they are added.
  induction calls using List.reverseRecOn with
  | nil => exact .start
  | append_singleton calls call inductionHypothesis =>
    rw [ofCalls, List.foldl_concat]
    exact .call inductionHypothesis (.of_run ..)

end Session

/-! ### What sessions start from -/

/-- A disk without rules, and a configuration on it that places them elsewhere than
itself. -/
structure Setup (environment : Environment) (disk : Disk) (configFile : Path) (config : Config)
    (workspace : Workspace) : Prop where
  configured : environment.configPath? = some configFile
  loads : ((ConfigFile.load configFile).run disk).1 = .ok config
  placed : environment.workspace none config = .ok workspace
  absent : IsAbsent disk workspace.rules
  apart : disk.place configFile ≠ disk.place workspace.rules

/-- A configuration that saving rules does not change: its path finds it if it is there,
and no temporary file goes to its place. -/
structure IsSettled (disk : Disk) (configFile rules : Path) : Prop where
  found : IsFound disk configFile
  aside : disk.place configFile ≠ disk.place (rules.withExtension "tmp")

/-- A call on saved rules with ids for playlists that are new. -/
structure ProgramCall.Suits (environment : Environment) (disk : Disk) (configFile : Path)
    (workspace : Workspace) (call : ProgramCall) : Prop where
  onRules : call.isOnRules environment = true
  avoidsRules : Avoids disk workspace.playlists call.stamps workspace.rules
  avoidsConfig : Avoids disk workspace.playlists call.stamps configFile

/-! ### One call -/

/-- What holds after every call of a session. -/
structure Session.IsInOrder (start : Disk) (configFile : Path) (workspace : Workspace)
    (session : Session) : Prop where
  holds : RuleFile.Holds session.disk workspace.rules session.rules
  sound : session.rules.IsSound
  config : Preserves configFile start session.disk

section

variable {environment : Environment} {start : Disk} {configFile : Path} {config : Config}
  {workspace : Workspace} {session : Session} {call : ProgramCall}

/-- A command runs in the workspace of the configuration that is loaded. -/
theorem run_answer_of_loaded (call : ProgramCall) {disk : Disk}
    (loads : (loadConfig environment).run disk = (.ok config, disk))
    (placed : environment.workspace none config = .ok workspace) (options : Options)
    (command : RulesCommand) :
    let circumstances := call.circumstances environment
    ∃ catalog, (Program.answer circumstances ⟨options, .rules command⟩).run disk =
      (Program.answerRules circumstances (Display.of environment options config)
        { workspace with catalog := catalog } command).run disk := by
  intro circumstances
  have same : circumstances.environment = environment := rfl
  obtain ⟨catalog, ran⟩ := inWorkspace_of_placed placed options fun display workspace =>
    Program.answerRules circumstances display workspace command
  refine ⟨catalog, ?_⟩
  rw [answer_rules, FileTask.run_bind, same, loads, ran]

variable {mayRefuse : Bool} {disk : Disk} {ending : CommandLine.Ending}

/-- A command runs in the workspace of the first configuration, or fails. -/
theorem comesTo_answer_cases (setup : Setup environment start configFile config workspace)
    (settled : IsSettled start configFile workspace.rules)
    (preserves : Preserves configFile start session.disk) {circumstances : Circumstances}
    (same : circumstances.environment = environment) {options : Options} {command : RulesCommand}
    {answer : Answer}
    (comes : FileTask.ComesTo mayRefuse (Program.answer circumstances ⟨options, .rules command⟩)
      session.disk answer disk) :
    (∃ fault, answer = .failed fault ∧ disk = session.disk) ∨
    ∃ catalog, FileTask.ComesTo mayRefuse
      (Program.answerRules circumstances (Display.of environment options config)
        { workspace with catalog := catalog } command) session.disk answer disk := by
  rw [answer_rules, same] at comes
  replace comes := comes.of_looks_bind (looks_loadConfig environment)
  rcases loadConfig_cases setup.configured settled.found setup.loads preserves with
    ⟨fault, failed⟩ | loaded
  · rw [failed] at comes
    exact .inl ⟨fault, comes.of_done⟩
  · obtain ⟨catalog, ran⟩ := inWorkspace_of_placed setup.placed options fun display workspace =>
      Program.answerRules circumstances display workspace command
    rw [loaded, ran] at comes
    exact .inr ⟨catalog, comes⟩

/-- What a command does in a session: it has its effect on the rules, leaves the
configuration alone, and runs rules without a word about skipped expressions. -/
theorem answer_effect (setup : Setup environment start configFile config workspace)
    (settled : IsSettled start configFile workspace.rules)
    (safe : RuleFile.IsSafe mayRefuse start workspace.rules)
    (suits : call.Suits environment start configFile workspace)
    (order : session.IsInOrder start configFile workspace) {options : Options}
    {command : RulesCommand} {answer : Answer}
    (comes : FileTask.ComesTo mayRefuse
      (Program.answer (call.circumstances environment) ⟨options, .rules command⟩)
      session.disk answer disk) :
    Effect command workspace.rules session.rules session.disk answer disk ∧
      Preserves configFile session.disk disk ∧
      ∀ name, command = .run name →
        IsCleanAnswer (Display.of environment options config) answer := by
  have keeps := order.config.keeps
  have elsewhere := keeps.place_ne setup.apart
  have aside := keeps.place_ne settled.aside
  rcases comesTo_answer_cases setup settled order.config rfl comes with
    ⟨fault, rfl, rfl⟩ | ⟨catalog, comes⟩
  · exact ⟨.failed (.refl _ _), .refl _ _, fun _ _ => .inl ⟨fault, rfl⟩⟩
  · let here : Workspace := { workspace with catalog := catalog }
    have holds : RuleFile.Holds session.disk here.rules session.rules := order.holds
    have avoidsRules : Avoids session.disk here.playlists call.stamps here.rules :=
      suits.avoidsRules.of_keeps keeps
    have avoidsConfig : Avoids session.disk here.playlists call.stamps configFile :=
      suits.avoidsConfig.of_keeps keeps
    have effect : Effect command here.rules session.rules session.disk answer disk :=
      effect_answerRules holds order.sound (safe.of_keeps keeps) avoidsRules comes
    refine ⟨effect, ?_, ?_⟩
    · exact preserves_answerRules holds order.sound avoidsConfig elsewhere aside comes.outcome
    · rintro name rfl
      exact (leaves_runRules holds order.sound avoidsRules comes.outcome).1

/-- What one call in a session comes to. -/
structure ProgramCall.GoesWell (environment : Environment) (config : Config) (rules : Path)
    (call : ProgramCall) (before after : Disk) (ending : CommandLine.Ending) : Prop where
  /-- A call that fails or only looks leaves the rule file as it is. -/
  unchanged : (ending.exitCode ≠ 0 ∨
      ∀ command, call.command? environment = some command → command.isChange = false) →
    after.contentAt? rules = before.contentAt? rules
  /-- Running rules reports no skipped expression. -/
  clean : ∀ options name,
    Invocation.ofArguments environment call.arguments = .ok ⟨options, .rules (.run name)⟩ →
      ∃ answer, ending = answer.ending environment options call.time ∧
        IsCleanAnswer (Display.of environment options config) answer

theorem ProgramCall.task_of_accepted {invocation : Invocation}
    (accepted : Invocation.ofArguments environment call.arguments = .ok invocation) :
    call.task environment =
      Program.answer (call.circumstances environment) invocation >>= fun answer =>
        .done (answer.ending environment invocation.options call.time) := by
  have same : (call.circumstances environment).environment = environment := rfl
  rw [ProgramCall.task, Program.run.eq_def, same, accepted]
  rfl

theorem ProgramCall.run_of_accepted {invocation : Invocation}
    (accepted : Invocation.ofArguments environment call.arguments = .ok invocation) (disk : Disk) :
    let result := (Program.answer (call.circumstances environment) invocation).run disk
    call.run environment disk =
      (result.1.ending environment invocation.options call.time, result.2) := by
  rw [ProgramCall.run, task_of_accepted accepted]
  exact FileTask.run_bind ..

/-- A call that is accepted ends as its command answers. -/
theorem ProgramCall.answer_of_accepted {invocation : Invocation}
    (accepted : Invocation.ofArguments environment call.arguments = .ok invocation)
    {before : Disk}
    (comes : FileTask.ComesTo mayRefuse (call.task environment) before ending disk) :
    ∃ answer, FileTask.ComesTo mayRefuse
        (Program.answer (call.circumstances environment) invocation) before answer disk ∧
      ending = answer.ending environment invocation.options call.time := by
  rw [task_of_accepted accepted] at comes
  obtain ⟨answer, between, first, last⟩ := comes.of_bind
  obtain ⟨rfl, rfl⟩ := last.of_done
  exact ⟨answer, first, rfl⟩

/-- A call that is not accepted changes nothing. -/
theorem ProgramCall.eq_of_stopped {stop : Stop}
    (stopped : Invocation.ofArguments environment call.arguments = .error stop) {before : Disk}
    (comes : FileTask.ComesTo mayRefuse (call.task environment) before ending disk) :
    disk = before := by
  have same : (call.circumstances environment).environment = environment := rfl
  rw [ProgramCall.task, Program.run.eq_def, same, stopped] at comes
  exact comes.of_done.2

/-- The order of a session is kept by every call, and the call goes well. -/
theorem Session.IsInOrder.ended (setup : Setup environment start configFile config workspace)
    (settled : IsSettled start configFile workspace.rules)
    (safe : RuleFile.IsSafe mayRefuse start workspace.rules)
    (suits : call.Suits environment start configFile workspace)
    (order : session.IsInOrder start configFile workspace)
    (comes : FileTask.ComesTo mayRefuse (call.task environment) session.disk ending disk) :
    (session.ended environment call ending disk).IsInOrder start configFile workspace ∧
      call.GoesWell environment config workspace.rules session.disk disk ending := by
  rw [Session.ended]
  cases accepted : Invocation.ofArguments environment call.arguments with
  | error stop =>
    have none : call.command? environment = none := by
      rw [ProgramCall.command?, accepted]
    rw [ProgramCall.eq_of_stopped accepted comes, none, Option.map_none, Option.getD_none,
      ite_self]
    refine ⟨order, fun _ => rfl, fun _ _ other => ?_⟩
    rw [accepted] at other
    cases other
  | ok invocation =>
    obtain ⟨options, command, rfl⟩ : ∃ options command, invocation = ⟨options, .rules command⟩ := by
      have onRules := suits.onRules
      rw [ProgramCall.isOnRules, accepted] at onRules
      obtain ⟨options, command⟩ := invocation
      cases command with
      | rules command => exact ⟨options, command, rfl⟩
      | _ => cases onRules
    have asked : call.command? environment = some command := by
      rw [ProgramCall.command?, accepted]
    have expressions := hasExpressions_of_arguments accepted rfl
    obtain ⟨answer, answers, rfl⟩ := ProgramCall.answer_of_accepted accepted comes
    obtain ⟨effect, preserves, clean⟩ := answer_effect setup settled safe suits order answers
    rw [asked, Option.map_some, Option.getD_some]
    refine ⟨⟨?_, ?_, order.config.trans preserves⟩, fun passive => ?_, fun options' name same => ?_⟩
    · simp only [exitCode_ending]
      exact effect.holds order.holds
    · simp only [exitCode_ending]
      split
      case isTrue none => exact effect.sound none order.sound expressions
      case isFalse => exact order.sound
    · refine (effect.unchanged ?_).contentAt? order.holds.isFound
      rw [asked] at passive
      exact passive.imp (mt (exitCode_ending ..).mpr) fun look => look command rfl
    · rw [accepted] at same
      cases same
      exact ⟨answer, rfl, clean name rfl⟩

/-- Sessions stay in order. -/
theorem Session.Reached.isInOrder (setup : Setup environment start configFile config workspace)
    (settled : IsSettled start configFile workspace.rules)
    (safe : RuleFile.IsSafe mayRefuse start workspace.rules)
    {calls : List ProgramCall}
    (suits : ∀ call ∈ calls, call.Suits environment start configFile workspace)
    (reached : Reached mayRefuse environment start calls session) :
    session.IsInOrder start configFile workspace := by
  induction reached with
  | start => exact ⟨.inl ⟨setup.absent, rfl⟩, .empty, .refl _ _⟩
  | call earlier comes inductionHypothesis =>
    obtain ⟨others, last⟩ := List.forall_mem_append.mp suits
    have order := inductionHypothesis others
    exact (order.ended setup settled safe (List.forall_mem_singleton.mp last) comes).1

/-! ### The rule file -/

/-- Whether a rule file is as it should be. If it is there, it can be loaded and holds
exactly the rules of a map. No two names are the same but for letter case, and every rule
has expressions that can all be read. -/
structure IsHealthy (disk : Disk) (path : Path) (map : RuleMap) : Prop where
  missing : disk.contentAt? path = none → map.entries = []
  loads : disk.contentAt? path ≠ none → ∃ set, (RuleFile.load path).run disk = (.ok set, disk) ∧
    set.entries = map.entries ∧ (set.names.map Text.lowercase).Nodup ∧
      ∀ rule ∈ set.rules, rule.expressions ≠ [] ∧
        ∀ text ∈ rule.expressions, (Expression.parse text).isOk = true

theorem Session.IsInOrder.isHealthy (order : session.IsInOrder start configFile workspace) :
    IsHealthy session.disk workspace.rules session.rules := by
  obtain ⟨absent, empty⟩ | ⟨set, stores⟩ := order.holds
  · exact ⟨fun _ => empty, fun there => absurd absent.contentAt?_eq_none there⟩
  · refine ⟨fun none => ?_, fun _ => ⟨set, stores.load, stores.entries, ?_, fun rule member => ?_⟩⟩
    · rw [stores.content] at none
      cases none
    · have distinct := session.rules.distinct
      rw [← stores.entries, RuleSet.entries, List.map_map] at distinct
      rw [RuleSet.names, List.map_map]
      exact distinct
    · have inMap : RuleSet.entryOf rule ∈ session.rules.entries :=
        stores.entries ▸ List.mem_map_of_mem member
      exact ⟨(order.sound _ inMap).nonempty, (order.sound _ inMap).valid⟩

/-- Whatever commands on saved rules the program is called with, one after the other, the
rule file stays healthy, and its rules are those of the map to which the additions and
removals that succeeded were applied. A call that fails, lists, shows or runs leaves the
file as it is, and no run reports a skipped expression. This is so on a disk that may refuse
any change as well, unless the rule file is its own temporary file. -/
theorem rule_file_stays_healthy
    (setup : Setup environment start configFile config workspace)
    (settled : IsSettled start configFile workspace.rules)
    (safe : RuleFile.IsSafe mayRefuse start workspace.rules)
    (calls : List ProgramCall) (call : ProgramCall)
    (suits : ∀ other ∈ calls ++ [call], other.Suits environment start configFile workspace)
    {before : Session} (reached : Session.Reached mayRefuse environment start calls before)
    (comes : FileTask.ComesTo mayRefuse (call.task environment) before.disk ending disk) :
    let after := before.ended environment call ending disk
    IsHealthy after.disk workspace.rules after.rules ∧
      call.GoesWell environment config workspace.rules before.disk after.disk ending := by
  obtain ⟨others, last⟩ := List.forall_mem_append.mp suits
  have order := reached.isInOrder setup settled safe others
  obtain ⟨stillInOrder, well⟩ :=
    order.ended setup settled safe (List.forall_mem_singleton.mp last) comes
  exact ⟨stillInOrder.isHealthy, well⟩

end

/-- A call that gives all playlists one id suits if that id does. -/
theorem ProgramCall.Suits.of_id {environment : Environment} {disk : Disk} {configFile : Path}
    {workspace : Workspace} {call : ProgramCall} (onRules : call.isOnRules environment = true)
    (id : String) (same : ∀ index, (call.stamps index).id = id)
    (avoids : ∀ path ∈ [workspace.rules, configFile],
      disk.place path ≠ disk.place (PlaylistFolder.fileOf workspace.playlists id) ∧
        disk.place path ≠
          disk.place ((PlaylistFolder.fileOf workspace.playlists id).withExtension "tmp")) :
    call.Suits environment disk configFile workspace := by
  have avoids (path : Path) (member : path ∈ [workspace.rules, configFile]) :
      Avoids disk workspace.playlists call.stamps path :=
    ⟨fun index => same index ▸ (avoids path member).1,
      fun index => same index ▸ (avoids path member).2⟩
  exact ⟨onRules, avoids _ List.mem_cons_self, avoids _ (List.mem_cons_of_mem _ List.mem_cons_self)⟩

/-- A rule is added, replaced under another spelling of its name, and run. Then the disk is
full, and the rule cannot be removed. -/
theorem rule_file_stays_healthy_replaced :
    let call (arguments : List String) : ProgramCall :=
      ⟨"rules" :: arguments, ⟨0, 0⟩, fun _ => ⟨"new", ⟨0, 0⟩⟩, fun _ _ => 0⟩
    let calls := [call ["add", "A", "\x7btype:Movie\x7d"],
      call ["add", "a", "\x7btype:Episode\x7d", "--user", "ann"],
      call ["run", "A", "--catalog", "catalog.json"]]
    let last := call ["remove", "A", "--force"]
    let environment : Environment :=
      ⟨[("SMARTLIST_CONFIG", "config.toml"), ("HOME", "/home")], none⟩
    let disk : Disk := ⟨[(["work"], .directory)], ["work"], []⟩
    let folder := Path.ofText "/home/.local/share/smartlist"
    let workspace : Workspace := ⟨none, folder.child "playlists", folder.child "rules.json", none⟩
    let before := Session.ofCalls environment disk calls
    let refused := (last.task environment).runFull (.other "No space left on device") before.disk
    let after := before.ended environment last refused.1 refused.2
    Setup environment disk (.ofText "config.toml") .empty workspace ∧
      IsSettled disk (.ofText "config.toml") workspace.rules ∧
      RuleFile.IsSafe true disk workspace.rules ∧
      (∀ other ∈ calls ++ [last], other.Suits environment disk (.ofText "config.toml") workspace) ∧
      Session.Reached true environment disk calls before ∧
      FileTask.ComesTo true (last.task environment) before.disk refused.1 refused.2 ∧
      refused.1.exitCode ≠ 0 ∧
      IsHealthy after.disk workspace.rules after.rules ∧
      last.GoesWell environment .empty workspace.rules before.disk after.disk refused.1 := by
  intro call calls last environment disk folder workspace before refused after
  have setup : Setup environment disk (.ofText "config.toml") .empty workspace :=
    ⟨by decide, by decide +kernel, rfl, fun _ => by decide +kernel, by decide +kernel⟩
  have settled : IsSettled disk (.ofText "config.toml") workspace.rules :=
    ⟨fun _ => by decide +kernel, by decide +kernel⟩
  have safe : RuleFile.IsSafe true disk workspace.rules := fun _ => by decide +kernel
  have suits : ∀ other ∈ calls ++ [last],
      other.Suits environment disk (.ofText "config.toml") workspace := by
    intro other member
    simp only [calls, List.cons_append, List.nil_append, List.mem_cons, List.not_mem_nil,
      or_false] at member
    rcases member with rfl | rfl | rfl | rfl <;>
      exact .of_id (by decide +kernel) "new" (fun _ => rfl) (by decide +kernel)
  have reached := Session.reached_ofCalls true environment disk calls
  have comes : FileTask.ComesTo true (last.task environment) before.disk refused.1 refused.2 :=
    FileTask.outcome_runFull ..
  have fails : refused.1.exitCode ≠ 0 := by decide +kernel
  exact ⟨setup, settled, safe, suits, reached, comes, fails,
    rule_file_stays_healthy setup settled safe calls last suits reached comes⟩

/-- A file that holds another number of rules than the map is not healthy. The bytes are
compared as lists, which takes less time than comparing arrays. -/
theorem not_isHealthy_of_bytes {disk : Disk} {path : Path} {map : RuleMap} (rules : List Rule)
    (bytes : (disk.contentAt? path).map (·.data.toList) =
      some (RuleFile.text ⟨RuleSet.currentVersion, rules⟩).toUTF8.data.toList)
    (other : rules.length ≠ map.entries.length) : ¬IsHealthy disk path map := by
  intro healthy
  obtain ⟨content, there, same⟩ := Option.map_eq_some_iff.mp bytes
  have saved := ByteArray.ext (Array.ext' same)
  obtain ⟨held, loaded, entries, _⟩ := healthy.loads (by rw [there]; nofun)
  rw [RuleFile.run_load_of_content rfl (there.trans (congrArg some saved))] at loaded
  cases loaded
  rw [← entries, RuleSet.entries, List.length_map] at other
  exact other rfl

/-- A file that holds something else than a set of rules is not healthy. -/
theorem not_isHealthy_of_malformed {disk : Disk} {path : Path} {map : RuleMap}
    (there : (disk.contentAt? path).isSome = true)
    (malformed : ((RuleFile.load path).run disk).1 = .error .malformed) :
    ¬IsHealthy disk path map := by
  intro healthy
  obtain ⟨set, loads, _⟩ := healthy.loads (Option.isSome_iff_ne_none.mp there)
  rw [loads] at malformed
  cases malformed

/-- Two rules are added with success, and the rule file holds the first one alone. Either
the first rule takes the place of a configuration at the temporary path of the rule file,
or it makes a directory on the way to a configuration that was not found before. So the
second rule goes to another file. And a rule file that is its own temporary file is left
empty if a rule is added on a full disk. -/
theorem not_isHealthy_unsettled :
    let call (name : String) : ProgramCall :=
      ⟨["rules", "add", name, "\x7bgenre:Drama | rating | 10\x7d"], ⟨0, 0⟩,
        fun _ => ⟨"new", ⟨0, 0⟩⟩, fun _ _ => 0⟩
    let loses (environment : Environment) (disk : Disk) (configFile : Path) (config : Config)
        (workspace : Workspace) : Prop :=
      let session := Session.ofCalls environment disk [call "A", call "B"]
      Setup environment disk configFile config workspace ∧
        (∀ other ∈ [call "A", call "B"], other.Suits environment disk configFile workspace) ∧
          ¬IsHealthy session.disk workspace.rules session.rules
    let beside : Config := ⟨none, some "lists", some "rules.json", none, none⟩
    let later : Config := ⟨none, none, some "/home/rules.json", none, none⟩
    let folder := Path.ofText "/home/.local/share/smartlist"
    loses ⟨[("SMARTLIST_CONFIG", "rules.tmp"), ("HOME", "/home")], none⟩
        ⟨[(["work"], .directory), (["rules.tmp", "work"], .file beside.text.toUTF8)], ["work"], []⟩
        (.ofText "rules.tmp") beside ⟨none, .ofText "lists", .ofText "rules.json", none⟩ ∧
      loses ⟨[("SMARTLIST_CONFIG", "/home/.local/../config.toml"), ("HOME", "/home")], none⟩
        ⟨[(["home"], .directory), (["config.toml", "home"], .file later.text.toUTF8)], [], []⟩
        (.ofText "/home/.local/../config.toml") .empty
        ⟨none, folder.child "playlists", folder.child "rules.json", none⟩ ∧
      let inPlace : Config := ⟨none, none, some "rules.tmp", none, none⟩
      let environment : Environment :=
        ⟨[("SMARTLIST_CONFIG", "config.toml"), ("HOME", "/home")], none⟩
      let disk : Disk :=
        ⟨[(["work"], .directory), (["config.toml", "work"], .file inPlace.text.toUTF8)],
          ["work"], []⟩
      let configFile := Path.ofText "config.toml"
      let workspace : Workspace := ⟨none, folder.child "playlists", .ofText "rules.tmp", none⟩
      Setup environment disk configFile inPlace workspace ∧
        IsSettled disk configFile workspace.rules ∧
        (call "A").Suits environment disk configFile workspace ∧
        ∃ session, Session.Reached true environment disk [call "A"] session ∧
          ¬IsHealthy session.disk workspace.rules session.rules := by
  refine ⟨⟨⟨by decide, by decide +kernel, rfl, fun _ => by decide +kernel, by decide +kernel⟩,
    ?_, ?_⟩, ⟨⟨by decide, by decide +kernel, rfl, fun _ => by decide +kernel, by decide +kernel⟩,
    ?_, ?_⟩, ⟨by decide, by decide +kernel, rfl, fun _ => by decide +kernel, by decide +kernel⟩,
    ⟨fun _ => by decide +kernel, by decide +kernel⟩,
    .of_id (by decide +kernel) "new" (fun _ => rfl) (by decide +kernel),
    _, .call .start (FileTask.outcome_runFull (.other "No space left on device") _ _), ?_⟩
  · refine List.forall_mem_cons.mpr ⟨?_, List.forall_mem_singleton.mpr ?_⟩ <;>
      exact .of_id (by decide +kernel) "new" (fun _ => rfl) (by decide +kernel)
  · exact not_isHealthy_of_bytes [⟨"A", ["\x7bgenre:Drama | rating | 10\x7d"], none, true⟩]
      (by decide +kernel) (by decide +kernel)
  · refine List.forall_mem_cons.mpr ⟨?_, List.forall_mem_singleton.mpr ?_⟩ <;>
      exact .of_id (by decide +kernel) "new" (fun _ => rfl) (by decide +kernel)
  · exact not_isHealthy_of_bytes [⟨"A", ["\x7bgenre:Drama | rating | 10\x7d"], none, true⟩]
      (by decide +kernel) (by decide +kernel)
  · exact not_isHealthy_of_malformed (by decide +kernel) (by decide +kernel)

end PlaylistRules
