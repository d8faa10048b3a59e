/-
This file shows that rules run one after the other do not disturb each other. What a
rule asks of the source and of the sink, and what it comes to, hangs on the rule alone,
whatever ran before it. A rule that is disabled, fails or selects nothing leaves the
playlists kept in memory as they are, so all other rules come to the same with it and
without it.
-/

import Mathlib.Data.List.Forall2
import PlaylistRules.Batch
import PlaylistRules.Proofs.Union

namespace PlaylistRules

variable {σ τ sourceFault sinkFault : Type}

/-! ### One run -/

theorem stateM_bind_apply {α β : Type} (first : StateM σ α) (next : α → StateM σ β) (state : σ) :
    (first >>= next) state = next (first state).1 (first state).2 := rfl

/-- The ids that a rule selects. -/
def Rule.itemIds (draws : Draws) (rule : Rule) (records : List Record) : List String :=
  idsOf (rule.select draws records).items

/-- A playlist that a sink is asked to make. -/
structure PlaylistRequest where
  name : String
  user : Option String
  items : List String
deriving DecidableEq

/-- The playlist that a rule asks for. -/
def Rule.requestOf (draws : Draws) (rule : Rule) (records : List Record) : PlaylistRequest :=
  ⟨rule.name, rule.user, rule.itemIds draws records⟩

/-- The four ways in which a rule can run, with what it asks of source and sink. -/
inductive RunCase (source : Source (StateM σ) sourceFault) (sink : Sink (StateM σ) sinkFault)
    (draws : Draws) (rule : Rule) (state : σ) :
    Except (RunFault sourceFault sinkFault) Outcome → σ → Prop where
  | unfetched {fault : sourceFault} {after : σ}
      (fetched : source.fetch rule.user state = (.error fault, after)) :
      RunCase source sink draws rule state (.error (.source fault)) after
  | nothing {records : List Record} {after : σ}
      (fetched : source.fetch rule.user state = (.ok records, after))
      (empty : rule.itemIds draws records = []) :
      RunCase source sink draws rule state
        (.ok ⟨rule.name, none, rule.itemIds draws records,
          (rule.select draws records).skipped⟩) after
  | refused {records : List Record} {middle after : σ} {fault : sinkFault}
      (fetched : source.fetch rule.user state = (.ok records, middle))
      (nonempty : rule.itemIds draws records ≠ [])
      (reply : sink.create rule.name rule.user (rule.itemIds draws records) middle =
        (.error fault, after)) :
      RunCase source sink draws rule state (.error (.sink fault)) after
  | created {records : List Record} {middle after : σ} {playlist : String}
      (fetched : source.fetch rule.user state = (.ok records, middle))
      (nonempty : rule.itemIds draws records ≠ [])
      (reply : sink.create rule.name rule.user (rule.itemIds draws records) middle =
        (.ok playlist, after)) :
      RunCase source sink draws rule state
        (.ok ⟨rule.name, some playlist, rule.itemIds draws records,
          (rule.select draws records).skipped⟩)
        after

theorem Rule.run_eq {m : Type → Type} [Monad m] (source : Source m sourceFault)
    (sink : Sink m sinkFault) (draws : Draws) (rule : Rule) :
    rule.run source sink draws = (do
      match ← source.fetch rule.user with
      | .error fault => return ⟨rule.name, [], .error (.source fault)⟩
      | .ok records =>
        let items := rule.itemIds draws records
        let skipped := (rule.select draws records).skipped
        let events := rule.selectionEvents records (rule.attempts draws records)
        if items.isEmpty then
          return ⟨rule.name, events ++ [rule.emptyEvent], .ok ⟨rule.name, none, items, skipped⟩⟩
        else
          match ← sink.create rule.name rule.user items with
          | .error fault => return ⟨rule.name, events, .error (.sink fault)⟩
          | .ok playlist =>
            return ⟨rule.name, events ++ [rule.createdEvent playlist items],
              .ok ⟨rule.name, some playlist, items, skipped⟩⟩) :=
  rfl

theorem Rule.run_cases (source : Source (StateM σ) sourceFault) (sink : Sink (StateM σ) sinkFault)
    (draws : Draws) (rule : Rule) (state : σ) :
    (rule.run source sink draws state).1.rule = rule.name ∧
      RunCase source sink draws rule state (rule.run source sink draws state).1.result
        (rule.run source sink draws state).2 := by
  rw [run_eq, stateM_bind_apply]
  cases fetched : source.fetch rule.user state with
  | mk answer middle =>
    cases answer with
    | error fault => exact ⟨rfl, .unfetched fetched⟩
    | ok records =>
      dsimp only
      cases empty : (rule.itemIds draws records).isEmpty with
      | true => exact ⟨rfl, .nothing fetched (List.isEmpty_iff.mp empty)⟩
      | false =>
        have nonempty : rule.itemIds draws records ≠ [] := fun none => by simp [none] at empty
        rw [if_neg Bool.false_ne_true, stateM_bind_apply]
        cases reply : sink.create rule.name rule.user (rule.itemIds draws records) middle with
        | mk answer after =>
          cases answer with
          | error fault => exact ⟨rfl, .refused fetched nonempty reply⟩
          | ok playlist => exact ⟨rfl, .created fetched nonempty reply⟩

/-! ### Runs of many rules -/

section

variable [Worded sourceFault] [Worded sinkFault]

@[simp]
theorem RunReport.rule_withFaultEvent (report : RunReport sourceFault sinkFault) :
    report.withFaultEvent.rule = report.rule := by
  rw [withFaultEvent]
  split <;> rfl

@[simp]
theorem RunReport.result_withFaultEvent (report : RunReport sourceFault sinkFault) :
    report.withFaultEvent.result = report.result := by
  rw [withFaultEvent]
  split <;> rfl

variable {source : Source (StateM σ) sourceFault} {sink : Sink (StateM σ) sinkFault}
  {draws : Nat → Draws} {rule : Rule} {rest : List Rule} {state : σ}

theorem runAll_cons_of_disabled (disabled : rule.enabled = false) :
    runAll source sink draws (rule :: rest) state =
      runAll source sink (fun index => draws (index + 1)) rest state := by
  rw [runAll, disabled]
  rfl

theorem runAll_cons_of_enabled (enabled : rule.enabled = true) :
    runAll source sink draws (rule :: rest) state =
      ((rule.run source sink (draws 0) state).1.withFaultEvent ::
          (runAll source sink (fun index => draws (index + 1)) rest
            (rule.run source sink (draws 0) state).2).1,
        (runAll source sink (fun index => draws (index + 1)) rest
          (rule.run source sink (draws 0) state).2).2) := by
  rw [runAll, enabled]
  rfl

end

/-! ### Runs that cannot be told apart -/

/-- Pairs of a source and a sink over different states that answer alike from related
states, and go on to related states. -/
structure Simulates (related : σ → τ → Prop) (source : Source (StateM σ) sourceFault)
    (sink : Sink (StateM σ) sinkFault) (otherSource : Source (StateM τ) sourceFault)
    (otherSink : Sink (StateM τ) sinkFault) : Prop where
  fetch : ∀ user {state other}, related state other →
    (source.fetch user state).1 = (otherSource.fetch user other).1 ∧
      related (source.fetch user state).2 (otherSource.fetch user other).2
  create : ∀ name user items {state other}, related state other →
    (sink.create name user items state).1 = (otherSink.create name user items other).1 ∧
      related (sink.create name user items state).2 (otherSink.create name user items other).2

/-- The attempts of a rule without the random order are the same whatever is drawn. -/
theorem attemptEach_of_steady {texts : List String} (steady : Steady texts)
    (draws otherDraws : Draws) (records : List Record) :
    attemptEach draws records texts = attemptEach otherDraws records texts := by
  induction texts generalizing draws otherDraws with
  | nil => rfl
  | cons text rest inductionHypothesis =>
    rw [attemptEach, attemptEach,
      inductionHypothesis (steady.mono (List.subset_cons_self _ _)) draws.rest otherDraws.rest]
    cases parsed : Expression.parse text with
    | error fault => rw [Except.map, Except.map]
    | ok expression =>
      have same := select_of_not_random
        (steady expression (mem_validExpressions.mpr ⟨text, List.mem_cons_self, parsed⟩))
        (draws 0) (otherDraws 0) records
      rw [Except.map, Except.map, same]

section

variable {related : σ → τ → Prop} {source : Source (StateM σ) sourceFault}
  {sink : Sink (StateM σ) sinkFault} {otherSource : Source (StateM τ) sourceFault}
  {otherSink : Sink (StateM τ) sinkFault}

theorem Simulates.run (simulates : Simulates related source sink otherSource otherSink)
    {rule : Rule} (steady : Steady rule.expressions) (draws otherDraws : Draws) {state : σ}
    {other : τ} (start : related state other) :
    (rule.run source sink draws state).1 = (rule.run otherSource otherSink otherDraws other).1 ∧
      related (rule.run source sink draws state).2
        (rule.run otherSource otherSink otherDraws other).2 := by
  have sameAttempts (records : List Record) :
      rule.attempts draws records = rule.attempts otherDraws records :=
    attemptEach_of_steady steady draws otherDraws records
  have sameSelect (records : List Record) :
      rule.select draws records = rule.select otherDraws records :=
    congrArg RuleSelection.ofAttempts (sameAttempts records)
  obtain ⟨sameAnswer, middle⟩ := simulates.fetch rule.user start
  rw [Rule.run_eq, Rule.run_eq, stateM_bind_apply, stateM_bind_apply, sameAnswer]
  cases (otherSource.fetch rule.user other).1 with
  | error fault => exact ⟨rfl, middle⟩
  | ok records =>
    dsimp only [Rule.itemIds]
    rw [sameSelect, sameAttempts]
    split
    · exact ⟨rfl, middle⟩
    · obtain ⟨sameReply, final⟩ := simulates.create rule.name rule.user
        (idsOf (rule.select otherDraws records).items) middle
      rw [stateM_bind_apply, stateM_bind_apply, sameReply]
      cases (otherSink.create rule.name rule.user
        (idsOf (rule.select otherDraws records).items)
          (otherSource.fetch rule.user other).2).1 with
      | error fault => exact ⟨rfl, final⟩
      | ok playlist => exact ⟨rfl, final⟩

variable [Worded sourceFault] [Worded sinkFault]

/-- Runs of the same rules without the random order give the same reports. -/
theorem Simulates.runAll (simulates : Simulates related source sink otherSource otherSink)
    {rules : List Rule} (steady : ∀ rule ∈ rules, rule.enabled → Steady rule.expressions)
    (draws otherDraws : Nat → Draws) {state : σ} {other : τ} (start : related state other) :
    (runAll source sink draws rules state).1 =
        (runAll otherSource otherSink otherDraws rules other).1 ∧
      related (runAll source sink draws rules state).2
        (runAll otherSource otherSink otherDraws rules other).2 := by
  induction rules generalizing draws otherDraws state other with
  | nil => exact ⟨rfl, start⟩
  | cons rule rest inductionHypothesis =>
    have restSteady : ∀ later ∈ rest, later.enabled → Steady later.expressions :=
      fun later member => steady later (List.mem_cons_of_mem _ member)
    cases enabled : rule.enabled with
    | false =>
      rw [runAll_cons_of_disabled enabled, runAll_cons_of_disabled enabled]
      exact inductionHypothesis restSteady _ _ start
    | true =>
      rw [runAll_cons_of_enabled enabled, runAll_cons_of_enabled enabled]
      obtain ⟨same, next⟩ :=
        simulates.run (steady rule List.mem_cons_self enabled) (draws 0) (otherDraws 0) start
      obtain ⟨sameRest, final⟩ := inductionHypothesis restSteady (fun index => draws (index + 1))
        (fun index => otherDraws (index + 1)) next
      exact ⟨by rw [same, sameRest], final⟩

end

theorem simulates_self (source : Source (StateM σ) sourceFault) (sink : Sink (StateM σ) sinkFault) :
    Simulates Eq source sink source sink where
  fetch user state other same := by
    subst same
    exact ⟨rfl, rfl⟩
  create name user items state other same := by
    subst same
    exact ⟨rfl, rfl⟩

/-! ### Recorded calls -/

/-- A call of the source, or of the sink with what it answered. -/
inductive Call (sinkFault : Type) where
  | fetch (user : Option String)
  | create (request : PlaylistRequest) (reply : Except sinkFault String)

/-- The source with its calls noted beside the state. -/
def Source.recorded (source : Source (StateM σ) sourceFault) :
    Source (StateM (σ × List (Call sinkFault))) sourceFault :=
  ⟨fun user noted =>
    let (answer, state) := source.fetch user noted.1
    (answer, state, noted.2 ++ [.fetch user])⟩

/-- The sink with its calls noted beside the state. -/
def Sink.recorded (sink : Sink (StateM σ) sinkFault) :
    Sink (StateM (σ × List (Call sinkFault))) sinkFault :=
  ⟨fun name user items noted =>
    let (reply, state) := sink.create name user items noted.1
    (reply, state, noted.2 ++ [.create ⟨name, user, items⟩ reply])⟩

/-- Noting the calls changes nothing else. -/
theorem simulates_recorded (source : Source (StateM σ) sourceFault)
    (sink : Sink (StateM σ) sinkFault) :
    Simulates (fun state noted => noted.1 = state) source sink source.recorded sink.recorded where
  fetch user state noted same := by
    subst same
    exact ⟨rfl, rfl⟩
  create name user items state noted same := by
    subst same
    exact ⟨rfl, rfl⟩

/-! ### What a rule comes to -/

/-- The ids that a rule selects from what the source answers for its user. -/
def Rule.idsFrom (answer : Option String → Except sourceFault (List Record)) (rule : Rule) :
    List String :=
  match answer rule.user with
  | .error _ => []
  | .ok records => idsOf (newRecords (selections 0 records rule.expressions))

/-- The playlist that a rule asks for, if it selects anything. -/
def Rule.request (answer : Option String → Except sourceFault (List Record)) (rule : Rule) :
    PlaylistRequest :=
  ⟨rule.name, rule.user, rule.idsFrom answer⟩

/-- What a rule asks of source and sink, and what it comes to, given what the source answers
and which playlists the sink accepts. -/
structure RunsAs (answer : Option String → Except sourceFault (List Record))
    (accepts : PlaylistRequest → Bool) (rule : Rule) (calls : List (Call sinkFault))
    (result : Except (RunFault sourceFault sinkFault) Outcome) : Prop where
  distinct : (rule.idsFrom answer).Nodup
  /-- The source failed. -/
  unfetched : ∀ fault, result = .error (.source fault) ↔ answer rule.user = .error fault
  /-- Without ids the sink is not called. -/
  nothing : rule.idsFrom answer = [] → calls = [.fetch rule.user]
  /-- With ids it is called once. -/
  asked : rule.idsFrom answer ≠ [] → ∃ reply,
    calls = [.fetch rule.user, .create (rule.request answer) reply] ∧
      reply.isOk = accepts (rule.request answer)
  /-- The sink failed. -/
  refused : ∀ fault, result = .error (.sink fault) ↔
    Call.create (rule.request answer) (.error fault) ∈ calls
  /-- Neither failed. -/
  done : ∀ outcome, result = .ok outcome →
    outcome.rule = rule.name ∧ outcome.items = rule.idsFrom answer ∧
      ∀ playlist, outcome.playlist = some playlist ↔
        Call.create (rule.request answer) (.ok playlist) ∈ calls

section

variable {source : Source (StateM σ) sourceFault} {sink : Sink (StateM σ) sinkFault}
  {answer : Option String → Except sourceFault (List Record)}
  {accepts : PlaylistRequest → Bool} {rule : Rule}

/-- The items of a rule whose records were fetched. -/
theorem Rule.itemIds_of_steady (steady : Steady rule.expressions) (draws : Draws)
    {records : List Record} (answered : answer rule.user = .ok records) :
    rule.itemIds draws records = rule.idsFrom answer := by
  rw [idsFrom, answered, itemIds, items_select steady draws 0]

theorem Rule.nodup_idsFrom (rule : Rule) : (rule.idsFrom answer).Nodup := by
  rw [idsFrom]
  split
  · exact List.nodup_nil
  · exact nodup_idsOf_newRecords _

theorem Source.recorded_fetch (fetches : ∀ user state, (source.fetch user state).1 = answer user)
    {user : Option String} {noted after : σ × List (Call sinkFault)}
    {found : Except sourceFault (List Record)}
    (fetched : source.recorded.fetch user noted = (found, after)) :
    answer user = found ∧ after.2 = noted.2 ++ [.fetch user] := by
  cases fetched
  exact ⟨(fetches user noted.1).symm, rfl⟩

theorem Sink.recorded_create
    (creates : ∀ name user items state,
      (sink.create name user items state).1.isOk = accepts ⟨name, user, items⟩)
    {name : String} {user : Option String} {items : List String}
    {noted after : σ × List (Call sinkFault)} {reply : Except sinkFault String}
    (replied : sink.recorded.create name user items noted = (reply, after)) :
    reply.isOk = accepts ⟨name, user, items⟩ ∧
      after.2 = noted.2 ++ [.create ⟨name, user, items⟩ reply] := by
  cases replied
  exact ⟨creates name user items noted.1, rfl⟩

/-- Every way in which a rule can run is as it should be. -/
theorem RunCase.runsAs (fetches : ∀ user state, (source.fetch user state).1 = answer user)
    (creates : ∀ name user items state,
      (sink.create name user items state).1.isOk = accepts ⟨name, user, items⟩)
    (steady : Steady rule.expressions) {draws : Draws} {noted after : σ × List (Call sinkFault)}
    {result : Except (RunFault sourceFault sinkFault) Outcome}
    (runCase : RunCase source.recorded sink.recorded draws rule noted result after) :
    ∃ made, after.2 = noted.2 ++ made ∧ RunsAs answer accepts rule made result := by
  cases runCase with
  | unfetched fetched =>
    obtain ⟨answered, calls⟩ := Source.recorded_fetch fetches fetched
    have empty : rule.idsFrom answer = [] := by rw [Rule.idsFrom, answered]
    exact ⟨_, calls, {
      distinct := rule.nodup_idsFrom
      unfetched := by simp [answered]
      nothing := fun _ => rfl
      asked := fun nonempty => absurd empty nonempty
      refused := by simp
      done := nofun }⟩
  | nothing fetched empty =>
    obtain ⟨answered, calls⟩ := Source.recorded_fetch fetches fetched
    rw [Rule.itemIds_of_steady steady draws answered] at empty ⊢
    exact ⟨_, calls, {
      distinct := rule.nodup_idsFrom
      unfetched := by simp [answered]
      nothing := fun _ => rfl
      asked := fun nonempty => absurd empty nonempty
      refused := by simp
      done := by simp }⟩
  | @refused _ middle _ fault fetched nonempty reply =>
    obtain ⟨answered, first⟩ := Source.recorded_fetch fetches fetched
    rw [Rule.itemIds_of_steady steady draws answered] at nonempty reply
    obtain ⟨accepted, second⟩ := Sink.recorded_create creates reply
    rw [first, List.append_assoc] at second
    exact ⟨_, second, {
      distinct := rule.nodup_idsFrom
      unfetched := by simp [answered]
      nothing := fun empty => absurd empty nonempty
      asked := fun _ => ⟨.error fault, rfl, accepted⟩
      refused := by simp [Rule.request, eq_comm]
      done := nofun }⟩
  | @created _ middle _ playlist fetched nonempty reply =>
    obtain ⟨answered, first⟩ := Source.recorded_fetch fetches fetched
    rw [Rule.itemIds_of_steady steady draws answered] at nonempty reply ⊢
    obtain ⟨accepted, second⟩ := Sink.recorded_create creates reply
    rw [first, List.append_assoc] at second
    exact ⟨_, second, {
      distinct := rule.nodup_idsFrom
      unfetched := by simp [answered]
      nothing := fun empty => absurd empty nonempty
      asked := fun _ => ⟨.ok playlist, rfl, accepted⟩
      refused := by simp [Rule.request]
      done := by simp [Rule.request, eq_comm] }⟩

variable [Worded sourceFault] [Worded sinkFault]

/-- Every enabled rule runs once, in order. -/
theorem runAll_runsAs (fetches : ∀ user state, (source.fetch user state).1 = answer user)
    (creates : ∀ name user items state,
      (sink.create name user items state).1.isOk = accepts ⟨name, user, items⟩)
    {rules : List Rule} (steady : ∀ rule ∈ rules, rule.enabled → Steady rule.expressions)
    (draws : Nat → Draws) (noted : σ × List (Call sinkFault)) :
    ∃ runs : List (List (Call sinkFault) × RunReport sourceFault sinkFault),
      (runAll source.recorded sink.recorded draws rules noted).1 = runs.map Prod.snd ∧
      (runAll source.recorded sink.recorded draws rules noted).2.2 =
        noted.2 ++ (runs.map Prod.fst).flatten ∧
      List.Forall₂ (fun rule run => run.2.rule = rule.name ∧
          RunsAs answer accepts rule run.1 run.2.result)
        (rules.filter (·.enabled)) runs := by
  induction rules generalizing draws noted with
  | nil => exact ⟨[], rfl, (List.append_nil _).symm, .nil⟩
  | cons rule rest inductionHypothesis =>
    have restSteady : ∀ later ∈ rest, later.enabled → Steady later.expressions :=
      fun later member => steady later (List.mem_cons_of_mem _ member)
    cases enabled : rule.enabled with
    | false =>
      rw [runAll_cons_of_disabled enabled, List.filter_cons_of_neg (by simp [enabled])]
      exact inductionHypothesis restSteady _ noted
    | true =>
      rw [runAll_cons_of_enabled enabled, List.filter_cons_of_pos enabled]
      obtain ⟨named, runCase⟩ := rule.run_cases source.recorded sink.recorded (draws 0) noted
      obtain ⟨made, calls, runsAs⟩ :=
        runCase.runsAs fetches creates (steady rule List.mem_cons_self enabled)
      obtain ⟨runs, reports, restCalls, each⟩ := inductionHypothesis restSteady
        (fun index => draws (index + 1)) (rule.run source.recorded sink.recorded (draws 0) noted).2
      let report := (rule.run source.recorded sink.recorded (draws 0) noted).1.withFaultEvent
      refine ⟨(made, report) :: runs, congrArg (report :: ·) reports, ?_, .cons ⟨?_, ?_⟩ each⟩
      · rw [restCalls, calls, List.map_cons, List.flatten_cons, List.append_assoc]
      · rw [show report.rule = _ from RunReport.rule_withFaultEvent _]
        exact named
      · rw [show report.result = _ from RunReport.result_withFaultEvent _]
        exact runsAs

end

/-! ### Playlists in memory -/

/-- The source that always answers a user alike. -/
def Source.answering (answer : Option String → Except sourceFault (List Record)) :
    Source (StateM σ) sourceFault :=
  ⟨fun user state => (answer user, state)⟩

/-- The id of a playlist kept in memory: its number among them. -/
def numberedId (number : Nat) : String :=
  "playlist-" ++ number.repr

/-- The sink that keeps playlists in memory, unless there is a fault in the request. -/
def Sink.inMemory (refusal : PlaylistRequest → Option sinkFault) :
    Sink (StateM (List PlaylistRequest)) sinkFault :=
  ⟨fun name user items made =>
    match refusal ⟨name, user, items⟩ with
    | some fault => (.error fault, made)
    | none => (.ok (numberedId (made.length + 1)), made ++ [⟨name, user, items⟩])⟩

theorem Sink.create_inMemory (refusal : PlaylistRequest → Option sinkFault) (name : String)
    (user : Option String) (items : List String) (made : List PlaylistRequest) :
    (Sink.inMemory refusal).create name user items made =
      match refusal ⟨name, user, items⟩ with
      | some fault => (.error fault, made)
      | none => (.ok (numberedId (made.length + 1)), made ++ [⟨name, user, items⟩]) :=
  rfl

/-- The id of the playlist that a run made. -/
def playlistOf (result : Except (RunFault sourceFault sinkFault) Outcome) : Option String :=
  match result with
  | .ok outcome => outcome.playlist
  | .error _ => none

/-- The playlist that a run made for a user. -/
def createdBy (user : Option String)
    (result : Except (RunFault sourceFault sinkFault) Outcome) : Option PlaylistRequest :=
  match result with
  | .ok outcome => outcome.playlist.map fun _ => ⟨outcome.rule, user, outcome.items⟩
  | .error _ => none

section

variable {answer : Option String → Except sourceFault (List Record)}
  {refusal : PlaylistRequest → Option sinkFault}

/-- A run in memory makes the next playlist, or makes none and changes nothing. -/
theorem RunCase.inMemory {draws : Draws} {rule : Rule} {made after : List PlaylistRequest}
    {result : Except (RunFault sourceFault sinkFault) Outcome}
    (runCase : RunCase (.answering answer) (.inMemory refusal) draws rule made result after) :
    (playlistOf result = none ∧ createdBy rule.user result = none ∧ after = made) ∨
      ∃ records, answer rule.user = .ok records ∧ rule.itemIds draws records ≠ [] ∧
        refusal (rule.requestOf draws records) = none ∧
        playlistOf result = some (numberedId (made.length + 1)) ∧
        createdBy rule.user result = some (rule.requestOf draws records) ∧
        after = made ++ [rule.requestOf draws records] := by
  cases runCase with
  | unfetched fetched => exact .inl ⟨rfl, rfl, (congrArg Prod.snd fetched).symm⟩
  | nothing fetched => exact .inl ⟨rfl, rfl, (congrArg Prod.snd fetched).symm⟩
  | refused fetched _ reply =>
    obtain rfl : made = _ := congrArg Prod.snd fetched
    rw [Sink.create_inMemory] at reply
    split at reply
    · exact .inl ⟨rfl, rfl, (congrArg Prod.snd reply).symm⟩
    · cases reply
  | created fetched nonempty reply =>
    obtain rfl : made = _ := congrArg Prod.snd fetched
    rw [Sink.create_inMemory] at reply
    split at reply
    · cases reply
    · rename_i accepted
      cases reply
      exact .inr ⟨_, congrArg Prod.fst fetched, nonempty, accepted, rfl, rfl, rfl⟩

theorem numberedId_injective : Function.Injective numberedId := by
  intro first second same
  have digits : first.repr.toList = second.repr.toList := by
    rw [numberedId, numberedId, String.append_right_inj] at same
    rw [same]
  rw [Nat.toList_repr, Nat.toList_repr] at digits
  rw [← Nat.ofDigitChars_ten_toDigits (n := first), digits, Nat.ofDigitChars_ten_toDigits]

/-! ### Rules that make no playlist -/

/-- The reasons why a rule makes no playlist. -/
inductive Inert (answer : Option String → Except sourceFault (List Record))
    (refusal : PlaylistRequest → Option sinkFault) (rule : Rule) : Prop where
  | disabled (off : rule.enabled = false)
  | unfetched (fault : sourceFault) (answered : answer rule.user = .error fault)
  | nothing (empty : rule.idsFrom answer = [])
  | refused (fault : sinkFault) (refusedWith : refusal (rule.request answer) = some fault)

/-- A rule that makes no playlist leaves the ones in memory as they are. -/
theorem Inert.run_inMemory {rule : Rule} (inert : Inert answer refusal rule)
    (enabled : rule.enabled = true) (steady : Steady rule.expressions) (draws : Draws)
    (made : List PlaylistRequest) :
    (rule.run (.answering answer) (.inMemory refusal) draws made).2 = made := by
  obtain ⟨_, runCase⟩ := rule.run_cases (.answering answer) (.inMemory refusal) draws made
  rcases runCase.inMemory with ⟨_, _, same⟩ | ⟨records, answered, nonempty, accepted, _⟩
  · exact same
  · rw [Rule.requestOf, Rule.itemIds_of_steady steady draws answered] at accepted
    rw [Rule.itemIds_of_steady steady draws answered] at nonempty
    cases inert with
    | disabled off => exact absurd (off.symm.trans enabled) Bool.false_ne_true
    | unfetched fault failed => exact absurd (failed.symm.trans answered) nofun
    | nothing empty => exact absurd empty nonempty
    | refused fault refusedWith => exact absurd (refusedWith.symm.trans accepted) nofun

variable [Worded sourceFault] [Worded sinkFault]

/-- The playlists in memory grow by those that the runs made, numbered in their order. -/
theorem runAll_inMemory (draws : Nat → Draws) (rules : List Rule) (made : List PlaylistRequest) :
    let run := runAll (.answering answer) (.inMemory refusal) draws rules made
    ∃ created : List PlaylistRequest,
      run.2 = made ++ created ∧
      created = ((rules.filter (·.enabled)).zip run.1).filterMap
        (fun entry => createdBy entry.1.user entry.2.result) ∧
      run.1.filterMap (playlistOf ·.result) =
        (List.range' (made.length + 1) created.length).map numberedId := by
  induction rules generalizing draws made with
  | nil => exact ⟨[], (List.append_nil made).symm, rfl, rfl⟩
  | cons rule rest inductionHypothesis =>
    cases enabled : rule.enabled with
    | false =>
      rw [runAll_cons_of_disabled enabled, List.filter_cons_of_neg (by simp [enabled])]
      exact inductionHypothesis _ made
    | true =>
      rw [runAll_cons_of_enabled enabled, List.filter_cons_of_pos enabled]
      obtain ⟨_, runCase⟩ := rule.run_cases (.answering answer) (.inMemory refusal) (draws 0) made
      obtain ⟨created, after, fromRuns, ids⟩ := inductionHypothesis
        (fun index => draws (index + 1))
        (rule.run (.answering answer) (.inMemory refusal) (draws 0) made).2
      rcases runCase.inMemory with ⟨noId, nothing, same⟩ | ⟨_, _, _, _, newId, new, next⟩
      · refine ⟨created, by rw [after, same], ?_, ?_⟩
        · rw [List.zip_cons_cons,
            List.filterMap_cons_none (by rwa [RunReport.result_withFaultEvent])]
          exact fromRuns
        · rw [List.filterMap_cons_none (by rwa [RunReport.result_withFaultEvent]), ids, same]
      · refine ⟨_ :: created, by rw [after, next, List.append_assoc]; rfl, ?_, ?_⟩
        · rw [List.zip_cons_cons,
            List.filterMap_cons_some (by rwa [RunReport.result_withFaultEvent])]
          exact congrArg (_ :: ·) fromRuns
        · rw [List.filterMap_cons_some (by rwa [RunReport.result_withFaultEvent]), ids, next,
            List.length_append, List.length_singleton, List.length_cons, List.range'_succ,
            List.map_cons]

/-- Rules that make no playlist may be left out: the others come to the same. -/
theorem runAll_without_inert {marked : List (Rule × Bool)}
    (steady : ∀ entry ∈ marked, entry.1.enabled → Steady entry.1.expressions)
    (inert : ∀ entry ∈ marked, entry.2 = false → Inert answer refusal entry.1)
    (draws otherDraws : Nat → Draws) (made : List PlaylistRequest) :
    let all := runAll (.answering answer) (.inMemory refusal) draws (marked.map Prod.fst) made
    let kept := runAll (.answering answer) (.inMemory refusal) otherDraws
      ((marked.filter Prod.snd).map Prod.fst) made
    kept.2 = all.2 ∧
      kept.1 = (((marked.filter (·.1.enabled)).zip all.1).filter (·.1.2)).map Prod.snd := by
  induction marked generalizing draws otherDraws made with
  | nil => exact ⟨rfl, rfl⟩
  | cons entry rest inductionHypothesis =>
    obtain ⟨rule, keep⟩ := entry
    have shorter := fun draws otherDraws made => inductionHypothesis
      (fun entry member => steady entry (List.mem_cons_of_mem _ member))
      (fun entry member => inert entry (List.mem_cons_of_mem _ member)) draws otherDraws made
    cases enabled : rule.enabled with
    | false =>
      rw [List.map_cons, runAll_cons_of_disabled enabled,
        List.filter_cons_of_neg (p := fun entry : Rule × Bool => entry.1.enabled)
          (by simp [enabled])]
      cases keep with
      | false => exact shorter _ _ made
      | true =>
        rw [List.filter_cons_of_pos rfl, List.map_cons, runAll_cons_of_disabled enabled]
        exact shorter _ _ made
    | true =>
      have ruleSteady := steady (rule, keep) List.mem_cons_self enabled
      rw [List.map_cons, runAll_cons_of_enabled enabled,
        List.filter_cons_of_pos (p := fun entry : Rule × Bool => entry.1.enabled) enabled]
      cases keep with
      | false =>
        have same := (inert (rule, false) List.mem_cons_self rfl).run_inMemory enabled ruleSteady
          (draws 0) made
        rw [same, List.filter_cons_of_neg Bool.false_ne_true]
        dsimp only
        rw [List.zip_cons_cons, List.filter_cons_of_neg Bool.false_ne_true]
        exact shorter _ _ made
      | true =>
        rw [List.filter_cons_of_pos rfl, List.map_cons, runAll_cons_of_enabled enabled]
        obtain ⟨sameReport, sameMade⟩ :=
          (simulates_self (.answering answer) (.inMemory refusal)).run
          ruleSteady (otherDraws 0) (draws 0) (rfl : made = made)
        obtain ⟨sameEnd, sameReports⟩ := shorter (fun index => draws (index + 1))
          (fun index => otherDraws (index + 1))
          (rule.run (.answering answer) (.inMemory refusal) (draws 0) made).2
        dsimp only
        rw [sameReport, sameMade, List.zip_cons_cons, List.filter_cons_of_pos rfl]
        exact ⟨sameEnd, congrArg (_ :: ·) sameReports⟩

/-- Rules run in a row are isolated from each other. Exactly the enabled ones run, once each
and in order, and each asks and comes to what it would alone, whatever source and sink do
besides. With playlists in memory, they grow by those of the successful runs, under ids that
no two of them share; and rules that make no playlist may be inserted or left out without
changing what the others come to. -/
theorem rules_run_isolated (answer : Option String → Except sourceFault (List Record))
    (accepts : PlaylistRequest → Bool) (source : Source (StateM σ) sourceFault)
    (sink : Sink (StateM σ) sinkFault)
    (fetches : ∀ user state, (source.fetch user state).1 = answer user)
    (creates : ∀ name user items state,
      (sink.create name user items state).1.isOk = accepts ⟨name, user, items⟩)
    (rules : List Rule) (steady : ∀ rule ∈ rules, rule.enabled → Steady rule.expressions)
    (draws : Nat → Draws) (state : σ) :
    (∃ runs : List (List (Call sinkFault) × RunReport sourceFault sinkFault),
      (runAll source sink draws rules state).1 = runs.map Prod.snd ∧
      (runAll source.recorded sink.recorded draws rules (state, [])).2.2 =
        (runs.map Prod.fst).flatten ∧
      List.Forall₂ (fun rule run => run.2.rule = rule.name ∧
          RunsAs answer accepts rule run.1 run.2.result)
        (rules.filter (·.enabled)) runs) ∧
    ∀ (refusal : PlaylistRequest → Option sinkFault) (made : List PlaylistRequest),
      let run := runAll (.answering answer) (.inMemory refusal) draws rules made
      run.2 = made ++ ((rules.filter (·.enabled)).zip run.1).filterMap
          (fun entry => createdBy entry.1.user entry.2.result) ∧
        (run.1.filterMap (playlistOf ·.result)).Nodup ∧
        ∀ (marked : List (Rule × Bool)) (otherDraws : Nat → Draws),
          marked.map Prod.fst = rules →
          (∀ entry ∈ marked, entry.2 = false → Inert answer refusal entry.1) →
            let kept := runAll (.answering answer) (.inMemory refusal) otherDraws
              ((marked.filter Prod.snd).map Prod.fst) made
            kept.2 = run.2 ∧
              kept.1 = (((marked.filter (·.1.enabled)).zip run.1).filter (·.1.2)).map Prod.snd := by
  constructor
  · obtain ⟨runs, reports, calls, each⟩ := runAll_runsAs fetches creates steady draws (state, [])
    obtain ⟨same, _⟩ := (simulates_recorded source sink).runAll steady draws draws
      (rfl : (state, ([] : List (Call sinkFault))).1 = state)
    exact ⟨runs, same.trans reports, calls, each⟩
  · intro refusal made run
    obtain ⟨created, after, fromRuns, ids⟩ : ∃ created, run.2 = made ++ created ∧ _ ∧ _ :=
      runAll_inMemory draws rules made
    refine ⟨by rw [← fromRuns]; exact after, ?_, ?_⟩
    · rw [ids]
      exact (List.nodup_range' 1).map numberedId_injective
    · intro marked otherDraws all inert
      subst all
      refine runAll_without_inert (fun entry member => ?_) inert draws otherDraws made
      exact steady entry.1 (List.mem_map_of_mem member)

end

theorem isOk_create_inMemory (refusal : PlaylistRequest → Option sinkFault) (name : String)
    (user : Option String) (items : List String) (made : List PlaylistRequest) :
    ((Sink.inMemory refusal).create name user items made).1.isOk =
      (refusal ⟨name, user, items⟩).isNone := by
  rw [Sink.create_inMemory]
  cases refusal ⟨name, user, items⟩ <;> rfl

/-- Of six rules one is disabled, one has no records, one selects nothing and one is refused.
Without these four the other two come to the same. -/
theorem rules_run_isolated_mixed :
    let answer : Option String → Except String (List Record) := fun user =>
      if user = some "bob" then .error "offline"
      else .ok [⟨"a", "", "Movie", ⟨[], .nil⟩, none, none, false, none, none, none⟩]
    let refusal : PlaylistRequest → Option String := fun request =>
      if request.name = "Full" then some "no space" else none
    let rule (name wanted : String) (user : Option String) (enabled : Bool) : Rule :=
      ⟨name, ["\x7btype:" ++ wanted ++ " | none | 5\x7d"], user, enabled⟩
    let marked := [(rule "First" "Movie" none true, true), (rule "Off" "Movie" none false, false),
      (rule "Offline" "Movie" (some "bob") true, false), (rule "Full" "Movie" none true, false),
      (rule "Empty" "Episode" none true, false), (rule "Last" "Movie" none true, true)]
    let run (rules : List Rule) :=
      runAll (.answering answer) (.inMemory refusal) (fun _ _ => 0) rules []
    (∀ rule ∈ marked.map Prod.fst, rule.enabled → Steady rule.expressions) ∧
      (∀ entry ∈ marked, entry.2 = false → Inert answer refusal entry.1) ∧
      (run (marked.map Prod.fst)).1.map (playlistOf ·.result) =
        [some "playlist-1", none, none, none, some "playlist-2"] ∧
      (run ((marked.filter Prod.snd).map Prod.fst)).2 = (run (marked.map Prod.fst)).2 := by
  intro answer refusal rule marked run
  have steady : ∀ rule ∈ marked.map Prod.fst, rule.enabled → Steady rule.expressions := by decide
  have inert : ∀ entry ∈ marked, entry.2 = false → Inert answer refusal entry.1 := by
    intro entry member unmarked
    simp only [marked, List.mem_cons, List.not_mem_nil, or_false] at member
    rcases member with rfl | rfl | rfl | rfl | rfl | rfl
    · cases unmarked
    · exact .disabled rfl
    · exact .unfetched "offline" rfl
    · exact .refused "no space" rfl
    · exact .nothing (by decide)
    · cases unmarked
  obtain ⟨_, inMemory⟩ := rules_run_isolated answer (fun request => (refusal request).isNone)
    (.answering answer) (.inMemory refusal) (fun _ _ => rfl) (isOk_create_inMemory refusal)
    (marked.map Prod.fst) steady (fun _ _ => 0) []
  exact ⟨steady, inert, by decide, ((inMemory refusal []).2.2 marked (fun _ _ => 0) rfl inert).1⟩

end PlaylistRules
