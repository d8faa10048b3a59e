/-
This file proves how a chain of clauses is read that has operators between them and
no brackets around any part of it. Reading cuts at AND first, so the chain is an AND
of runs of clauses with OR between them. A fault comes from the first clause that has
one, and a leading NOT goes with the first clause alone.
-/

import PlaylistRules.Proofs.Reading

namespace PlaylistRules

open Text

/-! ### Chains -/

/-- A clause that stays whole: it is not blank, leaves no bracket open, and neither
operator cuts it. -/
structure Intact (text : List Char) : Prop where
  nonblank : ¬ AllBlank text
  balanced : Balanced Bracketing.clause.opens Bracketing.clause.closes text
  uncut : ∀ operator, Uncut .clause operator text

/-- A further clause of a chain behind an operator, with the blanks on either side of
the operator. -/
structure Link where
  operator : Operator
  before : List Char
  after : List Char
  clause : List Char

structure Link.Intact (link : Link) : Prop where
  beforeBlank : AllBlank link.before
  beforeNonempty : link.before ≠ []
  afterBlank : AllBlank link.after
  afterNonempty : link.after ≠ []
  clause : PlaylistRules.Intact link.clause

/-- Clauses with operators between them. -/
structure Chain where
  first : List Char
  links : List Link

namespace Chain

structure Intact (chain : Chain) : Prop where
  first : PlaylistRules.Intact chain.first
  links : ∀ link ∈ chain.links, link.Intact

/-- The text of the links of a chain. -/
def linksText : List Link → List Char
  | [] => []
  | link :: rest =>
    link.before ++ (link.operator.word ++ (link.after ++ (link.clause ++ linksText rest)))

def text (chain : Chain) : List Char :=
  chain.first ++ linksText chain.links

def clauses (chain : Chain) : List (List Char) :=
  chain.first :: chain.links.map Link.clause

/-- The parts of a chain between its ANDs, each a chain of its own with OR only. -/
def runsFrom (first : List Char) : List Link → List Chain
  | [] => [⟨first, []⟩]
  | link :: rest =>
    match link.operator, runsFrom link.clause rest with
    | .or, run :: others => ⟨first, link :: run.links⟩ :: others
    | _, others => ⟨first, []⟩ :: others

def runs (chain : Chain) : List Chain :=
  runsFrom chain.first chain.links

/-- Whether some operator of the chain is AND. -/
def hasAnd (chain : Chain) : Bool :=
  chain.links.any (·.operator = .and)

/-! ### How a chain should be read -/

/-- Reads a clause that many levels below the whole text. -/
def readAt (depth : Nat) (clause : List Char) : Except FormatError Filter :=
  Filter.read (Filter.nestingLimit + 1 - depth) .clause clause

/-- Reads a run of a chain with AND: a clause on its own directly, others under OR. -/
def readRun (run : Chain) : Except FormatError Filter :=
  if run.links = [] then readAt 1 run.first else Filter.any <$> run.clauses.mapM (readAt 2)

/-- Reads a chain clause by clause: under OR if there is no AND, and as an AND of its
runs otherwise. -/
def readGrouped (chain : Chain) : Except FormatError Filter :=
  if chain.hasAnd then Filter.all <$> chain.runs.mapM readRun
  else Filter.any <$> chain.clauses.mapM (readAt 1)

/-- What reading each clause of a run gives. -/
def runReadings (run : Chain) : List (Except FormatError Filter) :=
  run.clauses.map (readAt (if run.links = [] then 1 else 2))

/-- What reading each clause gives, in the order of the clauses. -/
def readings (chain : Chain) : List (Except FormatError Filter) :=
  if chain.hasAnd then chain.runs.flatMap runReadings else chain.clauses.map (readAt 1)

/-! ### Runs -/

/-- A chain begins with its first run, which begins with its first clause. -/
theorem exists_runsFrom (first : List Char) (links : List Link) :
    ∃ runLinks others, runsFrom first links = ⟨first, runLinks⟩ :: others := by
  cases links with
  | nil => exact ⟨[], [], rfl⟩
  | cons link rest =>
    obtain ⟨operator, before, after, clause⟩ := link
    cases operator with
    | and => exact ⟨[], _, rfl⟩
    | or =>
      rw [runsFrom]
      split
      · exact ⟨_, _, rfl⟩
      · exact ⟨_, _, rfl⟩

theorem runsFrom_and (first : List Char) {link : Link} (isAnd : link.operator = .and)
    (rest : List Link) :
    runsFrom first (link :: rest) = ⟨first, []⟩ :: runsFrom link.clause rest := by
  rw [runsFrom, isAnd]

theorem runsFrom_or (first : List Char) {link : Link} (isOr : link.operator = .or)
    {rest runLinks : List Link} {others : List Chain}
    (later : runsFrom link.clause rest = ⟨link.clause, runLinks⟩ :: others) :
    runsFrom first (link :: rest) = ⟨first, link :: runLinks⟩ :: others := by
  rw [runsFrom, isOr, later]

theorem operator_eq_or {operator : Operator} (notAnd : operator ≠ .and) : operator = .or := by
  cases operator with
  | and => exact absurd rfl notAnd
  | or => rfl

/-- Without AND the whole chain is a run. -/
theorem runsFrom_of_no_and (first : List Char) {links : List Link}
    (noAnd : ∀ link ∈ links, link.operator ≠ .and) : runsFrom first links = [⟨first, links⟩] := by
  induction links generalizing first with
  | nil => rfl
  | cons link rest inductionHypothesis =>
    exact runsFrom_or first (operator_eq_or (noAnd link List.mem_cons_self))
      (inductionHypothesis link.clause fun other member =>
        noAnd other (List.mem_cons_of_mem _ member))

/-- With AND there are several runs. -/
theorem two_le_length_runsFrom (first : List Char) {links : List Link} {link : Link}
    (member : link ∈ links) (isAnd : link.operator = .and) :
    2 ≤ (runsFrom first links).length := by
  induction links generalizing first with
  | nil => cases member
  | cons head rest inductionHypothesis =>
    obtain ⟨runLinks, others, found⟩ := exists_runsFrom head.clause rest
    by_cases headAnd : head.operator = .and
    · rw [runsFrom_and first headAnd, found]
      simp
    · have inRest : link ∈ rest := by
        rcases List.mem_cons.mp member with rfl | inRest
        · exact absurd isAnd headAnd
        · exact inRest
      have later := inductionHypothesis head.clause inRest
      rw [found] at later
      rw [runsFrom_or first (operator_eq_or headAnd) found]
      simpa using later

/-- The runs of an intact chain are intact, and hold no AND. -/
theorem Intact.runs {first : List Char} {links : List Link}
    (intact : Intact ⟨first, links⟩) {run : Chain} (member : run ∈ runsFrom first links) :
    run.Intact ∧ ∀ link ∈ run.links, link.operator ≠ .and := by
  induction links generalizing first run with
  | nil =>
    rw [List.mem_singleton.mp member]
    exact ⟨intact, fun _ inNone => absurd inNone List.not_mem_nil⟩
  | cons link rest inductionHypothesis =>
    have linkIntact := intact.links link List.mem_cons_self
    have later {other : Chain} (inLater : other ∈ runsFrom link.clause rest) :=
      inductionHypothesis ⟨linkIntact.clause,
        fun other inRest => intact.links other (List.mem_cons_of_mem _ inRest)⟩ inLater
    by_cases isAnd : link.operator = .and
    · rw [runsFrom_and first isAnd] at member
      rcases List.mem_cons.mp member with rfl | inLater
      · exact ⟨⟨intact.first, fun _ inNone => absurd inNone List.not_mem_nil⟩,
          fun _ inNone => absurd inNone List.not_mem_nil⟩
      · exact later inLater
    · obtain ⟨runLinks, others, found⟩ := exists_runsFrom link.clause rest
      rw [runsFrom_or first (operator_eq_or isAnd) found] at member
      rw [found] at later
      rcases List.mem_cons.mp member with rfl | inOthers
      · obtain ⟨runIntact, noAnd⟩ := later List.mem_cons_self
        exact ⟨⟨intact.first, List.forall_mem_cons.mpr ⟨linkIntact, runIntact.links⟩⟩,
          List.forall_mem_cons.mpr ⟨isAnd, noAnd⟩⟩
      · exact later (List.mem_cons_of_mem _ inOthers)

/-! ### Cutting a chain -/

theorem text_cons (first : List Char) (link : Link) (rest : List Link) :
    text ⟨first, link :: rest⟩ =
      first ++ (link.before ++ (link.operator.word ++ (link.after ++ text ⟨link.clause, rest⟩))) :=
  rfl

theorem Intact.closed {clause : List Char} (intact : PlaylistRules.Intact clause) :
    Bracketing.clause.depth 0 clause = 0 :=
  Bracketing.depth_of_balanced intact.balanced 0

theorem Intact.pieceOf {clause : List Char} (intact : PlaylistRules.Intact clause) :
    pieceOf clause = [trim clause] :=
  pieceOf_of_nonblank fun blank => intact.nonblank ((trim_eq_nil_iff clause).mp blank)

theorem not_allBlank_text {chain : Chain} (intact : chain.Intact) : ¬ AllBlank chain.text :=
  fun blank => intact.first.nonblank fun character member =>
    blank character (List.mem_append_left _ member)

/-- The segments of a chain at AND are its runs, with blanks on either side. -/
theorem segments_text {first : List Char} {links : List Link} (intact : Intact ⟨first, links⟩) :
    ∃ run others blanks segments', runsFrom first links = run :: others ∧ AllBlank blanks ∧
      segments .clause Operator.and.word 0 true 0 (text ⟨first, links⟩) =
        (run.text ++ blanks) :: segments' ∧
      List.Forall₂ (fun segment run => trim segment = trim run.text) segments' others := by
  induction links generalizing first with
  | nil =>
    refine ⟨⟨first, []⟩, [], [], [], rfl, allBlank_nil, ?_, .nil⟩
    have whole :=
      (segments_eq_singleton_iff .clause .and 0 true first).mpr (intact.first.uncut .and)
    simpa [text, linksText] using whole
  | cons link rest inductionHypothesis =>
    have linkIntact := intact.links link List.mem_cons_self
    obtain ⟨run, others, blanks, segments', found, blank, sliced, each⟩ :=
      inductionHypothesis ⟨linkIntact.clause,
        fun other inRest => intact.links other (List.mem_cons_of_mem _ inRest)⟩
    have closed := Intact.closed intact.first
    rw [text_cons]
    by_cases isAnd : link.operator = .and
    · refine ⟨⟨first, []⟩, run :: others, link.before,
        (link.after ++ (run.text ++ blanks)) :: segments',
        by rw [runsFrom_and first isAnd, found], linkIntact.beforeBlank, ?_, .cons ?_ each⟩
      · rw [isAnd, segments_append_word .clause .and (intact.first.uncut .and) closed
          linkIntact.beforeBlank linkIntact.beforeNonempty linkIntact.afterBlank
          linkIntact.afterNonempty, sliced, List.modifyHead_cons]
        simp [text, linksText]
      · rw [trim_append_left linkIntact.afterBlank, trim_append_right _ blank]
    · have isOr := operator_eq_or isAnd
      obtain ⟨runLinks, others', sameRuns⟩ := exists_runsFrom link.clause rest
      rw [found] at sameRuns
      obtain ⟨rfl, rfl⟩ := List.cons.inj sameRuns
      refine ⟨⟨first, link :: runLinks⟩, others, blanks, segments',
        runsFrom_or first isOr found, blank, ?_, each⟩
      rw [isOr, ← List.append_assoc first, segments_append_gap .clause .and
        (intact.first.uncut .and) closed linkIntact.beforeBlank linkIntact.beforeNonempty,
        ← List.append_assoc Operator.or.word, segments_append_gap .clause .and
        (uncut_of_nonblank .clause .and Operator.or.word_nonblank (by decide)) rfl
        linkIntact.afterBlank linkIntact.afterNonempty, sliced]
      simp [text_cons, isOr]

/-- The pieces of a chain at AND are its runs. -/
theorem pieces_text {chain : Chain} (intact : chain.Intact) :
    pieces .clause Operator.and.word chain.text = chain.runs.map fun run => trim run.text := by
  obtain ⟨run, others, blanks, segments', found, blank, sliced, each⟩ := segments_text intact
  have nonblank {other : Chain} (member : other ∈ chain.runs) : trim other.text ≠ [] :=
    fun gone => not_allBlank_text (Intact.runs intact member).1 ((trim_eq_nil_iff _).mp gone)
  have inRuns {other : Chain} (member : other ∈ run :: others) : other ∈ chain.runs := by
    rwa [runs, found]
  have headPiece : pieceOf (run.text ++ blanks) = [trim run.text] := by
    rw [pieceOf_append_right _ blank, pieceOf_of_nonblank (nonblank (inRuns List.mem_cons_self))]
  have otherPieces : segments'.flatMap pieceOf = others.map fun run => trim run.text := by
    have eachNonblank {other : Chain} (member : other ∈ others) : trim other.text ≠ [] :=
      nonblank (inRuns (List.mem_cons_of_mem _ member))
    clear found inRuns sliced
    induction each with
    | nil => rfl
    | cons same _ inductionHypothesis =>
      rw [List.flatMap_cons, List.map_cons, inductionHypothesis fun member =>
        eachNonblank (List.mem_cons_of_mem _ member),
        pieceOf_of_nonblank (same ▸ eachNonblank List.mem_cons_self), same]
      rfl
  rw [pieces_eq_flatMap, show chain.text = text ⟨chain.first, chain.links⟩ from rfl, sliced,
    List.flatMap_cons, headPiece, otherPieces, runs, found]
  rfl

/-- The pieces of a run at OR are its clauses. -/
theorem pieces_run {first : List Char} {links : List Link} (intact : Intact ⟨first, links⟩)
    (noAnd : ∀ link ∈ links, link.operator ≠ .and) :
    pieces .clause Operator.or.word (text ⟨first, links⟩) = (clauses ⟨first, links⟩).map trim := by
  induction links generalizing first with
  | nil =>
    rw [text, linksText, List.append_nil, pieces_of_uncut .clause .or (intact.first.uncut .or),
      Intact.pieceOf intact.first]
    rfl
  | cons link rest inductionHypothesis =>
    have linkIntact := intact.links link List.mem_cons_self
    rw [text_cons, operator_eq_or (noAnd link List.mem_cons_self),
      pieces_append_word .clause .or (intact.first.uncut .or) (Intact.closed intact.first)
        linkIntact.beforeBlank linkIntact.beforeNonempty linkIntact.afterBlank
        linkIntact.afterNonempty, Intact.pieceOf intact.first,
      inductionHypothesis ⟨linkIntact.clause, fun other member =>
        intact.links other (List.mem_cons_of_mem _ member)⟩
        fun other member => noAnd other (List.mem_cons_of_mem _ member)]
    rfl

/-! ### Reading a chain -/

theorem mapM_read_trim {Part : Type} (levels : Nat) (text : Part → List Char) (parts : List Part) :
    (parts.map fun part => trim (text part)).mapM (Filter.read levels .clause) =
      parts.mapM fun part => Filter.read levels .clause (text part) := by
  rw [List.mapM_map]
  congr 1
  funext part
  exact Filter.read_trim levels .clause (text part)

/-- Several clauses with OR between them are read one level down. -/
theorem read_run {run : Chain} (intact : run.Intact)
    (noAnd : ∀ link ∈ run.links, link.operator ≠ .and) (several : run.links ≠ []) (levels : Nat) :
    Filter.read (levels + 1) .clause run.text =
      Filter.any <$> run.clauses.mapM (Filter.read levels .clause) := by
  have nonempty : trim run.text ≠ [] :=
    fun gone => not_allBlank_text intact ((trim_eq_nil_iff _).mp gone)
  have one : (pieces .clause Operator.and.word (trim run.text)).length < 2 := by
    rw [pieces_trim, pieces_text intact, runs, runsFrom_of_no_and run.first noAnd]
    exact Nat.one_lt_two
  have eachClause : pieces .clause Operator.or.word (trim run.text) = run.clauses.map trim := by
    rw [pieces_trim, show run.text = text ⟨run.first, run.links⟩ from rfl, pieces_run intact noAnd]
  have two : 2 ≤ (pieces .clause Operator.or.word (trim run.text)).length := by
    rw [eachClause, List.length_map, clauses, List.length_cons, List.length_map]
    exact Nat.succ_le_succ (List.length_pos_of_ne_nil several)
  rw [Filter.read_succ, Filter.readStep_of_two_at_or nonempty one two, eachClause]
  exact congrArg _ (mapM_read_trim levels id run.clauses)

/-- A chain with AND is read run by run, one level down. -/
theorem read_runs {chain : Chain} (intact : chain.Intact) (several : 2 ≤ chain.runs.length)
    (levels : Nat) :
    Filter.read (levels + 1) .clause chain.text =
      Filter.all <$> chain.runs.mapM fun run => Filter.read levels .clause run.text := by
  have nonempty : trim chain.text ≠ [] :=
    fun gone => not_allBlank_text intact ((trim_eq_nil_iff _).mp gone)
  have eachRun : pieces .clause Operator.and.word (trim chain.text) =
      chain.runs.map fun run => trim run.text := by
    rw [pieces_trim, pieces_text intact]
  rw [Filter.read_succ,
    Filter.readStep_of_two_at_and nonempty (by rw [eachRun]; simpa using several),
    eachRun, mapM_read_trim]

/-- A chain is read as an AND of OR-runs. -/
theorem read_text {chain : Chain} (intact : chain.Intact) (several : chain.links ≠ []) :
    Filter.read (Filter.nestingLimit + 1) .clause chain.text = chain.readGrouped := by
  unfold readGrouped
  by_cases withAnd : chain.hasAnd = true
  · obtain ⟨link, member, isAnd⟩ := List.any_eq_true.mp withAnd
    rw [if_pos withAnd, read_runs intact
      (two_le_length_runsFrom chain.first member (of_decide_eq_true isAnd))]
    congr 1
    refine mapM_congr fun run inRuns => ?_
    obtain ⟨runIntact, noAnd⟩ := Intact.runs intact inRuns
    unfold readRun
    by_cases single : run.links = []
    · rw [if_pos single, text, single, linksText, List.append_nil]
      rfl
    · rw [if_neg single]
      exact read_run runIntact noAnd single 63
  · have noAnd : ∀ link ∈ chain.links, link.operator ≠ .and := by
      intro link member isAnd
      exact withAnd (List.any_eq_true.mpr ⟨link, member, decide_eq_true isAnd⟩)
    rw [if_neg withAnd]
    exact read_run intact noAnd several Filter.nestingLimit

/-- The fault of a chain is that of its first clause with one. -/
theorem faultOf_readGrouped (chain : Chain) :
    faultOf chain.readGrouped = chain.readings.findSome? faultOf := by
  have ofRun (run : Chain) : faultOf run.readRun = run.runReadings.findSome? faultOf := by
    unfold readRun runReadings
    by_cases single : run.links = []
    · rw [if_pos single, if_pos single, clauses, single, List.map_nil, List.map_cons, List.map_nil,
        List.findSome?_cons, List.findSome?_nil]
      cases readAt 1 run.first <;> rfl
    · rw [if_neg single, if_neg single, faultOf_map, faultOf_mapM, List.findSome?_map]
      rfl
  unfold readGrouped readings
  by_cases withAnd : chain.hasAnd = true
  · rw [if_pos withAnd, if_pos withAnd, faultOf_map, faultOf_mapM]
    induction chain.runs with
    | nil => rfl
    | cons run others inductionHypothesis =>
      rw [List.findSome?_cons, List.flatMap_cons, List.findSome?_append, inductionHypothesis, ofRun]
      cases run.runReadings.findSome? faultOf <;> rfl
  · rw [if_neg withAnd, if_neg withAnd, faultOf_map, faultOf_mapM, List.findSome?_map]
    rfl

/-! ### A leading NOT -/

/-- The chain with a text in front of its first clause. -/
def prefixed (lead : List Char) (chain : Chain) : Chain :=
  { chain with first := lead ++ chain.first }

section

variable {word gap : List Char} (isNot : word.map Char.toLower = ['n', 'o', 't'])
  (blank : AllBlank gap) (nonempty : gap ≠ [])

include isNot

theorem plain_of_not {character : Char} (member : character ∈ word) :
    isBlank character = false ∧ isBracket character = false := by
  have lowered : character.toLower ∈ ['n', 'o', 't'] := isNot ▸ List.mem_map_of_mem member
  refine plain_of_letter ?_
  simp only [List.mem_cons, List.not_mem_nil, or_false] at lowered
  rcases lowered with same | same | same <;> rw [same] <;> decide

theorem word_ne_nil : word ≠ [] := by
  rintro rfl
  cases isNot

include blank nonempty

/-- A clause stays whole with NOT in front of it. -/
theorem intact_negated {clause : List Char} (intact : PlaylistRules.Intact clause) :
    PlaylistRules.Intact (word ++ gap ++ clause) := by
  have plain {character : Char} (member : character ∈ word ++ gap) :
      isBracket character = false := by
    rcases List.mem_append.mp member with inWord | inGap
    · exact (plain_of_not isNot inWord).2
    · exact isBracket_of_isBlank (blank character inGap)
  have different (operator : Operator) : word ≠ operator.word := by
    rintro rfl
    cases operator <;> cases isNot
  refine ⟨fun allBlank => intact.nonblank fun character member => allBlank character
    (List.mem_append_right _ member), ?_, fun operator => ?_⟩
  · refine Balanced.append (balanced_of_none (fun character member => ?_)
      fun character member => ?_) intact.balanced
    · exact Bracketing.clause.opens_of_no_bracket (plain member)
    · exact Bracketing.clause.closes_of_no_bracket (plain member)
  · have uncutWord : Uncut .clause operator word := uncut_of_nonblank .clause operator
      (fun character member => (plain_of_not isNot member).1) (different operator)
    have closed : Bracketing.clause.depth 0 word = 0 := Bracketing.clause.depth_of_no_bracket 0
      fun character member => (plain_of_not isNot member).2
    exact uncut_append_gap .clause operator uncutWord closed blank nonempty (intact.uncut operator)

/-- NOT in front of a clause negates it, and the clause is read one level down. -/
theorem readAt_negated {clause : List Char} (intact : PlaylistRules.Intact clause) {depth : Nat}
    (low : depth ≤ Filter.nestingLimit) :
    readAt depth (word ++ gap ++ clause) = Filter.not <$> readAt (depth + 1) clause := by
  have clauseNonempty : trim clause ≠ [] :=
    fun gone => intact.nonblank ((trim_eq_nil_iff clause).mp gone)
  obtain ⟨lead, trail, split, leadBlank, trailBlank⟩ := exists_eq_trim clause
  have wordTrimmed : trim word = word := by
    refine (trim_eq_self_iff word).mpr ⟨fun character first => ?_, fun character last => ?_⟩
    · exact (plain_of_not isNot (List.mem_of_mem_head? first)).1
    · exact (plain_of_not isNot (List.mem_of_mem_getLast? last)).1
  have trimmed : trim (word ++ gap ++ clause) = word ++ (gap ++ lead) ++ trim clause := by
    conv_lhs => rw [split]
    rw [show word ++ gap ++ (lead ++ trim clause ++ trail) =
      word ++ (gap ++ lead) ++ trim clause ++ trail by simp, trim_append_right _ trailBlank]
    exact trim_append_of_trimmed wordTrimmed (trim_trim clause) (word_ne_nil isNot) clauseNonempty _
  have undivided : Filter.Undivided .clause (trim (word ++ gap ++ clause)) := by
    have uncut := Filter.undivided_of_uncut (intact_negated isNot blank nonempty intact).uncut
    constructor
    · rw [pieces_trim]
      exact uncut.and
    · rw [pieces_trim]
      exact uncut.or
  have negated : afterNot? (trim (word ++ gap ++ clause)) = some (trim clause) := by
    obtain ⟨first, rest, rfl⟩ := List.exists_cons_of_ne_nil nonempty
    refine (afterNot?_eq_some_iff _ _).mpr
      ⟨word, first, rest ++ lead ++ trim clause, ?_, isNot, blank first List.mem_cons_self, ?_⟩
    · rw [trimmed]
      simp
    · rw [trim_append_left _ (trim clause), trim_trim]
      exact AllBlank.append (fun character member => blank character
        (List.mem_cons_of_mem _ member)) leadBlank
  have textNonempty : trim (word ++ gap ++ clause) ≠ [] := by
    rw [trimmed]
    exact List.append_ne_nil_of_right_ne_nil _ clauseNonempty
  unfold readAt
  rw [show Filter.nestingLimit + 1 - depth = Filter.nestingLimit + 1 - (depth + 1) + 1 by omega,
    Filter.read_succ, Filter.readStep_of_negated textNonempty undivided negated, Filter.read_trim]

end

/-- A chain is read as an AND of the longest runs of clauses with OR between them, one
level down, and the clauses of a longer run another level down. Its fault is that of
the first clause that has one. With NOT in front of it only the first clause changes,
to the negation of the clause. -/
theorem parse_chain (chain : Chain) (intact : chain.Intact) (several : chain.links ≠ []) :
    Filter.parse (String.ofList chain.text) = chain.readGrouped ∧
      faultOf chain.readGrouped = chain.readings.findSome? faultOf ∧
      ∀ word gap, word.map Char.toLower = ['n', 'o', 't'] → AllBlank gap → gap ≠ [] →
        Filter.parse (String.ofList (word ++ gap ++ chain.text)) =
            (chain.prefixed (word ++ gap)).readGrouped ∧
          ∀ depth ≤ Filter.nestingLimit,
            readAt depth (word ++ gap ++ chain.first) =
              Filter.not <$> readAt (depth + 1) chain.first := by
  refine ⟨?_, faultOf_readGrouped chain, fun word gap isNot blank nonempty => ⟨?_, ?_⟩⟩
  · rw [Filter.parse, String.toList_ofList]
    exact read_text intact several
  · have prefixedIntact : (chain.prefixed (word ++ gap)).Intact :=
      ⟨intact_negated isNot blank nonempty intact.first, intact.links⟩
    have sameText : (chain.prefixed (word ++ gap)).text = word ++ gap ++ chain.text :=
      List.append_assoc ..
    rw [Filter.parse, String.toList_ofList, ← sameText]
    exact read_text prefixedIntact several
  · exact fun depth low => readAt_negated isNot blank nonempty intact.first low

/-- A run of two clauses, then one on its own, and the same behind NOT. -/
theorem parse_chain_mixed :
    let chain : Chain := ⟨"genre:a".toList, [⟨.or, [' '], [' ', ' '], "length:<5".toList⟩,
      ⟨.and, ['\t'], [' '], "type:(b OR c)".toList⟩]⟩
    chain.Intact ∧ chain.links ≠ [] ∧
      Filter.parse "genre:a OR  length:<5\tAND type:(b OR c)" = chain.readGrouped ∧
      Filter.parse "nOT genre:a OR  length:<5\tAND type:(b OR c)" =
        .ok (.all [.any [.not (.group .genre (.term .genre "a")), .runtime .less 5],
          .group .contentType (.any [.term .contentType "b", .term .contentType "c"])]) := by
  intro chain
  have intact : chain.Intact := by
    refine ⟨⟨by decide, by decide, fun operator => by cases operator <;> decide⟩, ?_⟩
    intro link member
    simp only [chain, List.mem_cons, List.not_mem_nil, or_false] at member
    rcases member with rfl | rfl
    all_goals
      exact ⟨by decide, by decide, by decide, by decide, by decide, by decide,
        fun operator => by cases operator <;> decide⟩
  have several : chain.links ≠ [] := by decide
  refine ⟨intact, several, (parse_chain chain intact several).1, ?_⟩
  exact ((parse_chain chain intact several).2.2 "nOT".toList [' '] (by decide) (by decide)
    (by decide)).1.trans rfl

end Chain

end PlaylistRules
