/-
This file follows reading down. One step of reading hands on no text, one text or the
pieces of a list, and it reads them as the steps below do. What is handed on is at least
two characters shorter, because an operator, a NOT, a pair of delimiters or a kind with
its colon is used up. So reading would end without any limit of levels, and a text can
only be too deep if it has two characters for each level.
-/

import PlaylistRules.Proofs.Nesting
import PlaylistRules.Proofs.Slices

namespace PlaylistRules

open Number Text

namespace Filter

/-! ### What a step hands on -/

/-- The texts that a step of reading hands one level down, each under the kind of text it is
read as. The text it comes from is trimmed. -/
inductive HandsOn : (style : Bracketing) → (text : List Char) →
    (other : Bracketing) → (part : List Char) → Prop where
  | piece {style : Bracketing} {operator : Operator} {text part : List Char}
      (two : 2 ≤ (pieces style operator.word text).length)
      (inTurn : operator = .and ∨ (pieces style Operator.and.word text).length < 2)
      (member : part ∈ pieces style operator.word text) : HandsOn style text style part
  | negated {style : Bracketing} {text rest : List Char} (undivided : Undivided style text)
      (negated : afterNot? text = some rest) : HandsOn style text style rest
  | inside {style : Bracketing} {text inner : List Char} (undivided : Undivided style text)
      (plain : afterNot? text = none) (wrapped : unwrap? style text = some inner) :
      HandsOn style text style inner
  | value {field : Field} {text before after : List Char} (undivided : Undivided .clause text)
      (plain : afterNot? text = none) (bare : unwrap? .clause text = none)
      (colon : splitColon? text = some (before, after))
      (kind : lowercase (String.ofList (trim before)) = field.keyword) :
      HandsOn .clause text (.value field) (trim after)

/-- The faults that a step of reading finds itself. -/
inductive OwnFault : (style : Bracketing) → (text : List Char) → FormatError → Prop where
  | empty {style : Bracketing} {text : List Char} : OwnFault style text (emptyFault style)
  | noColon {text : List Char} : OwnFault .clause text (.missingColon (String.ofList text))
  | kind {text before after : List Char} (colon : splitColon? text = some (before, after)) :
      OwnFault .clause text (.unknownKind (String.ofList (trim before))
        (suggestion? (String.ofList (trim before))))
  | comparison {text before after : List Char} (colon : splitColon? text = some (before, after)) :
      OwnFault .clause text
        (.invalidComparison (String.ofList (trim before)) (String.ofList (trim after)))
  | boolean {text before after : List Char} (colon : splitColon? text = some (before, after)) :
      OwnFault .clause text (.invalidBoolean (String.ofList (trim after)))

/-- What a step of reading comes to, whatever the steps below it do: a result of its own, the
reading of one text it hands on, or those of all pieces of a list. -/
inductive Descends (style : Bracketing) (text : List Char)
    (step : (Bracketing → List Char → Except FormatError Filter) → Except FormatError Filter) :
    Prop where
  | stays (result : Except FormatError Filter)
      (own : ∀ fault, faultOf result = some fault → OwnFault style text fault)
      (same : ∀ next, step next = result)
  | one {other : Bracketing} {part : List Char} (handsOn : HandsOn style text other part)
      (wrap : Filter → Filter) (same : ∀ next, step next = wrap <$> next other part)
  | each {parts : List (List Char)} (handsOn : ∀ part ∈ parts, HandsOn style text style part)
      (wrap : List Filter → Filter) (same : ∀ next, step next = wrap <$> parts.mapM (next style))

section

variable {style : Bracketing} {text : List Char}

theorem Descends.fault {fault : FormatError} (own : OwnFault style text fault) :
    Descends style text fun _ => .error fault :=
  .stays _ (fun _ failed => by cases failed; exact own) fun _ => rfl

theorem descends_readComparison {Quantity : Type} {before after : List Char}
    (colon : splitColon? text = some (before, after)) (number? : List Char → Option Quantity)
    (wrap : Comparison → Quantity → Filter) :
    Descends .clause text fun _ => readComparison (trim before) (trim after) number? wrap := by
  unfold readComparison
  split
  · exact .stays _ (fun _ failed => by cases failed) fun _ => rfl
  · exact .fault (.comparison colon)

theorem descends_readWatched {before after : List Char}
    (colon : splitColon? text = some (before, after)) :
    Descends .clause text fun _ => readWatched (trim after) := by
  unfold readWatched
  split_ifs
  · exact .stays _ (fun _ failed => by cases failed) fun _ => rfl
  · exact .stays _ (fun _ failed => by cases failed) fun _ => rfl
  · exact .fault (.boolean colon)

theorem descends_readLeaf (undivided : Undivided .clause text) (plain : afterNot? text = none)
    (bare : unwrap? .clause text = none) :
    Descends .clause text fun next => readLeaf (fun field => next (.value field)) text := by
  unfold readLeaf
  cases colon : splitColon? text with
  | none => exact .fault .noColon
  | some parts =>
    obtain ⟨before, after⟩ := parts
    have value (field : Field)
        (kind : lowercase (String.ofList (trim before)) = field.keyword) :
        HandsOn .clause text (.value field) (trim after) :=
      .value undivided plain bare colon kind
    dsimp only
    split
    · rename_i kind
      exact .one (value .genre kind) _ fun _ => rfl
    · rename_i kind
      exact .one (value .language kind) _ fun _ => rfl
    · rename_i kind
      exact .one (value .contentType kind) _ fun _ => rfl
    · exact descends_readComparison colon _ _
    · exact descends_readComparison colon _ _
    · exact descends_readComparison colon _ _
    · exact descends_readWatched colon
    · exact .fault (.kind colon)

end

/-- The ways of reading, faults included, by what they hand on. -/
theorem descends_readStep (style : Bracketing) (text : List Char) :
    Descends style text fun next => readStep next style text := by
  unfold readStep
  by_cases empty : text = []
  · simp only [if_pos empty]
    exact .fault .empty
  by_cases two : 2 ≤ (pieces style Operator.and.word text).length
  · simp only [if_neg empty, if_pos two]
    exact .each (fun part member => .piece two (.inl rfl) member) all fun _ => rfl
  have noAnd := Nat.not_le.mp two
  by_cases twoOr : 2 ≤ (pieces style Operator.or.word text).length
  · simp only [if_neg empty, if_neg two, if_pos twoOr]
    exact .each (fun part member => .piece twoOr (.inr noAnd) member) any fun _ => rfl
  have undivided : Undivided style text := ⟨noAnd, Nat.not_le.mp twoOr⟩
  simp only [if_neg empty, if_neg two, if_neg twoOr]
  cases negated : afterNot? text with
  | some rest => exact .one (.negated undivided negated) Filter.not fun _ => rfl
  | none =>
    cases wrapped : unwrap? style text with
    | some inner =>
      refine .one (.inside undivided negated wrapped) id fun next => ?_
      exact (id_map _).symm
    | none =>
      cases style with
      | clause => exact descends_readLeaf undivided negated wrapped
      | value field => exact .stays _ (fun _ failed => by cases failed) fun _ => rfl

section

variable {next another : Bracketing → List Char → Except FormatError Filter} {style : Bracketing}
  {text : List Char}

/-- A step of reading depends on the steps below it only by what it hands on. -/
theorem readStep_congr
    (same : ∀ other part, HandsOn style text other part → next other part = another other part) :
    readStep next style text = readStep another style text := by
  cases descends_readStep style text with
  | stays result _ step => exact (step next).trans (step another).symm
  | one handsOn wrap step =>
    rw [show readStep next style text = _ from step next, same _ _ handsOn]
    exact (step another).symm
  | each handsOn wrap step =>
    rw [show readStep next style text = _ from step next,
      mapM_congr fun part member => same style part (handsOn part member)]
    exact (step another).symm

/-- A fault is found by the step itself or in a text that it hands on. -/
theorem fault_of_readStep {fault : FormatError}
    (failed : faultOf (readStep next style text) = some fault) :
    OwnFault style text fault ∨
      ∃ other part, HandsOn style text other part ∧ faultOf (next other part) = some fault := by
  cases descends_readStep style text with
  | stays result own step => exact .inl (own fault (by rwa [← step next]))
  | @one other part handsOn wrap step =>
    rw [show readStep next style text = _ from step next, faultOf_map] at failed
    exact .inr ⟨other, part, handsOn, failed⟩
  | each handsOn wrap step =>
    rw [show readStep next style text = _ from step next, faultOf_map, faultOf_mapM] at failed
    obtain ⟨part, member, found⟩ := List.exists_of_findSome?_eq_some failed
    exact .inr ⟨style, part, handsOn part member, found⟩

end

/-! ### What a step uses up -/

theorem two_le_length_word (operator : Operator) : 2 ≤ operator.word.length := by
  cases operator <;> decide

end Filter

/-- Where a text is cut, each segment leaves at least the word out. -/
theorem Sliced.length_add_le {word text segment : List Char} {segments : List (List Char)}
    (sliced : Sliced word segments text) (two : 2 ≤ segments.length)
    (member : segment ∈ segments) : segment.length + word.length ≤ text.length := by
  cases sliced with
  | whole => exact absurd two (by simp)
  | cut first others =>
    simp only [List.length_append]
    rcases List.mem_cons.mp member with rfl | inOthers
    · omega
    · have within := (others.isInfix inOthers).length_le
      omega

/-- Where a text has two pieces, each leaves at least the operator out. -/
theorem length_add_le_of_mem_pieces {style : Bracketing} {operator : Operator}
    {text part : List Char} (two : 2 ≤ (pieces style operator.word text).length)
    (member : part ∈ pieces style operator.word text) :
    part.length + operator.word.length ≤ text.length := by
  have fewer : (pieces style operator.word text).length ≤
      (segments style operator.word 0 true 0 text).length := by
    rw [pieces]
    exact (List.length_filter_le _ _).trans (List.length_map _).le
  rw [pieces, List.mem_filter, List.mem_map] at member
  obtain ⟨⟨segment, inSegments, rfl⟩, _⟩ := member
  have within := (sliced_segments style operator 0 true text).length_add_le (two.trans fewer)
    inSegments
  have trimmed := (trim_isInfix segment).length_le
  omega

namespace Filter

section

variable {style other : Bracketing} {text part : List Char}

/-- What is handed on is at least two characters shorter. -/
theorem HandsOn.length_add_two_le (handsOn : HandsOn style text other part) :
    part.length + 2 ≤ text.length := by
  cases handsOn with
  | @piece _ operator _ _ two _ member =>
    have word := two_le_length_word operator
    have shorter := length_add_le_of_mem_pieces two member
    omega
  | negated _ negated =>
    obtain ⟨word, blank, tail, rfl, lettered, _, rfl⟩ := (afterNot?_eq_some_iff _ _).mp negated
    have three : (word.map Char.toLower).length = 3 := congrArg List.length lettered
    rw [List.length_map] at three
    have trimmed := (trim_isInfix tail).length_le
    simp only [List.length_append, List.length_cons]
    omega
  | inside _ _ wrapped =>
    obtain ⟨body, rfl, _, rfl⟩ := (unwrap?_eq_some_iff _ _ _).mp wrapped
    have trimmed := (trim_isInfix body).length_le
    simp only [List.length_append, List.length_cons, List.length_nil]
    omega
  | @value field _ before after _ _ _ colon kind =>
    obtain ⟨rfl, _⟩ := (splitColon?_eq_some_iff _ _ _).mp colon
    have named : before ≠ [] := by
      rintro rfl
      cases field <;> exact absurd kind (by decide)
    have positive := List.length_pos_of_ne_nil named
    have trimmed := (trim_isInfix after).length_le
    simp only [List.length_append, List.length_cons]
    omega

/-- So it is than the text that is trimmed first. -/
theorem HandsOn.shorter (handsOn : HandsOn style (trim text) other part) :
    part.length + 2 ≤ text.length :=
  handsOn.length_add_two_le.trans (trim_isInfix text).length_le

theorem HandsOn.isInfix (handsOn : HandsOn style text other part) : part <:+: text := by
  cases handsOn with
  | piece _ _ member => exact pieces_isInfix member
  | negated _ negated => exact afterNot?_isInfix negated
  | inside _ _ wrapped => exact unwrap?_isInfix wrapped
  | value _ _ _ colon _ => exact splitColon?_isInfix colon

end

/-- Handing on ends: no text is handed on forever. -/
theorem wellFounded_handsOn : WellFounded fun (later earlier : Bracketing × List Char) =>
    HandsOn earlier.1 (trim earlier.2) later.1 later.2 := by
  refine Subrelation.wf (fun {later earlier} handsOn => ?_)
    (measure fun (called : Bracketing × List Char) => called.2.length).wf
  have shorter := handsOn.shorter
  show later.2.length < earlier.2.length
  omega

/-! ### Texts that are not too deep -/

theorem OwnFault.ne_tooDeep {style : Bracketing} {text : List Char} {fault : FormatError}
    (own : OwnFault style text fault) (limit : Nat) : fault ≠ .tooDeep limit := by
  cases own with
  | empty => cases style <;> nofun
  | _ => nofun

/-- A text with fewer than two characters for each level is not too deep. -/
theorem faultOf_read_ne_tooDeep {levels : Nat} {style : Bracketing} {text : List Char}
    (short : text.length < 2 * levels) (limit : Nat) :
    faultOf (read levels style text) ≠ some (.tooDeep limit) := by
  induction levels generalizing style text with
  | zero => exact absurd short (Nat.not_lt_zero _)
  | succ levels inductionHypothesis =>
    rw [read_succ]
    intro failed
    rcases fault_of_readStep failed with own | ⟨other, part, handsOn, below⟩
    · exact own.ne_tooDeep limit rfl
    · have shorter := handsOn.shorter
      exact inductionHypothesis (by omega) below

/-- On levels enough for its length a text is read as on any more levels. -/
theorem read_eq_of_short {levels more : Nat} (le : levels ≤ more) (style : Bracketing)
    {text : List Char} (short : text.length < 2 * levels) :
    read levels style text = read more style text :=
  (read_isLimited le style text).eq_of_ne fun tooDeep =>
    faultOf_read_ne_tooDeep short nestingLimit (by rw [tooDeep]; rfl)

/-! ### Reading without a limit -/

/-- A reading that steps down as the limited one does, but counts no levels. -/
def ReadsUnlimited (full : Bracketing → List Char → Except FormatError Filter) : Prop :=
  ∀ style text, full style text = readStep full style (trim text)

/-- A reading without a limit is the limited one on levels enough for the text. -/
theorem ReadsUnlimited.eq_read {full : Bracketing → List Char → Except FormatError Filter}
    (unlimited : ReadsUnlimited full) {levels : Nat} (style : Bracketing) {text : List Char}
    (short : text.length < 2 * levels) : full style text = read levels style text := by
  induction levels generalizing style text with
  | zero => exact absurd short (Nat.not_lt_zero _)
  | succ levels inductionHypothesis =>
    rw [unlimited style text, read_succ]
    refine readStep_congr fun other part handsOn => inductionHypothesis other ?_
    have shorter := handsOn.shorter
    omega

/-- Reads a text on as many levels as its length can ask for. -/
def readFully (style : Bracketing) (text : List Char) : Except FormatError Filter :=
  read (text.length / 2 + 1) style text

theorem readsUnlimited_readFully : ReadsUnlimited readFully := by
  intro style text
  rw [readFully, read_succ]
  refine readStep_congr fun other part handsOn => ?_
  have shorter := handsOn.shorter
  exact (read_eq_of_short (by omega) other (by omega)).symm

/-- Exactly one reading counts no levels. -/
theorem existsUnique_readsUnlimited : ∃! full, ReadsUnlimited full := by
  refine ⟨readFully, readsUnlimited_readFully, fun full unlimited => ?_⟩
  funext style text
  exact unlimited.eq_read style (by omega)

/-! ### Texts that are too deep -/

theorem bracketed_replicate (count : Nat) :
    bracketed (List.replicate count ([], [])) [] =
      List.replicate count '[' ++ List.replicate count ']' := by
  induction count with
  | zero => rfl
  | succ count inductionHypothesis =>
    rw [List.replicate_succ, bracketed, inductionHypothesis, List.nil_append, List.append_nil,
      List.replicate_succ, List.replicate_succ' (a := ']'), List.cons_append, List.cons_append,
      List.append_assoc]

/-- As many pairs of brackets as levels are too deep, whatever is inside. -/
theorem read_brackets (levels : Nat) :
    read levels .clause (List.replicate levels '[' ++ List.replicate levels ']') =
      .error (.tooDeep nestingLimit) := by
  rw [← bracketed_replicate, read_bracketed, List.length_replicate, Nat.sub_self]
  · rfl
  · intro pair member
    rw [List.eq_of_mem_replicate member]
    exact ⟨allBlank_nil, allBlank_nil⟩
  · exact .of_no_bracket nofun

/-- Each text that a step of reading hands on is a part of its own text and at least two
characters shorter, and the step depends on the steps below it by nothing else. So exactly
one reading counts no levels. Texts of fewer than 130 characters are read by it, and never
too deep, but 65 pairs of brackets are. -/
theorem reading_consumes_text :
    (∀ style text other part, HandsOn style text other part →
      part <:+: text ∧ part.length + 2 ≤ text.length) ∧
    (∀ next another style text,
      (∀ other part, HandsOn style text other part → next other part = another other part) →
        readStep next style text = readStep another style text) ∧
    (∀ levels style text,
      read (levels + 1) style text = readStep (read levels) style (trim text)) ∧
    (WellFounded fun (later earlier : Bracketing × List Char) =>
      HandsOn earlier.1 (trim earlier.2) later.1 later.2) ∧
    (∃! full, ReadsUnlimited full) ∧
    (∀ text full, ReadsUnlimited full → text.toList.length < 130 →
      parse text = full .clause text.toList ∧ ∀ limit, parse text ≠ .error (.tooDeep limit)) ∧
    parse (String.ofList (List.replicate 65 '[' ++ List.replicate 65 ']')) =
      .error (.tooDeep nestingLimit) := by
  refine ⟨fun style text other part handsOn => ⟨handsOn.isInfix, handsOn.length_add_two_le⟩,
    fun next another style text same => readStep_congr same, read_succ, wellFounded_handsOn,
    existsUnique_readsUnlimited, fun text full unlimited short => ?_, ?_⟩
  · have within : text.toList.length < 2 * (nestingLimit + 1) := short
    refine ⟨(unlimited.eq_read .clause within).symm, fun limit tooDeep => ?_⟩
    exact faultOf_read_ne_tooDeep within limit (by rw [← parse, tooDeep]; rfl)
  · rw [parse, String.toList_ofList]
    exact read_brackets (nestingLimit + 1)

/-- A group of two terms, read from its clause. -/
theorem reading_consumes_text_group :
    let text := "genre:(a AND b)"
    let group := "(a AND b)".toList
    HandsOn .clause text.toList (.value .genre) group ∧
      group <:+: text.toList ∧ group.length + 2 ≤ text.toList.length ∧
      readStep readFully .clause text.toList =
        readStep (read nestingLimit) .clause text.toList ∧
      ReadsUnlimited readFully ∧ text.toList.length < 130 ∧
      parse text = readFully .clause text.toList ∧
      parse text ≠ .error (.tooDeep nestingLimit) := by
  intro text group
  have colon : splitColon? text.toList = some ("genre".toList, group) := by decide
  have handsOn : HandsOn .clause text.toList (.value .genre) group :=
    .value (by decide) (by decide) (by decide) colon (by decide)
  have short : text.toList.length < 130 := by decide
  obtain ⟨shrinks, steps, _, _, _, reads, _⟩ := reading_consumes_text
  obtain ⟨inside, shorter⟩ := shrinks _ _ _ _ handsOn
  have sameStep := steps readFully (read nestingLimit) .clause text.toList
    fun other part below => by
      have partShort := (shrinks _ _ _ _ below).2
      have few : text.toList.length = 15 := by decide
      exact read_eq_of_short (by rw [nestingLimit]; omega) other (by omega)
  obtain ⟨full, shallow⟩ := reads text readFully readsUnlimited_readFully short
  exact ⟨handsOn, inside, shorter, sameStep, readsUnlimited_readFully, short, full,
    shallow nestingLimit⟩

end Filter

end PlaylistRules
