/-
This file takes the reader of filters apart. It states once, for a text that is read
without fault, which of the ways of reading it was taken and what was read on the
way; later files reason by cases on that and never unfold the reader again. The
equations at the end say the same the other way round, faults included.
-/

import Mathlib.Data.List.Forall2
import PlaylistRules.Proofs.Balance
import PlaylistRules.Filter.Parser
import PlaylistRules.Filter.Printer

namespace PlaylistRules

open Number Text

/-! ### Reading a list of parts -/

section

variable {Input Output Fault : Type} (attempt : Input → Except Fault Output)

theorem map_eq_ok_iff {Other : Type} (wrap : Output → Other) (result : Except Fault Output)
    (other : Other) :
    wrap <$> result = .ok other ↔ ∃ output, result = .ok output ∧ wrap output = other := by
  cases result <;> simp [Functor.map, Except.map]

/-- All parts are read without fault exactly when each of them is. -/
theorem mapM_eq_ok_iff (inputs : List Input) (outputs : List Output) :
    inputs.mapM attempt = .ok outputs ↔
      List.Forall₂ (fun input output => attempt input = .ok output) inputs outputs := by
  induction inputs generalizing outputs with
  | nil => cases outputs <;> simp [pure, Except.pure]
  | cons input rest inductionHypothesis =>
    rw [List.mapM_cons]
    cases first : attempt input with
    | error fault =>
      refine iff_of_false (by simp [bind, Except.bind]) fun each => ?_
      cases each with
      | cons head _ =>
        rw [first] at head
        cases head
    | ok output =>
      cases others : rest.mapM attempt with
      | error fault =>
        refine iff_of_false (by simp [bind, Except.bind]) fun each => ?_
        cases each with
        | cons _ tail =>
          rw [(inductionHypothesis _).mpr tail] at others
          cases others
      | ok outputs' =>
        cases outputs <;> simp [bind, Except.bind, pure, Except.pure, ← inductionHypothesis, first,
          others]

/-- Each output of a list of parts comes from one of the parts. -/
theorem exists_input_of_mem {relation : Input → Output → Prop} {inputs : List Input}
    {outputs : List Output} (each : List.Forall₂ relation inputs outputs) {output : Output}
    (member : output ∈ outputs) : ∃ input ∈ inputs, relation input output := by
  induction each with
  | nil => cases member
  | cons head _ inductionHypothesis =>
    rcases List.mem_cons.mp member with rfl | inRest
    · exact ⟨_, List.mem_cons_self, head⟩
    · obtain ⟨input, inInputs, related⟩ := inductionHypothesis inRest
      exact ⟨input, List.mem_cons_of_mem _ inInputs, related⟩

theorem mapM_congr {attempt other : Input → Except Fault Output} {inputs : List Input}
    (same : ∀ input ∈ inputs, attempt input = other input) :
    inputs.mapM attempt = inputs.mapM other := by
  induction inputs with
  | nil => rfl
  | cons input rest inductionHypothesis =>
    rw [List.mapM_cons, List.mapM_cons, same input List.mem_cons_self,
      inductionHypothesis fun later member => same later (List.mem_cons_of_mem _ member)]

/-- The fault of a reading, if it has one. -/
def faultOf : Except Fault Output → Option Fault
  | .error fault => some fault
  | .ok _ => none

theorem faultOf_map {Other : Type} (wrap : Output → Other) (result : Except Fault Output) :
    faultOf (wrap <$> result) = faultOf result := by
  cases result <;> rfl

/-- The fault of a list is the fault of its first part that has one. -/
theorem faultOf_mapM (inputs : List Input) :
    faultOf (inputs.mapM attempt) = inputs.findSome? fun input => faultOf (attempt input) := by
  induction inputs with
  | nil => rfl
  | cons input rest inductionHypothesis =>
    rw [List.mapM_cons, List.findSome?_cons, ← inductionHypothesis]
    cases attempt input with
    | error fault => rfl
    | ok output => cases rest.mapM attempt <;> rfl

end

/-! ### Letters -/

theorem toNat_toLower (character : Char) :
    character.toLower.toNat =
      if 65 ≤ character.toNat ∧ character.toNat ≤ 90 then character.toNat + 32
      else character.toNat := by
  unfold Char.toLower
  by_cases upper : 65 ≤ character.toNat ∧ character.toNat ≤ 90
  · rw [if_pos upper, dif_pos ⟨upper.1, upper.2⟩]
    have small : character.val.toNat ≤ 90 := upper.2
    change (character.val.toNat + 32) % 4294967296 = character.val.toNat + 32
    omega
  · rw [if_neg upper]
    exact congrArg Char.toNat (dif_neg upper)

/-- A letter in either case is neither blank nor a bracket. -/
theorem plain_of_letter {character : Char}
    (letter : 97 ≤ character.toLower.toNat ∧ character.toLower.toNat ≤ 122) :
    isBlank character = false ∧ isBracket character = false := by
  rw [toNat_toLower] at letter
  have range : 65 ≤ character.toNat ∧ character.toNat ≤ 122 ∧
      (character.toNat ≤ 90 ∨ 97 ≤ character.toNat) := by
    split at letter <;> omega
  constructor
  · simp only [isBlank, Bool.or_eq_false_iff, Bool.and_eq_false_iff, decide_eq_false_iff_not,
      beq_eq_false_iff_ne]
    omega
  · by_contra bracket
    simp only [isBracket, Bool.not_eq_false, Bool.or_eq_true, beq_iff_eq] at bracket
    rcases bracket with ((rfl | rfl) | rfl) | rfl <;> exact absurd range (by decide)

/-! ### Leading negation and the colon -/

/-- A leading NOT stands in front of a blank, in any letter case. -/
theorem afterNot?_eq_some_iff (text rest : List Char) :
    afterNot? text = some rest ↔
      ∃ word blank tail, text = word ++ blank :: tail ∧ word.map Char.toLower = ['n', 'o', 't'] ∧
        isBlank blank = true ∧ trim tail = rest := by
  constructor
  · intro negated
    unfold afterNot? at negated
    split at negated
    · rename_i first second third blank tail
      split at negated
      · rename_i letters
        simp only [Bool.and_eq_true, decide_eq_true_eq] at letters
        obtain ⟨⟨⟨isN, isO⟩, isT⟩, isBlank⟩ := letters
        exact ⟨[first, second, third], blank, tail, rfl, by simp [isN, isO, isT], isBlank,
          Option.some.inj negated⟩
      · cases negated
    · cases negated
  · rintro ⟨word, blank, tail, rfl, letters, isBlank, rfl⟩
    obtain ⟨first, second, third, rfl⟩ :=
      List.length_eq_three.mp (by simpa using congrArg List.length letters)
    simp only [List.map_cons, List.map_nil, List.cons.injEq, and_true] at letters
    simp [afterNot?, letters, isBlank]

theorem afterNot?_eq_none_iff (text : List Char) :
    afterNot? text = none ↔
      ∀ word blank tail, text = word ++ blank :: tail →
        word.map Char.toLower = ['n', 'o', 't'] → isBlank blank = false := by
  constructor
  · intro plain word blank tail split letters
    by_contra isBlank
    have negated := (afterNot?_eq_some_iff text (trim tail)).mpr
      ⟨word, blank, tail, split, letters, by simpa using isBlank, rfl⟩
    rw [plain] at negated
    cases negated
  · intro none
    rw [Option.eq_none_iff_forall_ne_some]
    intro rest negated
    obtain ⟨word, blank, tail, split, letters, isBlank, _⟩ :=
      (afterNot?_eq_some_iff text rest).mp negated
    rw [none word blank tail split letters] at isBlank
    cases isBlank

theorem afterNot?_isInfix {text rest : List Char} (negated : afterNot? text = some rest) :
    rest <:+: text := by
  obtain ⟨word, blank, tail, rfl, _, _, rfl⟩ := (afterNot?_eq_some_iff text rest).mp negated
  refine (trim_isInfix tail).trans (List.IsSuffix.isInfix ⟨word ++ [blank], ?_⟩)
  rw [List.append_assoc, List.singleton_append]

namespace Filter

theorem splitColon?_eq_some_iff (text before after : List Char) :
    splitColon? text = some (before, after) ↔ text = before ++ ':' :: after ∧ ':' ∉ before := by
  induction text generalizing before with
  | nil => simp [splitColon?]
  | cons character rest inductionHypothesis =>
    rw [splitColon?]
    by_cases colon : character = ':'
    · subst colon
      rw [if_pos rfl]
      cases before with
      | nil => simp [eq_comm]
      | cons first before =>
        refine iff_of_false (by simp) ?_
        rintro ⟨split, absent⟩
        exact absent ((List.cons.inj split).1 ▸ List.mem_cons_self)
    · rw [if_neg colon]
      cases before with
      | nil => simp [colon]
      | cons first before =>
        constructor
        · intro found
          obtain ⟨⟨before', after'⟩, inner, same⟩ := Option.map_eq_some_iff.mp found
          simp only [Prod.mk.injEq, List.cons.injEq] at same
          obtain ⟨⟨rfl, rfl⟩, rfl⟩ := same
          obtain ⟨rfl, absent⟩ := (inductionHypothesis before').mp inner
          exact ⟨rfl, by simp [absent, Ne.symm colon]⟩
        · rintro ⟨split, absent⟩
          obtain ⟨rfl, rfl⟩ := List.cons.inj split
          rw [List.mem_cons, not_or] at absent
          rw [(inductionHypothesis before).mpr ⟨rfl, absent.2⟩]
          rfl

/-! ### Leaves -/

/-- How a clause without operators is read: the kind before the colon decides. -/
inductive LeafReading (readValue : Field → List Char → Except FormatError Filter)
    (text : List Char) : Filter → Prop where
  | group {before after : List Char} {field : Field} {value : Filter}
      (colon : splitColon? text = some (before, after))
      (kind : lowercase (String.ofList (trim before)) = field.keyword)
      (inside : readValue field (trim after) = .ok value) :
      LeafReading readValue text (.group field value)
  | runtime {before after : List Char} {comparison : Comparison} {minutes : Int}
      (colon : splitColon? text = some (before, after))
      (kind : lowercase (String.ofList (trim before)) = "length")
      (found : comparison? minutes? (trim after) = some (comparison, minutes)) :
      LeafReading readValue text (.runtime comparison minutes)
  | released {before after : List Char} {comparison : Comparison} {year : Int}
      (colon : splitColon? text = some (before, after))
      (kind : lowercase (String.ofList (trim before)) = "released")
      (found : comparison? year? (trim after) = some (comparison, year)) :
      LeafReading readValue text (.released comparison year)
  | rating {before after : List Char} {comparison : Comparison} {value : Binary64}
      (colon : splitColon? text = some (before, after))
      (kind : lowercase (String.ofList (trim before)) = "rating")
      (found : comparison? rating? (trim after) = some (comparison, value)) :
      LeafReading readValue text (.rating comparison value)
  | watched {before after : List Char} {state : Bool}
      (colon : splitColon? text = some (before, after))
      (kind : lowercase (String.ofList (trim before)) = "watchstatus")
      (found : (trim after).map Char.toLower = truthText state) :
      LeafReading readValue text (.watched state)

theorem readComparison_eq_ok_iff {Quantity : Type} (kind value : List Char)
    (number? : List Char → Option Quantity) (wrap : Comparison → Quantity → Filter)
    (filter : Filter) :
    readComparison kind value number? wrap = .ok filter ↔
      ∃ comparison quantity, comparison? number? value = some (comparison, quantity) ∧
        wrap comparison quantity = filter := by
  unfold readComparison
  cases comparison? number? value with
  | none => simp
  | some pair =>
    obtain ⟨comparison, quantity⟩ := pair
    simp

theorem readWatched_eq_ok_iff (value : List Char) (filter : Filter) :
    readWatched value = .ok filter ↔
      ∃ state, value.map Char.toLower = truthText state ∧ Filter.watched state = filter := by
  have states : "true".toList ≠ "false".toList := by decide
  constructor
  · intro success
    rw [readWatched] at success
    split at success
    case isTrue spelled => exact ⟨true, spelled, Except.ok.inj success⟩
    case isFalse =>
      split at success
      case isTrue spelled => exact ⟨false, spelled, Except.ok.inj success⟩
      case isFalse => cases success
  · rintro ⟨state, spelled, rfl⟩
    rw [readWatched, spelled]
    cases state with
    | true => exact if_pos rfl
    | false => exact (if_neg states.symm).trans (if_pos rfl)

theorem readLeaf_eq_ok_iff (readValue : Field → List Char → Except FormatError Filter)
    (text : List Char) (filter : Filter) :
    readLeaf readValue text = .ok filter ↔ LeafReading readValue text filter := by
  constructor
  · intro success
    unfold readLeaf at success
    cases colon : splitColon? text with
    | none =>
      rw [colon] at success
      cases success
    | some pair =>
      obtain ⟨before, after⟩ := pair
      rw [colon] at success
      dsimp only at success
      split at success
      · rename_i kind
        obtain ⟨value, inside, rfl⟩ := (map_eq_ok_iff _ _ _).mp success
        exact .group colon kind inside
      · rename_i kind
        obtain ⟨value, inside, rfl⟩ := (map_eq_ok_iff _ _ _).mp success
        exact .group colon kind inside
      · rename_i kind
        obtain ⟨value, inside, rfl⟩ := (map_eq_ok_iff _ _ _).mp success
        exact .group colon kind inside
      · rename_i kind
        obtain ⟨comparison, minutes, found, rfl⟩ := (readComparison_eq_ok_iff ..).mp success
        exact .runtime colon kind found
      · rename_i kind
        obtain ⟨comparison, year, found, rfl⟩ := (readComparison_eq_ok_iff ..).mp success
        exact .released colon kind found
      · rename_i kind
        obtain ⟨comparison, value, found, rfl⟩ := (readComparison_eq_ok_iff ..).mp success
        exact .rating colon kind found
      · rename_i kind
        obtain ⟨state, found, rfl⟩ := (readWatched_eq_ok_iff ..).mp success
        exact .watched colon kind found
      · cases success
  · intro reading
    unfold readLeaf
    cases reading with
    | group colon kind inside =>
      rename_i field value
      cases field <;> simp [colon, kind, inside, Field.keyword, Functor.map, Except.map]
    | runtime colon kind found => simp [colon, kind, readComparison, found]
    | released colon kind found => simp [colon, kind, readComparison, found]
    | rating colon kind found => simp [colon, kind, readComparison, found]
    | watched colon kind found =>
      simp only [colon, kind]
      exact (readWatched_eq_ok_iff ..).mpr ⟨_, found, rfl⟩

/-! ### Texts -/

/-- Neither operator divides the text into two pieces or more. -/
structure Undivided (style : Bracketing) (text : List Char) : Prop where
  and : (pieces style Operator.and.word text).length < 2
  or : (pieces style Operator.or.word text).length < 2

instance (style : Bracketing) (text : List Char) : Decidable (Undivided style text) :=
  decidable_of_iff ((pieces style Operator.and.word text).length < 2 ∧
      (pieces style Operator.or.word text).length < 2)
    ⟨fun ⟨and, or⟩ => ⟨and, or⟩, fun undivided => ⟨undivided.and, undivided.or⟩⟩

theorem undivided_of_uncut {style : Bracketing} {text : List Char}
    (uncut : ∀ operator, Uncut style operator text) : Undivided style text :=
  ⟨length_pieces_of_uncut style .and (uncut .and), length_pieces_of_uncut style .or (uncut .or)⟩

/-- How a trimmed text is read, with `next` for the texts one level further down. The
ways are tried in this order, so each but the first says why the earlier ones were
not taken. -/
inductive Reading (next : Bracketing → List Char → Except FormatError Filter) :
    (style : Bracketing) → (text : List Char) → Filter → Prop where
  | all {style : Bracketing} {text : List Char} {children : List Filter}
      (two : 2 ≤ (pieces style Operator.and.word text).length)
      (each : List.Forall₂ (fun piece child => next style piece = .ok child)
        (pieces style Operator.and.word text) children) :
      Reading next style text (.all children)
  | any {style : Bracketing} {text : List Char} {children : List Filter}
      (undivided : (pieces style Operator.and.word text).length < 2)
      (two : 2 ≤ (pieces style Operator.or.word text).length)
      (each : List.Forall₂ (fun piece child => next style piece = .ok child)
        (pieces style Operator.or.word text) children) :
      Reading next style text (.any children)
  | not {style : Bracketing} {text rest : List Char} {inner : Filter}
      (undivided : Undivided style text) (negated : afterNot? text = some rest)
      (inside : next style rest = .ok inner) : Reading next style text (.not inner)
  | unwrapped {style : Bracketing} {text inner : List Char} {filter : Filter}
      (undivided : Undivided style text) (plain : afterNot? text = none)
      (wrapped : unwrap? style text = some inner) (inside : next style inner = .ok filter) :
      Reading next style text filter
  | term {field : Field} {text : List Char} (undivided : Undivided (.value field) text)
      (plain : afterNot? text = none) (bare : unwrap? (.value field) text = none) :
      Reading next (.value field) text (.term field (String.ofList text))
  | leaf {text : List Char} {filter : Filter} (undivided : Undivided .clause text)
      (plain : afterNot? text = none) (bare : unwrap? .clause text = none)
      (inside : LeafReading (fun field => next (.value field)) text filter) :
      Reading next .clause text filter

/-- What is left to read where no way of taking a text apart applies. -/
def readBare (readValue : Field → List Char → Except FormatError Filter) :
    Bracketing → List Char → Except FormatError Filter
  | .value field, text => .ok (term field (String.ofList text))
  | .clause, text => readLeaf readValue text

/-- A text is read one level down by the first way that applies. -/
def readStep (next : Bracketing → List Char → Except FormatError Filter) (style : Bracketing)
    (text : List Char) : Except FormatError Filter :=
  if text = [] then .error (emptyFault style)
  else if 2 ≤ (pieces style Operator.and.word text).length then
    all <$> (pieces style Operator.and.word text).mapM (next style)
  else if 2 ≤ (pieces style Operator.or.word text).length then
    any <$> (pieces style Operator.or.word text).mapM (next style)
  else
    match afterNot? text with
    | some rest => not <$> next style rest
    | none =>
      match unwrap? style text with
      | some inner => next style inner
      | none => readBare (fun field => next (.value field)) style text

theorem read_succ (levels : Nat) (style : Bracketing) (text : List Char) :
    read (levels + 1) style text = readStep (read levels) style (trim text) := by
  cases style with
  | clause =>
    simp only [read, readStep, List.isEmpty_iff]
    rfl
  | value field =>
    simp only [read, readStep, List.isEmpty_iff]
    rfl

/-- Blanks around a text do not change how it is read. -/
theorem read_trim (levels : Nat) (style : Bracketing) (text : List Char) :
    read levels style (trim text) = read levels style text := by
  cases levels with
  | zero => rfl
  | succ levels => rw [read_succ, read_succ, trim_trim]

section

variable {next : Bracketing → List Char → Except FormatError Filter} {style : Bracketing}
  {text : List Char}

/-- A text with two pieces or more at AND is read piece by piece. -/
theorem readStep_of_two_at_and (nonempty : text ≠ [])
    (two : 2 ≤ (pieces style Operator.and.word text).length) :
    readStep next style text = all <$> (pieces style Operator.and.word text).mapM (next style) := by
  rw [readStep, if_neg nonempty, if_pos two]

/-- A text that AND does not divide is read piece by piece at OR. -/
theorem readStep_of_two_at_or (nonempty : text ≠ [])
    (undivided : (pieces style Operator.and.word text).length < 2)
    (two : 2 ≤ (pieces style Operator.or.word text).length) :
    readStep next style text = any <$> (pieces style Operator.or.word text).mapM (next style) := by
  rw [readStep, if_neg nonempty, if_neg (Nat.not_le.mpr undivided), if_pos two]

theorem readStep_of_negated {rest : List Char} (nonempty : text ≠ [])
    (undivided : Undivided style text) (negated : afterNot? text = some rest) :
    readStep next style text = not <$> next style rest := by
  rw [readStep, if_neg nonempty, if_neg (Nat.not_le.mpr undivided.and),
    if_neg (Nat.not_le.mpr undivided.or), negated]

theorem readStep_of_unwrapped {inner : List Char} (nonempty : text ≠ [])
    (undivided : Undivided style text) (plain : afterNot? text = none)
    (wrapped : unwrap? style text = some inner) : readStep next style text = next style inner := by
  rw [readStep, if_neg nonempty, if_neg (Nat.not_le.mpr undivided.and),
    if_neg (Nat.not_le.mpr undivided.or), plain, wrapped]

theorem readStep_of_term {field : Field} (nonempty : text ≠ [])
    (undivided : Undivided (.value field) text) (plain : afterNot? text = none)
    (bare : unwrap? (.value field) text = none) :
    readStep next (.value field) text = .ok (term field (String.ofList text)) := by
  rw [readStep, if_neg nonempty, if_neg (Nat.not_le.mpr undivided.and),
    if_neg (Nat.not_le.mpr undivided.or), plain, bare]
  rfl

theorem readStep_of_leaf (nonempty : text ≠ []) (undivided : Undivided .clause text)
    (plain : afterNot? text = none) (bare : unwrap? .clause text = none) :
    readStep next .clause text = readLeaf (fun field => next (.value field)) text := by
  rw [readStep, if_neg nonempty, if_neg (Nat.not_le.mpr undivided.and),
    if_neg (Nat.not_le.mpr undivided.or), plain, bare]
  rfl

/-- A step succeeds exactly when one of the ways of reading does. -/
theorem readStep_eq_ok_iff (nonempty : text ≠ []) (filter : Filter) :
    readStep next style text = .ok filter ↔ Reading next style text filter := by
  constructor
  · intro success
    by_cases two : 2 ≤ (pieces style Operator.and.word text).length
    · rw [readStep_of_two_at_and nonempty two, map_eq_ok_iff] at success
      obtain ⟨children, each, rfl⟩ := success
      exact .all two ((mapM_eq_ok_iff ..).mp each)
    have noAnd := Nat.not_le.mp two
    by_cases twoOr : 2 ≤ (pieces style Operator.or.word text).length
    · rw [readStep_of_two_at_or nonempty noAnd twoOr, map_eq_ok_iff] at success
      obtain ⟨children, each, rfl⟩ := success
      exact .any noAnd twoOr ((mapM_eq_ok_iff ..).mp each)
    have undivided : Undivided style text := ⟨noAnd, Nat.not_le.mp twoOr⟩
    cases negated : afterNot? text with
    | some rest =>
      rw [readStep_of_negated nonempty undivided negated, map_eq_ok_iff] at success
      obtain ⟨inner, inside, rfl⟩ := success
      exact .not undivided negated inside
    | none =>
      cases wrapped : unwrap? style text with
      | some inner =>
        rw [readStep_of_unwrapped nonempty undivided negated wrapped] at success
        exact .unwrapped undivided negated wrapped success
      | none =>
        cases style with
        | clause =>
          rw [readStep_of_leaf nonempty undivided negated wrapped] at success
          exact .leaf undivided negated wrapped ((readLeaf_eq_ok_iff ..).mp success)
        | value field =>
          rw [readStep_of_term nonempty undivided negated wrapped] at success
          cases success
          exact .term undivided negated wrapped
  · intro reading
    cases reading with
    | all two each =>
      rw [readStep_of_two_at_and nonempty two, map_eq_ok_iff]
      exact ⟨_, (mapM_eq_ok_iff ..).mpr each, rfl⟩
    | any undivided two each =>
      rw [readStep_of_two_at_or nonempty undivided two, map_eq_ok_iff]
      exact ⟨_, (mapM_eq_ok_iff ..).mpr each, rfl⟩
    | not undivided negated inside =>
      rw [readStep_of_negated nonempty undivided negated, map_eq_ok_iff]
      exact ⟨_, inside, rfl⟩
    | unwrapped undivided plain wrapped inside =>
      rw [readStep_of_unwrapped nonempty undivided plain wrapped]
      exact inside
    | term undivided plain bare => exact readStep_of_term nonempty undivided plain bare
    | leaf undivided plain bare inside =>
      rw [readStep_of_leaf nonempty undivided plain bare]
      exact (readLeaf_eq_ok_iff ..).mpr inside

end

/-- A text is read without fault exactly when it is not blank and one of the ways of
reading succeeds one level further down. -/
theorem read_eq_ok_iff (levels : Nat) (style : Bracketing) (text : List Char) (filter : Filter) :
    read (levels + 1) style text = .ok filter ↔
      trim text ≠ [] ∧ Reading (read levels) style (trim text) filter := by
  rw [read_succ]
  by_cases blank : trim text = []
  · rw [blank, readStep, if_pos rfl]
    simp
  · rw [readStep_eq_ok_iff blank, and_iff_right blank]

end Filter

end PlaylistRules
