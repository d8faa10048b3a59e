/-
This file proves what nesting and the limit on it can change. The deeper a text stands,
the fewer levels are left to read it, and that can only turn its reading into a fault of
depth: the fault of a list is that of its first part with one, and a part that becomes
too deep faults itself. Brackets around a balanced text are neither cut inside nor
closed early, so each pair costs one level and changes nothing else.
-/

import PlaylistRules.Proofs.Envelope
import PlaylistRules.Proofs.Legible

namespace PlaylistRules

open Number Text

namespace Filter

/-! ### Readings that may be too deep -/

/-- A reading that is the full one, or stops at the limit of nesting. -/
def IsLimited {Output : Type} (limited full : Except FormatError Output) : Prop :=
  limited = full ∨ limited = .error (.tooDeep nestingLimit)

namespace IsLimited

variable {Input Output Other : Type}

theorem refl (full : Except FormatError Output) : IsLimited full full := .inl rfl

theorem tooDeep (full : Except FormatError Output) :
    IsLimited (.error (.tooDeep nestingLimit)) full := .inr rfl

/-- What is not too deep is read in full. -/
theorem eq_of_ne {limited full : Except FormatError Output} (limits : IsLimited limited full)
    (within : limited ≠ .error (.tooDeep nestingLimit)) : limited = full :=
  limits.resolve_right within

theorem bind {limited full : Except FormatError Output} (first : IsLimited limited full)
    {rest fullRest : Output → Except FormatError Other}
    (each : ∀ output, IsLimited (rest output) (fullRest output)) :
    IsLimited (limited >>= rest) (full >>= fullRest) := by
  rcases first with rfl | rfl
  · cases limited with
    | error fault => exact .refl _
    | ok output => exact each output
  · exact .tooDeep _

theorem map {limited full : Except FormatError Output} (limits : IsLimited limited full)
    (wrap : Output → Other) : IsLimited (wrap <$> limited) (wrap <$> full) := by
  rcases limits with rfl | rfl
  · exact .refl _
  · exact .tooDeep _

/-- The first part that is too deep faults before any later part can. -/
theorem mapM {attempt full : Input → Except FormatError Output}
    (each : ∀ input, IsLimited (attempt input) (full input)) (inputs : List Input) :
    IsLimited (inputs.mapM attempt) (inputs.mapM full) := by
  induction inputs with
  | nil => exact .refl _
  | cons input rest inductionHypothesis =>
    rw [List.mapM_cons, List.mapM_cons]
    exact (each input).bind fun _ => inductionHypothesis.bind fun _ => .refl _

variable {next full : Bracketing → List Char → Except FormatError Filter}
  (each : ∀ style text, IsLimited (next style text) (full style text))

include each

theorem readLeaf (text : List Char) :
    IsLimited (Filter.readLeaf (fun field => next (.value field)) text)
      (Filter.readLeaf (fun field => full (.value field)) text) := by
  rw [Filter.readLeaf, Filter.readLeaf]
  cases splitColon? text with
  | none => exact .refl _
  | some parts =>
    dsimp only
    split
    all_goals first | exact .refl _ | exact (each _ _).map _

/-- One step of reading hands the fault of depth on. -/
theorem readStep (style : Bracketing) (text : List Char) :
    IsLimited (Filter.readStep next style text) (Filter.readStep full style text) := by
  rw [Filter.readStep, Filter.readStep]
  split
  case isTrue => exact .refl _
  split
  case isTrue => exact (IsLimited.mapM (each style) _).map _
  split
  case isTrue => exact (IsLimited.mapM (each style) _).map _
  cases afterNot? text with
  | some rest => exact (each style rest).map _
  | none =>
    cases unwrap? style text with
    | some inner => exact each style inner
    | none =>
      cases style with
      | clause => exact IsLimited.readLeaf each text
      | value field => exact .refl _

end IsLimited

/-- On fewer levels a text is read as on more, or it is too deep. -/
theorem read_isLimited {fewer more : Nat} (le : fewer ≤ more) (style : Bracketing)
    (text : List Char) : IsLimited (read fewer style text) (read more style text) := by
  induction fewer generalizing more style text with
  | zero => exact .tooDeep _
  | succ fewer inductionHypothesis =>
    obtain ⟨more, rfl⟩ : ∃ levels, more = levels + 1 := Nat.exists_eq_add_of_le' (by omega)
    rw [read_succ, read_succ]
    exact IsLimited.readStep (inductionHypothesis (Nat.le_of_succ_le_succ le)) style (trim text)

/-- Reads a text that stands that many levels below the whole. -/
def readBelow (depth : Nat) (style : Bracketing) (text : List Char) : Except FormatError Filter :=
  read (nestingLimit + 1 - depth) style text

/-! ### Delimiters around a balanced text -/

/-- A pair of delimiters around a balanced text takes one level. -/
theorem read_enclosed {text : List Char} (balanced : BothBalanced text) (style : Bracketing)
    (levels : Nat) :
    read (levels + 1) style (style.opener :: text ++ [style.closer]) = read levels style text := by
  have undivided : Undivided style (style.opener :: text ++ [style.closer]) :=
    undivided_of_uncut (uncut_enclosed (balanced.ofStyle style).covered)
  rw [read_unwrapped undivided (unwrap?_of_balanced (balanced.group style)), read_trim]

/-- A text in pairs of square brackets, the outermost first, with blanks on either side
inside each pair. -/
def bracketed : List (List Char × List Char) → List Char → List Char
  | [], text => text
  | (before, after) :: inner, text => '[' :: (before ++ bracketed inner text ++ after) ++ [']']

section

variable {pairs : List (List Char × List Char)} {text : List Char}

theorem balanced_bracketed (blank : ∀ pair ∈ pairs, AllBlank pair.1 ∧ AllBlank pair.2)
    (balanced : BothBalanced text) : BothBalanced (bracketed pairs text) := by
  induction pairs with
  | nil => exact balanced
  | cons pair inner inductionHypothesis =>
    obtain ⟨before, after⟩ := blank pair List.mem_cons_self
    have inside := inductionHypothesis fun other member =>
      blank other (List.mem_cons_of_mem _ member)
    exact (inside.between_blanks before after).enclose .clause

/-- Every pair of square brackets takes one level. -/
theorem read_bracketed (blank : ∀ pair ∈ pairs, AllBlank pair.1 ∧ AllBlank pair.2)
    (balanced : BothBalanced text) (levels : Nat) :
    read levels .clause (bracketed pairs text) = read (levels - pairs.length) .clause text := by
  induction pairs generalizing levels with
  | nil => rfl
  | cons pair inner inductionHypothesis =>
    obtain ⟨before, after⟩ := blank pair List.mem_cons_self
    have innerBlank : ∀ other ∈ inner, AllBlank other.1 ∧ AllBlank other.2 :=
      fun other member => blank other (List.mem_cons_of_mem _ member)
    have inside : BothBalanced (pair.1 ++ bracketed inner text ++ pair.2) :=
      (balanced_bracketed innerBlank balanced).between_blanks before after
    cases levels with
    | zero =>
      rw [Nat.zero_sub]
      rfl
    | succ levels =>
      calc read (levels + 1) .clause (bracketed (pair :: inner) text)
          = read levels .clause (pair.1 ++ bracketed inner text ++ pair.2) :=
            read_enclosed inside .clause levels
        _ = read levels .clause (bracketed inner text) := by
            rw [← read_trim, trim_append_right _ after, trim_append_left before, read_trim]
        _ = read (levels + 1 - (pair :: inner).length) .clause text := by
            rw [inductionHypothesis innerBlank, List.length_cons, Nat.add_sub_add_right]

end

/-- A clause is read as it is without its outer brackets, or it is too deep with them, if
the brackets hold together what is inside. -/
theorem read_isLimited_clauseOf {text : List Char}
    (undivided : unwrap? .clause (trim text) ≠ none → Undivided .clause (trim text))
    (levels : Nat) :
    IsLimited (read levels .clause text) (read levels .clause (Expression.clauseOf text)) := by
  rw [← read_trim, Expression.clauseOf]
  cases wrapped : unwrap? .clause (trim text) with
  | none => exact .refl _
  | some inner =>
    rw [Option.getD_some]
    cases levels with
    | zero => exact .tooDeep _
    | succ levels =>
      have wraps : unwrap? .clause (trim text) ≠ none := wrapped ▸ Option.some_ne_none inner
      rw [read_unwrapped (undivided wraps) wrapped]
      exact read_isLimited (Nat.le_succ levels) .clause inner

/-- A balanced clause is read as well without its outer brackets, if it is read at all. -/
theorem read_clauseOf {text : List Char} (balanced : BothBalanced text) {levels : Nat}
    {filter : Filter} (success : read levels .clause text = .ok filter) :
    read levels .clause (Expression.clauseOf text) = .ok filter := by
  have undivided (wraps : unwrap? .clause (trim text) ≠ none) : Undivided .clause (trim text) := by
    obtain ⟨inner, wrapped⟩ := Option.ne_none_iff_exists'.mp wraps
    obtain ⟨body, split, stays, _⟩ := (unwrap?_eq_some_iff _ _ _).mp wrapped
    have whole := balanced.trim
    rw [split] at whole ⊢
    exact undivided_of_uncut (uncut_enclosed ((whole.inside stays).ofStyle .clause).covered)
  rw [← (read_isLimited_clauseOf undivided levels).eq_of_ne (by rw [success]; nofun), success]

/-! ### Brackets and depth -/

/-- The outer pair of brackets of an expression comes off before its clause is read. -/
theorem clauseOf_bracketed {text : List Char} (balanced : BothBalanced text) :
    Expression.clauseOf ('[' :: text ++ [']']) = trim text := by
  have solid : Solid ('[' :: text ++ [']']) := Solid.enclose .clause text
  have wrapped : unwrap? .clause ('[' :: text ++ [']']) = some (trim text) :=
    unwrap?_of_balanced balanced.square
  rw [Expression.clauseOf, solid.trimmed, wrapped]
  rfl

/-- Depth can only make a text too deep, and every pair of square brackets around a
balanced clause is one more level of depth. An expression is read with the filter of its
clause whether or not the clause stands in a pair of brackets. -/
theorem brackets_redundant (text : List Char) :
    (∀ style depth deeper, depth ≤ deeper →
      IsLimited (readBelow deeper style text) (readBelow depth style text)) ∧
    (BothBalanced text →
      (∀ pairs : List (List Char × List Char),
        (∀ pair ∈ pairs, AllBlank pair.1 ∧ AllBlank pair.2) →
        parse (String.ofList (bracketed pairs text)) = readBelow pairs.length .clause text) ∧
      ∀ filter sortKey digits, parse (String.ofList text) = .ok filter → '|' ∉ text →
        '|' ∉ sortKey → isNatural digits = true → naturalOfDigits digits < 2 ^ 64 →
        let expression : Expression :=
          ⟨filter, String.ofList (trim sortKey), naturalOfDigits digits⟩
        Expression.parse (Expression.enclosing text sortKey digits) = .ok expression ∧
          Expression.parse (Expression.enclosing ('[' :: text ++ [']']) sortKey digits) =
            .ok expression) := by
  refine ⟨fun style depth deeper le => ?_, fun balanced => ⟨fun pairs blank => ?_, ?_⟩⟩
  · exact read_isLimited (Nat.sub_le_sub_left le _) style text
  · rw [parse, String.toList_ofList]
    exact read_bracketed blank balanced _
  · intro filter sortKey digits success pipeFree sortKeyFree natural bounded expression
    rw [parse, String.toList_ofList] at success
    have bracketedFree : '|' ∉ '[' :: text ++ [']'] := by simp [pipeFree]
    constructor
    · rw [Expression.parse_enclosing pipeFree sortKeyFree natural bounded,
        read_clauseOf balanced success]
      rfl
    · rw [Expression.parse_enclosing bracketedFree sortKeyFree natural bounded,
        clauseOf_bracketed balanced, read_trim, success]
      rfl

/-- A clause of three texts with brackets of both shapes, in two more pairs of brackets
with blanks inside, and as the clause of an expression. -/
theorem brackets_redundant_nested :
    let text := "[genre:(a [x] OR b)] AND NOT length:<5".toList
    let filter : Filter := .all [.group .genre (.any [.term .genre "a [x]", .term .genre "b"]),
      .not (.runtime .less 5)]
    BothBalanced text ∧ readBelow 64 .clause text = .error (.tooDeep nestingLimit) ∧
      IsLimited (readBelow 64 .clause text) (readBelow 3 .clause text) ∧
      parse "[ [[genre:(a [x] OR b)] AND NOT length:<5]\t]" = readBelow 2 .clause text ∧
      parse "[genre:(a [x] OR b)] AND NOT length:<5" = .ok filter ∧
      Expression.parse "\x7b[genre:(a [x] OR b)] AND NOT length:<5 | Rating  | 007\x7d" =
        .ok ⟨filter, "Rating", 7⟩ ∧
      Expression.parse "\x7b[[genre:(a [x] OR b)] AND NOT length:<5] | Rating  | 007\x7d" =
        .ok ⟨filter, "Rating", 7⟩ := by
  intro text filter
  have balanced : BothBalanced text := ⟨by decide, by decide⟩
  have success : parse "[genre:(a [x] OR b)] AND NOT length:<5" = .ok filter := rfl
  obtain ⟨limited, inBrackets⟩ := brackets_redundant text
  obtain ⟨outer, expressions⟩ := inBrackets balanced
  obtain ⟨plain, enclosed⟩ := expressions filter "Rating ".toList "007".toList success
    (by decide) (by decide) (by decide) (by decide)
  exact ⟨balanced, rfl, limited .clause 3 64 (by decide), outer [([' '], ['\t']), ([], [])]
    (by decide), success, plain, enclosed⟩

end Filter

end PlaylistRules
