/-
This file says which filters are written legibly: each list falls apart at its
operator into its members, the delimiters around a list come off again, and nothing
else in the text is taken for an operator. Legible text is read as the filter that was
written, as long as there are levels enough; each pair of delimiters takes one.
-/

import PlaylistRules.Proofs.Written

namespace PlaylistRules

open Number Text

namespace Filter

/-! ### Legible text -/

/-- The delimiters around the text of a list come off again as a whole. -/
def Unwraps (style : Bracketing) (list : Filter) : Prop :=
  Undivided style (delimited style true (write style list)) ∧
    unwrap? style (delimited style true (write style list)) = some (write style list)

mutual

/-- Whether the text of a filter shows each of its lists as the list it is. A rating
must be finite, since there is no numeral for an infinite one. -/
def Legible (style : Bracketing) : Filter → Prop
  | all children =>
    pieces style Operator.and.word (write style (all children)) = writeEach style children ∧
      LegibleEach style children
  | any children =>
    (pieces style Operator.and.word (write style (any children))).length < 2 ∧
      pieces style Operator.or.word (write style (any children)) = writeEach style children ∧
      LegibleEach style children
  | not inner =>
    Undivided style (write style (not inner)) ∧
      (inner.isCompound = true → Unwraps style inner) ∧ Legible style inner
  | group field value =>
    Undivided .clause (write .clause (group field value)) ∧
      (value.isCompound = true → Unwraps (.value field) value) ∧ Legible (.value field) value
  | term _ _ => True
  | runtime _ _ => True
  | released _ _ => True
  | rating _ value => value.isFinite = true
  | watched _ => True

def LegibleEach (style : Bracketing) : List Filter → Prop
  | [] => True
  | child :: rest =>
    ((child.isCompound = true → Unwraps style child) ∧ Legible style child) ∧
      LegibleEach style rest

end

instance (style : Bracketing) (list : Filter) : Decidable (Unwraps style list) :=
  inferInstanceAs (Decidable (_ ∧ _))

mutual

def decidableLegible (style : Bracketing) : (filter : Filter) → Decidable (filter.Legible style)
  | all children =>
    have := decidableLegibleEach style children
    inferInstanceAs (Decidable (_ ∧ _))
  | any children =>
    have := decidableLegibleEach style children
    inferInstanceAs (Decidable (_ ∧ _ ∧ _))
  | not inner =>
    have := decidableLegible style inner
    inferInstanceAs (Decidable (_ ∧ (_ → _) ∧ _))
  | group field value =>
    have := decidableLegible (.value field) value
    inferInstanceAs (Decidable (_ ∧ (_ → _) ∧ _))
  | term _ _ => .isTrue trivial
  | runtime _ _ => .isTrue trivial
  | released _ _ => .isTrue trivial
  | rating _ value => inferInstanceAs (Decidable (value.isFinite = true))
  | watched _ => .isTrue trivial

def decidableLegibleEach (style : Bracketing) :
    (children : List Filter) → Decidable (LegibleEach style children)
  | [] => .isTrue trivial
  | child :: rest =>
    have := decidableLegible style child
    have := decidableLegibleEach style rest
    inferInstanceAs (Decidable (((_ → _) ∧ _) ∧ _))

end

instance (style : Bracketing) (filter : Filter) : Decidable (filter.Legible style) :=
  decidableLegible style filter

/-- Legible as a member of a list or behind NOT. -/
def LegibleInside (style : Bracketing) (filter : Filter) : Prop :=
  (filter.isCompound = true → Unwraps style filter) ∧ filter.Legible style

theorem legibleEach_iff (style : Bracketing) (children : List Filter) :
    LegibleEach style children ↔ ∀ child ∈ children, child.LegibleInside style := by
  induction children with
  | nil => simp [LegibleEach]
  | cons child rest inductionHypothesis =>
    rw [List.forall_mem_cons, ← inductionHypothesis]
    rfl

theorem legible_all (style : Bracketing) (children : List Filter) :
    (all children).Legible style ↔
      pieces style Operator.and.word (write style (all children)) =
          children.map (writeInside style) ∧
        ∀ child ∈ children, child.LegibleInside style := by
  rw [← legibleEach_iff, ← writeEach_eq_map]
  rfl

theorem legible_any (style : Bracketing) (children : List Filter) :
    (any children).Legible style ↔
      (pieces style Operator.and.word (write style (any children))).length < 2 ∧
        pieces style Operator.or.word (write style (any children)) =
          children.map (writeInside style) ∧
        ∀ child ∈ children, child.LegibleInside style := by
  rw [← legibleEach_iff, ← writeEach_eq_map]
  rfl

theorem legible_not (style : Bracketing) (inner : Filter) :
    (not inner).Legible style ↔
      Undivided style (write style (not inner)) ∧ inner.LegibleInside style := Iff.rfl

theorem legible_group (style : Bracketing) (field : Field) (value : Filter) :
    (group field value).Legible style ↔
      Undivided .clause (write .clause (group field value)) ∧
        value.LegibleInside (.value field) := Iff.rfl

/-! ### Reading what is written -/

/-- The shape of what is read: terms are bare, and ratings have no sign. -/
abbrev ReadShape (style : Bracketing) (filter : Filter) : Prop :=
  filter.Shaped (fun field term => BareTerm field term.toList) ReadRating style

theorem ReadShape.solid {style : Bracketing} {filter : Filter} (shape : ReadShape style filter) :
    Solid (write style filter) :=
  write_solid (fun _ _ bareTerm => ⟨bareTerm.nonempty, bareTerm.trimmed⟩) shape

/-- An outcome if it takes fewer levels than there are, and a fault otherwise. -/
def withinLevels {Output : Type} (taken levels : Nat) (output : Output) :
    Except FormatError Output :=
  if taken < levels then .ok output else .error (.tooDeep nestingLimit)

section

variable {Output : Type} {taken levels : Nat} {output : Output}

theorem withinLevels_of_lt (enough : taken < levels) :
    withinLevels taken levels output = .ok output :=
  if_pos enough

theorem withinLevels_of_not_lt (short : ¬ taken < levels) :
    withinLevels taken levels output = .error (.tooDeep nestingLimit) :=
  if_neg short

theorem withinLevels_succ :
    withinLevels (taken + 1) (levels + 1) output = withinLevels taken levels output := by
  by_cases enough : taken < levels
  · rw [withinLevels_of_lt enough, withinLevels_of_lt (Nat.succ_lt_succ enough)]
  · rw [withinLevels_of_not_lt enough, withinLevels_of_not_lt (by omega)]

theorem map_withinLevels {Other : Type} (wrap : Output → Other) :
    wrap <$> withinLevels taken levels output =
      withinLevels (taken + 1) (levels + 1) (wrap output) := by
  rw [withinLevels_succ]
  unfold withinLevels
  split <;> rfl

end

/-- The members of a list are read within the levels that the deepest of them takes. -/
theorem mapM_withinLevels {Part : Type} {attempt : Part → Except FormatError Filter}
    {text : Filter → Part} {levels : Nat} {children : List Filter} (nonempty : children ≠ [])
    (each : ∀ child ∈ children,
      attempt (text child) = withinLevels (child.wrappedNesting 1) levels child) :
    (children.map text).mapM attempt = withinLevels (nestingEach 1 children) levels children := by
  induction children with
  | nil => exact absurd rfl nonempty
  | cons child rest inductionHypothesis =>
    have deepest : nestingEach 1 (child :: rest) =
        max (child.wrappedNesting 1) (nestingEach 1 rest) := rfl
    rw [List.map_cons, List.mapM_cons, each child List.mem_cons_self, deepest]
    by_cases enough : child.wrappedNesting 1 < levels
    · rw [withinLevels_of_lt enough]
      by_cases last : rest = []
      · subst last
        rw [withinLevels_of_lt (by simpa [nestingEach] using enough)]
        rfl
      · rw [inductionHypothesis last fun other member => each other (List.mem_cons_of_mem _ member)]
        by_cases othersEnough : nestingEach 1 rest < levels
        · rw [withinLevels_of_lt othersEnough, withinLevels_of_lt (by omega)]
          rfl
        · rw [withinLevels_of_not_lt othersEnough, withinLevels_of_not_lt (by omega)]
          rfl
    · rw [withinLevels_of_not_lt enough, withinLevels_of_not_lt (by omega)]
      rfl

/-- What has pieces is not blank. -/
theorem trim_ne_nil_of_pieces {style : Bracketing} {operator : Operator} {text : List Char}
    (two : 2 ≤ (pieces style operator.word text).length) : trim text ≠ [] := by
  intro blank
  rw [← pieces_trim, blank] at two
  have none : pieces style operator.word [] = [] := by
    rw [pieces, segments_nil]
    rfl
  rw [none] at two
  exact absurd two (by decide)

theorem afterNot?_eq_none_of_head {text : List Char} {first : Char}
    (head : text.head? = some first) (other : first.toLower ≠ 'n') : afterNot? text = none := by
  refine (afterNot?_eq_none_iff text).mpr fun word blank tail split letters => ?_
  obtain ⟨letter, second, third, rfl⟩ :=
    List.length_eq_three.mp (by simpa using congrArg List.length letters)
  rw [split, List.cons_append, List.head?_cons, Option.some.injEq] at head
  rw [List.map_cons, List.cons.injEq, head] at letters
  exact absurd letters.1 other

/-- Outer delimiters of a text that falls into no pieces come off, which takes one level. -/
theorem read_unwrapped {style : Bracketing} {text inner : List Char}
    (undivided : Undivided style text) (wrapped : unwrap? style text = some inner) (levels : Nat) :
    read (levels + 1) style text = read levels style inner := by
  obtain ⟨body, rfl, _, _⟩ := (unwrap?_eq_some_iff style text inner).mp wrapped
  have solid : Solid (style.opener :: body ++ [style.closer]) := Solid.enclose style body
  have plain : afterNot? (style.opener :: body ++ [style.closer]) = none := by
    have notN : style.opener.toLower ≠ 'n' := by cases style <;> simp [Bracketing.opener]
    exact afterNot?_eq_none_of_head rfl notN
  rw [read_succ, solid.trimmed, readStep_of_unwrapped solid.nonempty undivided plain wrapped]

/-- A member is read like the filter itself, and its delimiters take one level. -/
theorem read_writeInside {style : Bracketing} {filter : Filter}
    (legible : filter.LegibleInside style)
    (readsBack : ∀ levels,
      read levels style (write style filter) = withinLevels filter.cost levels filter)
    (levels : Nat) :
    read levels style (writeInside style filter) =
      withinLevels (filter.wrappedNesting 1) levels filter := by
  unfold writeInside wrappedNesting
  cases compound : filter.isCompound with
  | false => exact readsBack levels
  | true =>
    obtain ⟨undivided, unwrapped⟩ := legible.1 compound
    cases levels with
    | zero => rfl
    | succ levels =>
      rw [read_unwrapped undivided unwrapped, readsBack, if_pos rfl, withinLevels_succ]
      rfl

/-- A comparison is divided at its first colon. -/
theorem splitColon?_comparisonText {kind : List Char} (absent : ':' ∉ kind)
    (comparison : Comparison) (number : List Char) :
    splitColon? (comparisonText kind comparison number) =
      some (kind, comparison.symbol.toList ++ number) := by
  refine (splitColon?_eq_some_iff _ _ _).mpr ⟨?_, absent⟩
  rw [comparisonText, List.append_assoc, List.cons_append]

theorem comparison?_written {Quantity : Type} {number? : List Char → Option Quantity}
    {number : List Char} {quantity : Quantity} (numeral : IsNumeral number)
    (found : number? number = some quantity) (comparison : Comparison) :
    comparison? number? (trim (comparison.symbol.toList ++ number)) =
      some (comparison, quantity) := by
  have symbolNonblank : ∀ character ∈ comparison.symbol.toList, isBlank character = false := by
    cases comparison <;> decide
  have nonblank : ∀ character ∈ comparison.symbol.toList ++ number, isBlank character = false := by
    intro character member
    rcases List.mem_append.mp member with inSymbol | inNumber
    · exact symbolNonblank character inSymbol
    · exact isBlank_of_isLeafChar (isLeafChar_of_isNumeral numeral character inNumber)
  rw [trim_of_nonblank nonblank, comparison?_symbol comparison numeral found]

/-- A comparison or a watch state is read as it is written. -/
theorem leafReading_write {filter : Filter} (shape : ReadShape .clause filter)
    (legible : filter.Legible .clause) (plainLeaf : filter.isPlainLeaf = true)
    (readValue : Field → List Char → Except FormatError Filter) :
    LeafReading readValue (write .clause filter) filter := by
  cases shape with
  | @runtime comparison minutes nonnegative bounded =>
    exact .runtime (splitColon?_comparisonText (by decide) comparison _) rfl
      (comparison?_written (isNumeral_integerText nonnegative bounded)
        (minutes?_integerText nonnegative bounded) comparison)
  | @released comparison year nonnegative bounded =>
    exact .released (splitColon?_comparisonText (by decide) comparison _) rfl
      (comparison?_written (isNumeral_paddedIntegerText nonnegative bounded)
        (year?_paddedIntegerText nonnegative bounded) comparison)
  | @rating comparison value allowed =>
    exact .rating (splitColon?_comparisonText (by decide) comparison _) rfl
      (comparison?_written (isNumeral_plainText allowed.unsigned legible)
        (rating?_plainText allowed.unsigned legible) comparison)
  | @watched state => cases state <;> exact .watched rfl rfl rfl
  | all => cases plainLeaf
  | any => cases plainLeaf
  | not => cases plainLeaf
  | group => cases plainLeaf

/-- A text of small letters, digits and symbols is neither cut nor taken apart. -/
theorem readStep_of_isLeafChar {text : List Char} (nonempty : text ≠ [])
    (each : ∀ character ∈ text, isLeafChar character = true)
    (next : Bracketing → List Char → Except FormatError Filter) :
    readStep next .clause text = readLeaf (fun field => next (.value field)) text := by
  have nonblank : ∀ character ∈ text, isBlank character = false :=
    fun character member => isBlank_of_isLeafChar (each character member)
  have uncut (operator : Operator) : Uncut .clause operator text := by
    refine uncut_of_nonblank .clause operator nonblank ?_
    rintro rfl
    cases operator <;> exact absurd each (by decide)
  have bare : unwrap? .clause text = none := by
    refine unwrap?_eq_none_of_head fun bracket => ?_
    have leafChar := each '[' (List.mem_of_mem_head? bracket)
    cases leafChar
  exact readStep_of_leaf nonempty (undivided_of_uncut uncut) (afterNot?_of_nonblank nonblank) bare

/-- A comparison or a watch state takes no level below the one it is read at. -/
theorem read_write_plainLeaf {filter : Filter} (shape : ReadShape .clause filter)
    (legible : filter.Legible .clause) (plainLeaf : filter.isPlainLeaf = true) (levels : Nat) :
    read levels .clause (write .clause filter) = withinLevels filter.cost levels filter := by
  have free : filter.cost = 0 := by
    cases filter <;> first | rfl | cases plainLeaf
  rw [free]
  cases levels with
  | zero => rfl
  | succ levels =>
    have solid := shape.solid
    rw [withinLevels_of_lt (Nat.succ_pos levels), read_succ, solid.trimmed,
      readStep_of_isLeafChar solid.nonempty (isLeafChar_of_mem_write shape plainLeaf .clause),
      readLeaf_eq_ok_iff]
    exact leafReading_write shape legible plainLeaf _

/-- A group is read as its value is read. -/
theorem readLeaf_group (readValue : Field → List Char → Except FormatError Filter) (field : Field)
    (text : List Char) :
    readLeaf readValue (field.keyword.toList ++ ':' :: text) =
      group field <$> readValue field (trim text) := by
  have colon : splitColon? (field.keyword.toList ++ ':' :: text) =
      some (field.keyword.toList, text) :=
    (splitColon?_eq_some_iff _ _ _).mpr ⟨rfl, by cases field <;> decide⟩
  rw [readLeaf, colon]
  cases field <;> rfl

/-- A keyword in front keeps a text from being negated or unwrapped. -/
theorem head?_keyword (field : Field) (rest : List Char) :
    ∃ first, (field.keyword.toList ++ rest).head? = some first ∧ first.toLower ≠ 'n' ∧
      isBracket first = false := by
  cases field <;> exact ⟨_, rfl, by decide, by decide⟩

/-- A list that falls apart into its members is read member by member. -/
theorem read_write_list {style : Bracketing} {operator : Operator} {children : List Filter}
    {text : List Char} (two : 2 ≤ children.length)
    (fallsApart : pieces style operator.word text = children.map (writeInside style))
    (inside : ∀ child ∈ children, child.LegibleInside style)
    (readsBack : ∀ child ∈ children, ∀ levels,
      read levels style (write style child) = withinLevels child.cost levels child)
    (list : List Filter → Filter) (levels : Nat) :
    trim text ≠ [] ∧ 2 ≤ (pieces style operator.word (trim text)).length ∧
      list <$> (pieces style operator.word (trim text)).mapM (read levels style) =
        withinLevels (1 + nestingEach 1 children) (levels + 1) (list children) := by
  have several : 2 ≤ (pieces style operator.word text).length := by
    rw [fallsApart, List.length_map]
    exact two
  have nonempty : children ≠ [] := by
    rintro rfl
    exact absurd two (by decide)
  refine ⟨trim_ne_nil_of_pieces several, by rwa [pieces_trim], ?_⟩
  rw [pieces_trim, fallsApart, mapM_withinLevels nonempty fun child member =>
    read_writeInside (inside child member) (readsBack child member) levels, map_withinLevels,
    Nat.add_comm 1]

theorem afterNot?_written {text : List Char} (trimmed : trim text = text) :
    afterNot? ("NOT ".toList ++ text) = some text :=
  (afterNot?_eq_some_iff _ _).mpr ⟨"NOT".toList, ' ', text, rfl, by decide, rfl, trimmed⟩

/-- A text behind NOT is negated one level up. -/
theorem read_negated {style : Bracketing} {text : List Char} (solid : Solid text)
    (undivided : Undivided style ("NOT ".toList ++ text)) (levels : Nat) :
    read (levels + 1) style ("NOT ".toList ++ text) = not <$> read levels style text := by
  have whole := solid.negated
  rw [read_succ, whole.trimmed,
    readStep_of_negated whole.nonempty undivided (afterNot?_written solid.trimmed)]

/-- The value of a field is grouped one level up. -/
theorem read_grouped {field : Field} {text : List Char} (solid : Solid text)
    (undivided : Undivided .clause (field.keyword.toList ++ ':' :: text)) (levels : Nat) :
    read (levels + 1) .clause (field.keyword.toList ++ ':' :: text) =
      group field <$> read levels (.value field) text := by
  have whole := solid.grouped field
  obtain ⟨first, head, notN, noBracket⟩ := head?_keyword field (':' :: text)
  have bare : unwrap? .clause (field.keyword.toList ++ ':' :: text) = none := by
    refine unwrap?_eq_none_of_head fun bracket => ?_
    rw [head, Option.some.injEq] at bracket
    rw [bracket] at noBracket
    cases noBracket
  rw [read_succ, whole.trimmed, readStep_of_leaf whole.nonempty undivided
    (afterNot?_eq_none_of_head head notN) bare, readLeaf_group, solid.trimmed]

/-- Legible text is read as the filter that was written, within the levels it takes. -/
theorem read_write {style : Bracketing} {filter : Filter} (shape : ReadShape style filter)
    (legible : filter.Legible style) (levels : Nat) :
    read levels style (write style filter) = withinLevels filter.cost levels filter := by
  induction shape generalizing levels with
  | @all style children two _ inductionHypothesis =>
    obtain ⟨fallsApart, inside⟩ := (legible_all style children).mp legible
    cases levels with
    | zero => rfl
    | succ levels =>
      obtain ⟨nonempty, several, outcome⟩ := read_write_list two fallsApart inside
        (fun child member => inductionHypothesis child member (inside child member).2) .all levels
      rw [read_succ, readStep_of_two_at_and nonempty several]
      exact outcome
  | @any style children two _ inductionHypothesis =>
    obtain ⟨noAnd, fallsApart, inside⟩ := (legible_any style children).mp legible
    cases levels with
    | zero => rfl
    | succ levels =>
      obtain ⟨nonempty, several, outcome⟩ := read_write_list two fallsApart inside
        (fun child member => inductionHypothesis child member (inside child member).2) .any levels
      rw [read_succ, readStep_of_two_at_or nonempty (by rwa [pieces_trim]) several]
      exact outcome
  | @not style inner innerShape inductionHypothesis =>
    obtain ⟨undivided, inside⟩ := (legible_not style inner).mp legible
    cases levels with
    | zero => rfl
    | succ levels =>
      rw [write_not, read_negated (ReadShape.solid innerShape).inside undivided,
        read_writeInside inside (inductionHypothesis inside.2) levels, map_withinLevels, cost,
        nesting_not]
  | @group field value valueShape inductionHypothesis =>
    obtain ⟨undivided, inside⟩ := (legible_group .clause field value).mp legible
    cases levels with
    | zero => rfl
    | succ levels =>
      rw [write_group, read_grouped (ReadShape.solid valueShape).inside undivided,
        read_writeInside inside (inductionHypothesis inside.2) levels, map_withinLevels, cost,
        nesting_group]
  | @term field text bareTerm =>
    cases levels with
    | zero => rfl
    | succ levels =>
      have parsed := read_of_bareTerm bareTerm levels
      rw [String.ofList_toList] at parsed
      exact parsed
  | runtime nonnegative bounded =>
    exact read_write_plainLeaf (.runtime nonnegative bounded) legible rfl levels
  | released nonnegative bounded =>
    exact read_write_plainLeaf (.released nonnegative bounded) legible rfl levels
  | rating allowed => exact read_write_plainLeaf (.rating allowed) legible rfl levels
  | watched => exact read_write_plainLeaf .watched legible rfl levels

end Filter

end PlaylistRules
