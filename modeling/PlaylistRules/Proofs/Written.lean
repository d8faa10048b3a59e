/-
This file proves what written texts look like. Comparisons and watch states are
written in a small alphabet without blanks and brackets, so nothing cuts them or
takes them apart. Every written text begins and ends with a character that is not
blank, and brackets around the members of a list are the only ones the writer adds.
-/

import PlaylistRules.Proofs.Ratings
import PlaylistRules.Proofs.WellFormed

namespace PlaylistRules

open Number Text

/-! ### Texts without blanks and brackets -/

/-- Whether a character belongs to the texts of comparisons and watch states: small
letters, digits, the point, the colon and the symbols of comparisons. -/
def isLeafChar (character : Char) : Bool :=
  let code := character.toNat
  (97 ≤ code && code ≤ 122) || (48 ≤ code && code ≤ 58) || (60 ≤ code && code ≤ 62) || code == 46

theorem isLeafChar_iff (character : Char) :
    isLeafChar character = true ↔
      (97 ≤ character.toNat ∧ character.toNat ≤ 122) ∨
        (48 ≤ character.toNat ∧ character.toNat ≤ 58) ∨
        (60 ≤ character.toNat ∧ character.toNat ≤ 62) ∨ character.toNat = 46 := by
  simp only [isLeafChar, Bool.or_eq_true, Bool.and_eq_true, decide_eq_true_eq, beq_iff_eq, or_assoc]

theorem isBlank_of_isLeafChar {character : Char} (leafChar : isLeafChar character = true) :
    isBlank character = false := by
  rw [isLeafChar_iff] at leafChar
  simp only [isBlank, Bool.or_eq_false_iff, Bool.and_eq_false_iff, decide_eq_false_iff_not,
    beq_eq_false_iff_ne]
  omega

theorem isBracket_of_isLeafChar {character : Char} (leafChar : isLeafChar character = true) :
    isBracket character = false := by
  by_contra bracket
  simp only [isBracket, Bool.not_eq_false, Bool.or_eq_true, beq_iff_eq] at bracket
  rcases bracket with ((rfl | rfl) | rfl) | rfl <;> exact absurd leafChar (by decide)

theorem isLeafChar_of_isDigit {character : Char} (digit : character.isDigit = true) :
    isLeafChar character = true := by
  rw [isDigit_iff] at digit
  rw [isLeafChar_iff]
  omega

theorem afterNot?_of_nonblank {text : List Char}
    (nonblank : ∀ character ∈ text, isBlank character = false) : afterNot? text = none := by
  refine (afterNot?_eq_none_iff text).mpr fun word blank tail split _ => nonblank blank ?_
  rw [split]
  exact List.mem_append_right _ List.mem_cons_self

/-- A text that does not begin with the opening delimiter is not unwrapped. -/
theorem unwrap?_eq_none_of_head {style : Bracketing} {text : List Char}
    (other : text.head? ≠ some style.opener) : unwrap? style text = none := by
  rw [Option.eq_none_iff_forall_ne_some]
  intro inner unwrapped
  obtain ⟨body, split, _⟩ := (unwrap?_eq_some_iff style text inner).mp unwrapped
  exact other (by rw [split]; rfl)

/-! ### The alphabet of numbers -/

namespace Filter

/-- Every character is a digit or a point. -/
def IsNumeral (text : List Char) : Prop :=
  ∀ character ∈ text, character.isDigit = true ∨ character = '.'

theorem IsNumeral.of_isNatural {text : List Char} (natural : isNatural text = true) :
    IsNumeral text :=
  fun character member => Or.inl (((isNatural_iff text).mp natural).2 character member)

theorem minutes?_isNumeral {text : List Char} {minutes : Int}
    (found : minutes? text = some minutes) :
    IsNumeral text :=
  .of_isNatural ((minutes?_eq_some_iff text minutes).mp found).1

theorem year?_isNumeral {text : List Char} {year : Int} (found : year? text = some year) :
    IsNumeral text :=
  .of_isNatural ((year?_eq_some_iff text year).mp found).1

theorem rating?_isNumeral {text : List Char} {value : Binary64}
    (found : rating? text = some value) :
    IsNumeral text := by
  have whole {character : Char} (member : character ∈ text.takeWhile Char.isDigit) :
      character.isDigit = true := List.mem_takeWhile_imp member
  intro character member
  rw [← List.takeWhile_append_dropWhile (p := Char.isDigit) (l := text)] at member
  unfold rating? at found
  dsimp only at found
  rcases List.mem_append.mp member with inWhole | inRest
  · exact Or.inl (whole inWhole)
  · split at found
    · rename_i empty
      rw [empty] at inRest
      cases inRest
    · rename_i fraction split
      rw [split] at inRest
      split at found
      · rename_i digits
        rw [Bool.and_eq_true, List.all_eq_true] at digits
        rcases List.mem_cons.mp inRest with rfl | inFraction
        · exact Or.inr rfl
        · exact Or.inl (digits.1 character inFraction)
      · cases found
    · cases found

theorem isLeafChar_of_isNumeral {text : List Char} (numeral : IsNumeral text) :
    ∀ character ∈ text, isLeafChar character = true := by
  intro character member
  rcases numeral character member with digit | rfl
  · exact isLeafChar_of_isDigit digit
  · decide

theorem isOperatorChar_of_isNumeral {text : List Char} (numeral : IsNumeral text) :
    ∀ character ∈ text, isOperatorChar character = false := by
  intro character member
  rcases numeral character member with digit | rfl
  · by_contra isOperator
    simp only [isOperatorChar, Bool.not_eq_false, Bool.or_eq_true, beq_iff_eq] at isOperator
    rcases isOperator with (rfl | rfl) | rfl <;> exact absurd digit (by decide)
  · decide

/-- A comparison is read as its symbol and its number are written. -/
theorem comparison?_symbol {Quantity : Type} {number? : List Char → Option Quantity}
    (comparison : Comparison) {number : List Char} (numeral : IsNumeral number)
    {quantity : Quantity}
    (found : number? number = some quantity) :
    comparison? number? (comparison.symbol.toList ++ number) = some (comparison, quantity) := by
  have noOperator := isOperatorChar_of_isNumeral numeral
  have symbolOnly : ∀ character ∈ comparison.symbol.toList, isOperatorChar character = true := by
    cases comparison <;> decide
  have noneTaken : number.takeWhile isOperatorChar = [] := by
    cases number with
    | nil => rfl
    | cons first rest =>
      rw [List.takeWhile_cons_of_neg (by simp [noOperator first List.mem_cons_self])]
  have noneDropped : number.dropWhile isOperatorChar = number := by
    cases number with
    | nil => rfl
    | cons first rest =>
      rw [List.dropWhile_cons_of_neg (by simp [noOperator first List.mem_cons_self])]
  refine (comparison?_eq_some_iff _ _ _ _).mpr ⟨?_, ?_⟩
  · rw [List.takeWhile_append_of_pos symbolOnly, noneTaken, List.append_nil]
    cases comparison <;> rfl
  · rw [List.dropWhile_append_of_pos symbolOnly, noneDropped]
    exact found

/-! ### Leaves outside groups -/

/-- Whether a filter is a comparison or a watch state. -/
def isPlainLeaf : Filter → Bool
  | runtime _ _ => true
  | released _ _ => true
  | rating _ _ => true
  | watched _ => true
  | _ => false

/-- A finite rating without a sign is written as a numeral. -/
theorem isNumeral_plainText {value : Binary64} (unsigned : value.negative = false)
    (finite : value.isFinite = true) : IsNumeral value.plainText := by
  obtain ⟨natural, each⟩ := value.plainParts_isDigit
  rw [Binary64.plainText_of_finite unsigned finite]
  intro character member
  rcases List.mem_append.mp member with inWhole | inFraction
  · exact IsNumeral.of_isNatural natural character inWhole
  · split at inFraction
    · cases inFraction
    · rcases List.mem_cons.mp inFraction with rfl | inDigits
      · exact Or.inr rfl
      · exact Or.inl (each character inDigits)

theorem plainText_of_infinite {value : Binary64} (readRating : ReadRating value)
    (infinite : value.isFinite = false) : value.plainText = "inf".toList := by
  have code : value.code = Binary64.infinityCode :=
    Nat.le_antisymm readRating.bounded (Nat.not_lt.mp (of_decide_eq_false infinite))
  rw [Binary64.plainText, Binary64.textWith, Binary64.isNotANumber, Binary64.isInfinite, code,
    readRating.unsigned]
  simp

theorem isLeafChar_of_mem_plainText {value : Binary64} (readRating : ReadRating value) :
    ∀ character ∈ value.plainText, isLeafChar character = true := by
  cases finite : value.isFinite with
  | true => exact isLeafChar_of_isNumeral (isNumeral_plainText readRating.unsigned finite)
  | false =>
    rw [plainText_of_infinite readRating finite]
    decide

theorem isNumeral_integerText {minutes : Int} (nonnegative : 0 ≤ minutes)
    (bounded : minutes < 2 ^ 63) : IsNumeral (integerText minutes) :=
  minutes?_isNumeral (minutes?_integerText nonnegative bounded)

theorem isNumeral_paddedIntegerText {year : Int} (nonnegative : 0 ≤ year) (bounded : year ≤ 9999) :
    IsNumeral (paddedIntegerText 4 year) :=
  year?_isNumeral (year?_paddedIntegerText nonnegative bounded)

theorem isLeafChar_of_mem_comparisonText {kind number : List Char} {comparison : Comparison}
    (kindChars : ∀ character ∈ kind, isLeafChar character = true)
    (numberChars : ∀ character ∈ number, isLeafChar character = true) :
    ∀ character ∈ comparisonText kind comparison number, isLeafChar character = true := by
  have symbolChars : ∀ character ∈ comparison.symbol.toList, isLeafChar character = true := by
    cases comparison <;> decide
  intro character member
  unfold comparisonText at member
  rw [List.append_assoc, List.cons_append, List.mem_append, List.mem_cons,
    List.mem_append] at member
  rcases member with inKind | rfl | inSymbol | inNumber
  · exact kindChars character inKind
  · decide
  · exact symbolChars character inSymbol
  · exact numberChars character inNumber

section

variable {terms : Field → String → Prop}

/-- The texts of comparisons and watch states keep to their alphabet. -/
theorem isLeafChar_of_mem_write {style : Bracketing} {filter : Filter}
    (shaped : filter.Shaped terms ReadRating style) (plainLeaf : filter.isPlainLeaf = true)
    (anyStyle : Bracketing) :
    ∀ character ∈ write anyStyle filter, isLeafChar character = true := by
  cases shaped with
  | runtime nonnegative bounded =>
    exact isLeafChar_of_mem_comparisonText (by decide)
      (isLeafChar_of_isNumeral (isNumeral_integerText nonnegative bounded))
  | released nonnegative bounded =>
    exact isLeafChar_of_mem_comparisonText (by decide)
      (isLeafChar_of_isNumeral (isNumeral_paddedIntegerText nonnegative bounded))
  | rating allowed =>
    exact isLeafChar_of_mem_comparisonText (by decide) (isLeafChar_of_mem_plainText allowed)
  | @watched state =>
    change ∀ character ∈ "watchstatus:".toList ++ truthText state, isLeafChar character = true
    cases state <;> decide
  | all => cases plainLeaf
  | any => cases plainLeaf
  | not => cases plainLeaf
  | group => cases plainLeaf
  | term => cases plainLeaf

end

/-! ### Lists -/

/-- A filter as it stands inside a list or behind NOT. -/
def writeInside (style : Bracketing) (filter : Filter) : List Char :=
  delimited style filter.isCompound (write style filter)

theorem writeEach_eq_map (style : Bracketing) (children : List Filter) :
    writeEach style children = children.map (writeInside style) := by
  induction children with
  | nil => rfl
  | cons child rest inductionHypothesis =>
    exact congrArg (writeInside style child :: ·) inductionHypothesis

end Filter

/-- The operator between two members of a list. -/
def Operator.separator (operator : Operator) : List Char :=
  ' ' :: (operator.word ++ [' '])

theorem Operator.separator_no_bracket (operator : Operator) :
    ∀ character ∈ operator.separator, isBracket character = false := by
  cases operator <;> decide

namespace Filter

theorem write_all (style : Bracketing) (children : List Filter) :
    write style (.all children) =
      joined Operator.and.separator (children.map (writeInside style)) :=
  congrArg (joined Operator.and.separator) (writeEach_eq_map style children)

theorem write_any (style : Bracketing) (children : List Filter) :
    write style (.any children) =
      joined Operator.or.separator (children.map (writeInside style)) :=
  congrArg (joined Operator.or.separator) (writeEach_eq_map style children)

theorem write_not (style : Bracketing) (inner : Filter) :
    write style (.not inner) = "NOT ".toList ++ writeInside style inner := rfl

theorem write_group (style : Bracketing) (field : Field) (value : Filter) :
    write style (.group field value) =
      field.keyword.toList ++ ':' :: writeInside (.value field) value := rfl

theorem joined_cons_cons (separator first second : List Char) (rest : List (List Char)) :
    joined separator (first :: second :: rest) =
      first ++ (separator ++ joined separator (second :: rest)) := by
  rw [joined, joined, List.intercalate_cons_cons, List.append_assoc]

theorem joined_singleton (separator first : List Char) : joined separator [first] = first :=
  List.intercalate_singleton

/-! ### Edges -/

/-- A text that begins and ends with a character that is not blank. -/
structure Solid (text : List Char) : Prop where
  nonempty : text ≠ []
  trimmed : trim text = text

theorem Solid.append {first second : List Char} (firstSolid : Solid first)
    (secondSolid : Solid second) (between : List Char) : Solid (first ++ between ++ second) := by
  refine ⟨List.append_ne_nil_of_right_ne_nil _ secondSolid.nonempty, ?_⟩
  exact trim_append_of_trimmed firstSolid.trimmed secondSolid.trimmed firstSolid.nonempty
    secondSolid.nonempty between

theorem Solid.enclose (style : Bracketing) (text : List Char) :
    Solid (style.opener :: text ++ [style.closer]) :=
  ⟨List.cons_ne_nil _ _, trim_enclosed style.opener_nonblank style.closer_nonblank text⟩

theorem Solid.of_isLeafChar {text : List Char} (nonempty : text ≠ [])
    (each : ∀ character ∈ text, isLeafChar character = true) : Solid text :=
  ⟨nonempty, trim_of_nonblank fun character member => isBlank_of_isLeafChar (each character member)⟩

theorem Solid.joined (separator : List Char) {texts : List (List Char)} (some : texts ≠ [])
    (each : ∀ text ∈ texts, Solid text) : Solid (joined separator texts) := by
  induction texts with
  | nil => exact absurd rfl some
  | cons first rest inductionHypothesis =>
    have firstSolid := each first List.mem_cons_self
    cases rest with
    | nil =>
      rw [joined_singleton]
      exact firstSolid
    | cons second rest =>
      rw [joined_cons_cons, ← List.append_assoc]
      exact firstSolid.append (inductionHypothesis (List.cons_ne_nil _ _)
        fun text member => each text (List.mem_cons_of_mem _ member)) separator

theorem Solid.negated {text : List Char} (solid : Solid text) : Solid ("NOT ".toList ++ text) := by
  have word : Solid "NOT".toList := ⟨by decide, by decide⟩
  exact word.append solid [' ']

theorem Solid.grouped {text : List Char} (solid : Solid text) (field : Field) :
    Solid (field.keyword.toList ++ ':' :: text) := by
  have keyword : Solid field.keyword.toList := by cases field <;> exact ⟨by decide, by decide⟩
  have whole := keyword.append solid [':']
  rwa [List.append_assoc] at whole

theorem Solid.inside {style : Bracketing} {filter : Filter} (solid : Solid (write style filter)) :
    Solid (writeInside style filter) := by
  unfold writeInside delimited
  split
  · exact Solid.enclose style _
  · exact solid

/-- Every filter is written without blanks around it. -/
theorem write_solid {terms : Field → String → Prop}
    (solidTerms : ∀ field term, terms field term → Solid term.toList) {style : Bracketing}
    {filter : Filter} (shaped : filter.Shaped terms ReadRating style) :
    Solid (write style filter) := by
  induction shaped with
  | all two _ inductionHypothesis =>
    rw [write_all]
    refine Solid.joined _ ?_ fun text member => ?_
    · rw [ne_eq, List.map_eq_nil_iff]
      rintro rfl
      exact absurd two (by decide)
    · obtain ⟨child, inChildren, rfl⟩ := List.mem_map.mp member
      exact (inductionHypothesis child inChildren).inside
  | any two _ inductionHypothesis =>
    rw [write_any]
    refine Solid.joined _ ?_ fun text member => ?_
    · rw [ne_eq, List.map_eq_nil_iff]
      rintro rfl
      exact absurd two (by decide)
    · obtain ⟨child, inChildren, rfl⟩ := List.mem_map.mp member
      exact (inductionHypothesis child inChildren).inside
  | not _ inductionHypothesis => exact inductionHypothesis.inside.negated
  | group _ inductionHypothesis => exact inductionHypothesis.inside.grouped _
  | term allowed => exact solidTerms _ _ allowed
  | runtime nonnegative bounded =>
    exact Solid.of_isLeafChar (List.cons_ne_nil _ _)
      (isLeafChar_of_mem_write (Shaped.runtime nonnegative bounded : Shaped terms _ _ _) rfl _)
  | released nonnegative bounded =>
    exact Solid.of_isLeafChar (List.cons_ne_nil _ _)
      (isLeafChar_of_mem_write (Shaped.released nonnegative bounded : Shaped terms _ _ _) rfl _)
  | rating allowed =>
    exact Solid.of_isLeafChar (List.cons_ne_nil _ _)
      (isLeafChar_of_mem_write (Shaped.rating allowed : Shaped terms _ _ _) rfl _)
  | watched =>
    exact Solid.of_isLeafChar (List.cons_ne_nil _ _)
      (isLeafChar_of_mem_write (Shaped.watched : Shaped terms _ _ _) rfl _)

/-! ### Characters that are not written -/

theorem mem_joined {separator : List Char} {texts : List (List Char)} {character : Char}
    (member : character ∈ joined separator texts) :
    character ∈ separator ∨ ∃ text ∈ texts, character ∈ text := by
  induction texts with
  | nil => cases member
  | cons first rest inductionHypothesis =>
    cases rest with
    | nil =>
      rw [joined_singleton] at member
      exact Or.inr ⟨first, List.mem_cons_self, member⟩
    | cons second rest =>
      rw [joined_cons_cons, List.mem_append, List.mem_append] at member
      rcases member with inFirst | inSeparator | inRest
      · exact Or.inr ⟨first, List.mem_cons_self, inFirst⟩
      · exact Or.inl inSeparator
      · refine (inductionHypothesis inRest).imp_right ?_
        rintro ⟨text, inTexts, inText⟩
        exact ⟨text, List.mem_cons_of_mem _ inTexts, inText⟩

/-- Whether the writer itself writes a character, outside the terms: those of comparisons
and watch states, brackets, and those of operators with the blanks around them. -/
def isWriterChar (character : Char) : Bool :=
  isLeafChar character || isBracket character || character ∈ " ANDORT".toList

section

variable {character : Char} (foreign : isWriterChar character = false)

include foreign

theorem ne_of_foreign {other : Char} (written : isWriterChar other = true) : character ≠ other := by
  rintro rfl
  rw [foreign] at written
  cases written

theorem not_mem_of_foreign {text : List Char}
    (written : ∀ other ∈ text, isWriterChar other = true) : character ∉ text :=
  fun member => ne_of_foreign foreign (written character member) rfl

theorem not_mem_inside {style : Bracketing} {filter : Filter}
    (absent : character ∉ write style filter) : character ∉ writeInside style filter := by
  have opener : character ≠ style.opener := ne_of_foreign foreign (by cases style <;> rfl)
  have closer : character ≠ style.closer := ne_of_foreign foreign (by cases style <;> rfl)
  unfold writeInside delimited
  split
  · simp [opener, closer, absent]
  · exact absent

theorem not_mem_joined {style : Bracketing} {operator : Operator} {children : List Filter}
    (absent : ∀ child ∈ children, character ∉ write style child) :
    character ∉ joined operator.separator (children.map (writeInside style)) := by
  intro member
  rcases mem_joined member with inSeparator | ⟨text, inTexts, inText⟩
  · exact not_mem_of_foreign foreign (by cases operator <;> decide) inSeparator
  · obtain ⟨child, inChildren, rfl⟩ := List.mem_map.mp inTexts
    exact not_mem_inside foreign (absent child inChildren) inText

/-- The text of a filter has a character that the writer does not write only if one of its
terms has. -/
theorem not_mem_write {terms : Field → String → Prop}
    (absent : ∀ field term, terms field term → character ∉ term.toList) {style : Bracketing}
    {filter : Filter} (shaped : filter.Shaped terms ReadRating style) :
    character ∉ write style filter := by
  have leaf {leafFilter : Filter} (leafShaped : leafFilter.Shaped terms ReadRating .clause)
      (plainLeaf : leafFilter.isPlainLeaf = true) : character ∉ write .clause leafFilter := by
    refine not_mem_of_foreign foreign fun other member => ?_
    rw [isWriterChar, isLeafChar_of_mem_write leafShaped plainLeaf .clause other member]
    rfl
  induction shaped with
  | all _ _ inductionHypothesis =>
    rw [write_all]
    exact not_mem_joined foreign inductionHypothesis
  | any _ _ inductionHypothesis =>
    rw [write_any]
    exact not_mem_joined foreign inductionHypothesis
  | not _ inductionHypothesis =>
    rw [write_not, List.mem_append, not_or]
    exact ⟨not_mem_of_foreign foreign (by decide), not_mem_inside foreign inductionHypothesis⟩
  | @group field value _ inductionHypothesis =>
    rw [write_group, List.mem_append, List.mem_cons, not_or, not_or]
    exact ⟨not_mem_of_foreign foreign (by cases field <;> decide),
      ne_of_foreign foreign (by decide), not_mem_inside foreign inductionHypothesis⟩
  | term allowed => exact absent _ _ allowed
  | runtime nonnegative bounded => exact leaf (.runtime nonnegative bounded) rfl
  | released nonnegative bounded => exact leaf (.released nonnegative bounded) rfl
  | rating allowed => exact leaf (.rating allowed) rfl
  | watched => exact leaf .watched rfl

end

/-- The text of a filter has a pipe only if one of its terms has. -/
theorem pipe_not_mem_write {terms : Field → String → Prop}
    (absent : ∀ field term, terms field term → '|' ∉ term.toList) {style : Bracketing}
    {filter : Filter} (shaped : filter.Shaped terms ReadRating style) :
    '|' ∉ write style filter :=
  not_mem_write (by decide) absent shaped

end Filter

end PlaylistRules
