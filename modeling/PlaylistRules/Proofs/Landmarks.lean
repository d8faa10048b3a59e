/-
This file compares a text with what is written for the filter it is read as. Three
kinds of characters are landmarks: the letters that begin an operator, the letter in
the middle of NOT, and the colon behind a kind. Blanks, brackets, keywords and numbers
have none of them, so reading may add delimiters and drop blanks or digits, but the
written text never has more landmarks than the text it was read from.
-/

import PlaylistRules.Proofs.Legible

namespace PlaylistRules

open Number Text

/-! ### Counting landmarks -/

/-- What is counted: the letter of AND, that of OR and NOT, or the colon. -/
inductive Landmark where
  | and
  | or
  | colon

namespace Landmark

/-- Whether a character is the landmark. OR is written in capitals only, but NOT in
any letter case. -/
def isAt : Landmark → Char → Bool
  | and, character => character == 'A'
  | or, character => character == 'O' || character == 'o'
  | colon, character => character == ':'

/-- How often the landmark stands in a text. -/
def count (landmark : Landmark) (text : List Char) : Nat :=
  text.countP landmark.isAt

variable (landmark : Landmark)

@[simp]
theorem count_append (first second : List Char) :
    landmark.count (first ++ second) = landmark.count first + landmark.count second :=
  List.countP_append

theorem count_cons (character : Char) (rest : List Char) :
    landmark.count (character :: rest) = landmark.count [character] + landmark.count rest :=
  landmark.count_append [character] rest

theorem count_eq_zero {text : List Char}
    (absent : ∀ character ∈ text, landmark.isAt character = false) : landmark.count text = 0 :=
  List.countP_eq_zero.mpr fun character member => by simp [absent character member]

/-- The landmarks themselves. -/
theorem eq_of_isAt {character : Char} (found : landmark.isAt character = true) :
    character = 'A' ∨ character = 'O' ∨ character = 'o' ∨ character = ':' := by
  cases landmark <;> simp only [isAt, Bool.or_eq_true, beq_iff_eq] at found <;> tauto

theorem not_isAt_of_isBlank {character : Char} (blank : isBlank character = true) :
    landmark.isAt character = false := by
  by_contra found
  rcases landmark.eq_of_isAt (Bool.not_eq_false _ ▸ found) with rfl | rfl | rfl | rfl <;>
    exact absurd blank (by decide)

theorem not_isAt_of_isBracket {character : Char} (bracket : isBracket character = true) :
    landmark.isAt character = false := by
  by_contra found
  rcases landmark.eq_of_isAt (Bool.not_eq_false _ ▸ found) with rfl | rfl | rfl | rfl <;>
    exact absurd bracket (by decide)

theorem not_isAt_of_isDigit {character : Char} (digit : character.isDigit = true) :
    landmark.isAt character = false := by
  by_contra found
  rcases landmark.eq_of_isAt (Bool.not_eq_false _ ▸ found) with rfl | rfl | rfl | rfl <;>
    exact absurd digit (by decide)

theorem count_of_allBlank {text : List Char} (blank : AllBlank text) : landmark.count text = 0 :=
  landmark.count_eq_zero fun character member =>
    landmark.not_isAt_of_isBlank (blank character member)

/-- Blanks around a text have no landmarks. -/
theorem count_trim (text : List Char) : landmark.count (trim text) = landmark.count text := by
  obtain ⟨before, after, split, beforeBlank, afterBlank⟩ := exists_eq_trim text
  conv_rhs => rw [split, count_append, count_append, landmark.count_of_allBlank beforeBlank,
    landmark.count_of_allBlank afterBlank, Nat.zero_add, Nat.add_zero]

/-- Delimiters around a text have no landmarks. -/
theorem count_enclosed (style : Bracketing) (text : List Char) :
    landmark.count (style.opener :: text ++ [style.closer]) = landmark.count text := by
  have opener : landmark.count [style.opener] = 0 := by cases style <;> cases landmark <;> rfl
  have closer : landmark.count [style.closer] = 0 := by cases style <;> cases landmark <;> rfl
  rw [List.cons_append, count_cons, count_append, opener, closer, Nat.zero_add, Nat.add_zero]

theorem count_writeInside (style : Bracketing) (filter : Filter) :
    landmark.count (Filter.writeInside style filter) =
      landmark.count (Filter.write style filter) := by
  unfold Filter.writeInside Filter.delimited
  split
  · exact landmark.count_enclosed style _
  · rfl

/-! ### Slices and their pieces -/

theorem count_separator (operator : Operator) :
    landmark.count operator.separator = landmark.count operator.word := by
  cases operator <;> cases landmark <;> rfl

/-- Texts that take the places of the pieces of a text, each with no more landmarks than
its piece, have no more landmarks between operators than the whole text. -/
theorem count_joined_le {operator : Operator} {segments texts : List (List Char)}
    {text : List Char} (sliced : Sliced operator.word segments text)
    (fewer : List.Forall₂ (fun piece written => landmark.count written ≤ landmark.count piece)
      (segments.flatMap pieceOf) texts) :
    landmark.count (Filter.joined operator.separator texts) ≤ landmark.count text := by
  induction sliced generalizing texts with
  | whole text =>
    rw [List.flatMap_singleton] at fewer
    by_cases blank : trim text = []
    · rw [pieceOf, if_pos blank, List.forall₂_nil_left_iff] at fewer
      rw [fewer]
      exact Nat.zero_le _
    · rw [pieceOf_of_nonblank blank, List.forall₂_cons_left_iff] at fewer
      obtain ⟨written, _, less, none, rfl⟩ := fewer
      rw [List.forall₂_nil_left_iff.mp none, Filter.joined_singleton]
      exact (landmark.count_trim text) ▸ less
  | @cut segment segments rest others inductionHypothesis =>
    rw [List.flatMap_cons] at fewer
    rw [count_append, count_append]
    by_cases blank : trim segment = []
    · rw [pieceOf, if_pos blank, List.nil_append] at fewer
      have rest := inductionHypothesis fewer
      omega
    · rw [pieceOf_of_nonblank blank, List.singleton_append, List.forall₂_cons_left_iff] at fewer
      obtain ⟨written, texts, less, remaining, rfl⟩ := fewer
      rw [count_trim] at less
      have rest := inductionHypothesis remaining
      cases texts with
      | nil =>
        rw [Filter.joined_singleton]
        omega
      | cons second texts =>
        rw [Filter.joined_cons_cons, count_append, count_append, count_separator]
        omega

/-! ### Written leaves -/

theorem count_of_isNumeral {text : List Char} (numeral : Filter.IsNumeral text) :
    landmark.count text = 0 := by
  refine landmark.count_eq_zero fun character member => ?_
  rcases numeral character member with digit | rfl
  · exact landmark.not_isAt_of_isDigit digit
  · cases landmark <;> rfl

theorem count_keyword (field : Field) : landmark.count field.keyword.toList = 0 := by
  cases field <;> cases landmark <;> decide

theorem count_comparisonText {kind number : List Char} (comparison : Comparison)
    (noneInKind : landmark.count kind = 0) (noneInNumber : landmark.count number = 0) :
    landmark.count (Filter.comparisonText kind comparison number) = landmark.count [':'] := by
  have symbol : landmark.count comparison.symbol.toList = 0 := by
    cases comparison <;> cases landmark <;> decide
  rw [Filter.comparisonText, count_append, count_append, count_cons, noneInKind, symbol,
    noneInNumber, Nat.zero_add, Nat.add_zero]

/-- A written comparison or watch state has its colon for a landmark and no other. -/
theorem count_write_plainLeaf {filter : Filter} (shape : Filter.ReadShape .clause filter)
    (plainLeaf : filter.isPlainLeaf = true) (style : Bracketing) :
    landmark.count (Filter.write style filter) = landmark.count [':'] := by
  cases shape with
  | @runtime comparison minutes nonnegative bounded =>
    exact landmark.count_comparisonText comparison (by cases landmark <;> decide)
      (landmark.count_of_isNumeral (Filter.isNumeral_integerText nonnegative bounded))
  | @released comparison year nonnegative bounded =>
    exact landmark.count_comparisonText comparison (by cases landmark <;> decide)
      (landmark.count_of_isNumeral (Filter.isNumeral_paddedIntegerText nonnegative bounded))
  | @rating comparison value allowed =>
    refine landmark.count_comparisonText comparison (by cases landmark <;> decide) ?_
    cases finite : value.isFinite with
    | true =>
      exact landmark.count_of_isNumeral (Filter.isNumeral_plainText allowed.unsigned finite)
    | false =>
      rw [Filter.plainText_of_infinite allowed finite]
      cases landmark <;> decide
  | @watched state =>
    change landmark.count ("watchstatus:".toList ++ Filter.truthText state) = landmark.count [':']
    cases state <;> cases landmark <;> decide
  | all => cases plainLeaf
  | any => cases plainLeaf
  | not => cases plainLeaf
  | group => cases plainLeaf

/-! ### What is read and what is written -/

theorem isAt_or_of_toLower {letter : Char} (lowered : letter.toLower = 'o') :
    Landmark.or.isAt letter = true := by
  have code := congrArg Char.toNat lowered
  rw [toNat_toLower] at code
  change (if 65 ≤ letter.toNat ∧ letter.toNat ≤ 90 then letter.toNat + 32
    else letter.toNat) = 111 at code
  have either : letter.toNat = 79 ∨ letter.toNat = 111 := by split at code <;> omega
  rcases either with capital | small
  · rw [Char.toNat_inj.mp (capital.trans (show 79 = 'O'.toNat from rfl))]
    rfl
  · rw [Char.toNat_inj.mp (small.trans (show 111 = 'o'.toNat from rfl))]
    rfl

/-- In every letter case NOT has its landmark in the middle. -/
theorem exists_not_eq {word : List Char} (letters : word.map Char.toLower = ['n', 'o', 't']) :
    ∃ first second third, word = [first, second, third] ∧ Landmark.or.isAt second = true := by
  obtain ⟨first, second, third, rfl⟩ :=
    List.length_eq_three.mp (by simpa using congrArg List.length letters)
  simp only [List.map_cons, List.map_nil, List.cons.injEq, and_true] at letters
  exact ⟨first, second, third, rfl, isAt_or_of_toLower letters.2.1⟩

theorem count_not_le {word : List Char} (letters : word.map Char.toLower = ['n', 'o', 't']) :
    landmark.count "NOT ".toList ≤ landmark.count word := by
  cases landmark with
  | and => exact Nat.zero_le _
  | colon => exact Nat.zero_le _
  | or =>
    obtain ⟨first, second, third, rfl, found⟩ := exists_not_eq letters
    exact List.countP_pos_iff.mpr ⟨second, by simp, found⟩

/-- A leaf is read from a text that has a colon. -/
theorem count_colon_le_of_leafReading {readValue : Field → List Char → Except FormatError Filter}
    {text : List Char} {filter : Filter} (reading : Filter.LeafReading readValue text filter) :
    landmark.count [':'] ≤ landmark.count text := by
  have behind {before after : List Char}
      (colon : Filter.splitColon? text = some (before, after)) :
      landmark.count [':'] ≤ landmark.count text := by
    obtain ⟨rfl, _⟩ := (Filter.splitColon?_eq_some_iff text before after).mp colon
    rw [count_append, count_cons _ ':' after]
    omega
  cases reading <;> exact behind ‹_›

/-- If texts that are read have the landmarks of what is written for them, the pieces of a
list have those of its members. -/
theorem count_inside_le {next : Bracketing → List Char → Except FormatError Filter}
    (less : ∀ {style : Bracketing} {text : List Char} {filter : Filter},
      next style text = .ok filter →
        landmark.count (Filter.write style filter) ≤ landmark.count text)
    {style : Bracketing} {pieces : List (List Char)} {children : List Filter}
    (each : List.Forall₂ (fun piece child => next style piece = .ok child) pieces children) :
    List.Forall₂ (fun piece written => landmark.count written ≤ landmark.count piece) pieces
      (children.map (Filter.writeInside style)) := by
  rw [List.forall₂_map_right_iff]
  refine each.imp fun piece child parsed => ?_
  rw [count_writeInside]
  exact less parsed

/-- Written texts have no more landmarks than the texts they were read from. -/
theorem count_write_le {levels : Nat} {style : Bracketing} {text : List Char} {filter : Filter}
    (parsed : Filter.read levels style text = .ok filter) :
    landmark.count (Filter.write style filter) ≤ landmark.count text := by
  induction levels generalizing style text filter with
  | zero => cases parsed
  | succ levels inductionHypothesis =>
    have shape : Filter.ReadShape style filter :=
      (Filter.read_shaped _ parsed).1.mono (fun _ _ term => term.1) fun _ rating => rating
    obtain ⟨nonempty, reading⟩ := (Filter.read_eq_ok_iff levels style text filter).mp parsed
    rw [← landmark.count_trim text]
    cases reading with
    | all two each =>
      rw [pieces_eq_flatMap] at each
      rw [Filter.write_all]
      exact landmark.count_joined_le (sliced_segments style .and 0 true _)
        (landmark.count_inside_le inductionHypothesis each)
    | any _ two each =>
      rw [pieces_eq_flatMap] at each
      rw [Filter.write_any]
      exact landmark.count_joined_le (sliced_segments style .or 0 true _)
        (landmark.count_inside_le inductionHypothesis each)
    | not _ negated inside =>
      obtain ⟨word, blank, tail, split, letters, _, rfl⟩ := (afterNot?_eq_some_iff _ _).mp negated
      have word := landmark.count_not_le letters
      have inner := inductionHypothesis inside
      rw [count_trim] at inner
      rw [Filter.write_not, count_append, count_writeInside, split, count_append, count_cons]
      omega
    | unwrapped _ _ wrapped inside =>
      obtain ⟨body, split, _, rfl⟩ := (unwrap?_eq_some_iff _ _ _).mp wrapped
      have inner := inductionHypothesis inside
      rw [count_trim] at inner
      rwa [split, count_enclosed]
    | term => exact Nat.le_of_eq (congrArg landmark.count (String.toList_ofList))
    | leaf _ _ _ inside =>
      have colon := landmark.count_colon_le_of_leafReading inside
      cases inside with
      | @group before after field value colonAt _ valueParsed =>
        obtain ⟨split, _⟩ := (Filter.splitColon?_eq_some_iff _ _ _).mp colonAt
        have inner := inductionHypothesis valueParsed
        rw [count_trim] at inner
        rw [Filter.write_group, count_append, count_keyword, count_cons, count_writeInside, split,
          count_append, count_cons _ ':' after]
        omega
      | runtime => exact landmark.count_write_plainLeaf shape rfl .clause ▸ colon
      | released => exact landmark.count_write_plainLeaf shape rfl .clause ▸ colon
      | rating => exact landmark.count_write_plainLeaf shape rfl .clause ▸ colon
      | watched => exact landmark.count_write_plainLeaf shape rfl .clause ▸ colon

end Landmark

end PlaylistRules
