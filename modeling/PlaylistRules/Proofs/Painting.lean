/-
This file says what painting adds to a text: control sequences, which can be taken out
again. They are found by the escape character, so what comes out is the text that was
painted only if no escape character stands in that text. Padding, cutting short and
writing numbers put none into it.
-/

import PlaylistRules.Proofs.Ratings
import PlaylistRules.Calendar.Instant
import PlaylistRules.Text.Column
import PlaylistRules.Text.Paint

namespace PlaylistRules

open Number

namespace Text

/-! ### Taking control sequences out -/

/-- The character that starts a control sequence. -/
def escape : Char := '\x1b'

/-- The length of the control sequence at the start of a text: the escape character, a
bracket, digits and the letter m. -/
def sequenceLength? : List Char → Option Nat
  | first :: second :: rest =>
    let digits := rest.takeWhile Char.isDigit
    if first = escape && second = '[' && !digits.isEmpty &&
        (rest.dropWhile Char.isDigit).head? == some 'm' then
      some (digits.length + 3)
    else none
  | _ => none

/-- The text without its control sequences. `skipped` says how many characters of one are
still to be passed over. -/
def withoutSequences : (skipped : Nat) → List Char → List Char
  | _, [] => []
  | skipped + 1, _ :: rest => withoutSequences skipped rest
  | 0, character :: rest =>
    match sequenceLength? (character :: rest) with
    | some length => withoutSequences (length - 1) rest
    | none => character :: withoutSequences 0 rest

/-- The text without its colours and weights. -/
def uncolored (text : String) : String :=
  String.ofList (withoutSequences 0 text.toList)

theorem withoutSequences_append (before rest : List Char) :
    withoutSequences before.length (before ++ rest) = withoutSequences 0 rest := by
  induction before with
  | nil => rfl
  | cons character before inductionHypothesis => exact inductionHypothesis

theorem sequenceLength?_of_ne_escape {character : Char} (other : character ≠ escape)
    (rest : List Char) : sequenceLength? (character :: rest) = none := by
  cases rest with
  | nil => rfl
  | cons second rest => simp [sequenceLength?, other]

theorem sequenceLength?_sequence {digits : List Char} (isDigits : IsDigits digits)
    (rest : List Char) :
    sequenceLength? (escape :: '[' :: (digits ++ 'm' :: rest)) = some (digits.length + 3) := by
  have taken : (digits ++ 'm' :: rest).takeWhile Char.isDigit = digits := by
    rw [List.takeWhile_append_of_pos isDigits.digit, List.takeWhile_cons_of_neg (by decide),
      List.append_nil]
  have left : (digits ++ 'm' :: rest).dropWhile Char.isDigit = 'm' :: rest := by
    rw [List.dropWhile_append_of_pos isDigits.digit, List.dropWhile_cons_of_neg (by decide)]
  simp [sequenceLength?, taken, left, isDigits.nonempty]

/-! ### Painted texts -/

/-- The first text is the second one with control sequences put in, and the second one has
no escape character. -/
inductive Painting : (painted plain : List Char) → Prop where
  | nil : Painting [] []
  | keep {character : Char} {painted plain : List Char} (other : character ≠ escape)
      (rest : Painting painted plain) : Painting (character :: painted) (character :: plain)
  | sequence {digits painted plain : List Char} (isDigits : IsDigits digits)
      (rest : Painting painted plain) :
      Painting (escape :: '[' :: (digits ++ 'm' :: painted)) plain

namespace Painting

variable {painted plain : List Char}

/-- The text that was painted comes out again. -/
theorem withoutSequences_eq (painting : Painting painted plain) :
    withoutSequences 0 painted = plain := by
  induction painting with
  | nil => rfl
  | keep other _ inductionHypothesis =>
    rw [withoutSequences, sequenceLength?_of_ne_escape other]
    exact congrArg _ inductionHypothesis
  | @sequence digits painted _ isDigits _ inductionHypothesis =>
    have passed := withoutSequences_append ('[' :: (digits ++ ['m'])) painted
    simp only [List.cons_append, List.append_assoc, List.nil_append, List.length_cons,
      List.length_append, List.length_nil] at passed
    rw [withoutSequences, sequenceLength?_sequence isDigits]
    exact passed.trans inductionHypothesis

theorem append {otherPainted otherPlain : List Char} (first : Painting painted plain)
    (second : Painting otherPainted otherPlain) :
    Painting (painted ++ otherPainted) (plain ++ otherPlain) := by
  induction first with
  | nil => exact second
  | keep other _ inductionHypothesis => exact .keep other inductionHypothesis
  | sequence isDigits _ inductionHypothesis =>
    rw [List.cons_append, List.cons_append, List.append_assoc, List.cons_append]
    exact .sequence isDigits inductionHypothesis

theorem refl {text : List Char} (clean : escape ∉ text) : Painting text text := by
  induction text with
  | nil => exact .nil
  | cons character rest inductionHypothesis =>
    rw [List.mem_cons, not_or] at clean
    exact .keep (Ne.symm clean.1) (inductionHypothesis clean.2)

end Painting

/-- A text and the same text painted. -/
def Paints (painted plain : String) : Prop :=
  Painting painted.toList plain.toList

/-- A text without an escape character. -/
def IsClean (text : String) : Prop :=
  escape ∉ text.toList

instance (text : String) : Decidable (IsClean text) :=
  inferInstanceAs (Decidable (¬ _))

theorem Tint.isDigits_onCode (tint : Tint) : IsDigits tint.onCode.toList := by
  cases tint <;> exact ⟨by decide, by decide⟩

theorem Tint.isDigits_offCode (tint : Tint) : IsDigits tint.offCode.toList := by
  cases tint <;> exact ⟨by decide, by decide⟩

namespace Paints

variable {painted plain : String}

theorem uncolored_eq (paints : Paints painted plain) : uncolored painted = plain := by
  rw [uncolored, paints.withoutSequences_eq, String.ofList_toList]

theorem append {otherPainted otherPlain : String} (first : Paints painted plain)
    (second : Paints otherPainted otherPlain) :
    Paints (painted ++ otherPainted) (plain ++ otherPlain) := by
  rw [Paints, String.toList_append, String.toList_append]
  exact Painting.append first second

theorem refl {text : String} (clean : IsClean text) : Paints text text :=
  Painting.refl clean

theorem append_clean (paints : Paints painted plain) {text : String} (clean : IsClean text) :
    Paints (painted ++ text) (plain ++ text) :=
  paints.append (refl clean)

theorem controlSequence {code : String} (isDigits : IsDigits code.toList) :
    Paints (controlSequence code) "" := by
  rw [Paints, Text.controlSequence, String.toList_append, String.toList_append, List.append_assoc]
  exact .sequence isDigits .nil

theorem paint (paints : Paints painted plain) (tint : Tint) :
    Paints (Text.paint tint painted) plain := by
  have whole := ((controlSequence tint.isDigits_onCode).append paints).append
    (controlSequence tint.isDigits_offCode)
  rwa [String.empty_append, String.append_empty] at whole

theorem paintIf (clean : IsClean plain) (tint : Tint) :
    Paints (Text.paintIf true tint plain) (Text.paintIf false tint plain) :=
  (refl clean).paint tint

theorem join {Shown : Type} {shown : List Shown} {inColor inPlain : Shown → String}
    (each : ∀ one ∈ shown, Paints (inColor one) (inPlain one)) :
    Paints (String.join (shown.map inColor)) (String.join (shown.map inPlain)) := by
  induction shown with
  | nil => exact Painting.nil
  | cons first rest inductionHypothesis =>
    obtain ⟨firstPaints, restPaints⟩ := List.forall_mem_cons.mp each
    rw [List.map_cons, List.map_cons, String.join_cons, String.join_cons]
    exact firstPaints.append (inductionHypothesis restPaints)

end Paints

/-- Sequences inside each other come out too, but not what only starts like one. -/
example : uncolored (paint .bold (paint .cyan "AND") ++ "\x1b[m\x1b[1") = "AND\x1b[m\x1b[1" := by
  decide

/-! ### Texts without an escape character -/

@[simp]
theorem isClean_append (first second : String) :
    IsClean (first ++ second) ↔ IsClean first ∧ IsClean second := by
  rw [IsClean, String.toList_append, List.mem_append, not_or, IsClean, IsClean]

@[simp]
theorem isClean_ofList (text : List Char) : IsClean (String.ofList text) ↔ escape ∉ text := by
  rw [IsClean, String.toList_ofList]

theorem isClean_space : IsClean " " := by
  decide

theorem isClean_newline : IsClean "\n" := by
  decide

theorem IsClean.of_isInfix {part text : String} (clean : IsClean text)
    (inside : part.toList <:+: text.toList) : IsClean part :=
  fun member => clean (inside.subset member)

theorem isClean_blanks (count : Nat) : IsClean (String.ofList (List.replicate count ' ')) := by
  rw [isClean_ofList]
  exact fun member => absurd (List.eq_of_mem_replicate member) (by decide)

@[simp]
theorem isClean_padEnd (width : Nat) (text : String) :
    IsClean (padEnd width text) ↔ IsClean text := by
  rw [padEnd, isClean_append, and_iff_left (isClean_blanks _)]

@[simp]
theorem isClean_padStart (width : Nat) (text : String) :
    IsClean (padStart width text) ↔ IsClean text := by
  rw [padStart, isClean_append, and_iff_right (isClean_blanks _)]

theorem IsClean.firstChars {text : String} (clean : IsClean text) (count : Nat) :
    IsClean (firstChars count text) := by
  rw [Text.firstChars, isClean_ofList]
  exact fun member => clean (List.mem_of_mem_take member)

theorem IsClean.shortened {text : String} (clean : IsClean text) (width : Nat) :
    IsClean (shortened width text) := by
  rw [Text.shortened]
  split
  · exact (isClean_append _ _).mpr ⟨clean.firstChars _, by decide⟩
  · exact clean

/-! ### Numbers -/

theorem escape_not_mem_of_isDigit {text : List Char}
    (each : ∀ character ∈ text, character.isDigit = true) : escape ∉ text :=
  fun member => absurd (each escape member) (by decide)

@[simp]
theorem escape_not_mem_naturalText (number : Nat) : escape ∉ naturalText number :=
  escape_not_mem_of_isDigit fun _ => isDigit_of_mem_naturalText

@[simp]
theorem isClean_repr (number : Nat) : IsClean number.repr := by
  rw [IsClean, Nat.toList_repr]
  exact escape_not_mem_naturalText number

theorem escape_ne_sign : escape ≠ '-' := by
  decide

@[simp]
theorem escape_not_mem_zeroPadded (width number : Nat) :
    escape ∉ zeroPadded width (naturalText number) := by
  have zero : escape ≠ '0' := by decide
  simp [zeroPadded, zero]

@[simp]
theorem escape_not_mem_integerText (number : Int) : escape ∉ integerText number := by
  rw [integerText]
  split <;> simp [escape_ne_sign]

@[simp]
theorem escape_not_mem_paddedIntegerText (width : Nat) (number : Int) :
    escape ∉ paddedIntegerText width number := by
  rw [paddedIntegerText]
  split <;> simp [escape_ne_sign]

theorem escape_not_mem_textWith {finiteText : Binary64 → List Char} {number : Binary64}
    (finite : escape ∉ finiteText number) : escape ∉ number.textWith finiteText := by
  rw [Binary64.textWith]
  split_ifs <;> first | decide | exact finite

@[simp]
theorem escape_not_mem_plainText (number : Binary64) : escape ∉ number.plainText := by
  obtain ⟨whole, fraction⟩ := number.plainParts_isDigit
  have wholeClean := escape_not_mem_of_isDigit ((isNatural_iff _).mp whole).2
  have fractionClean := escape_not_mem_of_isDigit fraction
  have point : escape ≠ '.' := by decide
  refine escape_not_mem_textWith ?_
  rw [Binary64.numeral_plainLayout, Numeral.text]
  split_ifs <;> simp [wholeClean, fractionClean, escape_ne_sign, point]

@[simp]
theorem escape_not_mem_tenthsText (number : Binary64) : escape ∉ number.tenthsText := by
  have point : escape ≠ '.' := by decide
  refine escape_not_mem_textWith ?_
  rw [Binary64.finiteTenthsText]
  split_ifs <;> simp [escape_ne_sign, point]

@[simp]
theorem escape_not_mem_dateText (instant : Calendar.Instant) : escape ∉ instant.dateText := by
  have plus : escape ≠ '+' := by decide
  have year (year : Int) : escape ∉ Calendar.Instant.yearText year := by
    rw [Calendar.Instant.yearText]
    split_ifs <;> simp [escape_ne_sign, plus]
  simp [Calendar.Instant.dateText, year, escape_ne_sign]

end Text

end PlaylistRules
