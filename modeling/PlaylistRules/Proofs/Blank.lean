/-
This file proves how trimming acts on a text: what it takes away is blank, what it
leaves has no blank at either edge, and blanks that are added at an edge do not
change the outcome.
-/

import Mathlib.Data.List.DropRight
import Mathlib.Data.List.Infix
import PlaylistRules.Text.Blank

namespace PlaylistRules.Text

/-- A text of blanks only. -/
def AllBlank (text : List Char) : Prop :=
  ∀ character ∈ text, isBlank character = true

/-- A property of all characters in a text is decided along the text. There are finitely many
characters in all, but too many to go through. -/
instance (priority := high) decidableForallMem (property : Char → Prop) [DecidablePred property]
    (text : List Char) : Decidable (∀ character ∈ text, property character) :=
  List.decidableBAll property text

instance (text : List Char) : Decidable (AllBlank text) :=
  inferInstanceAs (Decidable (∀ character ∈ text, isBlank character = true))

theorem allBlank_nil : AllBlank [] := fun _ member => absurd member List.not_mem_nil

theorem AllBlank.append {first second : List Char} (firstBlank : AllBlank first)
    (secondBlank : AllBlank second) : AllBlank (first ++ second) := by
  intro character member
  rcases List.mem_append.mp member with inFirst | inSecond
  · exact firstBlank character inFirst
  · exact secondBlank character inSecond

/-! ### What trimming takes away -/

theorem trimEnd_eq_rdropWhile (text : List Char) : trimEnd text = text.rdropWhile isBlank := rfl

/-- A text is its trimmed form between blanks. -/
theorem exists_eq_trim (text : List Char) :
    ∃ before after, text = before ++ trim text ++ after ∧ AllBlank before ∧ AllBlank after := by
  refine ⟨text.takeWhile isBlank, (trimStart text).rtakeWhile isBlank, ?_, ?_, ?_⟩
  · rw [List.append_assoc, trim, trimEnd_eq_rdropWhile, List.rdropWhile_append_rtakeWhile,
      trimStart, List.takeWhile_append_dropWhile]
  · exact fun character member => List.mem_takeWhile_imp member
  · exact fun character member => List.mem_rtakeWhile_imp member

theorem trim_isInfix (text : List Char) : trim text <:+: text := by
  obtain ⟨before, after, split, _, _⟩ := exists_eq_trim text
  exact ⟨before, after, split.symm⟩

theorem trim_eq_nil_iff (text : List Char) : trim text = [] ↔ AllBlank text := by
  constructor
  · intro empty
    obtain ⟨before, after, split, beforeBlank, afterBlank⟩ := exists_eq_trim text
    rw [split, empty, List.append_nil]
    exact beforeBlank.append afterBlank
  · intro blank
    have gone : trimStart text = [] := List.dropWhile_eq_nil_iff.mpr blank
    rw [trim, gone]
    rfl

/-! ### What trimming leaves -/

/-- A text is trimmed when neither its first nor its last character is blank. -/
theorem trim_eq_self_iff (text : List Char) :
    trim text = text ↔
      (∀ character ∈ text.head?, isBlank character = false) ∧
        ∀ character ∈ text.getLast?, isBlank character = false := by
  constructor
  · intro same
    have startSame : trimStart text = text := by
      refine (List.dropWhile_suffix isBlank).eq_of_length_le ?_
      calc text.length = (trim text).length := by rw [same]
        _ ≤ (trimStart text).length := (List.rdropWhile_prefix isBlank _).length_le
    constructor
    · intro character head
      have stop := List.head?_dropWhile_not isBlank text
      rw [show text.dropWhile isBlank = text from startSame, Option.mem_def.mp head] at stop
      simpa using stop
    · intro character last
      rw [trim, startSame, trimEnd_eq_rdropWhile, List.rdropWhile_eq_self_iff] at same
      have nonempty : text ≠ [] := by
        rintro rfl
        cases last
      rw [List.getLast?_eq_some_getLast nonempty, Option.mem_some_iff] at last
      rw [← last]
      simpa using same nonempty
  · rintro ⟨head, last⟩
    have startSame : trimStart text = text := by
      cases text with
      | nil => rfl
      | cons first rest =>
        have nonblank := head first rfl
        rw [trimStart, List.dropWhile_cons_of_neg (by simp [nonblank])]
    rw [trim, startSame, trimEnd_eq_rdropWhile, List.rdropWhile_eq_self_iff]
    intro nonempty
    have nonblank := last _ (List.getLast?_eq_some_getLast nonempty)
    simp [nonblank]

/-- A text is trimmed if it has no blanks at all. -/
theorem trim_of_nonblank {text : List Char}
    (nonblank : ∀ character ∈ text, isBlank character = false) : trim text = text :=
  (trim_eq_self_iff text).mpr
    ⟨fun character first => nonblank character (List.mem_of_mem_head? first),
    fun character last => nonblank character (List.mem_of_mem_getLast? last)⟩

theorem trim_trim (text : List Char) : trim (trim text) = trim text := by
  refine (trim_eq_self_iff _).mpr ⟨fun character head => ?_, fun character last => ?_⟩
  · have stop := List.head?_dropWhile_not isBlank text
    have nonempty : trim text ≠ [] := by
      intro empty
      rw [empty] at head
      cases head
    -- The trimmed text starts as the text without its leading blanks does.
    obtain ⟨rest, split⟩ := List.rdropWhile_prefix isBlank (trimStart text)
    have sameHead : (trimStart text).head? = (trim text).head? := by
      rw [← split]
      exact List.head?_append_of_ne_nil _ nonempty
    rw [show text.dropWhile isBlank = trimStart text from rfl, sameHead,
      Option.mem_def.mp head] at stop
    simpa using stop
  · have nonempty : trim text ≠ [] := by
      intro empty
      rw [empty] at last
      cases last
    have stop := List.rdropWhile_last_not isBlank (trimStart text) nonempty
    have same : (trim text).getLast nonempty = character := by
      rw [List.getLast?_eq_some_getLast nonempty, Option.mem_some_iff] at last
      exact last
    rw [← same]
    exact Bool.eq_false_iff.mpr stop

/-- A trimmed text between blanks is what trimming leaves. -/
theorem trim_append_append {before text after : List Char} (beforeBlank : AllBlank before)
    (afterBlank : AllBlank after) (trimmed : trim text = text) :
    trim (before ++ text ++ after) = text := by
  have dropStart : trimStart (before ++ text ++ after) = trimStart (text ++ after) := by
    rw [List.append_assoc]
    exact List.dropWhile_append_of_pos beforeBlank
  have dropEnd : trimEnd (text ++ after) = trimEnd text := by
    rw [trimEnd, List.reverse_append, List.dropWhile_append_of_pos]
    · rfl
    · exact fun character member => afterBlank character (List.mem_reverse.mp member)
  cases text with
  | nil =>
    rw [trim_eq_nil_iff, List.append_nil]
    exact beforeBlank.append afterBlank
  | cons first rest =>
    have nonblank := ((trim_eq_self_iff _).mp trimmed).1 first rfl
    have startSame : trimStart (first :: rest ++ after) = first :: rest ++ after := by
      rw [trimStart, List.cons_append, List.dropWhile_cons_of_neg (by simp [nonblank])]
    have wordSame : trimStart (first :: rest) = first :: rest := by
      rw [trimStart, List.dropWhile_cons_of_neg (by simp [nonblank])]
    rw [trim, dropStart, startSame, dropEnd]
    rw [trim, wordSame] at trimmed
    exact trimmed

theorem trim_append_left {before : List Char} (beforeBlank : AllBlank before) (text : List Char) :
    trim (before ++ text) = trim text := by
  obtain ⟨lead, trail, split, leadBlank, trailBlank⟩ := exists_eq_trim text
  conv_lhs => rw [split]
  rw [← List.append_assoc, ← List.append_assoc]
  exact trim_append_append (beforeBlank.append leadBlank) trailBlank (trim_trim text)

theorem trim_append_right (text : List Char) {after : List Char} (afterBlank : AllBlank after) :
    trim (text ++ after) = trim text := by
  obtain ⟨lead, trail, split, leadBlank, trailBlank⟩ := exists_eq_trim text
  conv_lhs => rw [split]
  rw [List.append_assoc _ trail after]
  exact trim_append_append leadBlank (trailBlank.append afterBlank) (trim_trim text)

/-- Two trimmed texts with any text between them are trimmed together. -/
theorem trim_append_of_trimmed {first second : List Char} (firstTrimmed : trim first = first)
    (secondTrimmed : trim second = second) (firstNonempty : first ≠ [])
    (secondNonempty : second ≠ []) (between : List Char) :
    trim (first ++ between ++ second) = first ++ between ++ second := by
  refine (trim_eq_self_iff _).mpr ⟨fun character head => ?_, fun character last => ?_⟩
  · rw [List.append_assoc, List.head?_append_of_ne_nil _ firstNonempty] at head
    exact ((trim_eq_self_iff first).mp firstTrimmed).1 character head
  · rw [List.getLast?_append_of_ne_nil _ secondNonempty] at last
    exact ((trim_eq_self_iff second).mp secondTrimmed).2 character last

/-- A text between two characters that are not blank is trimmed. -/
theorem trim_enclosed {first last : Char} (firstNonblank : isBlank first = false)
    (lastNonblank : isBlank last = false) (text : List Char) :
    trim (first :: text ++ [last]) = first :: text ++ [last] := by
  refine (trim_eq_self_iff _).mpr ⟨fun character head => ?_, fun character closing => ?_⟩
  · cases head
    exact firstNonblank
  · rw [List.getLast?_concat] at closing
    cases closing
    exact lastNonblank

end PlaylistRules.Text
