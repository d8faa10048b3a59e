/-
This file proves that JSON text is read back as the value it was written for. A
relation says which texts spell a value, with runs of blanks between its parts. The
reader takes every spelling of a value from the front of a text, and the text over
several lines is a spelling as soon as the numerals in the value are standard.
-/

import Mathlib.Data.List.DropRight
import PlaylistRules.Json.Decoding
import PlaylistRules.Json.Printer
import PlaylistRules.Proofs.Digits

namespace PlaylistRules.Json

open Number Text

/-! ### Blanks -/

/-- Whether a character may stand between the parts of a JSON text. -/
def isGap (character : Char) : Bool :=
  character == ' ' || character == '\t' || character == '\n' || character == '\r'

/-- A run of blanks. -/
def IsGap (text : List Char) : Prop :=
  ∀ character ∈ text, isGap character = true

theorem isGap_nil : IsGap [] :=
  fun _ member => nomatch member

theorem isGap_space : IsGap [' '] := by
  intro character member
  rw [List.mem_singleton.mp member]
  rfl

theorem isGap_newLine (level : Nat) : IsGap (newLine level) := by
  intro character member
  rcases List.mem_cons.mp member with rfl | inSpaces
  · rfl
  · rw [List.eq_of_mem_replicate inSpaces]
    rfl

theorem skipBlanks_gap {gap : List Char} (blank : IsGap gap) (text : List Char) :
    skipBlanks (gap ++ text) = skipBlanks text :=
  List.dropWhile_append_of_pos blank

theorem skipBlanks_cons {first : Char} (solid : isGap first = false) (text : List Char) :
    skipBlanks (first :: text) = first :: text :=
  List.dropWhile_cons_of_neg (p := isGap) (by rw [solid]; exact Bool.false_ne_true)

@[simp]
theorem skipBlanks_skipBlanks (text : List Char) :
    skipBlanks (skipBlanks text) = skipBlanks text :=
  List.dropWhile_idempotent isGap text

theorem readValue_skipBlanks (steps : Nat) (text : List Char) :
    readValue steps (skipBlanks text) = readValue steps text := by
  cases steps with
  | zero => rfl
  | succ steps => rw [readValue, readValue, skipBlanks_skipBlanks]

theorem readItems_skipBlanks (steps : Nat) (text : List Char) :
    readItems steps (skipBlanks text) = readItems steps text := by
  cases steps with
  | zero => rfl
  | succ steps => rw [readItems, readItems, readValue_skipBlanks]

theorem readMembers_skipBlanks (steps : Nat) (text : List Char) :
    readMembers steps (skipBlanks text) = readMembers steps text := by
  cases steps with
  | zero => rfl
  | succ steps => rw [readMembers, readMembers, skipBlanks_skipBlanks]

/-! ### Quoted texts -/

/-- The characters with a short escape besides quotes and backslashes. -/
def shortControls : List Char := ['\x08', '\t', '\n', '\x0c', '\r']

/-- The piece that the escaped form of a character is read as. -/
def pieceOf (character : Char) : Piece :=
  if character.toNat < 32 ∧ character ∉ shortControls then .unit character.toNat
  else .char character

theorem fourHexDigits?_control : ∀ code < 32,
    fourHexDigits? (hexDigit (code / 16 / 16 / 16 % 16)) (hexDigit (code / 16 / 16 % 16))
      (hexDigit (code / 16 % 16)) (hexDigit (code % 16)) = some code := by
  decide

theorem readPieces_control {code : Nat} (small : code < 32) (rest : List Char) :
    readPieces ('\\' :: 'u' :: hexDigits 4 code ++ rest) =
      (readPieces rest).map fun (pieces, after) => (.unit code :: pieces, after) := by
  simp only [hexDigits, List.nil_append, List.cons_append, readPieces,
    fourHexDigits?_control code small]
  cases readPieces rest <;> rfl

theorem readPieces_plain {character : Char} (large : 32 ≤ character.toNat)
    (noQuote : character ≠ '"') (noBackslash : character ≠ '\\') (rest : List Char) :
    readPieces (character :: rest) =
      (readPieces rest).map fun (pieces, after) => (.char character :: pieces, after) := by
  rw [readPieces]
  · simp only [Nat.not_lt.mpr large, noBackslash]
    cases readPieces rest <;> rfl
  all_goals simp_all

/-- A character is read back from its escaped form as one piece. -/
theorem readPieces_escapedChar (character : Char) (rest : List Char) :
    readPieces (escapedChar character ++ rest) =
      (readPieces rest).map fun (pieces, after) => (pieceOf character :: pieces, after) := by
  by_cases short : character ∈ '"' :: '\\' :: shortControls
  · simp only [shortControls, List.mem_cons, List.not_mem_nil, or_false] at short
    rcases short with rfl | rfl | rfl | rfl | rfl | rfl | rfl <;>
      (cases readAfter : readPieces rest <;>
        simp [escapedChar, readPieces, shortEscape?, pieceOf, shortControls, readAfter])
  · have long := short
    simp only [shortControls, List.mem_cons, List.not_mem_nil, or_false, not_or] at long
    obtain ⟨noQuote, noBackslash, noBackspace, noTab, noFeed, noPage, noReturn⟩ := long
    have noShort : character ∉ shortControls := fun member =>
      short (List.mem_cons_of_mem _ (List.mem_cons_of_mem _ member))
    rw [escapedChar, if_neg noQuote, if_neg noBackslash, if_neg noBackspace, if_neg noTab,
      if_neg noFeed, if_neg noPage, if_neg noReturn, pieceOf]
    by_cases small : character.toNat < 32
    · rw [if_pos small, if_pos ⟨small, noShort⟩, readPieces_control small]
    · rw [if_neg small, if_neg fun both => small both.1, List.singleton_append,
        readPieces_plain (Nat.not_lt.mp small) noQuote noBackslash]

theorem joinPieces_control {code : Nat} (small : code < 32) (pieces : List Piece) :
    joinPieces (.unit code :: pieces) = (joinPieces pieces).map (Char.ofNat code :: ·) := by
  rcases pieces with _ | ⟨_ | low, pieces⟩
  all_goals
    simp only [joinPieces, Bool.and_eq_true, decide_eq_true_eq]
    rw [if_neg (by omega)]
  rw [if_neg (by omega)]

theorem joinPieces_map_pieceOf (characters : List Char) :
    joinPieces (characters.map pieceOf) = some characters := by
  induction characters with
  | nil => rfl
  | cons character characters inductionHypothesis =>
    rw [List.map_cons, pieceOf]
    split
    case isTrue control =>
      rw [joinPieces_control control.1, inductionHypothesis, Option.map_some,
        Char.ofNat_toNat]
    case isFalse => rw [joinPieces, inductionHypothesis, Option.map_some]

theorem readPieces_escaped (characters rest : List Char) :
    readPieces (characters.flatMap escapedChar ++ '"' :: rest) =
      some (characters.map pieceOf, rest) := by
  induction characters with
  | nil => rfl
  | cons character characters inductionHypothesis =>
    rw [List.flatMap_cons, List.append_assoc, readPieces_escapedChar, inductionHypothesis]
    rfl

/-- A quoted text is read back after its opening quote. -/
theorem readQuoted_escaped (text : String) (rest : List Char) :
    readQuoted (text.toList.flatMap escapedChar ++ '"' :: rest) = some (some text, rest) := by
  rw [readQuoted, readPieces_escaped]
  simp only [Option.bind_eq_bind, Option.bind_some, joinPieces_map_pieceOf, Option.map_some,
    String.ofList_toList]
  rfl

/-! ### Numerals -/

/-- Digits without needless zeros in front, and only digits after the point. -/
structure IsStandard (numeral : Numeral) : Prop where
  whole : isNatural numeral.whole = true
  minimal : numeral.whole.length = 1 ∨ numeral.whole.head? ≠ some '0'
  fraction : ∀ character ∈ numeral.fraction, character.isDigit = true

/-- A text that does not go on with a numeral in front of it. -/
def EndsNumeral (rest : List Char) : Prop :=
  ∀ character ∈ rest.head?,
    character.isDigit = false ∧ character ≠ '.' ∧ character ≠ 'e' ∧ character ≠ 'E'

theorem head?_naturalText {number : Nat} (long : 1 < (naturalText number).length) :
    (naturalText number).head? ≠ some '0' := by
  intro zeroFirst
  obtain ⟨rest, split⟩ := List.head?_eq_some_iff.mp zeroFirst
  rw [split, List.length_cons] at long
  have each : ∀ character ∈ rest, character.isDigit = true := fun character member => by
    have inside : character ∈ naturalText number := split ▸ List.mem_cons_of_mem _ member
    exact isDigit_of_mem_naturalText inside
  have bound : number < 10 ^ rest.length := calc
    number = naturalOfDigits (['0'] ++ rest) := by
      rw [List.singleton_append, ← split, naturalOfDigits_naturalText]
    _ = naturalOfDigits rest := by
      rw [naturalOfDigits_append]
      exact (congrArg (· + _) (Nat.zero_mul _)).trans (Nat.zero_add _)
    _ < 10 ^ rest.length := naturalOfDigits_lt each
  have short := (length_naturalText_le_iff (by omega)).mpr bound
  rw [split, List.length_cons] at short
  omega

theorem isStandard_ofInt (number : Int) : IsStandard (Numeral.ofInt number) where
  whole := isNatural_naturalText number.natAbs
  minimal := by
    by_cases long : 1 < (naturalText number.natAbs).length
    · exact .inr (head?_naturalText long)
    · have some : 0 < (naturalText number.natAbs).length := Nat.length_toDigits_pos
      exact .inl (show (naturalText number.natAbs).length = 1 by omega)
  fraction := by
    intro character member
    cases member

theorem readDigits_append {digits : List Char} (natural : isNatural digits = true)
    {rest : List Char} (stop : ∀ character ∈ rest.head?, character.isDigit = false) :
    readDigits (digits ++ rest) = some (digits, rest) := by
  obtain ⟨nonempty, each⟩ := (isNatural_iff digits).mp natural
  have none : rest.takeWhile Char.isDigit = [] ∧ rest.dropWhile Char.isDigit = rest := by
    cases rest with
    | nil => exact ⟨rfl, rfl⟩
    | cons character rest => simp [stop character rfl]
  rw [readDigits, List.takeWhile_append_of_pos each, List.dropWhile_append_of_pos each, none.1,
    none.2, List.append_nil, if_neg (by simpa using nonempty)]

theorem readFraction_append {fraction : List Char}
    (each : ∀ character ∈ fraction, character.isDigit = true) {rest : List Char}
    (stop : ∀ character ∈ rest.head?, character.isDigit = false ∧ character ≠ '.') :
    readFraction ((if fraction.isEmpty then [] else '.' :: fraction) ++ rest) =
      some (fraction, rest) := by
  cases fraction with
  | nil =>
    cases rest with
    | nil => rfl
    | cons character rest =>
      refine readFraction.eq_2 _ fun other same => ?_
      exact (stop character rfl).2 (List.cons.inj same).1
  | cons first fraction =>
    exact readDigits_append ((isNatural_iff _).mpr ⟨List.cons_ne_nil _ _, each⟩)
      fun character member => (stop character member).1

/-- How an exponent is written. -/
def exponentPart : Option Int → List Char
  | none => []
  | some exponent => Numeral.exponentText exponent

theorem readExponentDigits_append (negative : Bool) (size : Nat) {rest : List Char}
    (stop : EndsNumeral rest) :
    readExponentDigits negative (naturalText size ++ rest) =
      some (some (if negative then -(size : Int) else size), rest) := by
  rw [readExponentDigits, readDigits_append (isNatural_naturalText size)
    fun character member => (stop character member).1]
  simp only [Option.bind_eq_bind, Option.bind_some, naturalOfDigits_naturalText]
  rfl

theorem readExponent_append (exponent : Option Int) {rest : List Char} (stop : EndsNumeral rest) :
    readExponent (exponentPart exponent ++ rest) = some (exponent, rest) := by
  cases exponent with
  | none =>
    cases rest with
    | nil => rfl
    | cons character rest =>
      obtain ⟨_, _, notSmall, notLarge⟩ := stop character rfl
      simp [exponentPart, readExponent, notSmall, notLarge]
  | some exponent =>
    rw [exponentPart, Numeral.exponentText]
    split
    case isTrue negative =>
      have value : -(exponent.natAbs : Int) = exponent := by omega
      have read := readExponentDigits_append true exponent.natAbs stop
      rw [if_pos rfl, value] at read
      exact read
    case isFalse positive =>
      have value : (exponent.natAbs : Int) = exponent := by omega
      have read := readExponentDigits_append false exponent.natAbs stop
      rw [if_neg Bool.false_ne_true, value] at read
      exact read

/-- What follows the digits of a numeral ends them. -/
theorem exponentPart_stop (exponent : Option Int) {rest : List Char} (stop : EndsNumeral rest) :
    ∀ character ∈ (exponentPart exponent ++ rest).head?,
      character.isDigit = false ∧ character ≠ '.' := by
  intro character member
  cases exponent with
  | none => exact ⟨(stop character member).1, (stop character member).2.1⟩
  | some exponent =>
    cases member
    exact ⟨rfl, by decide⟩

theorem fractionPart_stop (fraction : List Char) {rest : List Char}
    (stop : ∀ character ∈ rest.head?, character.isDigit = false ∧ character ≠ '.') :
    ∀ character ∈ ((if fraction.isEmpty then [] else '.' :: fraction) ++ rest).head?,
      character.isDigit = false := by
  intro character member
  cases fraction with
  | nil => exact (stop character member).1
  | cons first fraction =>
    cases member
    rfl

theorem readUnsigned_append {numeral : Numeral} (standard : IsStandard numeral) {rest : List Char}
    (stop : EndsNumeral rest) :
    readUnsigned numeral.negative (numeral.whole ++
      ((if numeral.fraction.isEmpty then [] else '.' :: numeral.fraction) ++
        (exponentPart numeral.exponent ++ rest))) = some (numeral, rest) := by
  have ends := exponentPart_stop numeral.exponent stop
  have minimal : ¬((1 < numeral.whole.length && numeral.whole.head? == some '0') = true) := by
    rcases standard.minimal with short | nonzero
    · simp [short]
    · simp [nonzero]
  rw [readUnsigned, readDigits_append standard.whole (fractionPart_stop numeral.fraction ends)]
  simp only [Option.bind_eq_bind, Option.bind_some, if_neg minimal,
    readFraction_append standard.fraction ends, readExponent_append numeral.exponent stop]
  rfl

/-- A standard numeral is read back from its written form. -/
theorem readNumeral_text {numeral : Numeral} (standard : IsStandard numeral) {rest : List Char}
    (stop : EndsNumeral rest) : readNumeral (numeral.text ++ rest) = some (numeral, rest) := by
  have read := readUnsigned_append standard stop
  have shape : numeral.text ++ rest = (if numeral.negative then ['-'] else []) ++
      (numeral.whole ++ ((if numeral.fraction.isEmpty then [] else '.' :: numeral.fraction) ++
        (exponentPart numeral.exponent ++ rest))) := by
    simp only [Numeral.text, List.append_assoc]
    rfl
  rw [shape]
  cases sign : numeral.negative with
  | true =>
    rw [sign] at read
    exact read
  | false =>
    rw [sign] at read
    obtain ⟨nonempty, each⟩ := (isNatural_iff _).mp standard.whole
    obtain ⟨first, others, split⟩ := List.exists_cons_of_ne_nil nonempty
    have digit := each first (by rw [split]; exact List.mem_cons_self)
    rw [if_neg Bool.false_ne_true, List.nil_append, ← read, split]
    refine readNumeral.eq_2 _ fun other same => ?_
    rw [(List.cons.inj same).1] at digit
    exact absurd digit (by decide)

/-! ### Spellings -/

mutual

/-- The texts that spell a value, without blanks around it. -/
inductive Spells : Json → List Char → Prop
  | null : Spells .null ['n', 'u', 'l', 'l']
  | yes : Spells (.bool true) ['t', 'r', 'u', 'e']
  | no : Spells (.bool false) ['f', 'a', 'l', 's', 'e']
  | number {numeral : Numeral} : IsStandard numeral → Spells (.number numeral) numeral.text
  | string (text : String) : Spells (.string text) (quotedText text)
  | emptyArray : Spells (.array []) ['[', ']']
  | array {items : List Json} {text : List Char} :
    SpellsItems items text → Spells (.array items) ('[' :: text ++ [']'])
  | emptyObject : Spells (.object []) ['\x7b', '\x7d']
  | object {members : List (String × Json)} {text : List Char} :
    SpellsMembers members text → Spells (.object members) ('\x7b' :: text ++ ['\x7d'])

/-- The texts of the items between the brackets of an array. -/
inductive SpellsItems : List Json → List Char → Prop
  | last {before after text : List Char} {item : Json} :
    IsGap before → Spells item text → IsGap after →
      SpellsItems [item] (before ++ (text ++ after))
  | next {before text others : List Char} {item : Json} {items : List Json} :
    IsGap before → Spells item text → SpellsItems items others →
      SpellsItems (item :: items) (before ++ (text ++ ',' :: others))

/-- The texts of the members between the braces of an object. -/
inductive SpellsMembers : List (String × Json) → List Char → Prop
  | last {before between after text : List Char} {name : String} {value : Json} :
    IsGap before → IsGap between → Spells value text → IsGap after →
      SpellsMembers [(name, value)]
        (before ++ (quotedText name ++ ':' :: (between ++ (text ++ after))))
  | next {before between text others : List Char} {name : String} {value : Json}
      {members : List (String × Json)} :
    IsGap before → IsGap between → Spells value text → SpellsMembers members others →
      SpellsMembers ((name, value) :: members)
        (before ++ (quotedText name ++ ':' :: (between ++ (text ++ ',' :: others))))

end

/-! ### First characters -/

/-- Whether a character may start a numeral. -/
def startsNumeral (character : Char) : Bool :=
  character.isDigit || character == '-'

theorem startsNumeral_bounds {character : Char} (starts : startsNumeral character = true) :
    45 ≤ character.toNat ∧ character.toNat ≤ 57 := by
  rcases Bool.or_eq_true_iff.mp starts with digit | minus
  · have bounds := (isDigit_iff character).mp digit
    omega
  · rw [eq_of_beq minus]
    decide

theorem IsStandard.exists_cons {numeral : Numeral} (standard : IsStandard numeral) :
    ∃ first rest, numeral.text = first :: rest ∧ startsNumeral first = true := by
  obtain ⟨nonempty, each⟩ := (isNatural_iff _).mp standard.whole
  obtain ⟨first, others, split⟩ := List.exists_cons_of_ne_nil nonempty
  have digit := each first (by rw [split]; exact List.mem_cons_self)
  rw [Numeral.text, split]
  cases numeral.negative with
  | true => exact ⟨'-', _, rfl, rfl⟩
  | false => exact ⟨first, _, rfl, by rw [startsNumeral, digit, Bool.true_or]⟩

theorem isGap_of_startsNumeral {character : Char} (starts : startsNumeral character = true) :
    isGap character = false := by
  have bounds := startsNumeral_bounds starts
  refine Bool.eq_false_iff.mpr fun gap => ?_
  simp only [isGap, Bool.or_eq_true, beq_iff_eq, or_assoc] at gap
  rcases gap with rfl | rfl | rfl | rfl <;> revert bounds <;> decide

/-- A spelling starts with a character that is no blank and closes no array. -/
theorem Spells.exists_cons {value : Json} {text : List Char} (spells : Spells value text) :
    ∃ first rest, text = first :: rest ∧ isGap first = false ∧ first ≠ ']' := by
  cases spells with
  | number standard =>
    obtain ⟨first, rest, split, starts⟩ := standard.exists_cons
    refine ⟨first, rest, split, isGap_of_startsNumeral starts, ?_⟩
    rintro rfl
    exact absurd starts (by decide)
  | string text => exact ⟨'"', _, rfl, rfl, by decide⟩
  | array | object => exact ⟨_, _, rfl, rfl, by decide⟩
  | _ => exact ⟨_, _, rfl, rfl, by decide⟩

theorem readValue_startsNumeral (steps : Nat) {first : Char} (starts : startsNumeral first = true)
    (rest : List Char) :
    readValue (steps + 1) (first :: rest) =
      (readNumeral (first :: rest)).map fun (numeral, rest) => (.number numeral, rest) := by
  have bounds := startsNumeral_bounds starts
  rw [readValue, skipBlanks_cons (isGap_of_startsNumeral starts)]
  split
  case h_7 => rfl
  all_goals
    rename_i same
    rw [(List.cons.inj same).1] at bounds
    exact absurd bounds (by decide)

/-! ### Reading -/

theorem endsNumeral_gap {gap : List Char} (blank : IsGap gap) {rest : List Char}
    (stop : EndsNumeral rest) : EndsNumeral (gap ++ rest) := by
  cases gap with
  | nil => exact stop
  | cons first gap =>
    rintro character ⟨⟩
    have first := blank first List.mem_cons_self
    simp only [isGap, Bool.or_eq_true, beq_iff_eq, or_assoc] at first
    rcases first with rfl | rfl | rfl | rfl <;> decide

theorem endsNumeral_comma (rest : List Char) : EndsNumeral (',' :: rest) := by
  rintro character ⟨⟩
  decide

theorem endsNumeral_bracket (rest : List Char) : EndsNumeral (']' :: rest) := by
  rintro character ⟨⟩
  decide

theorem endsNumeral_brace (rest : List Char) : EndsNumeral ('\x7d' :: rest) := by
  rintro character ⟨⟩
  decide

/-- The items of an array do not start with a bracket that closes it. -/
theorem SpellsItems.exists_skipBlanks {items : List Json} {text : List Char}
    (spells : SpellsItems items text) (rest : List Char) :
    ∃ first others, skipBlanks (text ++ rest) = first :: others ∧ first ≠ ']' := by
  cases spells with
  | last before spells _ | next before spells _ =>
    obtain ⟨first, others, rfl, solid, noClose⟩ := spells.exists_cons
    rw [List.append_assoc, skipBlanks_gap before, List.cons_append, List.cons_append,
      skipBlanks_cons solid]
    exact ⟨first, _, rfl, noClose⟩

/-- The members of an object start with a quote. -/
theorem SpellsMembers.exists_skipBlanks {members : List (String × Json)} {text : List Char}
    (spells : SpellsMembers members text) (rest : List Char) :
    ∃ others, skipBlanks (text ++ rest) = '"' :: others := by
  cases spells with
  | last before _ _ _ | next before _ _ _ =>
    rw [List.append_assoc, skipBlanks_gap before]
    exact ⟨_, skipBlanks_cons rfl _⟩

theorem readValue_array (steps : Nat) {items : List Json} {text : List Char}
    (spells : SpellsItems items text) (rest : List Char) :
    readValue (steps + 1) ('[' :: (text ++ rest)) =
      (readItems steps (text ++ rest)).map fun (items, rest) => (.array items, rest) := by
  obtain ⟨first, others, shape, noClose⟩ := spells.exists_skipBlanks rest
  rw [readValue, skipBlanks_cons rfl, ← readItems_skipBlanks steps (text ++ rest)]
  simp only [shape]
  split
  case h_1 same => exact absurd (List.cons.inj same).1 noClose
  case h_2 => rfl

theorem readValue_object (steps : Nat) {members : List (String × Json)} {text : List Char}
    (spells : SpellsMembers members text) (rest : List Char) :
    readValue (steps + 1) ('\x7b' :: (text ++ rest)) =
      (readMembers steps (text ++ rest)).map fun (members, rest) => (ofRead members, rest) := by
  obtain ⟨others, shape⟩ := spells.exists_skipBlanks rest
  rw [readValue, skipBlanks_cons rfl, ← readMembers_skipBlanks steps (text ++ rest)]
  simp only [shape]
  rfl

/-- The object of members whose names all have characters. -/
theorem ofRead_named (members : List (String × Json)) :
    ofRead (members.map fun member => (some member.1, member.2)) = .object members := by
  have named : named? (members.map fun member => (some member.1, member.2)) = some members := by
    induction members with
    | nil => rfl
    | cons member members inductionHypothesis =>
      rw [List.map_cons, named?, inductionHypothesis]
      rfl
  rw [ofRead, named]

theorem readValue_gap {gap : List Char} (blank : IsGap gap) (steps : Nat) (text : List Char) :
    readValue steps (gap ++ text) = readValue steps text := by
  rw [← readValue_skipBlanks, skipBlanks_gap blank, readValue_skipBlanks]

theorem readMembers_member {steps : Nat} {before between text rest : List Char} {name : String}
    {value : Json} (blankBefore : IsGap before) (blankBetween : IsGap between)
    (read : readValue steps (text ++ rest) = some (value, rest)) :
    readMembers (steps + 1) (before ++ (quotedText name ++ ':' :: (between ++ (text ++ rest)))) =
      match skipBlanks rest with
      | '\x7d' :: rest => some ([(some name, value)], rest)
      | ',' :: rest =>
        (readMembers steps rest).bind fun (members, rest) =>
          some ((some name, value) :: members, rest)
      | _ => none := by
  rw [readMembers, skipBlanks_gap blankBefore, quotedText, List.cons_append, List.cons_append,
    skipBlanks_cons rfl, List.append_assoc, List.singleton_append]
  simp only [readQuoted_escaped, Option.bind_eq_bind, Option.bind_some,
    skipBlanks_cons (show isGap ':' = false from rfl), readValue_gap blankBetween, read]
  -- Both sides are one match, by names of its own that may differ.
  try rfl

mutual

/-- A value is read from any of its spellings, whatever follows that is not a part of
the value. -/
theorem readValue_of_spells {value : Json} {text : List Char} (spells : Spells value text)
    {steps : Nat} (enough : text.length < steps) {rest : List Char} (stop : EndsNumeral rest) :
    readValue steps (text ++ rest) = some (value, rest) := by
  obtain ⟨steps, rfl⟩ := Nat.exists_eq_succ_of_ne_zero (Nat.ne_of_gt (Nat.zero_lt_of_lt enough))
  cases spells with
  | null => rfl
  | yes => rfl
  | no => rfl
  | number standard =>
    obtain ⟨first, others, shape, starts⟩ := standard.exists_cons
    have read := readNumeral_text standard stop
    rw [shape] at read ⊢
    rw [List.cons_append] at read ⊢
    rw [readValue_startsNumeral steps starts, read]
    rfl
  | string text =>
    rw [quotedText, List.cons_append, List.cons_append, List.append_assoc, readValue,
      skipBlanks_cons rfl]
    have read := readQuoted_escaped text rest
    exact congrArg (Option.map fun (text, rest) => (ofQuoted text, rest)) read
  | emptyArray => rfl
  | array spells =>
    rw [List.cons_append, List.length_cons, List.length_append, List.length_singleton] at enough
    rw [List.cons_append, List.cons_append, List.append_assoc, readValue_array steps spells,
      List.singleton_append, readItems_of_spells spells (by omega)]
    rfl
  | emptyObject => rfl
  | object spells =>
    rw [List.cons_append, List.length_cons, List.length_append, List.length_singleton] at enough
    rw [List.cons_append, List.cons_append, List.append_assoc, readValue_object steps spells,
      List.singleton_append, readMembers_of_spells spells (by omega)]
    exact congrArg (fun value => some (value, rest)) (ofRead_named _)

theorem readItems_of_spells {items : List Json} {text : List Char} (spells : SpellsItems items text)
    {steps : Nat} (enough : text.length + 1 < steps) (rest : List Char) :
    readItems steps (text ++ ']' :: rest) = some (items, rest) := by
  obtain ⟨steps, rfl⟩ := Nat.exists_eq_succ_of_ne_zero (Nat.ne_of_gt (Nat.zero_lt_of_lt enough))
  cases spells with
  | last before spells after =>
    simp only [List.length_append] at enough
    rw [List.append_assoc, ← readItems_skipBlanks, skipBlanks_gap before, readItems_skipBlanks,
      List.append_assoc, readItems,
      readValue_of_spells spells (by omega) (endsNumeral_gap after (endsNumeral_bracket rest))]
    simp only [Option.bind_eq_bind, Option.bind_some, skipBlanks_gap after,
      skipBlanks_cons (show isGap ']' = false from rfl)]
  | next before spells others =>
    simp only [List.length_append, List.length_cons] at enough
    rw [List.append_assoc, ← readItems_skipBlanks, skipBlanks_gap before, readItems_skipBlanks,
      List.append_assoc, readItems, List.cons_append,
      readValue_of_spells spells (by omega) (endsNumeral_comma _)]
    simp only [Option.bind_eq_bind, Option.bind_some,
      skipBlanks_cons (show isGap ',' = false from rfl),
      readItems_of_spells others (show _ < steps by omega)]

theorem readMembers_of_spells {members : List (String × Json)} {text : List Char}
    (spells : SpellsMembers members text) {steps : Nat} (enough : text.length + 1 < steps)
    (rest : List Char) :
    readMembers steps (text ++ '\x7d' :: rest) =
      some (members.map fun member => (some member.1, member.2), rest) := by
  obtain ⟨steps, rfl⟩ := Nat.exists_eq_succ_of_ne_zero (Nat.ne_of_gt (Nat.zero_lt_of_lt enough))
  cases spells with
  | last before between spells after =>
    simp only [List.length_append, List.length_cons] at enough
    simp only [List.append_assoc, List.cons_append]
    rw [readMembers_member before between
      (readValue_of_spells spells (by omega) (endsNumeral_gap after (endsNumeral_brace rest))),
      skipBlanks_gap after, skipBlanks_cons rfl]
    rfl
  | next before between spells others =>
    simp only [List.length_append, List.length_cons] at enough
    simp only [List.append_assoc, List.cons_append]
    rw [readMembers_member before between
      (readValue_of_spells spells (by omega) (endsNumeral_comma _)), skipBlanks_cons rfl]
    simp only [readMembers_of_spells others (show _ < steps by omega), Option.bind_some,
      List.map_cons]

end

/-- A text that spells a value holds that value, with blanks after it too. -/
theorem ofCharacters?_of_spells {value : Json} {text gap : List Char} (spells : Spells value text)
    (blank : IsGap gap) : ofCharacters? (text ++ gap) = some value := by
  have stop : EndsNumeral (gap ++ []) := endsNumeral_gap blank fun _ member => nomatch member
  rw [List.append_nil] at stop
  have nothing : skipBlanks gap = [] := by simpa [skipBlanks] using skipBlanks_gap blank []
  rw [ofCharacters?, readValue_of_spells spells (by rw [List.length_append]; omega) stop]
  simp only [Option.bind_eq_bind, Option.bind_some, nothing, List.isEmpty_nil, if_pos]

/-! ### Writing -/

mutual

/-- Whether every numeral in a value is standard and no text is broken. -/
def IsFaithful : Json → Prop
  | .number numeral => IsStandard numeral
  | .brokenString | .brokenObject => False
  | .array items => AreFaithful items
  | .object members => HoldFaithful members
  | _ => True

def AreFaithful : List Json → Prop
  | [] => True
  | item :: rest => IsFaithful item ∧ AreFaithful rest

def HoldFaithful : List (String × Json) → Prop
  | [] => True
  | (_, value) :: rest => IsFaithful value ∧ HoldFaithful rest

end

theorem areFaithful_iff (items : List Json) :
    AreFaithful items ↔ ∀ item ∈ items, IsFaithful item := by
  induction items with
  | nil => simp [AreFaithful]
  | cons item items inductionHypothesis => simp [AreFaithful, inductionHypothesis]

mutual

/-- A value written over several lines is spelled. -/
theorem spells_indentedText (level : Nat) : (value : Json) → IsFaithful value →
    Spells value (indentedText level value)
  | .null, _ => .null
  | .bool true, _ => .yes
  | .bool false, _ => .no
  | .number _, faithful => .number faithful
  | .string text, _ => .string text
  | .brokenString, faithful | .brokenObject, faithful => faithful.elim
  | .array [], _ => .emptyArray
  | .array (item :: rest), faithful => by
    rw [indentedText]
    exact .array (spellsItems_indentedItems (level + 1) (item :: rest) (List.cons_ne_nil _ _)
      faithful (isGap_newLine level))
  | .object [], _ => .emptyObject
  | .object (member :: rest), faithful => by
    rw [indentedText]
    exact .object (spellsMembers_indentedMembers (level + 1) (member :: rest)
      (List.cons_ne_nil _ _) faithful (isGap_newLine level))

theorem spellsItems_indentedItems (level : Nat) : (items : List Json) → items ≠ [] →
    AreFaithful items → ∀ {after : List Char}, IsGap after →
    SpellsItems items (indentedItems level items ++ after)
  | [], nonempty, _, _, _ => absurd rfl nonempty
  | [item], _, faithful, after, blank => by
    rw [indentedItems, List.append_assoc]
    exact .last (isGap_newLine level) (spells_indentedText level item faithful.1) blank
  | item :: second :: rest, _, faithful, after, blank => by
    rw [indentedItems, List.append_assoc, List.append_assoc, List.cons_append]
    · exact .next (isGap_newLine level) (spells_indentedText level item faithful.1)
        (spellsItems_indentedItems level (second :: rest) (List.cons_ne_nil _ _) faithful.2 blank)
    · exact List.cons_ne_nil _ _

theorem spellsMembers_indentedMembers (level : Nat) : (members : List (String × Json)) →
    members ≠ [] → HoldFaithful members → ∀ {after : List Char}, IsGap after →
    SpellsMembers members (indentedMembers level members ++ after)
  | [], nonempty, _, _, _ => absurd rfl nonempty
  | [(name, value)], _, faithful, after, blank => by
    rw [indentedMembers]
    simp only [List.append_assoc, List.cons_append]
    have spells := spells_indentedText level value faithful.1
    exact SpellsMembers.last (isGap_newLine level) isGap_space spells blank
  | (name, value) :: second :: rest, _, faithful, after, blank => by
    rw [indentedMembers]
    · simp only [List.append_assoc, List.cons_append]
      have spells := spells_indentedText level value faithful.1
      have others := spellsMembers_indentedMembers level (second :: rest) (List.cons_ne_nil _ _)
        faithful.2 blank
      exact SpellsMembers.next (isGap_newLine level) isGap_space spells others
    · exact List.cons_ne_nil _ _

end

/-- A value is read back from its text over several lines. -/
theorem parse?_pretty {value : Json} (faithful : IsFaithful value) :
    parse? value.pretty = some value := by
  have read := ofCharacters?_of_spells (spells_indentedText 0 value faithful) isGap_nil
  rwa [parse?, pretty, String.toList_ofList, ← List.append_nil (indentedText 0 value)]

/-- A line break after the text is no part of the value. -/
theorem parse?_pretty_line {value : Json} (faithful : IsFaithful value) :
    parse? (value.pretty ++ "\n") = some value := by
  rw [parse?, pretty, String.toList_append, String.toList_ofList]
  exact ofCharacters?_of_spells (spells_indentedText 0 value faithful) (isGap_newLine 0)

mutual

/-- A value written on one line is spelled. -/
theorem spells_compactText : (value : Json) → IsFaithful value → Spells value (compactText value)
  | .null, _ => .null
  | .bool true, _ => .yes
  | .bool false, _ => .no
  | .number _, faithful => .number faithful
  | .string text, _ => .string text
  | .brokenString, faithful | .brokenObject, faithful => faithful.elim
  | .array [], _ => .emptyArray
  | .array (item :: rest), faithful => by
    rw [compactText]
    exact .array (spellsItems_compactItems (item :: rest) (List.cons_ne_nil _ _) faithful)
  | .object [], _ => .emptyObject
  | .object (member :: rest), faithful => by
    rw [compactText]
    exact .object (spellsMembers_compactMembers (member :: rest) (List.cons_ne_nil _ _) faithful)

theorem spellsItems_compactItems : (items : List Json) → items ≠ [] → AreFaithful items →
    SpellsItems items (compactItems items)
  | [], nonempty, _ => absurd rfl nonempty
  | [item], _, faithful => by
    have spells := SpellsItems.last isGap_nil (spells_compactText item faithful.1) isGap_nil
    rwa [List.append_nil] at spells
  | item :: second :: rest, _, faithful => by
    rw [compactItems]
    · exact .next isGap_nil (spells_compactText item faithful.1)
        (spellsItems_compactItems (second :: rest) (List.cons_ne_nil _ _) faithful.2)
    · exact List.cons_ne_nil _ _

theorem spellsMembers_compactMembers : (members : List (String × Json)) → members ≠ [] →
    HoldFaithful members → SpellsMembers members (compactMembers members)
  | [], nonempty, _ => absurd rfl nonempty
  | [(name, value)], _, faithful => by
    rw [compactMembers, ← List.append_nil (compactText value)]
    exact .last isGap_nil isGap_nil (spells_compactText value faithful.1) isGap_nil
  | (name, value) :: second :: rest, _, faithful => by
    rw [compactMembers]
    · simp only [List.append_assoc, List.cons_append]
      exact SpellsMembers.next isGap_nil isGap_nil (spells_compactText value faithful.1)
        (spellsMembers_compactMembers (second :: rest) (List.cons_ne_nil _ _) faithful.2)
    · exact List.cons_ne_nil _ _

end

/-- A value is read back from its text on one line. -/
theorem parse?_compact {value : Json} (faithful : IsFaithful value) :
    parse? value.compact = some value := by
  have read := ofCharacters?_of_spells (spells_compactText value faithful) isGap_nil
  rwa [parse?, compact, String.toList_ofList, ← List.append_nil (compactText value)]

end PlaylistRules.Json
