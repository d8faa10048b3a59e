/-
This file proves that a text is read back from its TOML quotes, whichever of the four
quotings was chosen for it. The closing quotes are found by their number: a run of quotes
is read as part of the text until three are left, so no text may have three quotes of that
kind in a row as they are.
-/

import PlaylistRules.Toml.Printer

namespace PlaylistRules.Toml

open Text

/-! ### Escapes -/

/-- What is read when a character is put in front of a text. -/
def reading (character : Char) (read : Option (List Char × List Char)) :
    Option (List Char × List Char) :=
  read.map fun (characters, after) => (character :: characters, after)

theorem reading_eq_bind (character : Char) (read : Option (List Char × List Char)) :
    reading character read =
      read.bind fun (characters, after) => some (character :: characters, after) := by
  cases read <;> rfl

theorem lt_of_isControl {character : Char}
    (control : isControl character = true ∨ character = '\t') : character.toNat < 128 := by
  rcases control with control | rfl
  · simp only [isControl, Bool.or_eq_true, Bool.and_eq_true, decide_eq_true_eq,
      beq_iff_eq] at control
    omega
  · decide

/-- The four digits of the code of a control character are read as that code. -/
theorem fourHexDigits?_upper : ∀ code < 128,
    fourHexDigits? (hexDigit (code / 16 / 16 / 16 % 16)).toUpper
      (hexDigit (code / 16 / 16 % 16)).toUpper (hexDigit (code / 16 % 16)).toUpper
      (hexDigit (code % 16)).toUpper = some code := by
  decide

theorem charOfCode?_of_lt {character : Char} (small : character.toNat < 128) :
    charOfCode? character.toNat = some character := by
  have low : character.toNat < 0xD800 := by omega
  rw [charOfCode?, decide_eq_true low, Bool.true_or, if_pos rfl, Char.ofNat_toNat]

/-- A control character is written with a short escape or with its code. -/
theorem controlText_cases (character : Char) :
    (∃ escape, controlText character = ['\\', escape] ∧ shortEscape? escape = some character) ∨
      controlText character = '\\' :: 'u' :: (hexDigits 4 character.toNat).map Char.toUpper := by
  rw [controlText]
  by_cases backspace : character = '\x08'
  · exact .inl ⟨'b', if_pos backspace, by rw [backspace]; rfl⟩
  by_cases tab : character = '\t'
  · exact .inl ⟨'t', by rw [if_neg backspace, if_pos tab], by rw [tab]; rfl⟩
  by_cases feed : character = '\n'
  · exact .inl ⟨'n', by rw [if_neg backspace, if_neg tab, if_pos feed], by rw [feed]; rfl⟩
  by_cases page : character = '\x0c'
  · exact .inl ⟨'f', by rw [if_neg backspace, if_neg tab, if_neg feed, if_pos page],
      by rw [page]; rfl⟩
  rw [if_neg backspace, if_neg tab, if_neg feed, if_neg page]
  by_cases carriage : character = '\r'
  · exact .inl ⟨'r', if_pos carriage, by rw [carriage]; rfl⟩
  · exact .inr (if_neg carriage)

/-- The characters that stand for others after a backslash. -/
theorem mem_of_shortEscape? {escape character : Char}
    (short : shortEscape? escape = some character) :
    escape ∈ ['"', '\\', 'b', 't', 'n', 'f', 'r'] := by
  refine Decidable.byContradiction fun unknown => ?_
  simp only [List.mem_cons, List.not_mem_nil, or_false, not_or] at unknown
  simp [shortEscape?, unknown] at short

/-! ### Texts on one line -/

theorem readBasic_short {escape character : Char} (short : shortEscape? escape = some character)
    (rest : List Char) :
    readBasic ('\\' :: escape :: rest) = reading character (readBasic rest) := by
  have known := mem_of_shortEscape? short
  simp only [List.mem_cons, List.not_mem_nil, or_false] at known
  rw [reading_eq_bind]
  rcases known with rfl | rfl | rfl | rfl | rfl | rfl | rfl <;> cases short <;> rfl

theorem readBasic_code (first second third fourth : Char) (rest : List Char) :
    readBasic ('\\' :: 'u' :: first :: second :: third :: fourth :: rest) =
      (fourHexDigits? first second third fourth).bind fun code =>
        (charOfCode? code).bind fun character => reading character (readBasic rest) := by
  simp only [reading_eq_bind]
  rfl

theorem readBasic_controlText {character : Char}
    (control : isControl character = true ∨ character = '\t') (rest : List Char) :
    readBasic (controlText character ++ rest) = reading character (readBasic rest) := by
  rcases controlText_cases character with ⟨escape, written, short⟩ | written
  · rw [written]
    exact readBasic_short short rest
  · have small := lt_of_isControl control
    rw [written]
    simp only [hexDigits, List.nil_append, List.cons_append, List.map_cons, List.map_nil]
    rw [readBasic_code, fourHexDigits?_upper _ small, Option.bind_some, charOfCode?_of_lt small,
      Option.bind_some]

theorem readBasic_plain {character : Char} (noQuote : character ≠ '"')
    (noBackslash : character ≠ '\\') (solid : isControl character = false) (rest : List Char) :
    readBasic (character :: rest) = reading character (readBasic rest) := by
  rw [readBasic]
  · simp only [solid, noBackslash]
    cases readBasic rest <;> rfl
  · exact noQuote
  · exact fun _ _ _ _ _ same _ => noBackslash same
  · exact fun _ _ _ _ _ _ _ _ _ same _ => noBackslash same
  · exact fun _ _ same _ => noBackslash same

/-- A text with escapes is read back up to its closing quote. -/
theorem readBasic_escaped (run : Nat) (text rest : List Char) :
    readBasic (escaped false run text ++ '"' :: rest) = some (text, rest) := by
  induction text generalizing run with
  | nil => rfl
  | cons character text inductionHypothesis =>
    have after : reading character (readBasic (escaped false 0 text ++ '"' :: rest)) =
        some (character :: text, rest) := by
      rw [inductionHypothesis]
      rfl
    rw [escaped]
    by_cases quote : character = '"'
    · rw [if_pos quote, Bool.false_and, if_neg Bool.false_ne_true]
      exact (readBasic_short (by rw [quote]; rfl) _).trans after
    rw [if_neg quote]
    by_cases backslash : character = '\\'
    · rw [if_pos backslash]
      exact (readBasic_short (by rw [backslash]; rfl) _).trans after
    rw [if_neg backslash, Bool.false_and, if_neg Bool.false_ne_true]
    by_cases control : isControl character = true ∨ character = '\t'
    · rw [if_pos (by simpa using control), List.append_assoc, readBasic_controlText control, after]
    · rw [if_neg (by simpa using control), List.cons_append, readBasic_plain quote backslash, after]
      exact Bool.eq_false_iff.mpr fun isControl => control (.inl isControl)

/-- A text without single quotes and control characters is read back up to its closing quote. -/
theorem readLiteral_append {text : List Char}
    (shown : ∀ character ∈ text, character ≠ '\'' ∧ isControl character = false)
    (rest : List Char) : readLiteral (text ++ '\'' :: rest) = some (text, rest) := by
  induction text with
  | nil => rfl
  | cons character text inductionHypothesis =>
    obtain ⟨first, later⟩ := List.forall_mem_cons.mp shown
    rw [List.cons_append, readLiteral]
    · rw [first.2, inductionHypothesis later]
      rfl
    · exact first.1

/-! ### Texts over several lines -/

theorem readLongBasic_short {escape character : Char} (short : shortEscape? escape = some character)
    (rest : List Char) :
    readLongBasic false ('\\' :: escape :: rest) =
      reading character (readLongBasic false rest) := by
  have known := mem_of_shortEscape? short
  simp only [List.mem_cons, List.not_mem_nil, or_false] at known
  rw [reading_eq_bind]
  rcases known with rfl | rfl | rfl | rfl | rfl | rfl | rfl <;> cases short <;> rfl

theorem readLongBasic_code (first second third fourth : Char) (rest : List Char) :
    readLongBasic false ('\\' :: 'u' :: first :: second :: third :: fourth :: rest) =
      (fourHexDigits? first second third fourth).bind fun code =>
        (charOfCode? code).bind fun character => reading character (readLongBasic false rest) := by
  simp only [reading_eq_bind]
  rfl

theorem readLongBasic_controlText {character : Char}
    (control : isControl character = true ∨ character = '\t') (rest : List Char) :
    readLongBasic false (controlText character ++ rest) =
      reading character (readLongBasic false rest) := by
  rcases controlText_cases character with ⟨escape, written, short⟩ | written
  · rw [written]
    exact readLongBasic_short short rest
  · have small := lt_of_isControl control
    rw [written]
    simp only [hexDigits, List.nil_append, List.cons_append, List.map_cons, List.map_nil]
    rw [readLongBasic_code, fourHexDigits?_upper _ small, Option.bind_some,
      charOfCode?_of_lt small, Option.bind_some]

/-- A character is read as it is: a double quote unless two more follow. -/
theorem readLongBasic_cons {character : Char} {rest : List Char}
    (few : character = '"' → ∀ after, rest ≠ '"' :: '"' :: after) (noBackslash : character ≠ '\\')
    (solid : isControl character = false) :
    readLongBasic false (character :: rest) = reading character (readLongBasic false rest) := by
  rw [readLongBasic]
  · simp only [solid, noBackslash]
    cases readLongBasic false rest <;> rfl
  · exact fun _ same => few same _
  · exact fun _ same => few same _
  · exact fun _ same => few same _
  · exact fun _ _ _ _ _ same _ => noBackslash same
  · exact fun _ _ _ _ _ _ _ _ _ same _ => noBackslash same
  · rintro _ rfl
    cases solid
  · rintro rfl
    cases solid
  · exact fun _ _ same _ => noBackslash same

theorem readLongBasic_newline (rest : List Char) :
    readLongBasic false ('\n' :: rest) = reading '\n' (readLongBasic false rest) := by
  rw [reading_eq_bind]
  rfl

/-- The three quotes that close a text. -/
def closing (quote : Char) (rest : List Char) : List Char :=
  quote :: quote :: quote :: '\n' :: rest

/-- A text with escapes begins with a backslash, or with a character that may stand there as it
is: a double quote only where one is kept, and a line feed if those are kept. -/
theorem escaped_cons_cases (kept : Bool) (run : Nat) (first : Char) (text : List Char) :
    (∃ after, escaped kept run (first :: text) = '\\' :: after) ∨
      (first = '"' → kept = true ∧ run < 2) ∧
      (isControl first = true → first = '\n') ∧
      ∃ after, escaped kept run (first :: text) = first :: after := by
  rw [escaped]
  by_cases quote : first = '"'
  · rw [if_pos quote]
    split
    case isTrue few =>
      refine .inr ⟨fun _ => by simpa using few, fun control => ?_, _, by rw [quote]⟩
      rw [quote] at control
      cases control
    case isFalse => exact .inl ⟨_, rfl⟩
  rw [if_neg quote]
  split
  case isTrue => exact .inl ⟨_, rfl⟩
  case isFalse =>
    split
    case isTrue feed =>
      have feed : first = '\n' := (by simpa using feed : kept = true ∧ first = '\n').2
      exact .inr ⟨fun same => absurd same quote, fun _ => feed, _, by rw [feed]⟩
    case isFalse =>
      split
      case isTrue =>
        rcases controlText_cases first with ⟨escape, written, -⟩ | written <;>
          exact .inl ⟨_, by rw [written, List.cons_append]⟩
      case isFalse plain =>
        refine .inr ⟨fun same => absurd same quote, fun control => ?_, _, rfl⟩
        exact absurd (by rw [control, Bool.true_or]) plain

/-- A third double quote in a row is not written as it is. -/
theorem escaped_ne_quote {kept : Bool} {run : Nat} {first : Char}
    (solid : first = '"' → kept = true → 2 ≤ run) (text more after : List Char) :
    escaped kept run (first :: text) ++ more ≠ '"' :: after := by
  rcases escaped_cons_cases kept run first text with ⟨_, written⟩ | ⟨quote, -, _, written⟩
  · rw [written]
    exact fun same => absurd (List.cons.inj same).1 (by decide)
  · rw [written]
    intro same
    have first := (List.cons.inj same).1
    have few := quote first
    have many := solid first few.1
    omega

/-- One or two double quotes that end a text stand before the closing ones. -/
theorem readLongBasic_last (rest : List Char) :
    readLongBasic false ('"' :: closing '"' rest) = some (['"'], '\n' :: rest) ∧
      readLongBasic false ('"' :: '"' :: closing '"' rest) = some (['"', '"'], '\n' :: rest) :=
  ⟨rfl, rfl⟩

/-- A double quote that is written as it is does not belong to the closing ones, unless only
such quotes follow. -/
theorem readLongBasic_raw {run : Nat} (few : run < 2) (text rest : List Char)
    (later : readLongBasic false (escaped true (run + 1) text ++ closing '"' rest) =
      some (text, '\n' :: rest)) :
    readLongBasic false ('"' :: (escaped true (run + 1) text ++ closing '"' rest)) =
      some ('"' :: text, '\n' :: rest) := by
  have apart (apart : ∀ after,
      escaped true (run + 1) text ++ closing '"' rest ≠ '"' :: '"' :: after) :
      readLongBasic false ('"' :: (escaped true (run + 1) text ++ closing '"' rest)) =
        some ('"' :: text, '\n' :: rest) := by
    rw [readLongBasic_cons (fun _ => apart) (by decide) (by decide), later]
    rfl
  rcases text with _ | ⟨second, text⟩
  · exact (readLongBasic_last rest).1
  by_cases raw : second = '"' ∧ run + 1 < 2
  · obtain ⟨rfl, room⟩ := raw
    have written : escaped true (run + 1) ('"' :: text) =
        '"' :: escaped true (run + 1 + 1) text := by
      rw [escaped, if_pos rfl, decide_eq_true room, Bool.and_true, if_pos rfl]
    rcases text with _ | ⟨third, text⟩
    · rw [written]
      exact (readLongBasic_last rest).2
    · refine apart fun after => ?_
      rw [written, List.cons_append]
      exact fun same => escaped_ne_quote (fun _ _ => by omega) text _ _ (List.cons.inj same).2
  · refine apart fun after => escaped_ne_quote (fun quote _ => ?_) text _ _
    exact Nat.not_lt.mp fun room => raw ⟨quote, room⟩

/-- A text with escapes is read back up to its closing quotes. -/
theorem readLongBasic_escaped (run : Nat) (text rest : List Char) :
    readLongBasic false (escaped true run text ++ closing '"' rest) =
      some (text, '\n' :: rest) := by
  induction text generalizing run with
  | nil => rfl
  | cons character text inductionHypothesis =>
    have after (run : Nat) :
        reading character (readLongBasic false (escaped true run text ++ closing '"' rest)) =
          some (character :: text, '\n' :: rest) := by
      rw [inductionHypothesis]
      rfl
    rw [escaped]
    by_cases quote : character = '"'
    · rw [if_pos quote]
      split
      case isFalse => exact (readLongBasic_short (by rw [quote]; rfl) _).trans (after 0)
      case isTrue short =>
        subst quote
        exact readLongBasic_raw (by simpa using short) text rest (inductionHypothesis (run + 1))
    rw [if_neg quote]
    by_cases backslash : character = '\\'
    · rw [if_pos backslash]
      exact (readLongBasic_short (by rw [backslash]; rfl) _).trans (after 0)
    rw [if_neg backslash, Bool.true_and]
    by_cases feed : character = '\n'
    · subst feed
      rw [if_pos (decide_eq_true rfl), List.cons_append, readLongBasic_newline, after]
    rw [if_neg (by simpa using feed)]
    by_cases control : isControl character = true ∨ character = '\t'
    · rw [if_pos (by simpa using control), List.append_assoc, readLongBasic_controlText control,
        after]
    · have solid := Bool.eq_false_iff.mpr fun isControl => control (.inl isControl)
      rw [if_neg (by simpa using control), List.cons_append,
        readLongBasic_cons (fun same => absurd same quote) backslash solid, after]

/-! ### Texts over several lines without escapes -/

theorem longestRun_cons_of_eq (wanted : Char) (run : Nat) (text : List Char) :
    longestRun wanted run (wanted :: text) = longestRun wanted (run + 1) text := by
  rw [longestRun, if_pos rfl]

theorem le_longestRun (wanted : Char) (run : Nat) (text : List Char) :
    run ≤ longestRun wanted run text := by
  induction text generalizing run with
  | nil => exact Nat.le_refl run
  | cons character text inductionHypothesis =>
    rw [longestRun]
    split
    · exact Nat.le_trans (Nat.le_succ run) (inductionHypothesis (run + 1))
    · exact Nat.le_max_left ..

/-- A character is read as it is: a single quote unless two more follow. -/
theorem readLongLiteral_cons {character : Char} {rest : List Char}
    (few : character = '\'' → ∀ after, rest ≠ '\'' :: '\'' :: after)
    (shown : (isControl character && character != '\n') = false) :
    readLongLiteral (character :: rest) = reading character (readLongLiteral rest) := by
  rw [readLongLiteral]
  · rw [shown]
    cases readLongLiteral rest <;> rfl
  · exact fun _ same => few same _
  · exact fun _ same => few same _
  · exact fun _ same => few same _
  · rintro _ rfl
    cases shown

/-- One or two single quotes that end a text stand before the closing ones. -/
theorem readLongLiteral_last (rest : List Char) :
    readLongLiteral ('\'' :: closing '\'' rest) = some (['\''], '\n' :: rest) ∧
      readLongLiteral ('\'' :: '\'' :: closing '\'' rest) =
        some (['\'', '\''], '\n' :: rest) :=
  ⟨rfl, rfl⟩

/-- A single quote does not belong to the closing ones, unless only such quotes follow. -/
theorem readLongLiteral_raw {run : Nat} {text rest : List Char}
    (few : longestRun '\'' (run + 1) text ≤ 2)
    (later : readLongLiteral (text ++ closing '\'' rest) = some (text, '\n' :: rest)) :
    readLongLiteral ('\'' :: (text ++ closing '\'' rest)) = some ('\'' :: text, '\n' :: rest) := by
  have apart (apart : ∀ after, text ++ closing '\'' rest ≠ '\'' :: '\'' :: after) :
      readLongLiteral ('\'' :: (text ++ closing '\'' rest)) =
        some ('\'' :: text, '\n' :: rest) := by
    rw [readLongLiteral_cons (fun _ => apart) (by decide), later]
    rfl
  rcases text with _ | ⟨second, _ | ⟨third, text⟩⟩
  · exact (readLongLiteral_last rest).1
  · by_cases quote : second = '\''
    · subst quote
      exact (readLongLiteral_last rest).2
    · exact apart fun after same => quote (List.cons.inj same).1
  · refine apart fun after same => ?_
    have both := List.cons.inj same
    obtain rfl := both.1
    obtain rfl := (List.cons.inj both.2).1
    rw [longestRun_cons_of_eq, longestRun_cons_of_eq] at few
    have := le_longestRun '\'' (run + 1 + 1 + 1) text
    omega

/-- A text with at most two single quotes in a row is read back up to its closing quotes. -/
theorem readLongLiteral_append {run : Nat} {text : List Char}
    (few : longestRun '\'' run text ≤ 2)
    (shown : hasControl text = false) (rest : List Char) :
    readLongLiteral (text ++ closing '\'' rest) = some (text, '\n' :: rest) := by
  induction text generalizing run with
  | nil => rfl
  | cons character text inductionHypothesis =>
    rw [hasControl, List.any_cons, Bool.or_eq_false_iff] at shown
    by_cases quote : character = '\''
    · subst quote
      rw [longestRun_cons_of_eq] at few
      exact readLongLiteral_raw few (inductionHypothesis few shown.2)
    · rw [longestRun, if_neg quote, Nat.max_le] at few
      rw [List.cons_append, readLongLiteral_cons (fun same => absurd same quote) shown.1,
        inductionHypothesis few.2 shown.2]
      rfl

/-! ### Quoted texts -/

theorem dropBreak_of_head {text : List Char}
    (solid : ∀ first ∈ text.head?, first ≠ '\n' ∧ first ≠ '\r') : dropBreak text = text := by
  rw [dropBreak]
  · rintro rest rfl
    exact (solid '\n' rfl).1 rfl
  · rintro rest rfl
    exact (solid '\r' rfl).2 rfl

/-- A text over several lines begins after its first break, if it has one. -/
theorem dropBreak_openingBreak {text written : List Char}
    (solid : ∀ first ∈ written.head?, first ≠ '\r' ∧ (first = '\n' → '\n' ∈ text)) :
    dropBreak (openingBreak text ++ written) = written := by
  rw [openingBreak]
  split
  case isTrue => rfl
  case isFalse none =>
    refine dropBreak_of_head fun first member => ?_
    obtain ⟨noCarriage, feed⟩ := solid first member
    exact ⟨fun same => none (List.contains_iff_mem.mpr (feed same)), noCarriage⟩

theorem readText_basic (text rest : List Char) :
    readText (Quoting.basic.write text ++ '\n' :: rest) = some (text, '\n' :: rest) := by
  rw [Quoting.write, List.append_assoc, List.cons_append, List.singleton_append]
  rw [readText]
  · exact readBasic_escaped 0 text ('\n' :: rest)
  · rcases text with _ | ⟨first, text⟩
    · exact fun _ same => absurd (List.cons.inj (List.cons.inj same).2).1 (by decide)
    · exact fun _ => escaped_ne_quote (fun _ kept => absurd kept (by decide)) text _ _

theorem readText_longBasic (text rest : List Char) :
    readText (Quoting.longBasic.write text ++ '\n' :: rest) = some (text, '\n' :: rest) := by
  have written : Quoting.longBasic.write text ++ '\n' :: rest =
      '"' :: '"' :: '"' :: (openingBreak text ++ (escaped true 0 text ++ closing '"' rest)) := by
    simp [Quoting.write, closing]
  rw [written, readText, dropBreak_openingBreak, readLongBasic_escaped]
  intro first member
  rcases text with _ | ⟨start, text⟩
  · obtain rfl : '"' = first := Option.some.inj member
    exact ⟨by decide, fun feed => absurd feed (by decide)⟩
  · rcases escaped_cons_cases true 0 start text with ⟨_, written⟩ | ⟨-, control, _, written⟩
    · rw [written] at member
      obtain rfl : '\\' = first := Option.some.inj member
      exact ⟨by decide, fun feed => absurd feed (by decide)⟩
    · rw [written] at member
      obtain rfl : start = first := Option.some.inj member
      refine ⟨?_, fun feed => feed ▸ List.mem_cons_self⟩
      rintro rfl
      exact absurd (control rfl) (by decide)

theorem readText_literal {text : List Char} (fits : Quoting.literal.fits text = true)
    (rest : List Char) :
    readText (Quoting.literal.write text ++ '\n' :: rest) = some (text, '\n' :: rest) := by
  simp only [Quoting.fits, Bool.and_eq_true, Bool.not_eq_true', hasControl, List.any_eq_false,
    List.contains_eq_mem, decide_eq_false_iff_not] at fits
  obtain ⟨⟨noControl, noQuote⟩, noFeed⟩ := fits
  have shown : ∀ character ∈ text, character ≠ '\'' ∧ isControl character = false := by
    intro character member
    refine ⟨fun same => noQuote (same ▸ member), Bool.eq_false_iff.mpr fun control => ?_⟩
    have feed : character ≠ '\n' := fun same => noFeed (same ▸ member)
    exact noControl character member ⟨control, bne_iff_ne.mpr feed⟩
  rw [Quoting.write, List.append_assoc, List.cons_append, List.singleton_append, readText]
  · exact readLiteral_append shown ('\n' :: rest)
  · rintro after same
    rcases text with _ | ⟨first, text⟩
    · exact absurd (List.cons.inj (List.cons.inj same).2).1 (by decide)
    · exact (shown first List.mem_cons_self).1 (List.cons.inj same).1

theorem readText_longLiteral {text : List Char} (fits : Quoting.longLiteral.fits text = true)
    (rest : List Char) :
    readText (Quoting.longLiteral.write text ++ '\n' :: rest) = some (text, '\n' :: rest) := by
  simp only [Quoting.fits, Bool.and_eq_true, Bool.not_eq_true', decide_eq_true_eq] at fits
  obtain ⟨noControl, few⟩ := fits
  have written : Quoting.longLiteral.write text ++ '\n' :: rest =
      '\'' :: '\'' :: '\'' :: (openingBreak text ++ (text ++ closing '\'' rest)) := by
    simp [Quoting.write, closing]
  rw [written, readText, dropBreak_openingBreak, readLongLiteral_append few noControl]
  intro first member
  rcases text with _ | ⟨start, text⟩
  · obtain rfl : '\'' = first := Option.some.inj member
    exact ⟨by decide, fun feed => absurd feed (by decide)⟩
  · obtain rfl : start = first := Option.some.inj member
    refine ⟨?_, fun feed => feed ▸ List.mem_cons_self⟩
    rintro rfl
    rw [hasControl, List.any_cons] at noControl
    cases noControl

/-- Every text is read back from the quoting that was chosen for it. -/
theorem readText_quoted (text : String) (rest : List Char) :
    readText ((quoted text).toList ++ '\n' :: rest) = some (text.toList, '\n' :: rest) := by
  rw [quoted, String.toList_ofList, Quoting.ofText]
  split
  · exact readText_basic ..
  split
  case isTrue fits => exact readText_literal fits rest
  split
  · exact readText_longBasic ..
  split
  case isTrue fits => exact readText_longLiteral fits rest
  split
  · exact readText_longBasic ..
  · exact readText_basic ..

end PlaylistRules.Toml
