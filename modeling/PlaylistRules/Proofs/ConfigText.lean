/-
This file proves that a configuration is read back from the TOML text it is written as.
The text is taken line by line: every key and its value become a member of the document,
and the colour one of the table of the output.
-/

import PlaylistRules.Config
import PlaylistRules.Proofs.TomlText

namespace PlaylistRules

namespace Toml

open Text

/-! ### Keys -/

/-- Whether a name may be written as a key without quotes. -/
structure IsBare (key : List Char) : Prop where
  nonempty : key ≠ []
  plain : ∀ character ∈ key, isKeyChar character = true

/-- Whether a text does not go on with a key without quotes. -/
def EndsKey (rest : List Char) : Prop :=
  ∀ character ∈ rest.head?, isKeyChar character = false

theorem isKeyChar_solid {character : Char} (plain : isKeyChar character = true) :
    isSpace character = false ∧ character ∉ ['"', '\'', '#', '\n', '\r', '['] := by
  refine ⟨Bool.eq_false_iff.mpr fun space => ?_, fun member => ?_⟩
  · simp only [isSpace, Bool.or_eq_true, beq_iff_eq] at space
    rcases space with rfl | rfl <;> cases plain
  · simp only [List.mem_cons, List.not_mem_nil, or_false] at member
    rcases member with rfl | rfl | rfl | rfl | rfl | rfl <;> cases plain

theorem skipSpaces_cons {first : Char} (solid : isSpace first = false) (rest : List Char) :
    skipSpaces (first :: rest) = first :: rest :=
  List.dropWhile_cons_of_neg (by rw [solid]; exact Bool.false_ne_true)

theorem takeWhile_bare {key rest : List Char} (bare : IsBare key) (ends : EndsKey rest) :
    (key ++ rest).takeWhile isKeyChar = key ∧ (key ++ rest).dropWhile isKeyChar = rest := by
  rw [List.takeWhile_append_of_pos bare.plain, List.dropWhile_append_of_pos bare.plain]
  cases rest with
  | nil => exact ⟨List.append_nil key, rfl⟩
  | cons first rest =>
    have stop := ends first rfl
    rw [List.takeWhile_cons_of_neg (by rw [stop]; exact Bool.false_ne_true),
      List.dropWhile_cons_of_neg (by rw [stop]; exact Bool.false_ne_true)]
    exact ⟨List.append_nil key, rfl⟩

theorem readName_bare {key rest : List Char} (bare : IsBare key) (ends : EndsKey rest) :
    readName (key ++ rest) = some (String.ofList key, rest) := by
  obtain ⟨taken, left⟩ := takeWhile_bare bare ends
  rcases key with _ | ⟨first, key⟩
  · exact absurd rfl bare.nonempty
  have solid := (isKeyChar_solid (bare.plain first List.mem_cons_self)).2
  rw [readName]
  · simp only [taken, left]
    rfl
  · intro _ same
    rw [(List.cons.inj same).1] at solid
    exact solid (by decide)
  · intro _ same
    rw [(List.cons.inj same).1] at solid
    exact solid (by decide)

/-- The only name of a key without points. -/
theorem readNames_single {text rest : List Char} {name : String}
    (read : readName (skipSpaces text) = some (name, rest))
    (noPoint : ∀ after, skipSpaces rest ≠ '.' :: after) (points : Nat) :
    readNames points text = some ([name], skipSpaces rest) := by
  cases points with
  | zero =>
    rw [readNames, read]
    rfl
  | succ points =>
    rw [readNames, read]
    simp only [Option.bind_eq_bind, Option.bind_some]
    rfl

/-- A key without quotes and points is read up to what follows it. -/
theorem readKey_bare {key rest : List Char} (bare : IsBare key) (ends : EndsKey rest)
    (noPoint : ∀ after, skipSpaces rest ≠ '.' :: after) :
    readKey (key ++ rest) = some ([], String.ofList key, skipSpaces rest) := by
  have start : skipSpaces (key ++ rest) = key ++ rest := by
    rcases key with _ | ⟨first, key⟩
    · exact absurd rfl bare.nonempty
    · exact skipSpaces_cons (isKeyChar_solid (bare.plain first List.mem_cons_self)).1 _
  have name : readName (skipSpaces (key ++ rest)) = some (String.ofList key, rest) := by
    rw [start, readName_bare bare ends]
  have names := readNames_single name noPoint (key ++ rest).length
  rw [readKey, names]
  rfl

/-! ### Lines -/

/-- A line that begins with more than blanks, a comment or a break is not passed over. -/
theorem skipLines_cons {first : Char} (space : isSpace first = false)
    (solid : first ∉ ['#', '\n', '\r']) (lines : Nat) (rest : List Char) :
    skipLines lines (first :: rest) = first :: rest := by
  simp only [List.mem_cons, List.not_mem_nil, or_false, not_or] at solid
  cases lines with
  | zero => rw [skipLines, skipSpaces_cons space]
  | succ lines =>
    have notOver : afterLine? (first :: rest) = none := by
      rw [afterLine?, skipSpaces_cons space]
      split
      case h_1 same => exact absurd (List.cons.inj same).1 solid.1
      case h_2 =>
        rw [afterBreak?]
        · exact nofun
        · exact fun _ same => solid.2.1 (List.cons.inj same).1
        · exact fun _ same => solid.2.2 (List.cons.inj same).1
    rw [skipLines, skipSpaces_cons space]
    simp only [notOver]

/-- The line that gives a key the value that is written as `written`. -/
def line (key written rest : List Char) : List Char :=
  key ++ ' ' :: '=' :: ' ' :: (written ++ '\n' :: rest)

theorem readAssignment_line {key written rest : List Char} {value : Toml} {first : Char}
    (bare : IsBare key) (solid : isSpace first = false)
    (read : ∀ steps levels, readValue (steps + 1) levels (first :: written ++ '\n' :: rest) =
      some (value, '\n' :: rest)) (document : Members) (place : List String) :
    readAssignment document place (line key (first :: written) rest) =
      (editWithin .implied (addDotted [] (String.ofList key) value) place document).map
        (·, rest) := by
  have ends : EndsKey (' ' :: '=' :: ' ' :: (first :: written ++ '\n' :: rest)) := by
    intro character member
    cases member
    rfl
  have equals : skipSpaces (' ' :: '=' :: ' ' :: (first :: written ++ '\n' :: rest)) =
      '=' :: ' ' :: (first :: written ++ '\n' :: rest) := rfl
  have start : skipSpaces (' ' :: (first :: written ++ '\n' :: rest)) =
      first :: written ++ '\n' :: rest := skipSpaces_cons solid _
  have noPoint (after : List Char) : skipSpaces
      (' ' :: '=' :: ' ' :: (first :: written ++ '\n' :: rest)) ≠ '.' :: after := by
    rw [equals]
    exact fun same => absurd (List.cons.inj same).1 (by decide)
  rw [readAssignment, line, readKey_bare bare ends noPoint, equals]
  simp only [Option.bind_eq_bind, Option.bind_some, start]
  rw [read, Option.bind_some]
  cases editWithin .implied (addDotted [] (String.ofList key) value) place document <;> rfl

/-- A line is read into the table that `place` leads to. -/
theorem readLines_line {key written rest : List Char} {value : Toml} {first : Char}
    (bare : IsBare key) (solid : isSpace first = false)
    (read : ∀ steps levels, readValue (steps + 1) levels (first :: written ++ '\n' :: rest) =
      some (value, '\n' :: rest)) {document after : Members} {place : List String}
    (edited : editWithin .implied (addDotted [] (String.ofList key) value) place document =
      some after) (steps : Nat) :
    readLines (steps + 1) document place (line key (first :: written) rest) =
      readLines steps after place rest := by
  have same := readAssignment_line bare solid read document place
  rw [edited] at same
  rcases key with _ | ⟨start, key⟩
  · exact absurd rfl bare.nonempty
  obtain ⟨space, other⟩ := isKeyChar_solid (bare.plain start List.mem_cons_self)
  simp only [List.mem_cons, List.not_mem_nil, or_false, not_or] at other
  have stays (lines : Nat) : skipLines lines (line (start :: key) (first :: written) rest) =
      line (start :: key) (first :: written) rest :=
    skipLines_cons space (by simp [other]) lines _
  rw [readLines, stays]
  split
  case h_1 same => cases same
  case h_2 same => exact absurd (List.cons.inj same).1 other.2.2.2.2.2
  case h_3 same => exact absurd (List.cons.inj same).1 other.2.2.2.2.2
  case h_4 =>
    rw [same]
    rfl

/-! ### Values -/

/-- Fewer digits than asked for, or something else among them. -/
theorem fixedNumber?_eq_none {width : Nat} {text : List Char} {character : Char}
    (member : character ∈ text.take width) (noDigit : character.isDigit = false) :
    fixedNumber? width text = none := by
  have some : (text.take width).all Char.isDigit = false :=
    List.all_eq_false.mpr ⟨character, member, by rw [noDigit]; exact Bool.false_ne_true⟩
  rw [fixedNumber?]
  simp only [some, Bool.and_false, Bool.false_eq_true, if_false]

/-- What does not begin with two digits is no date and no time. -/
theorem afterDateTime?_eq_none {text : List Char} {character : Char}
    (member : character ∈ text.take 2) (noDigit : character.isDigit = false) :
    afterDateTime? text = none := by
  have more : character ∈ text.take 4 :=
    (List.take_sublist_take_left (by decide : 2 ≤ 4)).mem member
  rw [afterDateTime?, afterDate?, fixedNumber?_eq_none more noDigit]
  simp only [Option.bind_eq_bind, Option.bind_none]
  rw [afterTime?, afterHourMinute?, fixedNumber?_eq_none member noDigit]
  rfl

theorem readValue_word {first : Char} {word : List Char} {value : Toml}
    (chars : ∀ character ∈ first :: word, isWordChar character = true)
    (noDate : ∀ rest, afterDateTime? (first :: word ++ '\n' :: rest) = none)
    (known : ofWord? (first :: word) = some value) (rest : List Char) (steps levels : Nat) :
    readValue (steps + 1) levels (first :: word ++ '\n' :: rest) = some (value, '\n' :: rest) := by
  have solid : first ∉ ['[', '\x7b', '"', '\''] := by
    intro member
    simp only [List.mem_cons, List.not_mem_nil, or_false] at member
    rcases member with rfl | rfl | rfl | rfl <;>
      exact absurd (chars _ List.mem_cons_self) (by decide)
  simp only [List.mem_cons, List.not_mem_nil, or_false, not_or] at solid
  have taken : (first :: word ++ '\n' :: rest).takeWhile isWordChar = first :: word := by
    rw [List.takeWhile_append_of_pos chars, List.takeWhile_cons_of_neg (by decide),
      List.append_nil]
  have left : (first :: word ++ '\n' :: rest).dropWhile isWordChar = '\n' :: rest := by
    rw [List.dropWhile_append_of_pos chars, List.dropWhile_cons_of_neg (by decide)]
  rw [readValue]
  · rw [noDate, taken, left, known]
    rfl
  all_goals simp [solid]

/-- The word of a truth value. -/
def truthText (value : Bool) : List Char :=
  (if value then "true" else "false").toList

theorem readValue_truthText (value : Bool) (rest : List Char) (steps levels : Nat) :
    readValue (steps + 1) levels (truthText value ++ '\n' :: rest) =
      some (.boolean value, '\n' :: rest) := by
  cases value with
  | true =>
    have noDate (rest : List Char) : afterDateTime? ("true".toList ++ '\n' :: rest) = none :=
      afterDateTime?_eq_none List.mem_cons_self (by decide : 't'.isDigit = false)
    exact readValue_word (by decide) noDate (if_pos rfl) rest steps levels
  | false =>
    have noDate (rest : List Char) : afterDateTime? ("false".toList ++ '\n' :: rest) = none :=
      afterDateTime?_eq_none List.mem_cons_self (by decide : 'f'.isDigit = false)
    exact readValue_word (by decide) noDate rfl rest steps levels

theorem readValue_one (rest : List Char) (steps levels : Nat) :
    readValue (steps + 1) levels (['1'] ++ '\n' :: rest) = some (.integer 1, '\n' :: rest) := by
  have noDate (rest : List Char) : afterDateTime? (['1'] ++ '\n' :: rest) = none :=
    afterDateTime?_eq_none (List.mem_cons_of_mem _ List.mem_cons_self)
      (by decide : '\n'.isDigit = false)
  have known : ofWord? ['1'] = some (.integer 1) := by
    have number : integerOfWord? ['1'] = some 1 := by decide
    rw [ofWord?, if_neg (by decide), if_neg (by decide), number]
    exact if_pos (by decide)
  exact readValue_word (by decide) noDate known rest steps levels

theorem quoted_cons (text : String) :
    ∃ quote written, (quoted text).toList = quote :: written ∧ (quote = '"' ∨ quote = '\'') := by
  rw [quoted, String.toList_ofList]
  cases Quoting.ofText text.toList with
  | basic => exact ⟨_, _, rfl, .inl rfl⟩
  | literal => exact ⟨_, _, rfl, .inr rfl⟩
  | longBasic => exact ⟨_, _, rfl, .inl rfl⟩
  | longLiteral => exact ⟨_, _, rfl, .inr rfl⟩

theorem readValue_quoted (text : String) (rest : List Char) (steps levels : Nat) :
    readValue (steps + 1) levels ((quoted text).toList ++ '\n' :: rest) =
      some (.string text, '\n' :: rest) := by
  have read := readText_quoted text rest
  obtain ⟨quote, written, begins, isQuote⟩ := quoted_cons text
  rw [begins] at read ⊢
  rcases isQuote with rfl | rfl
  · rw [List.cons_append, readValue, ← List.cons_append, read, Option.map_some]
    simp only [String.ofList_toList]
  · rw [List.cons_append, readValue, ← List.cons_append, read, Option.map_some]
    simp only [String.ofList_toList]

/-! ### Documents -/

theorem lookup_concat {document : Members} {name : String} {value : Toml}
    (new : document.lookup name = none) :
    (document ++ [(name, value)]).lookup name = some value := by
  rw [List.lookup_append, new, Option.none_or, List.lookup_cons_self]

theorem lookup_concat_of_ne {document : Members} {name other : String} {value : Toml}
    (apart : other ≠ name) :
    (document ++ [(name, value)]).lookup other = document.lookup other := by
  rw [List.lookup_append, List.lookup_cons, beq_false_of_ne apart]
  exact Option.or_none

theorem putMember_of_new {document : Members} {name : String} (value : Toml)
    (new : document.lookup name = none) :
    putMember name value document = document ++ [(name, value)] := by
  induction document with
  | nil => rfl
  | cons entry document inductionHypothesis =>
    obtain ⟨other, old⟩ := entry
    rw [List.lookup_cons] at new
    by_cases same : name = other
    · rw [same, beq_self_eq_true] at new
      cases new
    · rw [beq_false_of_ne same] at new
      rw [putMember, if_neg (Ne.symm same), inductionHypothesis new, List.cons_append]

theorem putMember_concat {document : Members} {name : String} {old : Toml} (value : Toml)
    (new : document.lookup name = none) :
    putMember name value (document ++ [(name, old)]) = document ++ [(name, value)] := by
  induction document with
  | nil => rw [List.nil_append, putMember, if_pos rfl, List.nil_append]
  | cons entry document inductionHypothesis =>
    obtain ⟨other, kept⟩ := entry
    rw [List.lookup_cons] at new
    by_cases same : name = other
    · rw [same, beq_self_eq_true] at new
      cases new
    · rw [beq_false_of_ne same] at new
      rw [List.cons_append, putMember, if_neg (Ne.symm same), inductionHypothesis new,
        List.cons_append]

/-- A new key on the level of the document. -/
theorem edit_document {document : Members} {name : String} (value : Toml)
    (new : document.lookup name = none) :
    editWithin .implied (addDotted [] name value) [] document =
      some (document ++ [(name, value)]) := by
  rw [editWithin, addDotted, editWithin, addMember, new, Option.isSome_none,
    if_neg Bool.false_ne_true, putMember_of_new value new]

/-- The first key in the last table of the document. -/
theorem edit_table {document : Members} {table name : String} (value : Toml)
    (new : document.lookup table = none) :
    editWithin .implied (addDotted [] name value) [table]
        (document ++ [(table, .table .header [])]) =
      some (document ++ [(table, .table .header [(name, value)])]) := by
  rw [editWithin, lookup_concat new]
  simp only [mayEnter, bne_iff_ne, ne_eq, reduceCtorEq, not_false_eq_true, if_true]
  rw [edit_document value rfl, Option.bind_eq_bind, Option.bind_some, putMember_concat _ new]
  rfl

/-- The line of an entry, in front of further lines. -/
def entryLine (entry : String × String) (rest : List Char) : List Char :=
  line entry.1.toList (quoted entry.2).toList rest

theorem toList_textLine (key value : String) (rest : List Char) :
    (textLine key value).toList ++ rest = entryLine (key, value) rest := by
  simp [textLine, entryLine, line]

theorem toList_textLines (entries : List (String × String)) (rest : List Char) :
    (String.join (entries.map fun (key, value) => textLine key value)).toList ++ rest =
      entries.foldr entryLine rest := by
  induction entries with
  | nil => rfl
  | cons entry entries inductionHypothesis =>
    rw [List.map_cons, String.join_cons, String.toList_append, List.append_assoc,
      inductionHypothesis, List.foldr_cons, toList_textLine]

/-- The entries as members of a document. -/
def membersOf (entries : List (String × String)) : Members :=
  entries.map fun (key, value) => (key, .string value)

/-- The lines of entries with new names are read one by one. -/
theorem readLines_entries {entries : List (String × String)}
    (bare : ∀ entry ∈ entries, IsBare entry.1.toList) (distinct : (entries.map (·.1)).Nodup)
    {document : Members} (new : ∀ entry ∈ entries, document.lookup entry.1 = none) (steps : Nat)
    (rest : List Char) :
    readLines (entries.length + steps) document [] (entries.foldr entryLine rest) =
      readLines steps (document ++ membersOf entries) [] rest := by
  induction entries generalizing document with
  | nil => rw [List.length_nil, Nat.zero_add, membersOf, List.map_nil, List.append_nil]; rfl
  | cons entry entries inductionHypothesis =>
    obtain ⟨key, value⟩ := entry
    rw [List.map_cons, List.nodup_cons] at distinct
    have newKey : document.lookup key = none := new _ List.mem_cons_self
    have later (entry : String × String) (member : entry ∈ entries) :
        (document ++ [(key, Toml.string value)]).lookup entry.1 = none := by
      have apart : entry.1 ≠ key := fun same =>
        distinct.1 (List.mem_map.mpr ⟨entry, member, same⟩)
      rw [lookup_concat_of_ne apart]
      exact new entry (List.mem_cons_of_mem _ member)
    obtain ⟨quote, written, begins, isQuote⟩ := quoted_cons value
    have solid : isSpace quote = false := by rcases isQuote with rfl | rfl <;> rfl
    have read := readValue_quoted value (entries.foldr entryLine rest)
    rw [begins] at read
    rw [List.foldr_cons, entryLine, begins, List.length_cons, Nat.add_right_comm,
      readLines_line (bare _ List.mem_cons_self) solid read
        (edit_document _ (by rwa [String.ofList_toList])),
      String.ofList_toList,
      inductionHypothesis (fun entry member => bare entry (List.mem_cons_of_mem _ member))
        distinct.2 later, membersOf, membersOf, List.append_assoc]
    rfl

/-- The table that the header of a table without keys begins. -/
theorem readHeader_bare {name : List Char} (bare : IsBare name) {document : Members}
    (new : document.lookup (String.ofList name) = none) (rest : List Char) :
    readHeader document false (name ++ ']' :: '\n' :: rest) =
      some (document ++ [(String.ofList name, .table .header [])], [String.ofList name], rest) := by
  have ends : EndsKey (']' :: '\n' :: rest) := by
    intro character member
    cases member
    rfl
  have noPoint (after : List Char) : skipSpaces (']' :: '\n' :: rest) ≠ '.' :: after :=
    fun same => absurd (List.cons.inj same).1 (by decide)
  have same : skipSpaces (']' :: '\n' :: rest) = ']' :: '\n' :: rest := rfl
  have breaks : afterLine? ('\n' :: rest) = some rest := rfl
  rw [readHeader, readKey_bare bare ends noPoint, same]
  simp only [Option.bind_eq_bind, Option.bind_some, Bool.false_eq_true, if_false, breaks]
  rw [editWithin, beginTable, new]
  dsimp only
  rw [putMember_of_new _ new]
  rfl

/-- A header after a blank line begins a table. -/
theorem readLines_header {name : List Char} (bare : IsBare name) {document : Members}
    (new : document.lookup (String.ofList name) = none) (steps : Nat) (place : List String)
    (rest : List Char) :
    readLines (steps + 1) document place ('\n' :: '[' :: (name ++ ']' :: '\n' :: rest)) =
      readLines steps (document ++ [(String.ofList name, .table .header [])])
        [String.ofList name] rest := by
  have passes (lines : Nat) (text : List Char) :
      skipLines (lines + 1) ('\n' :: '[' :: text) = '[' :: text := by
    have next : afterLine? ('\n' :: '[' :: text) = some ('[' :: text) := rfl
    rw [skipLines, skipSpaces_cons rfl]
    simp only [next]
    exact skipLines_cons rfl (by decide) lines text
  rw [readLines, List.length_cons, passes]
  split
  case h_1 same => cases same
  case h_2 same =>
    rcases name with _ | ⟨first, name⟩
    · exact absurd rfl bare.nonempty
    · have solid := (isKeyChar_solid (bare.plain first List.mem_cons_self)).2
      rw [(List.cons.inj (List.cons.inj same).2).1] at solid
      exact absurd (by decide) solid
  case h_3 same =>
    obtain rfl := (List.cons.inj same).2
    rw [readHeader_bare bare new]
    rfl
  case h_4 other => exact absurd rfl (other _)

end Toml

/-! ### Configurations -/

namespace Config

open Toml

/-- The keys of the texts that a configuration may set. -/
def textKeys : List String := ["catalog", "playlists_dir", "rules_file", "user"]

theorem texts_sublist (config : Config) : (config.texts.map (·.1)).Sublist textKeys := by
  rcases config with ⟨_ | _, _ | _, _ | _, _ | _, _⟩ <;> simp [texts, textKeys]

/-- The members of the document that a configuration is written as. -/
def members (config : Config) : Members :=
  [("version", .integer 1)] ++ membersOf config.texts ++
    [("output", .table .header (config.color.map fun color => ("color", .boolean color)).toList)]

/-- The line that sets the colour, if it is set. -/
def colorText : Option Bool → List Char
  | none => []
  | some color => line "color".toList (truthText color) []

theorem toList_text (config : Config) :
    config.text.toList = line "version".toList ['1'] (config.texts.foldr entryLine
      ('\n' :: '[' :: ("output".toList ++ ']' :: '\n' :: colorText config.color))) := by
  have one : version.repr = "1" := by decide
  have color : ((config.color.map (booleanLine "color")).getD "").toList =
      colorText config.color := by
    cases config.color with
    | none => rfl
    | some color => cases color <;> rfl
  rw [text, one, String.toList_append, color, ← toList_textLines]
  simp [line]

theorem isBare_of_mem {entry : String × String} {config : Config} (member : entry ∈ config.texts) :
    IsBare entry.1.toList := by
  have known := config.texts_sublist.mem (List.mem_map_of_mem member)
  simp only [textKeys, List.mem_cons, List.not_mem_nil, or_false] at known
  rcases known with same | same | same | same <;> rw [same] <;> exact ⟨by decide, by decide⟩

/-- The line of the colour is read into the table of the output. -/
theorem readLines_color (color : Option Bool) {document : Members}
    (new : document.lookup "output" = none) (steps : Nat) :
    readLines (steps + 2) (document ++ [("output", .table .header [])]) ["output"]
        (colorText color) =
      some (document ++ [("output", .table .header
        (color.map fun color => ("color", Toml.boolean color)).toList)]) := by
  cases color with
  | none => rfl
  | some color =>
    have bare : IsBare "color".toList := ⟨by decide, by decide⟩
    have edited := @edit_table document "output" "color" (.boolean color) new
    have read := readValue_truthText color []
    rw [colorText]
    obtain ⟨first, written, begins, solid⟩ :
        ∃ first written, truthText color = first :: written ∧ isSpace first = false := by
      cases color <;> exact ⟨_, _, rfl, rfl⟩
    rw [begins] at read ⊢
    rw [readLines_line bare solid read edited]
    rfl

/-- The text of a configuration is read as its members. -/
theorem toml_text (config : Config) : Toml.parse? config.text = some config.members := by
  let version : Members := [("version", .integer 1)]
  have known {entry : String × String} (member : entry ∈ config.texts) : entry.1 ∈ textKeys :=
    config.texts_sublist.mem (List.mem_map_of_mem member)
  have newKey (name : String) (other : name ∉ textKeys) :
      (membersOf config.texts).lookup name = none := by
    rw [membersOf, List.lookup_eq_none_iff]
    intro entry member
    obtain ⟨written, listed, rfl⟩ := List.mem_map.mp member
    exact bne_iff_ne.mpr fun same => other (same ▸ known listed)
  have new (entry : String × String) (member : entry ∈ config.texts) :
      version.lookup entry.1 = none := by
    have apart : entry.1 ≠ "version" := fun same => by
      have listed := known member
      rw [same] at listed
      exact absurd listed (by decide)
    rw [List.lookup_cons, beq_false_of_ne apart, List.lookup_nil]
  have newTable : (version ++ membersOf config.texts).lookup "output" = none := by
    rw [List.lookup_append, newKey "output" (by decide)]
    rfl
  have distinct : (config.texts.map (·.1)).Nodup := config.texts_sublist.nodup (by decide)
  obtain ⟨spare, steps⟩ : ∃ spare,
      config.text.toList.length + 1 = config.texts.length + (spare + 3) + 1 := by
    have few := config.texts_sublist.length_le
    rw [List.length_map] at few
    have long : 12 ≤ config.text.toList.length := by
      rw [toList_text, line, List.length_append]
      simp only [List.length_cons, List.length_append]
      have version : "version".toList.length = 7 := by decide
      omega
    have room : textKeys.length = 4 := rfl
    exact ⟨config.text.toList.length - config.texts.length - 3, by omega⟩
  have noMark : (config.text.toList.head? = some '\ufeff') = False := by
    rw [toList_text]
    simp [line]
  rw [Toml.parse?]
  simp only [noMark, if_false, steps]
  have first (steps : Nat) (rest : List Char) :
      readLines (steps + 1) [] [] (line "version".toList ['1'] rest) =
        readLines steps version [] rest := by
    refine readLines_line ⟨by decide, by decide⟩ rfl (readValue_one rest) ?_ steps
    rw [String.ofList_toList]
    exact edit_document _ rfl
  have output : IsBare "output".toList := ⟨by decide, by decide⟩
  have newOutput : (version ++ membersOf config.texts).lookup (String.ofList "output".toList) =
      none := by
    rwa [String.ofList_toList]
  rw [toList_text, first, readLines_entries (fun _ => isBare_of_mem) distinct new,
    readLines_header output newOutput, String.ofList_toList]
  exact readLines_color config.color newTable spare

theorem ofToml?_members (config : Config) : ofToml? config.members = some config := by
  rcases config with ⟨_ | _, _ | _, _ | _, _ | _, _ | _⟩ <;> rfl

/-- A configuration is read back from its text. -/
theorem parse?_text (config : Config) : Config.parse? config.text = some config := by
  rw [Config.parse?, toml_text, Option.bind_some, ofToml?_members]

end Config

end PlaylistRules
