/-
This file takes the reader of expressions apart: the braces around the whole and the
two pipes between the filter, the sort key and the count. Each of the three parts is
free of pipes, and with them the text decides which filter and which count are read.
-/

import PlaylistRules.Proofs.Digits
import PlaylistRules.Proofs.Reading

namespace PlaylistRules

open Number Text

/-! ### Parts between pipes -/

theorem not_mem_of_mem_splitOn {separator : Char} {text part : List Char}
    (member : part ∈ text.splitOn separator) : separator ∉ part := by
  induction text generalizing part with
  | nil =>
    rw [List.splitOn_nil, List.mem_singleton] at member
    rw [member]
    exact List.not_mem_nil
  | cons character rest inductionHypothesis =>
    rw [List.splitOn_cons_eq_if_modifyHead] at member
    by_cases same : character = separator
    · rw [if_pos (by simpa using same)] at member
      rcases List.mem_cons.mp member with rfl | inRest
      · exact List.not_mem_nil
      · exact inductionHypothesis inRest
    · rw [if_neg (by simpa using same)] at member
      obtain ⟨first, others, found⟩ :=
        List.exists_cons_of_ne_nil (List.splitOn_ne_nil separator rest)
      rw [found, List.modifyHead_cons] at member
      rcases List.mem_cons.mp member with rfl | inOthers
      · rw [List.mem_cons, not_or]
        exact ⟨Ne.symm same, inductionHypothesis (found ▸ List.mem_cons_self)⟩
      · exact inductionHypothesis (found ▸ List.mem_cons_of_mem _ inOthers)

/-- A text falls into three parts at the pipes exactly when it has two of them. -/
theorem splitOn_eq_three_iff (separator : Char) (text first second third : List Char) :
    text.splitOn separator = [first, second, third] ↔
      text = first ++ separator :: (second ++ separator :: third) ∧
        separator ∉ first ∧ separator ∉ second ∧ separator ∉ third := by
  constructor
  · intro split
    have absent {part : List Char} (member : part ∈ [first, second, third]) : separator ∉ part :=
      not_mem_of_mem_splitOn (split ▸ member)
    refine ⟨?_, absent (by simp), absent (by simp), absent (by simp)⟩
    have joined : [separator].intercalate (text.splitOn separator) = text :=
      List.intercalate_splitOn separator
    rw [split] at joined
    rw [← joined]
    simp [List.intercalate]
  · rintro ⟨rfl, firstFree, secondFree, thirdFree⟩
    rw [List.splitOn_append_cons_self_of_not_mem firstFree,
      List.splitOn_append_cons_self_of_not_mem secondFree, List.splitOn_eq_singleton thirdFree]

/-! ### Expressions -/

namespace Expression

/-- The text of an expression, blanks around it aside: three parts in braces with
pipes between them. -/
structure Enclosed (text filter sortKey count : List Char) : Prop where
  split : trim text = '{' :: (filter ++ '|' :: (sortKey ++ '|' :: count)) ++ ['}']
  filterFree : '|' ∉ filter
  sortKeyFree : '|' ∉ sortKey
  countFree : '|' ∉ count

/-- The clause of an expression: one pair of square brackets around the whole of it
is left out. -/
def clauseOf (filter : List Char) : List Char :=
  (unwrap? .clause (trim filter)).getD (trim filter)

theorem clauseOf_isInfix (filter : List Char) : clauseOf filter <:+: filter := by
  unfold clauseOf
  cases unwrapped : unwrap? .clause (trim filter) with
  | none => exact trim_isInfix filter
  | some inner => exact (unwrap?_isInfix unwrapped).trans (trim_isInfix filter)

theorem Enclosed.filter_isInfix {text filter sortKey count : List Char}
    (enclosed : Enclosed text filter sortKey count) : filter <:+: text := by
  refine List.IsInfix.trans ⟨['{'], '|' :: (sortKey ++ '|' :: count) ++ ['}'], ?_⟩
    (trim_isInfix text)
  rw [enclosed.split]
  simp

/-- Reads the parts of an expression, the count first. -/
def readParts (filter sortKey count : List Char) : Except FormatError Expression := do
  let count ← readCount (trim count)
  let filter ← Filter.read (Filter.nestingLimit + 1) .clause (clauseOf filter)
  return ⟨filter, String.ofList (trim sortKey), count⟩

theorem body?_eq_some_iff (text body : List Char) :
    body? text = some body ↔ text = '{' :: body ++ ['}'] := by
  cases text with
  | nil => simp [body?]
  | cons first rest =>
    rw [body?, List.cons_append, List.cons.injEq]
    constructor
    · intro found
      split at found
      · rename_i braces
        simp only [Bool.and_eq_true, decide_eq_true_eq, beq_iff_eq] at braces
        refine ⟨braces.1, ?_⟩
        rw [← Option.some.inj found, List.dropLast_append_getLast? _ braces.2]
      · cases found
    · rintro ⟨rfl, rfl⟩
      rw [List.dropLast_concat, if_pos]
      simp

/-- An expression is read part by part. -/
theorem read_of_enclosed {text filter sortKey count : List Char}
    (enclosed : Enclosed text filter sortKey count) :
    read text = readParts filter sortKey count := by
  have three := (splitOn_eq_three_iff '|' _ filter sortKey count).mpr
    ⟨rfl, enclosed.filterFree, enclosed.sortKeyFree, enclosed.countFree⟩
  rw [read, (body?_eq_some_iff _ _).mpr enclosed.split]
  dsimp only
  rw [three]
  rfl

theorem readParts_eq_ok_iff (filter sortKey count : List Char) (expression : Expression) :
    readParts filter sortKey count = .ok expression ↔
      readCount (trim count) = .ok expression.count ∧
        Filter.read (Filter.nestingLimit + 1) .clause (clauseOf filter) =
          .ok expression.filter ∧
        String.ofList (trim sortKey) = expression.sortKey := by
  unfold readParts
  cases readCount (trim count) with
  | error fault => simp [bind, Except.bind]
  | ok number =>
    cases Filter.read (Filter.nestingLimit + 1) .clause (clauseOf filter) with
    | error fault => simp [bind, Except.bind]
    | ok parsed =>
      obtain ⟨filter', sortKey', count'⟩ := expression
      simp [bind, Except.bind, pure, Except.pure]
      tauto

/-- What is read as an expression stands in braces, and its parts are read. -/
theorem exists_enclosed_of_read {text : List Char} {expression : Expression}
    (parsed : read text = .ok expression) :
    ∃ filter sortKey count, Enclosed text filter sortKey count ∧
      readParts filter sortKey count = .ok expression := by
  have parsedText := parsed
  rw [read] at parsed
  cases found : body? (trim text) with
  | none =>
    rw [found] at parsed
    cases parsed
  | some body =>
    rw [found] at parsed
    dsimp only at parsed
    split at parsed
    · rename_i filterPart sortKeyPart countPart split
      obtain ⟨filter, afterFilter, whole, rfl, two⟩ := List.map_eq_cons_iff.mp split
      obtain ⟨sortKey, afterSortKey, rfl, rfl, one⟩ := List.map_eq_cons_iff.mp two
      obtain ⟨count, afterCount, rfl, rfl, none⟩ := List.map_eq_cons_iff.mp one
      obtain rfl := List.map_eq_nil_iff.mp none
      obtain ⟨rfl, filterFree, sortKeyFree, countFree⟩ :=
        (splitOn_eq_three_iff '|' body filter sortKey count).mp whole
      have enclosed : Enclosed text filter sortKey count :=
        ⟨(body?_eq_some_iff _ _).mp found, filterFree, sortKeyFree, countFree⟩
      exact ⟨filter, sortKey, count, enclosed, read_of_enclosed enclosed ▸ parsedText⟩
    · cases parsed

/-! ### Written expressions -/

/-- The text of an expression with the given parts between blanks. -/
def enclosing (clause sortKey digits : List Char) : String :=
  String.ofList ('{' :: (clause ++ [' '] ++
    '|' :: (' ' :: sortKey ++ [' '] ++ '|' :: (' ' :: digits))) ++ ['}'])

/-- An expression between braces is read as its clause is read, with the trimmed sort key
and the number that the digits denote. -/
theorem parse_enclosing {clause sortKey digits : List Char} (clauseFree : '|' ∉ clause)
    (sortKeyFree : '|' ∉ sortKey) (natural : isNatural digits = true)
    (bounded : naturalOfDigits digits < 2 ^ 64) :
    parse (enclosing clause sortKey digits) =
      (fun filter => ⟨filter, String.ofList (trim sortKey), naturalOfDigits digits⟩) <$>
        Filter.read (Filter.nestingLimit + 1) .clause (clauseOf clause) := by
  have blank : AllBlank [' '] := by decide
  have allDigits := ((isNatural_iff digits).mp natural).2
  have enclosed : Enclosed (enclosing clause sortKey digits).toList (clause ++ [' '])
      (' ' :: sortKey ++ [' ']) (' ' :: digits) := by
    refine ⟨?_, by simp [clauseFree], by simp [sortKeyFree], fun member => ?_⟩
    · rw [enclosing, String.toList_ofList]
      exact trim_enclosed rfl rfl _
    · rcases List.mem_cons.mp member with isSpace | isDigit
      · exact absurd isSpace (by decide)
      · exact absurd (allDigits _ isDigit) (by decide)
  have count : readCount (trim (' ' :: digits)) = .ok (naturalOfDigits digits) := by
    rw [← List.singleton_append, trim_append_left blank, trim_of_nonblank fun character member =>
      isBlank_of_isDigit (allDigits character member), readCount, natural, decide_eq_true bounded]
    rfl
  have clausePart : clauseOf (clause ++ [' ']) = clauseOf clause := by
    rw [clauseOf, clauseOf, trim_append_right _ blank]
  have sortKeyPart : trim (' ' :: sortKey ++ [' ']) = trim sortKey := by
    rw [trim_append_right _ blank, ← List.singleton_append, trim_append_left blank]
  rw [parse, read_of_enclosed enclosed, readParts, count, clausePart, sortKeyPart]
  cases Filter.read (Filter.nestingLimit + 1) .clause _ <;> rfl

theorem text_eq_enclosing (expression : Expression) :
    expression.text = enclosing (Filter.write .clause expression.filter)
      expression.sortKey.toList (naturalText expression.count) := by
  apply String.toList_injective
  simp [Expression.text, Filter.text, naturalText, enclosing]

/-- A written expression is read as its filter is read, with the sort key and the count
that were written. -/
theorem parse_text (expression : Expression)
    (filterFree : '|' ∉ Filter.write .clause expression.filter)
    (filterTrimmed : trim (Filter.write .clause expression.filter) =
      Filter.write .clause expression.filter)
    (sortKeyFree : '|' ∉ expression.sortKey.toList)
    (sortKeyTrimmed : trimmed expression.sortKey = expression.sortKey)
    (bounded : expression.count < 2 ^ 64) :
    parse expression.text =
      (fun filter => ⟨filter, expression.sortKey, expression.count⟩) <$>
        Filter.read (Filter.nestingLimit + 1) .clause
          ((unwrap? .clause (Filter.write .clause expression.filter)).getD
            (Filter.write .clause expression.filter)) := by
  have number := naturalOfDigits_naturalText expression.count
  rw [text_eq_enclosing, parse_enclosing filterFree sortKeyFree (isNatural_naturalText _)
    (by rwa [number]), number, clauseOf, filterTrimmed]
  rw [trimmed] at sortKeyTrimmed
  rw [sortKeyTrimmed]

end Expression

end PlaylistRules
