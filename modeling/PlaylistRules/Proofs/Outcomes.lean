/-
This file proves what becomes of every text of an expression. The braces are looked at
first, then the number of pipes, then the count, and the filter last. Reading a filter
never finds a fault of the envelope, so each such fault is found exactly where the text has
it and nothing before it is wrong. Pipes divide the text wherever they stand.
-/

import PlaylistRules.Proofs.Envelope

namespace PlaylistRules

open Number Text

/-! ### Faults of filters -/

/-- The faults of what stands around the filter: the braces, the pipes and the count. -/
def FormatError.ofEnvelope : FormatError → Bool
  | missingBraces _ => true
  | partCount _ => true
  | invalidCount _ => true
  | _ => false

namespace Filter

/-- A reading that finds no fault of the envelope. -/
def SparesEnvelope (result : Except FormatError Output) : Prop :=
  ∀ fault, faultOf result = some fault → fault.ofEnvelope = false

theorem sparesEnvelope_ok (output : Output) :
    SparesEnvelope (.ok output : Except FormatError Output) :=
  fun _ failed => absurd failed (Option.some_ne_none _).symm

theorem sparesEnvelope_error {fault : FormatError} (spared : fault.ofEnvelope = false) :
    SparesEnvelope (.error fault : Except FormatError Output) :=
  fun _ failed => Option.some.inj failed ▸ spared

theorem SparesEnvelope.map {Other : Type} {result : Except FormatError Output}
    (spares : SparesEnvelope result) (wrap : Output → Other) :
    SparesEnvelope (wrap <$> result) := by
  intro fault failed
  rw [faultOf_map] at failed
  exact spares fault failed

theorem sparesEnvelope_mapM {Input : Type} {attempt : Input → Except FormatError Output}
    (each : ∀ input, SparesEnvelope (attempt input)) (inputs : List Input) :
    SparesEnvelope (inputs.mapM attempt) := by
  intro fault failed
  rw [faultOf_mapM] at failed
  obtain ⟨input, _, found⟩ := List.exists_of_findSome?_eq_some failed
  exact each input fault found

theorem sparesEnvelope_readComparison {Quantity : Type} (kind value : List Char)
    (number? : List Char → Option Quantity) (wrap : Comparison → Quantity → Filter) :
    SparesEnvelope (readComparison kind value number? wrap) := by
  unfold readComparison
  split
  · exact sparesEnvelope_ok _
  · exact sparesEnvelope_error rfl

theorem sparesEnvelope_readWatched (value : List Char) : SparesEnvelope (readWatched value) := by
  unfold readWatched
  split_ifs
  · exact sparesEnvelope_ok _
  · exact sparesEnvelope_ok _
  · exact sparesEnvelope_error rfl

theorem sparesEnvelope_readLeaf {readValue : Field → List Char → Except FormatError Filter}
    (each : ∀ field value, SparesEnvelope (readValue field value)) (text : List Char) :
    SparesEnvelope (readLeaf readValue text) := by
  unfold readLeaf
  split
  · exact sparesEnvelope_error rfl
  · dsimp only
    split
    · exact (each _ _).map _
    · exact (each _ _).map _
    · exact (each _ _).map _
    · exact sparesEnvelope_readComparison _ _ _ _
    · exact sparesEnvelope_readComparison _ _ _ _
    · exact sparesEnvelope_readComparison _ _ _ _
    · exact sparesEnvelope_readWatched _
    · exact sparesEnvelope_error rfl

/-- One step of reading finds no fault of the envelope if the steps below find none. -/
theorem sparesEnvelope_readStep {next : Bracketing → List Char → Except FormatError Filter}
    (each : ∀ style text, SparesEnvelope (next style text)) (style : Bracketing)
    (text : List Char) : SparesEnvelope (readStep next style text) := by
  unfold readStep
  split_ifs
  · exact sparesEnvelope_error (by cases style <;> rfl)
  · exact (sparesEnvelope_mapM (each style) _).map _
  · exact (sparesEnvelope_mapM (each style) _).map _
  · split
    · exact (each style _).map _
    · split
      · exact each style _
      · cases style with
        | clause => exact sparesEnvelope_readLeaf (fun field => each (.value field)) text
        | value field => exact sparesEnvelope_ok _

/-- Reading a filter finds no fault of the envelope. -/
theorem sparesEnvelope_read (levels : Nat) (style : Bracketing) (text : List Char) :
    SparesEnvelope (read levels style text) := by
  induction levels generalizing style text with
  | zero => exact sparesEnvelope_error rfl
  | succ levels inductionHypothesis =>
    rw [read_succ]
    exact sparesEnvelope_readStep inductionHypothesis style (trim text)

end Filter

namespace Expression

/-! ### Every text -/

/-- A count: a run of digits that denotes a number of at most 64 bits. -/
structure IsCount (text : List Char) : Prop where
  isDigits : IsDigits text
  fits : decimalValue text < 2 ^ 64

/-- Square brackets around the whole of a part, which are not closed before its end. -/
structure Bracketed (part body : List Char) : Prop where
  split : part = '[' :: body ++ [']']
  covered : ∀ before, before <+: body → before.count ']' ≤ before.count '['

/-- The clause of the first part: what one pair of brackets around the whole of it holds,
or the part as it is where there is no such pair. -/
inductive ClauseOf (part : List Char) : List Char → Prop where
  | bracketed {body : List Char} (bracketed : Bracketed part body) : ClauseOf part (trim body)
  | plain (plain : ∀ body, ¬Bracketed part body) : ClauseOf part part

/-- What becomes of a text, by the first thing that is wrong with it. -/
inductive Outcome (text : List Char) : Except FormatError Expression → Prop where
  | unbraced (unbraced : ∀ body, trim text ≠ '{' :: body ++ ['}']) :
      Outcome text (.error (.missingBraces (String.ofList (trim text))))
  | parts {body : List Char} (braced : trim text = '{' :: body ++ ['}'])
      (pipes : body.count '|' ≠ 2) :
      Outcome text (.error (.partCount (body.count '|' + 1)))
  | count {filter sortKey count : List Char} (enclosed : Enclosed text filter sortKey count)
      (invalid : ¬IsCount (trim count)) :
      Outcome text (.error (.invalidCount (String.ofList (trim count))))
  | filter {filter sortKey count clause : List Char}
      (enclosed : Enclosed text filter sortKey count) (valid : IsCount (trim count))
      (clauseOf : ClauseOf (trim filter) clause) :
      Outcome text ((Filter.parse (String.ofList clause)).map fun parsed =>
        ⟨parsed, String.ofList (trim sortKey), decimalValue (trim count)⟩)

theorem readCount_of_isCount {text : List Char} (isCount : IsCount text) :
    readCount text = .ok (decimalValue text) := by
  rw [readCount, naturalOfDigits_eq_decimalValue,
    (isNatural_iff_isDigits text).mpr isCount.isDigits,
    decide_eq_true isCount.fits]
  rfl

theorem readCount_of_not_isCount {text : List Char} (invalid : ¬IsCount text) :
    readCount text = .error (.invalidCount (String.ofList text)) := by
  rw [readCount, naturalOfDigits_eq_decimalValue, if_neg]
  rw [Bool.and_eq_true, decide_eq_true_eq, isNatural_iff_isDigits]
  exact fun valid => invalid ⟨valid.1, valid.2⟩

theorem unwrap?_clause_eq_some_iff (part inner : List Char) :
    unwrap? .clause part = some inner ↔ ∃ body, Bracketed part body ∧ trim body = inner := by
  have stays_iff (body : List Char) : staysOpen '[' ']' 1 body = true ↔
      ∀ before, before <+: body → before.count ']' ≤ before.count '[' := by
    refine (staysOpen_iff (by decide) 0 body).trans ?_
    simp only [Nat.zero_add]
    rfl
  rw [unwrap?_eq_some_iff]
  constructor
  · rintro ⟨body, split, stays, rfl⟩
    exact ⟨body, ⟨split, (stays_iff body).mp stays⟩, rfl⟩
  · rintro ⟨body, ⟨split, covered⟩, rfl⟩
    exact ⟨body, split, (stays_iff body).mpr covered, rfl⟩

theorem exists_clauseOf (part : List Char) : ∃ clause, ClauseOf part clause := by
  by_cases bracketed : ∃ body, Bracketed part body
  · obtain ⟨body, bracketed⟩ := bracketed
    exact ⟨_, .bracketed bracketed⟩
  · exact ⟨_, .plain (not_exists.mp bracketed)⟩

/-- The clause of a part is the one that is read. -/
theorem ClauseOf.eq_clauseOf {filter clause : List Char}
    (isClause : ClauseOf (trim filter) clause) : clauseOf filter = clause := by
  unfold clauseOf
  cases isClause with
  | bracketed bracketed =>
    rw [(unwrap?_clause_eq_some_iff _ _).mpr ⟨_, bracketed, rfl⟩]
    rfl
  | plain plain =>
    cases unwrapped : unwrap? .clause (trim filter) with
    | none => rfl
    | some inner =>
      obtain ⟨body, bracketed, _⟩ := (unwrap?_clause_eq_some_iff _ _).mp unwrapped
      exact absurd bracketed (plain body)

theorem length_splitOn (separator : Char) (text : List Char) :
    (text.splitOn separator).length = text.count separator + 1 := by
  induction text with
  | nil => rfl
  | cons character rest inductionHypothesis =>
    rw [List.splitOn_cons_eq_if_modifyHead, List.count_cons]
    split_ifs
    · rw [List.length_cons, inductionHypothesis]
    · rw [List.length_modifyHead, inductionHypothesis, Nat.add_zero]

/-- A body with two pipes falls into three parts. -/
theorem exists_enclosed {text body : List Char} (braced : trim text = '{' :: body ++ ['}'])
    (two : body.count '|' = 2) : ∃ filter sortKey count, Enclosed text filter sortKey count := by
  obtain ⟨filter, sortKey, count, split⟩ :=
    List.length_eq_three.mp ((length_splitOn '|' body).trans (congrArg (· + 1) two))
  obtain ⟨rfl, filterFree, sortKeyFree, countFree⟩ := (splitOn_eq_three_iff ..).mp split
  exact ⟨filter, sortKey, count, braced, filterFree, sortKeyFree, countFree⟩

/-- Something becomes of every text. -/
theorem exists_outcome (text : List Char) : ∃ result, Outcome text result := by
  by_cases braced : ∃ body, trim text = '{' :: body ++ ['}']
  · obtain ⟨body, braced⟩ := braced
    by_cases two : body.count '|' = 2
    · obtain ⟨filter, sortKey, count, enclosed⟩ := exists_enclosed braced two
      by_cases valid : IsCount (trim count)
      · obtain ⟨clause, clauseOf⟩ := exists_clauseOf (trim filter)
        exact ⟨_, .filter enclosed valid clauseOf⟩
      · exact ⟨_, .count enclosed valid⟩
    · exact ⟨_, .parts braced two⟩
  · exact ⟨_, .unbraced (not_exists.mp braced)⟩

/-- What becomes of a text is how it is read. -/
theorem Outcome.read_eq {text : List Char} {result : Except FormatError Expression}
    (outcome : Outcome text result) : read text = result := by
  cases outcome with
  | unbraced unbraced =>
    have noBody : body? (trim text) = none :=
      Option.eq_none_iff_forall_ne_some.mpr fun body found =>
        unbraced body ((body?_eq_some_iff _ body).mp found)
    rw [read, noBody]
  | @parts body braced pipes =>
    rw [read, (body?_eq_some_iff _ body).mpr braced]
    dsimp only
    have parts : ((body.splitOn '|').map trim).length = body.count '|' + 1 := by
      rw [List.length_map, length_splitOn]
    split
    · rename_i three
      rw [three] at parts
      exact absurd (Nat.succ.inj parts).symm pipes
    · rw [parts]
  | count enclosed invalid =>
    rw [read_of_enclosed enclosed, readParts, readCount_of_not_isCount invalid]
    rfl
  | filter enclosed valid clauseOf =>
    rw [read_of_enclosed enclosed, readParts, readCount_of_isCount valid, clauseOf.eq_clauseOf,
      Filter.parse, String.toList_ofList]
    cases Filter.read (Filter.nestingLimit + 1) .clause _ <;> rfl

/-- A filter that is read after the count gives no fault of the envelope. -/
theorem map_parse_ne_error {clause : String} {wrap : Filter → Expression} {fault : FormatError}
    (ofEnvelope : fault.ofEnvelope = true) : (Filter.parse clause).map wrap ≠ .error fault := by
  intro failed
  have spared := (Filter.sparesEnvelope_read _ _ _).map wrap fault (congrArg faultOf failed)
  rw [ofEnvelope] at spared
  cases spared

/-- A fault of the envelope is one that the text has. -/
theorem Outcome.fault_cases {text : List Char} {fault : FormatError}
    (outcome : Outcome text (.error fault)) (ofEnvelope : fault.ofEnvelope = true) :
    ((∀ body, trim text ≠ '{' :: body ++ ['}']) ∧
        fault = .missingBraces (String.ofList (trim text))) ∨
      (∃ body, trim text = '{' :: body ++ ['}'] ∧ body.count '|' ≠ 2 ∧
        fault = .partCount (body.count '|' + 1)) ∨
      ∃ filter sortKey count, Enclosed text filter sortKey count ∧ ¬IsCount (trim count) ∧
        fault = .invalidCount (String.ofList (trim count)) := by
  generalize failed : (.error fault : Except FormatError Expression) = result at outcome
  cases outcome with
  | unbraced unbraced => exact .inl ⟨unbraced, Except.error.inj failed⟩
  | parts braced pipes => exact .inr (.inl ⟨_, braced, pipes, Except.error.inj failed⟩)
  | count enclosed invalid =>
    exact .inr (.inr ⟨_, _, _, enclosed, invalid, Except.error.inj failed⟩)
  | filter => exact absurd failed.symm (map_parse_ne_error ofEnvelope)

/-- Every text has exactly one outcome, and it is how the text is read: the braces, the
pipes, the count and the filter are looked at in this order. In particular each fault of
the envelope is found exactly where the text has it and none before it. -/
theorem parse_outcome (text : String) :
    (∀ result, parse text = result ↔ Outcome text.toList result) ∧
      (∀ carried, parse text = .error (.missingBraces carried) ↔
        (∀ body, trim text.toList ≠ '{' :: body ++ ['}']) ∧ carried = trimmed text) ∧
      (∀ found, parse text = .error (.partCount found) ↔
        ∃ body, trim text.toList = '{' :: body ++ ['}'] ∧ body.count '|' ≠ 2 ∧
          found = body.count '|' + 1) ∧
      ∀ carried, parse text = .error (.invalidCount carried) ↔
        ∃ filter sortKey count, Enclosed text.toList filter sortKey count ∧
          ¬IsCount (trim count) ∧ carried = String.ofList (trim count) := by
  have outcome_iff (result : Except FormatError Expression) :
      parse text = result ↔ Outcome text.toList result := by
    refine ⟨fun parsed => ?_, Outcome.read_eq⟩
    obtain ⟨other, outcome⟩ := exists_outcome text.toList
    rwa [← parsed, parse, outcome.read_eq]
  refine ⟨outcome_iff, fun carried => ?_, fun found => ?_, fun carried => ?_⟩ <;> rw [outcome_iff]
  · constructor
    · intro outcome
      rcases outcome.fault_cases rfl with ⟨unbraced, same⟩ | ⟨_, _, _, same⟩ | ⟨_, _, _, _, _, same⟩
      · exact ⟨unbraced, FormatError.missingBraces.inj same⟩
      all_goals cases same
    · rintro ⟨unbraced, rfl⟩
      exact .unbraced unbraced
  · constructor
    · intro outcome
      rcases outcome.fault_cases rfl with ⟨_, same⟩ | ⟨body, braced, pipes, same⟩ |
        ⟨_, _, _, _, _, same⟩
      · cases same
      · exact ⟨body, braced, pipes, FormatError.partCount.inj same⟩
      · cases same
    · rintro ⟨body, braced, pipes, rfl⟩
      exact .parts braced pipes
  · constructor
    · intro outcome
      rcases outcome.fault_cases rfl with ⟨_, same⟩ | ⟨_, _, _, same⟩ |
        ⟨filter, sortKey, count, enclosed, invalid, same⟩
      · cases same
      · cases same
      · exact ⟨filter, sortKey, count, enclosed, invalid, FormatError.invalidCount.inj same⟩
    · rintro ⟨filter, sortKey, count, enclosed, invalid, rfl⟩
      exact .count enclosed invalid

/-- One brace does not open and close a body. -/
example : parse "\x7b" = .error (.missingBraces "\x7b") := rfl

/-- The first count that does not fit, with a zero in front, after a filter without a colon. -/
example : parse "\x7bx | added | 018446744073709551616\x7d" =
    .error (.invalidCount "018446744073709551616") := rfl

end Expression

end PlaylistRules
