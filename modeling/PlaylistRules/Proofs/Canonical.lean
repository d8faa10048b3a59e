/-
This file settles which expressions survive being written and read again. Legible text
within the levels there are is read back; here the converse is proved. If the written
text is read as the filter at all, nothing was unwrapped that was written without
delimiters, and every list fell apart into the very texts of its members. So legibility
is not only enough but what it takes.
-/

import PlaylistRules.Proofs.Anchoring

namespace PlaylistRules

open Number Text

namespace Filter

/-! ### Legible because it was read -/

section

variable {style : Bracketing} {filter : Filter} {levels : Nat}

/-- If delimiters come off the whole written text, then what was inside them is not read as
the filter. -/
theorem ReadShape.not_unwrapped (shape : ReadShape style filter) {inner : List Char}
    (wrapped : unwrap? style (write style filter) = some inner) :
    read levels style inner ≠ .ok filter := by
  intro parsed
  obtain ⟨body, split, _, rfl⟩ := (unwrap?_eq_some_iff _ _ _).mp wrapped
  obtain ⟨lead, trail, bodySplit, leadBlank, trailBlank⟩ := exists_eq_trim body
  have overlay : Overlay [] (style.opener :: (lead ++ trim body ++ trail) ++ [style.closer]) [] []
      (write style filter) [] := by
    rw [← bodySplit, ← split]
    exact Overlay.self shape.solid.trimmed
  obtain ⟨depth, atFront, _⟩ :=
    located shape (overlay.unwrapped leadBlank trailBlank (trim_trim body)) parsed
  simp at atFront

/-- A written text that is read as the filter is read without unwrapping it. -/
theorem ReadShape.reading (shape : ReadShape style filter)
    (parsed : read levels style (write style filter) = .ok filter) :
    ∃ below, Reading (read below) style (write style filter) filter ∧
      ∀ inner, unwrap? style (write style filter) = some inner →
        read below style inner ≠ .ok filter := by
  cases levels with
  | zero => cases parsed
  | succ below =>
    have reading := ((read_eq_ok_iff below style _ filter).mp parsed).2
    rw [shape.solid.trimmed] at reading
    exact ⟨below, reading, fun inner wrapped => shape.not_unwrapped wrapped⟩

/-- A member that is read back stands in its own delimiters, if it is a list. -/
theorem ReadShape.legibleInside (shape : ReadShape style filter)
    (legible : ∀ {levels : Nat}, read levels style (write style filter) = .ok filter →
      filter.Legible style)
    (parsed : read levels style (writeInside style filter) = .ok filter) :
    filter.LegibleInside style := by
  unfold writeInside at parsed
  cases compound : filter.isCompound with
  | false =>
    rw [compound] at parsed
    exact ⟨fun isCompound => absurd (compound.symm.trans isCompound) (by decide), legible parsed⟩
  | true =>
    rw [compound] at parsed
    cases levels with
    | zero => cases parsed
    | succ levels =>
      have reading := ((read_eq_ok_iff levels style _ filter).mp parsed).2
      have solid : Solid (delimited style true (write style filter)) :=
        Solid.enclose style (write style filter)
      rw [solid.trimmed] at reading
      have overlay : Overlay [] (delimited style true (write style filter)) []
          (List.replicate 1 style.opener) (write style filter)
          (List.replicate 1 style.closer) := by
        refine ⟨solid.trimmed, frontEdge_nil, backEdge_nil, allOpeners_replicate style 1,
          allClosers_replicate style 1, ?_⟩
        rw [List.nil_append, List.append_nil]
        rfl
      rcases anchored shape overlay reading with ⟨inner, undivided, wrapped, inside⟩ | ⟨none, _⟩
      · obtain ⟨body, split, _, trimmed⟩ := (unwrap?_eq_some_iff _ _ _).mp wrapped
        have same : write style filter = body :=
          (List.append_inj' (List.cons.inj split).2 rfl).1
        rw [← same, shape.solid.trimmed] at trimmed
        rw [← trimmed] at wrapped inside
        exact ⟨fun _ => ⟨undivided, wrapped⟩, legible inside⟩
      · cases none

end

/-- A written list that is read piece by piece as its members falls apart into their texts,
and they are legible. -/
theorem legible_members {operator : Operator} {style : Bracketing} {levels : Nat}
    {children : List Filter} (two : 2 ≤ children.length)
    (shapes : ∀ child ∈ children, ReadShape style child)
    (legible : ∀ child ∈ children, ∀ {levels : Nat},
      read levels style (write style child) = .ok child → child.Legible style)
    (each : List.Forall₂ (fun piece child => read levels style piece = .ok child)
      (pieces style operator.word (joined operator.separator (children.map (writeInside style))))
      children)
    (trimmed : trim (joined operator.separator (children.map (writeInside style))) =
      joined operator.separator (children.map (writeInside style))) :
    pieces style operator.word (joined operator.separator (children.map (writeInside style))) =
        children.map (writeInside style) ∧
      ∀ child ∈ children, child.LegibleInside style := by
  have nonempty : children ≠ [] := List.ne_nil_of_length_pos (Nat.lt_of_lt_of_le Nat.two_pos two)
  obtain ⟨aligned, _⟩ := aligned_of_pieces nonempty each (Overlay.self trimmed)
  have same : pieces style operator.word
      (joined operator.separator (children.map (writeInside style))) =
      children.map (writeInside style) := by
    rw [pieces_eq_flatMap, aligned.flatMap_pieceOf]
    refine aligned.map_trim rfl (by decide) fun text member => ?_
    obtain ⟨child, inChildren, rfl⟩ := List.mem_map.mp member
    exact (shapes child inChildren).solid.inside.trimmed
  rw [same, List.forall₂_map_left_iff, List.forall₂_same] at each
  exact ⟨same, fun child member =>
    ReadShape.legibleInside (shapes child member) (legible child member) (each child member)⟩

/-- No text is written for an infinite rating that is read as a rating again. -/
theorem isFinite_of_leafReading {readValue : Field → List Char → Except FormatError Filter}
    {comparison : Comparison} {value : Binary64} (allowed : ReadRating value)
    (reading : LeafReading readValue (write .clause (.rating comparison value))
      (.rating comparison value)) : value.isFinite = true := by
  by_contra infinite
  have written : write .clause (.rating comparison value) =
      comparisonText "rating".toList comparison "inf".toList := by
    rw [← plainText_of_infinite allowed (Bool.not_eq_true _ ▸ infinite)]
    rfl
  cases reading with
  | rating colon _ found =>
    rw [written, splitColon?_comparisonText (by decide), Option.some.injEq, Prod.mk.injEq] at colon
    rw [← colon.2] at found
    have noNumber :
        comparison? rating? (trim (comparison.symbol.toList ++ "inf".toList)) = none := by
      cases comparison <;> rfl
    rw [noNumber] at found
    cases found

/-- A filter whose written text is read as the filter is legible. -/
theorem ReadShape.legible {style : Bracketing} {filter : Filter} {levels : Nat}
    (shape : ReadShape style filter)
    (parsed : read levels style (write style filter) = .ok filter) : filter.Legible style := by
  induction shape generalizing levels with
  | @all style children two shapes inductionHypothesis =>
    have shape : ReadShape style (.all children) := .all two shapes
    obtain ⟨below, reading, bare⟩ := shape.reading parsed
    cases reading with
    | all _ each =>
      have trimmed := shape.solid.trimmed
      rw [write_all] at each trimmed
      rw [legible_all, write_all]
      exact legible_members two shapes inductionHypothesis each trimmed
    | unwrapped _ _ wrapped inside => exact absurd inside (bare _ wrapped)
    | leaf _ _ _ inside => cases inside
  | @any style children two shapes inductionHypothesis =>
    have shape : ReadShape style (.any children) := .any two shapes
    obtain ⟨below, reading, bare⟩ := shape.reading parsed
    cases reading with
    | any noAnd _ each =>
      have trimmed := shape.solid.trimmed
      rw [write_any] at noAnd each trimmed
      rw [legible_any, write_any]
      exact ⟨noAnd, legible_members two shapes inductionHypothesis each trimmed⟩
    | unwrapped _ _ wrapped inside => exact absurd inside (bare _ wrapped)
    | leaf _ _ _ inside => cases inside
  | @not style inner innerShape inductionHypothesis =>
    have shape : ReadShape style (.not inner) := .not innerShape
    obtain ⟨below, reading, bare⟩ := shape.reading parsed
    cases reading with
    | not undivided negated inside =>
      have written : afterNot? (write style (.not inner)) = some (writeInside style inner) :=
        afterNot?_written (ReadShape.solid innerShape).inside.trimmed
      rw [written, Option.some.injEq] at negated
      rw [← negated] at inside
      rw [legible_not]
      exact ⟨undivided, ReadShape.legibleInside innerShape inductionHypothesis inside⟩
    | unwrapped _ _ wrapped inside => exact absurd inside (bare _ wrapped)
    | leaf _ _ _ inside => cases inside
  | @group field value valueShape inductionHypothesis =>
    have shape : ReadShape .clause (.group field value) := .group valueShape
    obtain ⟨below, reading, bare⟩ := shape.reading parsed
    cases reading with
    | unwrapped _ _ wrapped inside => exact absurd inside (bare _ wrapped)
    | leaf undivided _ _ inside =>
      have parsedLeaf := (readLeaf_eq_ok_iff _ _ _).mpr inside
      rw [write_group, readLeaf_group, (ReadShape.solid valueShape).inside.trimmed,
        map_eq_ok_iff] at parsedLeaf
      obtain ⟨_, parsedValue, same⟩ := parsedLeaf
      obtain ⟨_, rfl⟩ := Filter.group.inj same
      rw [legible_group]
      exact ⟨undivided, ReadShape.legibleInside valueShape inductionHypothesis parsedValue⟩
  | term => trivial
  | runtime => trivial
  | released => trivial
  | rating allowed =>
    obtain ⟨below, reading, bare⟩ := ReadShape.reading (.rating allowed) parsed
    cases reading with
    | unwrapped _ _ wrapped inside => exact absurd inside (bare _ wrapped)
    | leaf _ _ _ inside => exact isFinite_of_leafReading allowed inside
  | watched => trivial

/-- A written text is read as the filter exactly when the filter is legible and there are
levels enough. -/
theorem read_write_eq_ok_iff {style : Bracketing} {filter : Filter}
    (shape : ReadShape style filter) (levels : Nat) :
    read levels style (write style filter) = .ok filter ↔
      filter.Legible style ∧ filter.cost < levels := by
  constructor
  · intro parsed
    have legible := shape.legible parsed
    rw [read_write shape legible] at parsed
    by_contra short
    rw [withinLevels_of_not_lt fun enough => short ⟨legible, enough⟩] at parsed
    cases parsed
  · rintro ⟨legible, enough⟩
    rw [read_write shape legible, withinLevels_of_lt enough]

end Filter

/-! ### Canonical expressions -/

theorem Expression.bounds_of_readCount {text : List Char} {count : Nat}
    (parsed : readCount text = .ok count) : count < 2 ^ 64 := by
  unfold readCount at parsed
  split at parsed
  · rename_i natural
    rw [Bool.and_eq_true, decide_eq_true_eq] at natural
    exact Except.ok.inj parsed ▸ natural.2
  · cases parsed

/-- The text of an expression that was read is read as the same expression exactly when its
filter is legible, no square brackets come off the whole of the filter's text, and the
delimiters that were added do not take more levels than there are. -/
theorem parse_text_iff (text : String) (expression : Expression)
    (parsed : Expression.parse text = .ok expression) :
    Expression.parse expression.text = .ok expression ↔
      expression.filter.Legible .clause ∧
        unwrap? .clause (Filter.write .clause expression.filter) = none ∧
        expression.filter.cost ≤ Filter.nestingLimit := by
  obtain ⟨filter, sortKey, count, enclosed, parts⟩ := Expression.exists_enclosed_of_read parsed
  obtain ⟨countParsed, filterParsed, sameKey⟩ :=
    (Expression.readParts_eq_ok_iff filter sortKey count expression).mp parts
  obtain ⟨shaped, _⟩ := Filter.read_shaped _ filterParsed
  have shape : Filter.ReadShape .clause expression.filter :=
    shaped.mono (fun _ _ term => term.1) fun _ rating => rating
  have filterFree : '|' ∉ Filter.write .clause expression.filter :=
    Filter.pipe_not_mem_write (fun _ _ term pipe =>
      enclosed.filterFree ((Expression.clauseOf_isInfix filter).subset (term.2.subset pipe))) shaped
  have sortKeyFree : '|' ∉ expression.sortKey.toList := by
    rw [← sameKey, String.toList_ofList]
    exact fun pipe => enclosed.sortKeyFree ((trim_isInfix sortKey).subset pipe)
  have sortKeyTrimmed : trimmed expression.sortKey = expression.sortKey := by
    rw [← sameKey, trimmed, String.toList_ofList, trim_trim]
  rw [Expression.parse_text expression filterFree shape.solid.trimmed sortKeyFree sortKeyTrimmed
    (Expression.bounds_of_readCount countParsed), map_eq_ok_iff]
  have sameFilter (other : Filter) :
      (⟨other, expression.sortKey, expression.count⟩ : Expression) = expression ↔
        other = expression.filter :=
    ⟨fun same => congrArg Expression.filter same, fun same => by rw [same]⟩
  simp only [sameFilter, exists_eq_right]
  cases wrapped : unwrap? .clause (Filter.write .clause expression.filter) with
  | some inner =>
    refine iff_of_false (shape.not_unwrapped wrapped) ?_
    rintro ⟨_, none, _⟩
    cases none
  | none =>
    rw [Option.getD_none, Filter.read_write_eq_ok_iff shape, Nat.lt_succ_iff]
    simp

/-- A term with a stray square bracket is written legibly next to a list. -/
theorem parse_text_stray_bracket :
    let text := "\x7bgenre:a] AND language:en OR language:fr | added | 3\x7d"
    let french : Filter := .group .language (.term .language "fr")
    let expression : Expression :=
      ⟨.all [.group .genre (.term .genre "a]"),
        .any [.group .language (.term .language "en"), french]], "added", 3⟩
    Expression.parse text = .ok expression ∧
      Expression.parse expression.text = .ok expression := by
  refine ⟨rfl, (parse_text_iff "\x7bgenre:a] AND language:en OR language:fr | added | 3\x7d"
    _ rfl).mpr ⟨by decide, by decide, by decide⟩⟩

/-- A stray parenthesis closes the delimiters around a list too early, so that the text of an
expression is not always read as the expression again. -/
theorem not_parse_text_stray_parenthesis :
    ¬ ∀ (text : String) (expression : Expression), Expression.parse text = .ok expression →
      Expression.parse expression.text = .ok expression := by
  intro faithful
  have again := faithful "\x7bgenre:Drama) OR genre:Crime AND type:Movie | rating | 5\x7d" _ rfl
  have fault : Expression.parse
      "\x7b[genre:Drama) OR genre:Crime] AND type:Movie | rating | 5\x7d" =
        .error (.unknownKind "[genre" (some "genre")) := rfl
  exact absurd (fault.symm.trans again) (by simp)

end PlaylistRules
