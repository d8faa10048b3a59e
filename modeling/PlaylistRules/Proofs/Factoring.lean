/-
This file proves that an operator means the same inside the group of a field as between
groups of that field: `genre:((a) AND (b))` holds of the records of which
`genre:(a) AND genre:(b)` holds, and so for OR and NOT. The two grammars cut balanced
values at the same places, so the same values are read on either side; inside a single
group they stand one level deeper.
-/

import PlaylistRules.Proofs.Nesting
import PlaylistRules.Proofs.RoundTrip
import PlaylistRules.Proofs.Answers

namespace PlaylistRules

open Text

/-- The filter of a list of children under an operator. -/
def Operator.combine : Operator → List Filter → Filter
  | and => .all
  | or => .any

namespace Filter

/-! ### Evaluation -/

/-- A group of a list holds of the same records as the list of the groups. -/
theorem evaluate_group_combine (record : Record) (operator : Operator) (field : Field)
    (values : List Filter) :
    (group field (operator.combine values)).evaluate record =
      (operator.combine (values.map (group field))).evaluate record := by
  cases operator <;> simp [Operator.combine, List.all_map, List.any_map, Function.comp_def]

/-! ### Reading tidy texts -/

section

variable {style : Bracketing}

theorem Tidy.read_negated {text : List Char} (tidy : Tidy style text) (levels : Nat) :
    read (levels + 1) style ("NOT ".toList ++ text) = not <$> read levels style text :=
  Filter.read_negated tidy.solid (undivided_of_uncut tidy.negated.uncut) levels

theorem Tidy.read_grouped {field : Field} {text : List Char} (tidy : Tidy (.value field) text)
    (levels : Nat) :
    read (levels + 1) .clause (field.keyword.toList ++ ':' :: text) =
      group field <$> read levels (.value field) text :=
  Filter.read_grouped tidy.solid (undivided_of_uncut tidy.grouped.uncut) levels

/-- Tidy texts with an operator between them are read one by one. -/
theorem read_joined {operator : Operator} {texts : List (List Char)} (two : 2 ≤ texts.length)
    (each : ∀ text ∈ texts, Tidy style text) (levels : Nat) :
    read (levels + 1) style (joined operator.separator texts) =
      operator.combine <$> texts.mapM (read levels style) := by
  have nonempty : texts ≠ [] := List.ne_nil_of_length_pos (by omega)
  have solid := Solid.joined operator.separator nonempty fun text member => (each text member).solid
  have fallsApart : pieces style operator.word (joined operator.separator texts) = texts :=
    pieces_joined each
  have several : 2 ≤ (pieces style operator.word (joined operator.separator texts)).length := by
    rwa [fallsApart]
  rw [read_succ, solid.trimmed]
  cases operator with
  | and => rw [readStep_of_two_at_and solid.nonempty several, fallsApart, Operator.combine]
  | or =>
    have uncut : Uncut style .and (joined Operator.or.separator texts) :=
      uncut_joined nonempty each (by decide)
    rw [readStep_of_two_at_or solid.nonempty (length_pieces_of_uncut style .and uncut) several,
      fallsApart, Operator.combine]

end

/-! ### The two grammars -/

/-- A value in parentheses. -/
def parenthesized (value : List Char) : List Char :=
  '(' :: value ++ [')']

/-- The text of a group whose value stands in parentheses. -/
def groupText (field : Field) (value : List Char) : List Char :=
  field.keyword.toList ++ ':' :: parenthesized value

section

variable {field : Field} {operator : Operator} {value : List Char} {values : List (List Char)}

theorem tidy_parenthesized (balanced : BothBalanced value) :
    Tidy (.value field) (parenthesized value) :=
  tidy_enclosed balanced (.value field)

theorem tidy_groupText (balanced : BothBalanced value) : Tidy .clause (groupText field value) :=
  (tidy_parenthesized balanced).grouped

theorem read_parenthesized (balanced : BothBalanced value) (levels : Nat) :
    read (levels + 1) (.value field) (parenthesized value) = read levels (.value field) value :=
  read_enclosed balanced (.value field) levels

/-- The value of a group in a clause is read two levels below the group. -/
theorem read_groupText (balanced : BothBalanced value) (levels : Nat) :
    read (levels + 2) .clause (groupText field value) =
      group field <$> read levels (.value field) value := by
  rw [groupText, (tidy_parenthesized balanced).read_grouped, read_parenthesized balanced]

/-- The values in a single group stand four levels below it. -/
theorem read_group_of_joined (two : 2 ≤ values.length)
    (balanced : ∀ value ∈ values, BothBalanced value) (levels : Nat) :
    read (levels + 4) .clause
        (groupText field (joined operator.separator (values.map parenthesized))) =
      (fun filters => group field (operator.combine filters)) <$>
        values.mapM (read levels (.value field)) := by
  have tidy : ∀ text ∈ values.map parenthesized, Tidy (.value field) text := by
    intro text member
    obtain ⟨value, inValues, rfl⟩ := List.mem_map.mp member
    exact tidy_parenthesized (balanced value inValues)
  have inside : BothBalanced (joined operator.separator (values.map parenthesized)) :=
    balanced_joined operator.separator_no_bracket fun text member => (tidy text member).balanced
  have each : values.mapM (read (levels + 1) (.value field) ∘ parenthesized) =
      values.mapM (read levels (.value field)) :=
    mapM_congr fun value member => read_parenthesized (balanced value member) levels
  rw [read_groupText inside, read_joined (by rwa [List.length_map]) tidy, List.mapM_map, each]
  cases values.mapM (read levels (.value field)) <;> rfl

/-- So does a value that is negated in the group. -/
theorem read_group_of_negated (balanced : BothBalanced value) (levels : Nat) :
    read (levels + 4) .clause (groupText field ("NOT ".toList ++ parenthesized value)) =
      (group field ∘ not) <$> read levels (.value field) value := by
  have tidy : Tidy (.value field) (parenthesized value) := tidy_parenthesized balanced
  rw [read_groupText tidy.negated.balanced, tidy.read_negated, read_parenthesized balanced]
  cases read levels (.value field) value <;> rfl

/-- Groups made of each of the values are the groups of all of them. -/
theorem mapM_group (attempt : List Char → Except FormatError Filter) :
    values.mapM (fun value => group field <$> attempt value) =
      List.map (group field) <$> values.mapM attempt := by
  induction values with
  | nil => rfl
  | cons value rest inductionHypothesis =>
    rw [List.mapM_cons, List.mapM_cons, inductionHypothesis]
    cases attempt value with
    | error fault => rfl
    | ok filter => cases rest.mapM attempt <;> rfl

/-- The values in groups of their own stand three levels below the list of the groups. -/
theorem read_joined_groups (two : 2 ≤ values.length)
    (balanced : ∀ value ∈ values, BothBalanced value) (levels : Nat) :
    read (levels + 3) .clause (joined operator.separator (values.map (groupText field))) =
      (fun filters => operator.combine (filters.map (group field))) <$>
        values.mapM (read levels (.value field)) := by
  have tidy : ∀ text ∈ values.map (groupText field), Tidy .clause text := by
    intro text member
    obtain ⟨value, inValues, rfl⟩ := List.mem_map.mp member
    exact tidy_groupText (balanced value inValues)
  have each : values.mapM (read (levels + 2) .clause ∘ groupText field) =
      values.mapM (fun value => group field <$> read levels (.value field) value) :=
    mapM_congr fun value member => read_groupText (balanced value member) levels
  rw [read_joined (by rwa [List.length_map]) tidy, List.mapM_map, each, mapM_group]
  cases values.mapM (read levels (.value field)) <;> rfl

/-- So does a value whose group is negated. -/
theorem read_negated_group (balanced : BothBalanced value) (levels : Nat) :
    read (levels + 3) .clause ("NOT ".toList ++ groupText field value) =
      (not ∘ group field) <$> read levels (.value field) value := by
  rw [(tidy_groupText balanced).read_negated, read_groupText balanced]
  cases read levels (.value field) value <;> rfl

theorem joined_pair (first second : List Char) :
    joined operator.separator [first, second] = first ++ operator.separator ++ second := by
  rw [joined_cons_cons, joined_singleton, List.append_assoc]

end

/-! ### The same meaning -/

/-- Two readings mean the same: both have the same fault, or both give filters that hold
of the same records. Only the first may also be too deep on its own. -/
def MeansSame (deeper reading : Except FormatError Filter) : Prop :=
  deeper = .error (.tooDeep nestingLimit) ∨
  (∃ fault, deeper = .error fault ∧ reading = .error fault) ∨
  ∃ inside outside, deeper = .ok inside ∧ reading = .ok outside ∧
    ∀ record, inside.evaluate record = outside.evaluate record

/-- Filters that hold of the same records mean the same if one is made of what is read at a
depth and the other of what is read above it. -/
theorem IsLimited.meansSame {Output : Type} {limited full : Except FormatError Output}
    (limits : IsLimited limited full) {inside outside : Output → Filter}
    (same : ∀ output record, (inside output).evaluate record = (outside output).evaluate record) :
    MeansSame (inside <$> limited) (outside <$> full) := by
  rcases limits with rfl | rfl
  · cases limited with
    | error fault => exact .inr (.inl ⟨fault, rfl, rfl⟩)
    | ok output => exact .inr (.inr ⟨_, _, rfl, rfl, same output⟩)
  · exact .inl rfl

/-- An operator between values in a single group means what it means between groups, and
so does NOT. Only the text with the single group may be too deep on its own, since its
values stand one level deeper. -/
theorem operators_factor (field : Field) {first second : List Char}
    (firstBalanced : BothBalanced first) (secondBalanced : BothBalanced second) :
    (∀ operator : Operator, MeansSame
      (parse (String.ofList (groupText field
        (parenthesized first ++ operator.separator ++ parenthesized second))))
      (parse (String.ofList
        (groupText field first ++ operator.separator ++ groupText field second)))) ∧
    MeansSame
      (parse (String.ofList (groupText field ("NOT ".toList ++ parenthesized first))))
      (parse (String.ofList ("NOT ".toList ++ groupText field first))) := by
  refine ⟨fun operator => ?_, ?_⟩
  · have two : 2 ≤ [first, second].length := Nat.le_refl 2
    have balanced : ∀ value ∈ [first, second], BothBalanced value := by
      simp [firstBalanced, secondBalanced]
    have inside : parse (String.ofList (groupText field
        (parenthesized first ++ operator.separator ++ parenthesized second))) =
        (fun filters => group field (operator.combine filters)) <$>
          [first, second].mapM (read 61 (.value field)) := by
      rw [parse, String.toList_ofList, ← joined_pair]
      exact read_group_of_joined two balanced 61
    have outside : parse (String.ofList
        (groupText field first ++ operator.separator ++ groupText field second)) =
        (fun filters => operator.combine (filters.map (group field))) <$>
          [first, second].mapM (read 62 (.value field)) := by
      rw [parse, String.toList_ofList, ← joined_pair]
      exact read_joined_groups two balanced 62
    rw [inside, outside]
    exact (IsLimited.mapM (read_isLimited (by decide) _) _).meansSame
      fun filters record => evaluate_group_combine record operator field filters
  · have inside : parse (String.ofList (groupText field ("NOT ".toList ++ parenthesized first))) =
        (group field ∘ not) <$> read 61 (.value field) first := by
      rw [parse, String.toList_ofList]
      exact read_group_of_negated firstBalanced 61
    have outside : parse (String.ofList ("NOT ".toList ++ groupText field first)) =
        (not ∘ group field) <$> read 62 (.value field) first := by
      rw [parse, String.toList_ofList]
      exact read_negated_group firstBalanced 62
    rw [inside, outside]
    exact (read_isLimited (by decide) _ _).meansSame fun _ _ => rfl

/-- Values with brackets of both shapes, operators and a colon. -/
theorem operators_factor_nested :
    let first := "a [x: OR] OR (b AND c)".toList
    let second := "NOT d".toList
    BothBalanced first ∧ BothBalanced second ∧
      MeansSame (parse "genre:((a [x: OR] OR (b AND c)) AND (NOT d))")
        (parse "genre:(a [x: OR] OR (b AND c)) AND genre:(NOT d)") ∧
      MeansSame (parse "genre:((a [x: OR] OR (b AND c)) OR (NOT d))")
        (parse "genre:(a [x: OR] OR (b AND c)) OR genre:(NOT d)") ∧
      MeansSame (parse "genre:(NOT (a [x: OR] OR (b AND c)))")
        (parse "NOT genre:(a [x: OR] OR (b AND c))") := by
  intro first second
  have firstBalanced : BothBalanced first := ⟨by decide, by decide⟩
  have secondBalanced : BothBalanced second := ⟨by decide, by decide⟩
  obtain ⟨joinedSame, negatedSame⟩ := operators_factor .genre firstBalanced secondBalanced
  exact ⟨firstBalanced, secondBalanced, joinedSame .and, joinedSame .or, negatedSame⟩

end Filter

end PlaylistRules
