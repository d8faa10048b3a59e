/-
This file says where the texts come from that reading hands out. The terms and the sort
key of an expression that is read are parts of its text. A fault carries parts of the
text too, and at most one text more: a known kind, as the suggestion for an unknown one.
-/

import PlaylistRules.Proofs.Descent
import PlaylistRules.Proofs.Outcomes

namespace PlaylistRules

open Number Text

/-- The texts that a fault carries. -/
def FormatError.texts : FormatError → List String
  | missingBraces expression => [expression]
  | invalidCount value => [value]
  | missingColon clause => [clause]
  | unknownKind kind suggestion => kind :: suggestion.toList
  | invalidComparison kind value => [kind, value]
  | invalidBoolean value => [value]
  | partCount _ => []
  | emptyFilter => []
  | emptyTerm _ => []
  | tooDeep _ => []

namespace Filter

/-! ### Suggestions -/

theorem mem_of_closestKind {kind : List Char} {kinds : List String} {closest : String} {least : Nat}
    (found : closestKind kind kinds = some (closest, least)) : closest ∈ kinds := by
  induction kinds generalizing closest least with
  | nil => cases found
  | cons known rest inductionHypothesis =>
    rw [closestKind] at found
    cases others : closestKind kind rest with
    | none =>
      rw [others] at found
      cases found
      exact List.mem_cons_self
    | some best =>
      obtain ⟨other, distance⟩ := best
      rw [others] at found
      dsimp only at found
      split at found <;> cases found
      · exact List.mem_cons_of_mem _ (inductionHypothesis others)
      · exact List.mem_cons_self

/-- What is suggested is a known kind. -/
theorem mem_knownKinds_of_suggestion? {kind suggested : String}
    (found : suggestion? kind = some suggested) : suggested ∈ knownKinds := by
  unfold suggestion? at found
  split at found
  case h_1 closest =>
    split at found <;> cases found
    exact mem_of_closestKind closest
  case h_2 => cases found

/-! ### Faults of filters -/

/-- A part of the text, or a known kind. -/
def IsPartOrKind (text : List Char) (carried : String) : Prop :=
  carried.toList <:+: text ∨ carried ∈ knownKinds

theorem IsPartOrKind.of_isInfix {part text : List Char} {carried : String}
    (partOrKind : IsPartOrKind part carried) (inside : part <:+: text) :
    IsPartOrKind text carried :=
  partOrKind.imp_left fun inPart => inPart.trans inside

theorem isPartOrKind_ofList {part text : List Char} (inside : part <:+: text) :
    IsPartOrKind text (String.ofList part) :=
  .inl (by rwa [String.toList_ofList])

theorem OwnFault.isPartOrKind {style : Bracketing} {text : List Char} {fault : FormatError}
    (own : OwnFault style text fault) : ∀ carried ∈ fault.texts, IsPartOrKind text carried := by
  have kindPart {before after : List Char} (colon : splitColon? text = some (before, after)) :
      IsPartOrKind text (String.ofList (trim before)) := by
    obtain ⟨split, -⟩ := (splitColon?_eq_some_iff _ _ _).mp colon
    exact isPartOrKind_ofList
      ((trim_isInfix before).trans (split ▸ (List.prefix_append _ _).isInfix))
  cases own with
  | empty => cases style <;> exact List.forall_mem_nil _
  | noColon => exact List.forall_mem_singleton.mpr (isPartOrKind_ofList (List.infix_refl text))
  | kind colon =>
    refine List.forall_mem_cons.mpr ⟨kindPart colon, fun suggested member => .inr ?_⟩
    exact mem_knownKinds_of_suggestion? (Option.mem_toList.mp member)
  | comparison colon =>
    exact List.forall_mem_cons.mpr ⟨kindPart colon,
      List.forall_mem_singleton.mpr (isPartOrKind_ofList (splitColon?_isInfix colon))⟩
  | boolean colon =>
    exact List.forall_mem_singleton.mpr (isPartOrKind_ofList (splitColon?_isInfix colon))

/-- The fault of a filter carries parts of its text and known kinds only. -/
theorem isPartOrKind_of_read {levels : Nat} {style : Bracketing} {text : List Char}
    {fault : FormatError} (failed : faultOf (read levels style text) = some fault) :
    ∀ carried ∈ fault.texts, IsPartOrKind text carried := by
  induction levels generalizing style text with
  | zero =>
    cases failed
    exact List.forall_mem_nil _
  | succ levels inductionHypothesis =>
    rw [read_succ] at failed
    intro carried member
    refine IsPartOrKind.of_isInfix ?_ (trim_isInfix text)
    rcases fault_of_readStep failed with own | ⟨other, part, handsOn, below⟩
    · exact own.isPartOrKind carried member
    · exact (inductionHypothesis below carried member).of_isInfix handsOn.isInfix

end Filter

namespace Expression

/-! ### Expressions -/

section

variable {text filter sortKey count : List Char} (enclosed : Enclosed text filter sortKey count)

include enclosed

theorem Enclosed.sortKey_isInfix : sortKey <:+: text := by
  refine List.IsInfix.trans ⟨'{' :: (filter ++ ['|']), '|' :: count ++ ['}'], ?_⟩
    (trim_isInfix text)
  rw [enclosed.split]
  simp

theorem Enclosed.count_isInfix : count <:+: text := by
  refine List.IsInfix.trans ⟨'{' :: (filter ++ '|' :: (sortKey ++ ['|'])), ['}'], ?_⟩
    (trim_isInfix text)
  rw [enclosed.split]
  simp

end

/-- The clause of an expression is a part of its text. -/
theorem Enclosed.clause_isInfix {text filter sortKey count clause : List Char}
    (enclosed : Enclosed text filter sortKey count) (isClause : ClauseOf (trim filter) clause) :
    clause <:+: text := by
  rw [← isClause.eq_clauseOf]
  exact (clauseOf_isInfix filter).trans enclosed.filter_isInfix

/-- The fault of an expression carries parts of its text and known kinds only. -/
theorem isPartOrKind_of_parse {text : String} {fault : FormatError}
    (failed : parse text = .error fault) :
    ∀ carried ∈ fault.texts, Filter.IsPartOrKind text.toList carried := by
  obtain ⟨result, outcome⟩ := exists_outcome text.toList
  rw [parse, outcome.read_eq] at failed
  subst failed
  generalize same : (.error fault : Except FormatError Expression) = result at outcome
  cases outcome with
  | unbraced =>
    cases same
    exact List.forall_mem_singleton.mpr (Filter.isPartOrKind_ofList (trim_isInfix _))
  | parts =>
    cases same
    exact List.forall_mem_nil _
  | @count _ _ count enclosed =>
    cases same
    exact List.forall_mem_singleton.mpr
      (Filter.isPartOrKind_ofList ((trim_isInfix count).trans enclosed.count_isInfix))
  | @filter _ _ _ clause enclosed _ isClause =>
    have below : faultOf (Filter.parse (String.ofList clause)) = some fault :=
      (faultOf_map _ _).symm.trans (congrArg faultOf same).symm
    rw [Filter.parse, String.toList_ofList] at below
    exact fun carried member => (Filter.isPartOrKind_of_read below carried member).of_isInfix
      (enclosed.clause_isInfix isClause)

/-- The terms and the sort key of an expression that is read are parts of its text. -/
theorem isInfix_of_parse {text : String} {expression : Expression}
    (parsed : parse text = .ok expression) :
    expression.filter.Shaped (fun _ term => term.toList <:+: text.toList) Filter.ReadRating
      .clause ∧ expression.sortKey.toList <:+: text.toList := by
  obtain ⟨filter, sortKey, count, enclosed, parts⟩ := exists_enclosed_of_read parsed
  obtain ⟨-, read, key⟩ := (readParts_eq_ok_iff filter sortKey count expression).mp parts
  obtain ⟨shaped, -⟩ := Filter.read_shaped _ read
  constructor
  · refine shaped.mono (fun _ term bare => ?_) fun _ rating => rating
    exact bare.2.trans ((clauseOf_isInfix filter).trans enclosed.filter_isInfix)
  · rw [← key, String.toList_ofList]
    exact (trim_isInfix sortKey).trans enclosed.sortKey_isInfix

end Expression

end PlaylistRules
