/-
This file proves for every filter that a text which lies over its written text, is read
as the filter and is not unwrapped for that, is the written text itself. Each kind of
filter has something that holds the two texts together: a list has its operators, a
negation the middle letter of NOT, a leaf its colon, and a term can only be moved along
itself over brackets that do not stand there.
-/

import PlaylistRules.Proofs.Overlay

namespace PlaylistRules

open Text

section

variable {front text back openers written closers : List Char}

/-! ### Terms -/

/-- A text that is moved along itself gives up behind what it takes in in front. -/
theorem exists_shift {part rest other : List Char} (same : text ++ other = part ++ text ++ rest) :
    ∃ behind, other = behind ++ rest ∧ part.Perm behind := by
  rcases List.append_eq_append_iff.mp same with ⟨behind, shifted, found⟩ | ⟨behind, none, found⟩
  · refine ⟨behind, found, (List.perm_append_right_iff text).mp ?_⟩
    rw [shifted]
    exact List.perm_append_comm
  · have lengths := congrArg List.length none
    rw [List.length_append, List.length_append] at lengths
    have partNone : part = [] := List.eq_nil_of_length_eq_zero (by omega)
    have behindNone : behind = [] := List.eq_nil_of_length_eq_zero (by omega)
    rw [behindNone, List.nil_append] at found
    exact ⟨[], found.symm, partNone ▸ List.Perm.nil⟩

/-- A text that lies over itself lies on itself: otherwise it would be moved over brackets
that stand on the wrong side of it. -/
theorem Overlay.ends_of_term (overlay : Overlay front text back openers text closers) :
    front = openers ∧ back = closers := by
  have whole := overlay.same
  rw [List.append_assoc, List.append_assoc] at whole
  rcases List.append_eq_append_iff.mp whole with ⟨part, split, rest⟩ | ⟨part, split, rest⟩
  · obtain ⟨behind, backSplit, same⟩ := exists_shift (rest.trans (List.append_assoc ..).symm)
    cases behind with
    | nil =>
      rw [same.eq_nil, List.append_nil] at split
      exact ⟨split.symm, backSplit⟩
    | cons first behind =>
      have opening := overlay.opening first
        (split ▸ List.mem_append_right _ (same.mem_iff.mpr List.mem_cons_self))
      have edge := overlay.backEdge first (by rw [backSplit]; rfl)
      exact absurd opening (not_opens_of_edge edge)
  · obtain ⟨behind, closersSplit, same⟩ := exists_shift (rest.trans (List.append_assoc ..).symm)
    rcases List.eq_nil_or_concat' part with none | ⟨others, last, found⟩
    · rw [none, List.append_nil] at split
      rw [none] at same
      rw [same.nil_eq.symm, List.nil_append] at closersSplit
      exact ⟨split, closersSplit.symm⟩
    · have closing := overlay.closing last
        (closersSplit ▸ List.mem_append_left _ (same.mem_iff.mp (by simp [found])))
      have edge := overlay.frontEdge last (by rw [split, found]; simp)
      exact absurd closing (not_closes_of_edge edge)

/-! ### Lists -/

namespace Filter

/-- Segments are read as members. -/
def ReadEach (levels : Nat) (style : Bracketing) (segments : List (List Char))
    (children : List Filter) : Prop :=
  List.Forall₂ (fun segment child => read levels style (trim segment) = .ok child) segments children

/-- The pieces of a text in the place of a written list are aligned with its members. -/
theorem aligned_of_pieces {operator : Operator} {style : Bracketing} {levels : Nat}
    {children : List Filter} (nonempty : children ≠ [])
    (each : List.Forall₂ (fun piece child => read levels style piece = .ok child)
      (pieces style operator.word text) children)
    (overlay : Overlay front text back openers
      (joined operator.separator (children.map (writeInside style))) closers) :
    Aligned back closers front openers (segments style operator.word 0 true 0 text)
        (children.map (writeInside style)) ∧
      ReadEach levels style (segments style operator.word 0 true 0 text) children := by
  rw [pieces_eq_flatMap] at each
  have aligned : Aligned back closers front openers (segments style operator.word 0 true 0 text)
      (children.map (writeInside style)) := by
    refine (sliced_segments style operator 0 true text).aligned
      (operator.landmark.count_inside_le operator.landmark.count_write_le each) ?_
      (overlay.count_openers _) (overlay.count_closers _) overlay.same
    rwa [ne_eq, List.map_eq_nil_iff]
  rw [aligned.flatMap_pieceOf, List.forall₂_map_left_iff] at each
  exact ⟨aligned, each⟩

/-- The last of the segments that are aligned with members ends where the last member does. -/
theorem back_eq_of_aligned {style : Bracketing} {levels : Nat} {segments : List (List Char)}
    {children : List Filter} (backEdge : BackEdge back) (closing : AllClosers closers)
    (aligned : Aligned back closers [] [' '] segments (children.map (writeInside style)))
    (each : ReadEach levels style segments children)
    (located : ∀ child ∈ children, child.Located style) : back = closers := by
  induction each with
  | nil => cases aligned
  | @cons segment child segments children parsed _ inductionHypothesis =>
    generalize memberTexts : children.map (writeInside style) = texts at inductionHypothesis
    rw [List.map_cons, memberTexts] at aligned
    cases aligned with
    | cut _ _ others =>
      exact inductionHypothesis others fun other member =>
        located other (List.mem_cons_of_mem _ member)
    | last nonblank same =>
      obtain ⟨first, after, rfl⟩ : ∃ first after, segment = first :: after :=
        List.exists_cons_of_ne_nil fun none => nonblank (by rw [none]; rfl)
      obtain ⟨rfl, behind⟩ : first = ' ' ∧ after ++ back = writeInside style child ++ closers := by
        simpa using same
      rw [← List.singleton_append, trim_append_left (show AllBlank [' '] by decide)] at parsed
      exact (located child List.mem_cons_self).back_eq_of_tail backEdge closing parsed behind

/-- A text in the place of a written list that is read piece by piece lies on it. -/
theorem ends_of_pieces {operator : Operator} {style : Bracketing} {levels : Nat}
    {children : List Filter} (two : 2 ≤ children.length)
    (located : ∀ child ∈ children, child.Located style)
    (each : List.Forall₂ (fun piece child => read levels style piece = .ok child)
      (pieces style operator.word text) children)
    (overlay : Overlay front text back openers
      (joined operator.separator (children.map (writeInside style))) closers) :
    front = openers ∧ back = closers := by
  obtain ⟨first, second, rest, rfl⟩ : ∃ first second rest, children = first :: second :: rest := by
    match children, two with
    | first :: second :: rest, _ => exact ⟨first, second, rest, rfl⟩
  obtain ⟨aligned, readEach⟩ := aligned_of_pieces (List.cons_ne_nil _ _) each overlay
  generalize segments style operator.word 0 true 0 text = parts at aligned readEach
  cases aligned with
  | cut nonblank same others =>
    cases readEach with
    | cons parsed othersRead =>
      exact ⟨(located first List.mem_cons_self).front_eq_of_head overlay.frontEdge overlay.opening
          nonblank parsed same,
        back_eq_of_aligned overlay.backEdge overlay.closing others othersRead fun other member =>
          located other (List.mem_cons_of_mem _ member)⟩

/-! ### Negations -/

/-- A text in the place of a written negation that is read as one lies on it. -/
theorem ends_of_negation {style : Bracketing} {levels : Nat} {inner : Filter} {rest : List Char}
    (located : inner.Located style) (negated : afterNot? text = some rest)
    (parsed : read levels style rest = .ok inner)
    (overlay : Overlay front text back openers ("NOT ".toList ++ writeInside style inner) closers) :
    front = openers ∧ back = closers := by
  obtain ⟨word, blank, tail, rfl, letters, _, rfl⟩ := (afterNot?_eq_some_iff text rest).mp negated
  obtain ⟨first, second, third, rfl, found⟩ := Landmark.exists_not_eq letters
  have openersNone := overlay.count_openers .or
  have closersNone := overlay.count_closers .or
  have fewer := Landmark.or.count_write_le parsed
  have one := Landmark.count_pos_of_isAt found []
  have total := congrArg Landmark.or.count overlay.same
  have written : Landmark.or.count "NOT ".toList = 1 := by decide
  rw [Landmark.count_trim] at fewer
  simp only [Landmark.count_append, written, openersNone, closersNone, Landmark.count_writeInside]
    at total
  rw [Landmark.count_cons _ first [second, third], Landmark.count_cons _ second [third],
    Landmark.count_cons _ blank tail] at total
  have whole : front ++ [first] ++ second :: (third :: blank :: (tail ++ back)) =
      openers ++ ['N'] ++ 'O' :: ('T' :: ' ' :: (writeInside style inner ++ closers)) := by
    simpa using overlay.same
  obtain ⟨atFront, behind⟩ := Landmark.split_unique found (by decide) whole (by
    rw [Landmark.count_append, Landmark.count_append, openersNone,
      show Landmark.or.count ['N'] = 0 from rfl]
    omega)
  have tailSame : tail ++ back = writeInside style inner ++ closers :=
    (List.cons.inj (List.cons.inj behind).2).2
  exact ⟨(List.append_inj' atFront rfl).1,
    located.back_eq_of_tail overlay.backEdge overlay.closing parsed tailSame⟩

/-! ### Leaves -/

theorem lower_ne_nil (character : Char) : lower character ≠ [] := by
  unfold lower
  dsimp only
  split
  · exact List.cons_ne_nil _ _
  · split
    · exact List.cons_ne_nil _ _
    · split <;> exact List.cons_ne_nil _ _

/-- Lowering a text leaves no character out. -/
theorem length_le_lowercaseAfter (before text : List Char) :
    text.length ≤ (lowercaseAfter before text).length := by
  induction text generalizing before with
  | nil => exact Nat.zero_le _
  | cons character rest inductionHypothesis =>
    have others := inductionHypothesis (character :: before)
    have one := List.length_pos_of_ne_nil (lower_ne_nil character)
    rw [lowercaseAfter, List.length_append, List.length_cons]
    split
    · rw [List.length_singleton]
      omega
    · omega

/-- A kind that stands apart behind opening brackets begins where the written one does. -/
theorem front_eq_of_kind {before kind : List Char} (frontEdge : FrontEdge front)
    (opening : AllOpeners openers)
    (plain : ∀ character ∈ kind, isBlank character = false ∧ isBracket character = false)
    (lowered : lowercase (String.ofList (trim before)) = String.ofList kind)
    (same : front ++ before = openers ++ kind) : front = openers := by
  rcases List.append_eq_append_iff.mp same with ⟨part, split, rest⟩ | ⟨part, split, rest⟩
  · have nonblank : ∀ character ∈ before, isBlank character = false := by
      intro character member
      rw [rest] at member
      rcases List.mem_append.mp member with inPart | inKind
      · have opens := opening character (split ▸ List.mem_append_right _ inPart)
        exact Bool.eq_false_iff.mpr (not_isBlank_of_isBracket (isBracket_of_opens opens))
      · exact (plain character inKind).1
    have lengths := length_le_lowercaseAfter [] (trim before)
    have asList := String.ofList_injective lowered
    rw [String.toList_ofList] at asList
    rw [asList, trim_of_nonblank nonblank, rest, List.length_append] at lengths
    have none : part = [] := List.eq_nil_of_length_eq_zero (by omega)
    rw [split, none, List.append_nil]
  · rcases List.eq_nil_or_concat' part with none | ⟨others, last, found⟩
    · rw [split, none, List.append_nil]
    · obtain ⟨nonblank, noBracket⟩ := plain last (by rw [rest, found]; simp)
      rcases frontEdge last (by rw [split, found]; simp) with blank | opens
      · rw [nonblank] at blank
        cases blank
      · rw [isBracket_of_opens opens] at noBracket
        cases noBracket

/-- A text with a kind in the place of a written one: both have their colon in the same
place. -/
theorem colon_of_overlay {before after kind rest : List Char}
    (plain : ∀ character ∈ kind, isBlank character = false ∧ isBracket character = false)
    (kindNone : Landmark.colon.count kind = 0)
    (fewer : Landmark.colon.count rest ≤ Landmark.colon.count after)
    (colon : splitColon? text = some (before, after))
    (lowered : lowercase (String.ofList (trim before)) = String.ofList kind)
    (overlay : Overlay front text back openers (kind ++ ':' :: rest) closers) :
    front = openers ∧ after ++ back = rest ++ closers := by
  obtain ⟨rfl, _⟩ := (splitColon?_eq_some_iff text before after).mp colon
  have openersNone := overlay.count_openers .colon
  have closersNone := overlay.count_closers .colon
  have total := congrArg Landmark.colon.count overlay.same
  simp only [Landmark.count_append, openersNone, closersNone, kindNone] at total
  rw [Landmark.count_cons _ ':' after, Landmark.count_cons _ ':' rest] at total
  have whole : front ++ before ++ ':' :: (after ++ back) =
      openers ++ kind ++ ':' :: (rest ++ closers) := by
    simpa using overlay.same
  have found : Landmark.colon.isAt ':' = true := rfl
  obtain ⟨atFront, behind⟩ := Landmark.split_unique found found whole (by
    rw [Landmark.count_append, Landmark.count_append, openersNone, kindNone]
    omega)
  exact ⟨front_eq_of_kind overlay.frontEdge overlay.opening plain lowered atFront, behind⟩

/-- A value without brackets ends where the written one does. -/
theorem back_eq_of_value {after rest : List Char} (backEdge : BackEdge back)
    (closing : AllClosers closers)
    (plain : ∀ character ∈ rest, isBlank character = false ∧ isBracket character = false)
    (noBracket : ∀ character ∈ trim after, isBracket character = false)
    (same : after ++ back = rest ++ closers) : back = closers := by
  have nonblank : ∀ character ∈ after, isBlank character = false := by
    intro character member
    have inRest : character ∈ rest ++ closers := same ▸ List.mem_append_left _ member
    rcases List.mem_append.mp inRest with inRest | inClosers
    · exact (plain character inRest).1
    · have closes := closing character inClosers
      exact Bool.eq_false_iff.mpr (not_isBlank_of_isBracket (isBracket_of_closes closes))
  rw [trim_of_nonblank nonblank] at noBracket
  rcases List.append_eq_append_iff.mp same with ⟨part, split, found⟩ | ⟨part, split, found⟩
  · cases part with
    | nil => exact found
    | cons first part =>
      obtain ⟨firstNonblank, firstPlain⟩ := plain first (split ▸ by simp)
      rcases backEdge first (by rw [found]; rfl) with blank | closes
      · rw [firstNonblank] at blank
        cases blank
      · rw [isBracket_of_closes closes] at firstPlain
        cases firstPlain
  · cases part with
    | nil => exact found.symm
    | cons first part =>
      have bracket := isBracket_of_closes (closing first (by rw [found]; simp))
      rw [noBracket first (by rw [split]; simp)] at bracket
      cases bracket

theorem no_bracket_of_comparison? {Quantity : Type} {number? : List Char → Option Quantity}
    (numeral : ∀ {text : List Char} {quantity : Quantity},
      number? text = some quantity → IsNumeral text)
    {value : List Char} {comparison : Comparison} {quantity : Quantity}
    (found : comparison? number? value = some (comparison, quantity)) :
    ∀ character ∈ value, isBracket character = false := by
  intro character member
  rw [← List.takeWhile_append_dropWhile (p := isOperatorChar) (l := value)] at member
  rcases List.mem_append.mp member with inSymbol | inNumber
  · have isOperator := List.mem_takeWhile_imp inSymbol
    simp only [isOperatorChar, Bool.or_eq_true, beq_iff_eq] at isOperator
    rcases isOperator with (rfl | rfl) | rfl <;> rfl
  · exact isBracket_of_isLeafChar (isLeafChar_of_isNumeral
      (numeral ((comparison?_eq_some_iff _ _ _ _).mp found).2) character inNumber)

theorem no_bracket_of_truthText {value : List Char} {state : Bool}
    (found : value.map Char.toLower = truthText state) :
    ∀ character ∈ value, isBracket character = false := by
  intro character member
  have letter : character.toLower ∈ truthText state := found ▸ List.mem_map_of_mem member
  have range : ∀ lowered ∈ truthText state, 97 ≤ lowered.toNat ∧ lowered.toNat ≤ 122 := by
    cases state <;> decide
  exact (plain_of_letter (range _ letter)).2

/-- A comparison or a watch state is written as its kind and its value, and is read from a
kind and a value without brackets. -/
theorem exists_kind_of_leafReading {readValue : Field → List Char → Except FormatError Filter}
    {filter : Filter} (reading : LeafReading readValue text filter)
    (plainLeaf : filter.isPlainLeaf = true) :
    ∃ before after kind rest, splitColon? text = some (before, after) ∧
      lowercase (String.ofList (trim before)) = String.ofList kind ∧
      (∀ character ∈ trim after, isBracket character = false) ∧
      write .clause filter = kind ++ ':' :: rest := by
  cases reading with
  | group => cases plainLeaf
  | @runtime before after _ _ colon kind found =>
    exact ⟨before, after, "length".toList, _, colon, kind,
      no_bracket_of_comparison? minutes?_isNumeral found, List.append_assoc ..⟩
  | @released before after _ _ colon kind found =>
    exact ⟨before, after, "released".toList, _, colon, kind,
      no_bracket_of_comparison? year?_isNumeral found, List.append_assoc ..⟩
  | @rating before after _ _ colon kind found =>
    exact ⟨before, after, "rating".toList, _, colon, kind,
      no_bracket_of_comparison? rating?_isNumeral found, List.append_assoc ..⟩
  | @watched before after state colon kind found =>
    exact ⟨before, after, "watchstatus".toList, truthText state, colon, kind,
      no_bracket_of_truthText found, by cases state <;> rfl⟩

/-- A text in the place of a written comparison or watch state that is read as one lies
on it. -/
theorem ends_of_plainLeaf {readValue : Field → List Char → Except FormatError Filter}
    {filter : Filter} (shape : ReadShape .clause filter) (plainLeaf : filter.isPlainLeaf = true)
    (reading : LeafReading readValue text filter)
    (overlay : Overlay front text back openers (write .clause filter) closers) :
    front = openers ∧ back = closers := by
  obtain ⟨before, after, kind, rest, colon, lowered, noBracket, split⟩ :=
    exists_kind_of_leafReading reading plainLeaf
  have plain : ∀ character ∈ kind ++ ':' :: rest,
      isBlank character = false ∧ isBracket character = false := by
    intro character member
    have leafChar := isLeafChar_of_mem_write shape plainLeaf .clause character (split ▸ member)
    exact ⟨isBlank_of_isLeafChar leafChar, isBracket_of_isLeafChar leafChar⟩
  have count := Landmark.colon.count_write_plainLeaf shape plainLeaf .clause
  rw [split, Landmark.count_append, Landmark.count_cons _ ':' rest] at count
  rw [split] at overlay
  obtain ⟨atFront, behind⟩ := colon_of_overlay
    (fun character member => plain character (List.mem_append_left _ member)) (by omega) (by omega)
    colon lowered overlay
  exact ⟨atFront, back_eq_of_value overlay.backEdge overlay.closing (fun character member =>
    plain character (List.mem_append_right _ (List.mem_cons_of_mem _ member))) noBracket behind⟩

theorem anchored_plainLeaf {filter : Filter} (shape : ReadShape .clause filter)
    (plainLeaf : filter.isPlainLeaf = true) : filter.Anchored .clause := by
  intro levels front text back openers closers overlay reading
  cases reading with
  | unwrapped undivided _ wrapped inside => exact Or.inl ⟨_, undivided, wrapped, inside⟩
  | leaf _ _ _ inside => exact Or.inr (ends_of_plainLeaf shape plainLeaf inside overlay)
  | all => cases plainLeaf
  | any => cases plainLeaf
  | not => cases plainLeaf

/-- A text in the place of a written group that is read as one lies on it. -/
theorem ends_of_group {levels : Nat} {field : Field} {value : Filter}
    (located : value.Located (.value field))
    (reading : LeafReading (fun field => read levels (.value field)) text (.group field value))
    (overlay : Overlay front text back openers (write .clause (.group field value)) closers) :
    front = openers ∧ back = closers := by
  cases reading with
  | @group before after _ _ colon kind parsed =>
    have fewer := Landmark.colon.count_write_le parsed
    rw [Landmark.count_trim, ← Landmark.count_writeInside] at fewer
    have plain : ∀ character ∈ field.keyword.toList,
        isBlank character = false ∧ isBracket character = false := by
      cases field <;> decide
    obtain ⟨atFront, behind⟩ := colon_of_overlay plain (Landmark.colon.count_keyword field) fewer
      colon (kind.trans (String.ofList_toList).symm) overlay
    exact ⟨atFront, located.back_eq_of_tail overlay.backEdge overlay.closing parsed behind⟩

/-! ### Every filter -/

/-- A text that lies over the written text of a filter, is read as the filter and is not
unwrapped for that, is the written text. -/
theorem anchored {style : Bracketing} {filter : Filter} (shape : ReadShape style filter) :
    filter.Anchored style := by
  induction shape with
  | all two _ inductionHypothesis =>
    intro levels front text back openers closers overlay reading
    cases reading with
    | unwrapped undivided _ wrapped inside => exact Or.inl ⟨_, undivided, wrapped, inside⟩
    | all _ each =>
      rw [write_all] at overlay
      exact Or.inr (ends_of_pieces two (fun child member =>
        (inductionHypothesis child member).located) each overlay)
    | leaf _ _ _ inside => cases inside
  | any two _ inductionHypothesis =>
    intro levels front text back openers closers overlay reading
    cases reading with
    | unwrapped undivided _ wrapped inside => exact Or.inl ⟨_, undivided, wrapped, inside⟩
    | any _ _ each =>
      rw [write_any] at overlay
      exact Or.inr (ends_of_pieces two (fun child member =>
        (inductionHypothesis child member).located) each overlay)
    | leaf _ _ _ inside => cases inside
  | not _ inductionHypothesis =>
    intro levels front text back openers closers overlay reading
    cases reading with
    | unwrapped undivided _ wrapped inside => exact Or.inl ⟨_, undivided, wrapped, inside⟩
    | not _ negated inside =>
      exact Or.inr (ends_of_negation inductionHypothesis.located negated inside overlay)
    | leaf _ _ _ inside => cases inside
  | group _ inductionHypothesis =>
    intro levels front text back openers closers overlay reading
    cases reading with
    | unwrapped undivided _ wrapped inside => exact Or.inl ⟨_, undivided, wrapped, inside⟩
    | leaf _ _ _ inside => exact Or.inr (ends_of_group inductionHypothesis.located inside overlay)
  | @term field _ _ =>
    intro levels front text back openers closers overlay reading
    cases reading with
    | unwrapped undivided _ wrapped inside => exact Or.inl ⟨_, undivided, wrapped, inside⟩
    | term =>
      have same : write (.value field) (.term field (String.ofList text)) = text :=
        String.toList_ofList
      rw [same] at overlay
      exact Or.inr overlay.ends_of_term
  | runtime nonnegative bounded => exact anchored_plainLeaf (.runtime nonnegative bounded) rfl
  | released nonnegative bounded => exact anchored_plainLeaf (.released nonnegative bounded) rfl
  | rating allowed => exact anchored_plainLeaf (.rating allowed) rfl
  | watched => exact anchored_plainLeaf .watched rfl

/-- Only the written text, perhaps in delimiters, lies over itself and is read as the
filter. -/
theorem located {style : Bracketing} {filter : Filter} (shape : ReadShape style filter) :
    filter.Located style :=
  (anchored shape).located

end Filter

end

end PlaylistRules
