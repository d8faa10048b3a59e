/-
This file proves that the outline of an expression says all there is to say about it.
Every part of the filter has one line, two blanks further in than the part around it and
in front of its own parts, except that a field group around a single term has none. What
a line says tells what part it belongs to, and how far in the lines are tells which parts
are around which; so no two filters that are read have the same outline.
-/

import PlaylistRules.Proofs.Canonical
import PlaylistRules.Proofs.Visits
import PlaylistRules.Report.Outline

namespace PlaylistRules

open Number Text

theorem Field.keyword_injective : Function.Injective Field.keyword := by
  intro first second same
  cases first <;> cases second <;> first | rfl | exact absurd same (by decide)

/-- Every canonical spelling is read as its sort key. -/
theorem SortKey.ofText_text (key : SortKey) : SortKey.ofText key.text = key := by
  cases key <;> decide

theorem SortKey.text_injective : Function.Injective SortKey.text :=
  Function.LeftInverse.injective SortKey.ofText_text

namespace Filter

/-! ### Listed parts -/

/-- Whether a part has a line of its own. A field group around a single term has none. -/
def takesLine : Filter → Bool
  | group _ value => !value.isTerm
  | _ => true

/-- What the line of a part says. -/
def heading : Filter → String
  | all _ => "AND"
  | any _ => "OR"
  | not _ => "NOT"
  | group field _ => field.keyword ++ ":"
  | term field text => field.keyword ++ " = " ++ text
  | runtime comparison minutes => comparisonLine "length" comparison (integerText minutes)
  | released comparison year => comparisonLine "released" comparison (integerText year)
  | rating comparison value => comparisonLine "rating" comparison value.plainText
  | watched state => "watchstatus = " ++ String.ofList (truthText state)

/-- The level of a position: how many of the parts around it have a line. -/
def levelAt : Filter → Position → Nat
  | _, [] => 0
  | filter, index :: rest =>
    filter.takesLine.toNat + filter.children[index]?.elim 0 (levelAt · rest)

/-- What stands at a position in the outline: the level and what the line says. -/
def lineAt? (filter : Filter) (position : Position) : Option (Nat × String) :=
  (filter.at? position).bind fun part =>
    if part.takesLine then some (filter.levelAt position, part.heading) else none

/-- The lines of the parts of a filter, each before those of its own parts. -/
def lines (filter : Filter) : List (Nat × String) :=
  filter.positions.filterMap filter.lineAt?

/-- A line that stands a number of levels further in. -/
def deeper (levels : Nat) (line : Nat × String) : Nat × String :=
  (levels + line.1, line.2)

variable {filter : Filter}

theorem lineAt?_cons {before after : List Filter} {child : Filter}
    (split : filter.children = before ++ child :: after) (below : Position) :
    filter.lineAt? (before.length :: below) =
      (child.lineAt? below).map (deeper filter.takesLine.toNat) := by
  have found : filter.children[before.length]? = some child := by
    rw [split, List.getElem?_append_right (Nat.le_refl _), Nat.sub_self]
    rfl
  rw [lineAt?, lineAt?, at?_cons_of_split split, levelAt, found]
  cases child.at? below with
  | none => rfl
  | some part =>
    rw [Option.bind_some, Option.bind_some]
    split <;> rfl

theorem filterMap_positionsFrom {before rest : List Filter}
    (split : filter.children = before ++ rest) :
    (positionsFrom before.length rest).filterMap filter.lineAt? =
      (rest.flatMap lines).map (deeper filter.takesLine.toNat) := by
  induction rest generalizing before with
  | nil => rfl
  | cons child rest inductionHypothesis =>
    have next : filter.children = (before ++ [child]) ++ rest := by simp [split]
    have others := inductionHypothesis next
    rw [List.length_append, List.length_singleton] at others
    have here : filter.lineAt? ∘ (before.length :: ·) = fun below =>
        (child.lineAt? below).map (deeper filter.takesLine.toNat) :=
      funext (lineAt?_cons split)
    rw [positionsFrom, List.filterMap_append, List.filterMap_map, here, others, List.flatMap_cons,
      List.map_append, lines, List.map_filterMap]

theorem lines_eq (filter : Filter) :
    filter.lines = (if filter.takesLine then [(0, filter.heading)] else []) ++
      (filter.children.flatMap lines).map (deeper filter.takesLine.toNat) := by
  have inside := filterMap_positionsFrom (List.nil_append filter.children).symm
  rw [List.length_nil] at inside
  rw [lines, positions_eq, ← inside]
  cases own : filter.takesLine <;> simp [lineAt?, at?, own, levelAt]

/-! ### Lines of outlines -/

/-- An outline without colours: the levels and what the lines say. -/
def plainLines (outline : List OutlineLine) : List (Nat × String) :=
  outline.map fun line => (line.level, line.text)

theorem map_deeper_deeper (first second : Nat) (lines : List (Nat × String)) :
    (lines.map (deeper second)).map (deeper first) = lines.map (deeper (first + second)) := by
  rw [List.map_map]
  exact List.map_congr_left fun line _ => by simp [deeper, Nat.add_assoc]

mutual

theorem plainLines_outline (level : Nat) : (filter : Filter) →
    plainLines (filter.outline level) = filter.lines.map (deeper level)
  | all children | any children => by
    rw [outline, lines_eq, List.map_append, map_deeper_deeper]
    exact congrArg _ (plainLines_outlineEach (level + 1) children)
  | not inner => by
    rw [outline, lines_eq, List.map_append, map_deeper_deeper]
    rw [children, List.flatMap_singleton]
    exact congrArg (_ :: ·) (plainLines_outline (level + 1) inner)
  | group field value => by
    rw [outline, lines_eq, List.map_append, map_deeper_deeper, children, List.flatMap_singleton,
      takesLine]
    cases single : value.isTerm with
    | true => simpa using plainLines_outline level value
    | false => exact congrArg _ (plainLines_outline (level + 1) value)
  | term .. | runtime .. | released .. | rating .. | watched .. => by
    rw [outline, lines_eq]
    rfl

theorem plainLines_outlineEach (level : Nat) : (children : List Filter) →
    plainLines (outlineEach level children) = (children.flatMap lines).map (deeper level)
  | [] => rfl
  | child :: rest => by
    rw [outlineEach, plainLines, List.map_append, List.flatMap_cons, List.map_append]
    exact congrArg₂ _ (plainLines_outline level child) (plainLines_outlineEach level rest)

end

/-! ### What a line tells -/

theorem integerText_injective {first second : Int} (firstNonnegative : 0 ≤ first)
    (secondNonnegative : 0 ≤ second) (same : integerText first = integerText second) :
    first = second := by
  rw [integerText, integerText, if_neg (by omega), if_neg (by omega)] at same
  have value := congrArg naturalOfDigits same
  rw [naturalOfDigits_naturalText, naturalOfDigits_naturalText] at value
  omega

/-- Different ratings that are read are written differently. -/
theorem plainText_injective {first second : Binary64} (firstRead : ReadRating first)
    (secondRead : ReadRating second) (same : first.plainText = second.plainText) :
    first = second := by
  have readBack {value : Binary64} (readRating : ReadRating value) :
      rating? value.plainText = if value.isFinite then some value else none := by
    split
    case isTrue finite => exact rating?_plainText readRating.unsigned finite
    case isFalse infinite =>
      rw [plainText_of_infinite readRating (Bool.eq_false_of_not_eq_true infinite)]
      decide
  have value : rating? first.plainText = rating? second.plainText := congrArg rating? same
  rw [readBack firstRead, readBack secondRead] at value
  split at value
  case isTrue =>
    split at value
    · exact Option.some.inj value
    · cases value
  case isFalse firstInfinite =>
    split at value
    · cases value
    case isFalse secondInfinite =>
      have code {value : Binary64} (readRating : ReadRating value)
          (infinite : ¬value.isFinite = true) : value = ⟨false, Binary64.infinityCode⟩ := by
        rw [Binary64.isFinite, decide_eq_true_eq] at infinite
        exact congrArg₂ Binary64.mk readRating.unsigned
          (Nat.le_antisymm readRating.bounded (Nat.not_lt.mp infinite))
      rw [code firstRead firstInfinite, code secondRead secondInfinite]

theorem comparisonLine_injective {name : String} {first second : Comparison}
    {firstNumber secondNumber : List Char}
    (same : comparisonLine name first firstNumber = comparisonLine name second secondNumber) :
    first = second ∧ firstNumber = secondNumber := by
  rw [comparisonLine, comparisonLine, String.append_assoc, String.append_assoc,
    String.append_assoc, String.append_assoc] at same
  replace same := congrArg String.toList same
  simp only [String.toList_append, String.toList_ofList] at same
  cases first <;> cases second <;> simp_all [Comparison.symbol]

/-- The first word of the line of a part. -/
def firstWord : Filter → String
  | all _ => "AND"
  | any _ => "OR"
  | not _ => "NOT"
  | group field _ => field.keyword ++ ":"
  | term field _ => field.keyword
  | runtime .. => "length"
  | released .. => "released"
  | rating .. => "rating"
  | watched _ => "watchstatus"

theorem takeWhile_heading (filter : Filter) :
    filter.heading.toList.takeWhile (· != ' ') = filter.firstWord.toList := by
  cases filter
  case group field value => cases field <;> simp [heading, firstWord, Field.keyword]
  case term field text => cases field <;> simp [heading, firstWord, Field.keyword]
  all_goals simp [heading, comparisonLine, firstWord]

/-- A line tells what part it belongs to. -/
theorem surface_eq_of_heading_eq {terms : Field → String → Prop} {style other : Bracketing}
    {first second : Filter} (firstShaped : first.Shaped terms ReadRating style)
    (secondShaped : second.Shaped terms ReadRating other)
    (same : first.heading = second.heading) : first.surface = second.surface := by
  have words : first.firstWord = second.firstWord := by
    have taken := congrArg (fun text => text.toList.takeWhile (· != ' ')) same
    rwa [takeWhile_heading, takeWhile_heading, String.toList_inj] at taken
  cases firstShaped <;> cases secondShaped
  case all.all | any.any | not.not => rfl
  case group.group field _ _ field' _ _ =>
    rw [firstWord, firstWord, String.append_left_inj] at words
    rw [surface, surface, Field.keyword_injective words]
  case term.term field text _ field' text' _ =>
    have fields : field = field' := Field.keyword_injective words
    subst fields
    rw [heading, heading, String.append_right_inj] at same
    rw [same]
  case runtime.runtime nonnegative _ _ _ nonnegative' _ =>
    obtain ⟨rfl, numbers⟩ := comparisonLine_injective same
    rw [integerText_injective nonnegative nonnegative' numbers]
  case released.released nonnegative _ _ _ nonnegative' _ =>
    obtain ⟨rfl, numbers⟩ := comparisonLine_injective same
    rw [integerText_injective nonnegative nonnegative' numbers]
  case rating.rating allowed _ _ allowed' =>
    obtain ⟨rfl, numbers⟩ := comparisonLine_injective same
    rw [plainText_injective allowed allowed' numbers]
  case watched.watched state state' =>
    rw [heading, heading, String.append_right_inj, String.ofList_inj] at same
    cases state <;> cases state' <;> first | rfl | cases same
  -- Parts of different kinds have different first words.
  all_goals
    simp only [firstWord, Field.keyword] at words
    repeat' split at words
    all_goals exact absurd words (by decide)

/-- The part whose line is the first one of a filter: a group around a single term leaves it
to the term. -/
def face : Filter → Filter
  | group field value => if value.isTerm then value else group field value
  | other => other

theorem plainLines_outline_eq_cons (level : Nat) (filter : Filter) :
    plainLines (filter.outline level) = (level, filter.face.heading) ::
      plainLines (outlineEach (level + 1) filter.face.children) := by
  cases filter with
  | not inner => simp [outline, outlineEach, face, children, plainLines, heading]
  | group field value =>
    cases value <;> simp [outline, outlineEach, face, children, isTerm, plainLines, heading]
  | _ => rfl

/-! ### What the levels tell -/

/-- How the parts right inside a filter stand. -/
def insideStyle (style : Bracketing) : Filter → Bracketing
  | group field _ => .value field
  | _ => style

section

variable {terms : Field → String → Prop} {ratings : Binary64 → Prop} {style : Bracketing}

theorem Shaped.face (shaped : filter.Shaped terms ratings style) :
    ∃ own, filter.face.Shaped terms ratings own := by
  cases shaped with
  | @group field value inside =>
    rw [Filter.face]
    split
    · exact ⟨_, inside⟩
    · exact ⟨_, .group inside⟩
  | all two each => exact ⟨style, .all two each⟩
  | any two each => exact ⟨style, .any two each⟩
  | not inside => exact ⟨style, .not inside⟩
  | term allowed => exact ⟨_, .term allowed⟩
  | runtime nonnegative bounded => exact ⟨_, .runtime nonnegative bounded⟩
  | released nonnegative bounded => exact ⟨_, .released nonnegative bounded⟩
  | rating allowed => exact ⟨_, .rating allowed⟩
  | watched => exact ⟨_, .watched⟩

theorem Shaped.children (shaped : filter.Shaped terms ratings style) :
    ∀ child ∈ filter.children, child.Shaped terms ratings (filter.insideStyle style) := by
  cases shaped with
  | all _ each | any _ each => exact each
  | not inside | group inside => exact List.forall_mem_singleton.mpr inside
  | term | runtime | released | rating | watched => exact List.forall_mem_nil _

theorem Shaped.at? {position : Position} {part : Filter}
    (shaped : filter.Shaped terms ratings style) (found : filter.at? position = some part) :
    ∃ own, part.Shaped terms ratings own := by
  induction position generalizing filter style with
  | nil => exact ⟨style, Option.some.inj found ▸ shaped⟩
  | cons index below inductionHypothesis =>
    rw [Filter.at?, Option.bind_eq_some_iff] at found
    obtain ⟨child, atIndex, found⟩ := found
    exact inductionHypothesis (shaped.children child (List.mem_of_getElem? atIndex)) found

/-- A filter comes first itself, or it is a single term in a group of its own field. -/
theorem Shaped.face_cases (shaped : filter.Shaped terms ratings style) :
    filter.face = filter ∨ ∃ field text, style = .clause ∧ filter = groupOfTerm field text ∧
      filter.face = Filter.term field text := by
  cases shaped with
  | @group field value inside =>
    cases inside with
    | @term _ text _ => exact .inr ⟨field, text, rfl, rfl, rfl⟩
    | _ => exact .inl rfl
  | _ => exact .inl rfl

theorem Shaped.inside (shaped : filter.Shaped terms ratings style) :
    ∀ child ∈ filter.face.children,
      child.Shaped terms ratings (filter.face.insideStyle style) := by
  rcases shaped.face_cases with same | ⟨field, text, -, -, single⟩
  · rw [same]
    exact shaped.children
  · rw [single]
    exact List.forall_mem_nil _

theorem not_shaped_term_clause (field : Field) (text : String) :
    ¬(term field text).Shaped terms ratings .clause := by
  rintro ⟨⟩

theorem eq_of_face_eq {first second : Filter} (firstShaped : first.Shaped terms ratings style)
    (secondShaped : second.Shaped terms ratings style) (same : first.face = second.face) :
    first = second := by
  rcases firstShaped.face_cases with firstFace | ⟨field, text, rfl, rfl, firstFace⟩
  · rcases secondShaped.face_cases with secondFace | ⟨field, text, rfl, rfl, secondFace⟩
    · rw [← firstFace, same, secondFace]
    · rw [firstFace, secondFace] at same
      exact absurd (same ▸ firstShaped) (not_shaped_term_clause field text)
  · rcases secondShaped.face_cases with secondFace | ⟨field', text', -, rfl, secondFace⟩
    · rw [firstFace, secondFace] at same
      exact absurd (same ▸ secondShaped) (not_shaped_term_clause field text)
    · rw [firstFace, secondFace, term.injEq] at same
      rw [same.1, same.2]

end

theorem insideStyle_eq_of_surface_eq {first second : Filter} (style : Bracketing)
    (surfaces : first.surface = second.surface) :
    first.insideStyle style = second.insideStyle style := by
  cases first <;> cases second <;> simp_all [surface, insideStyle]

theorem eq_of_surface_eq {first second : Filter} (surfaces : first.surface = second.surface)
    (inside : first.children = second.children) : first = second := by
  cases first <;> cases second <;> simp_all [surface, children]

theorem plainLines_outlineEach_cons (level : Nat) (filter : Filter) (rest : List Filter) :
    plainLines (outlineEach level (filter :: rest)) = (level, filter.face.heading) ::
      (plainLines (outlineEach (level + 1) filter.face.children) ++
        plainLines (outlineEach level rest)) := by
  rw [outlineEach, plainLines, List.map_append, ← List.cons_append]
  exact congrArg (· ++ _) (plainLines_outline_eq_cons level filter)

theorem level_lt_of_head {level : Nat} {rest : List (Nat × String)}
    (outside : ∀ line ∈ rest.head?, line.1 < level) (filters : List Filter) :
    ∀ line ∈ (plainLines (outlineEach level filters) ++ rest).head?, line.1 < level + 1 := by
  cases filters with
  | nil => exact fun line first => Nat.lt_succ_of_lt (outside line first)
  | cons filter filters =>
    rw [plainLines_outlineEach_cons, List.cons_append, List.head?_cons]
    rintro line ⟨⟩
    exact Nat.lt_succ_self level

theorem eq_nil_of_outside {level : Nat} {rest others : List (Nat × String)}
    {filters : List Filter} (outside : ∀ line ∈ rest.head?, line.1 < level)
    (same : rest = plainLines (outlineEach level filters) ++ others) : filters = [] := by
  cases filters with
  | nil => rfl
  | cons filter filters =>
    rw [plainLines_outlineEach_cons, List.cons_append] at same
    exact absurd (outside (level, _) (by rw [same]; rfl)) (Nat.lt_irrefl level)

/-- Lines that begin with those of filters at a level, and go on further out, tell the filters:
the lines between two at the level itself are those of the parts of one. -/
theorem eq_of_plainLines_eq {terms : Field → String → Prop} {style : Bracketing}
    {first second : List Filter} {level : Nat} {rest others : List (Nat × String)}
    (firstShaped : ∀ filter ∈ first, filter.Shaped terms ReadRating style)
    (secondShaped : ∀ filter ∈ second, filter.Shaped terms ReadRating style)
    (restOutside : ∀ line ∈ rest.head?, line.1 < level)
    (othersOutside : ∀ line ∈ others.head?, line.1 < level)
    (same : plainLines (outlineEach level first) ++ rest =
      plainLines (outlineEach level second) ++ others) :
    first = second ∧ rest = others := by
  -- Both the parts of the first filter and the filters after it have fewer lines.
  obtain ⟨bound, short⟩ : ∃ bound, (plainLines (outlineEach level first)).length < bound :=
    ⟨_, Nat.lt_succ_self _⟩
  induction bound generalizing style first second level rest others with
  | zero => exact absurd short (Nat.not_lt_zero _)
  | succ bound inductionHypothesis =>
    cases first with
    | nil =>
      obtain rfl := eq_nil_of_outside restOutside same
      exact ⟨rfl, same⟩
    | cons filter first =>
      cases second with
      | nil => cases eq_nil_of_outside othersOutside same.symm
      | cons other second =>
        rw [plainLines_outlineEach_cons] at same short
        rw [plainLines_outlineEach_cons, List.cons_append, List.cons_append, List.cons.injEq,
          Prod.mk.injEq, List.append_assoc, List.append_assoc] at same
        obtain ⟨⟨-, headings⟩, below⟩ := same
        rw [List.length_cons, List.length_append] at short
        obtain ⟨filterShaped, firstShaped⟩ := List.forall_mem_cons.mp firstShaped
        obtain ⟨otherShaped, secondShaped⟩ := List.forall_mem_cons.mp secondShaped
        obtain ⟨_, filterFace⟩ := filterShaped.face
        obtain ⟨_, otherFace⟩ := otherShaped.face
        have surfaces := surface_eq_of_heading_eq filterFace otherFace headings
        have otherInside := otherShaped.inside
        rw [← insideStyle_eq_of_surface_eq style surfaces] at otherInside
        obtain ⟨inside, after⟩ := inductionHypothesis filterShaped.inside otherInside
          (level_lt_of_head restOutside first) (level_lt_of_head othersOutside second) below
          (by omega)
        obtain ⟨rfl, rfl⟩ := inductionHypothesis firstShaped secondShaped restOutside
          othersOutside after (by omega)
        rw [eq_of_face_eq filterShaped otherShaped (eq_of_surface_eq surfaces inside)]
        exact ⟨rfl, rfl⟩

/-! ### Text of lines -/

/-- The terms in a filter. -/
def termTexts (filter : Filter) : List String :=
  (filter.positions.filterMap filter.at?).filterMap fun part =>
    match part with
    | term _ text => some text
    | _ => none

theorem mem_termTexts {position : Position} {field : Field} {text : String}
    (found : filter.at? position = some (term field text)) : text ∈ filter.termTexts :=
  List.mem_filterMap.mpr ⟨_, List.mem_filterMap.mpr
    ⟨position, mem_positions.mpr (Option.isSome_of_eq_some found), found⟩, rfl⟩

theorem newline_not_mem_heading {terms : Field → String → Prop} {style : Bracketing}
    (shaped : filter.Shaped terms ReadRating style)
    (free : ∀ field text, filter = term field text → '\n' ∉ text.toList) :
    '\n' ∉ filter.heading.toList := by
  have keywords (field : Field) : '\n' ∉ field.keyword.toList := by
    cases field <;> decide
  have symbols (comparison : Comparison) : '\n' ∉ comparison.symbol.toList := by
    cases comparison <;> decide
  have numbers {number : List Char} (numeral : IsNumeral number) : '\n' ∉ number :=
    fun newline => absurd (isLeafChar_of_isNumeral numeral _ newline) (by decide)
  cases shaped with
  | all | any | not => simp [heading]
  | group => simp [heading, keywords]
  | term => simp [heading, keywords, free _ _ rfl]
  | runtime nonnegative bounded =>
    simp [heading, comparisonLine, symbols, numbers (isNumeral_integerText nonnegative bounded)]
  | released nonnegative bounded =>
    have small := numbers (isNumeral_integerText nonnegative (by omega))
    simp [heading, comparisonLine, symbols, small]
  | rating allowed =>
    have plain : '\n' ∉ Binary64.plainText _ :=
      fun newline => absurd (isLeafChar_of_mem_plainText allowed _ newline) (by decide)
    simp [heading, comparisonLine, symbols, plain]
  | @watched state => cases state <;> decide

theorem head_heading_ne (filter : Filter) :
    ∀ character ∈ filter.heading.toList.head?, character ≠ ' ' := by
  have nonempty : filter.firstWord.toList ≠ [] := by
    cases filter
    case group field _ | term field _ => cases field <;> simp [firstWord, Field.keyword]
    all_goals simp [firstWord]
  rintro _ first rfl
  obtain ⟨rest, split⟩ := List.head?_eq_some_iff.mp first
  rw [← takeWhile_heading, split] at nonempty
  exact nonempty rfl

theorem exists_part_of_mem_lines {line : Nat × String} (member : line ∈ filter.lines) :
    ∃ position part, filter.at? position = some part ∧ line.2 = part.heading := by
  obtain ⟨position, _, found⟩ := List.mem_filterMap.mp member
  obtain ⟨part, atPosition, own⟩ := Option.bind_eq_some_iff.mp found
  refine ⟨position, part, atPosition, ?_⟩
  split at own
  · exact congrArg Prod.snd (Option.some.inj own).symm
  · cases own

end Filter

/-- A line with its blanks in front: two for each level. -/
def indented (line : Nat × String) : String :=
  String.ofList (List.replicate (2 * line.1) ' ') ++ line.2

theorem takeWhile_indented {line : Nat × String}
    (head : ∀ character ∈ line.2.toList.head?, character ≠ ' ') :
    (indented line).toList.takeWhile (· == ' ') = List.replicate (2 * line.1) ' ' := by
  have noneTaken : line.2.toList.takeWhile (· == ' ') = [] := by
    cases characters : line.2.toList with
    | nil => rfl
    | cons character rest =>
      rw [List.takeWhile_cons_of_neg]
      simpa [characters] using head
  rw [indented, String.toList_append, String.toList_ofList,
    List.takeWhile_append_of_pos (by simp), noneTaken, List.append_nil]

theorem indented_injective {first second : Nat × String}
    (firstHead : ∀ character ∈ first.2.toList.head?, character ≠ ' ')
    (secondHead : ∀ character ∈ second.2.toList.head?, character ≠ ' ')
    (same : indented first = indented second) : first = second := by
  have blanks := congrArg (fun text => (text.toList.takeWhile (· == ' ')).length) same
  rw [takeWhile_indented firstHead, takeWhile_indented secondHead, List.length_replicate,
    List.length_replicate] at blanks
  have levels : first.1 = second.1 := Nat.eq_of_mul_eq_mul_left Nat.two_pos blanks
  rw [indented, indented, levels, String.append_right_inj] at same
  exact Prod.ext levels same

theorem eq_of_map_indented_eq {first second : List (Nat × String)}
    (firstHeads : ∀ line ∈ first, ∀ character ∈ line.2.toList.head?, character ≠ ' ')
    (secondHeads : ∀ line ∈ second, ∀ character ∈ line.2.toList.head?, character ≠ ' ')
    (same : first.map indented = second.map indented) : first = second := by
  induction first generalizing second with
  | nil => exact (List.map_eq_nil_iff.mp same.symm).symm
  | cons line lines inductionHypothesis =>
    cases second with
    | nil => cases same
    | cons other others =>
      obtain ⟨lineHead, linesHeads⟩ := List.forall_mem_cons.mp firstHeads
      obtain ⟨otherHead, othersHeads⟩ := List.forall_mem_cons.mp secondHeads
      obtain ⟨sameLine, sameLines⟩ := List.cons.inj same
      rw [indented_injective lineHead otherHead sameLine,
        inductionHypothesis linesHeads othersHeads sameLines]

/-- The text of lines. -/
def textOfLines (lines : List String) : String :=
  String.join (lines.map (· ++ "\n"))

theorem toList_textOfLines_cons (line : String) (rest : List String) :
    (textOfLines (line :: rest)).toList = line.toList ++ '\n' :: (textOfLines rest).toList := by
  simp [textOfLines]

theorem takeWhile_line {line : String} (free : '\n' ∉ line.toList) (rest : List Char) :
    (line.toList ++ '\n' :: rest).takeWhile (· != '\n') = line.toList := by
  have all : ∀ character ∈ line.toList, (character != '\n') = true := fun character member =>
    bne_iff_ne.mpr fun newline => free (newline ▸ member)
  rw [List.takeWhile_append_of_pos all, List.takeWhile_cons_of_neg (by simp), List.append_nil]

theorem textOfLines_injective {first second : List String}
    (firstFree : ∀ line ∈ first, '\n' ∉ line.toList)
    (secondFree : ∀ line ∈ second, '\n' ∉ line.toList)
    (same : textOfLines first = textOfLines second) : first = second := by
  replace same := congrArg String.toList same
  induction first generalizing second with
  | nil =>
    cases second with
    | nil => rfl
    | cons other others =>
      rw [toList_textOfLines_cons] at same
      cases List.append_ne_nil_of_right_ne_nil _ (List.cons_ne_nil _ _) same.symm
  | cons line lines inductionHypothesis =>
    cases second with
    | nil =>
      rw [toList_textOfLines_cons] at same
      cases List.append_ne_nil_of_right_ne_nil _ (List.cons_ne_nil _ _) same
    | cons other others =>
      rw [toList_textOfLines_cons, toList_textOfLines_cons] at same
      obtain ⟨lineFree, linesFree⟩ := List.forall_mem_cons.mp firstFree
      obtain ⟨otherFree, othersFree⟩ := List.forall_mem_cons.mp secondFree
      have taken := congrArg (List.takeWhile (· != '\n')) same
      rw [takeWhile_line lineFree, takeWhile_line otherFree] at taken
      rw [taken, List.append_right_inj, List.cons.injEq] at same
      rw [String.toList_inj.mp taken, inductionHypothesis linesFree othersFree same.2]

namespace Expression

/-- The lines of the outline of an expression: those of its filter, and two more. -/
def outlineLines (expression : Expression) : List String :=
  expression.filter.lines.map indented ++
    ["sort: " ++ expression.order.text, "count: " ++ expression.count.repr]

theorem outlineText_eq (expression : Expression) :
    expression.outlineText false = textOfLines expression.outlineLines := by
  have plain : Filter.plainLines (expression.filter.outline 0) = expression.filter.lines := by
    rw [Filter.plainLines_outline]
    exact (List.map_congr_left fun line _ => by simp [Filter.deeper]).trans (List.map_id _)
  have render (line : OutlineLine) :
      line.render false = indented (line.level, line.text) ++ "\n" := rfl
  rw [outlineText, outlineLines, ← plain, textOfLines, Filter.plainLines, List.map_append,
    List.map_map, List.map_map, String.join_append]
  simp only [Function.comp_def, render, List.map_cons, List.map_nil, String.join_cons,
    String.join_nil, String.append_empty, String.append_assoc]

theorem shaped_of_parse {text : String} {expression : Expression}
    (parsed : parse text = .ok expression) :
    expression.filter.Shaped (fun _ _ => True) Filter.ReadRating .clause := by
  obtain ⟨filter, sortKey, count, _, parts⟩ := exists_enclosed_of_read parsed
  obtain ⟨_, filterParsed, _⟩ := (readParts_eq_ok_iff filter sortKey count expression).mp parts
  obtain ⟨shaped, _⟩ := Filter.read_shaped _ filterParsed
  exact shaped.mono (fun _ _ _ => trivial) fun _ rating => rating

/-- No line of the outline of an expression holds a newline, if no term does. -/
theorem newline_not_mem_outlineLines {text : String} {expression : Expression}
    (parsed : parse text = .ok expression)
    (free : ∀ term ∈ expression.filter.termTexts, '\n' ∉ term.toList) :
    ∀ line ∈ expression.outlineLines, '\n' ∉ line.toList := by
  have sortKey (key : SortKey) : '\n' ∉ key.text.toList := by
    cases key <;> decide
  have count : '\n' ∉ Nat.toDigits 10 expression.count :=
    fun newline => absurd (isDigit_of_mem_naturalText newline) (by decide)
  simp only [outlineLines, List.mem_append, List.mem_map, List.mem_cons, List.not_mem_nil,
    or_false]
  rintro _ (⟨line, member, rfl⟩ | rfl | rfl)
  · obtain ⟨position, part, atPosition, said⟩ := Filter.exists_part_of_mem_lines member
    obtain ⟨_, shaped⟩ := (shaped_of_parse parsed).at? atPosition
    have plain := Filter.newline_not_mem_heading shaped fun field term same =>
      free term (Filter.mem_termTexts (same ▸ atPosition))
    simp [indented, said, plain]
  · simp [sortKey]
  · simp [count]

theorem repr_injective : Function.Injective Nat.repr := by
  intro first second same
  have digits : naturalText first = naturalText second := by
    rw [naturalText, naturalText, ← Nat.toList_repr, ← Nat.toList_repr, same]
  rw [← naturalOfDigits_naturalText first, digits, naturalOfDigits_naturalText]

/-- The lines of the outline of an expression that was read tell its filter, the order its sort
key means, and its count. -/
theorem eq_of_outlineLines_eq {first second : String} {expression other : Expression}
    (parsed : parse first = .ok expression) (otherParsed : parse second = .ok other)
    (same : expression.outlineLines = other.outlineLines) :
    expression.filter = other.filter ∧ expression.order = other.order ∧
      expression.count = other.count := by
  rw [outlineLines, outlineLines] at same
  obtain ⟨filters, ends⟩ := List.append_inj' same (by simp)
  simp only [List.cons.injEq, String.append_right_inj, and_true] at ends
  refine ⟨?_, SortKey.text_injective ends.1, repr_injective ends.2⟩
  have heads (filter : Filter) :
      ∀ line ∈ filter.lines, ∀ character ∈ line.2.toList.head?, character ≠ ' ' := by
    intro line member
    obtain ⟨_, part, _, said⟩ := Filter.exists_part_of_mem_lines member
    exact said ▸ part.head_heading_ne
  have lines := eq_of_map_indented_eq (heads _) (heads _) filters
  have outlines : Filter.plainLines (Filter.outlineEach 0 [expression.filter]) ++ [] =
      Filter.plainLines (Filter.outlineEach 0 [other.filter]) ++ [] := by
    rw [Filter.plainLines_outlineEach, Filter.plainLines_outlineEach, List.flatMap_singleton,
      List.flatMap_singleton, lines]
  obtain ⟨same, -⟩ := Filter.eq_of_plainLines_eq
    (List.forall_mem_singleton.mpr (shaped_of_parse parsed))
    (List.forall_mem_singleton.mpr (shaped_of_parse otherParsed)) (by simp) (by simp) outlines
  exact List.singleton_inj.mp same

end Expression

/-- The outline of an expression that was read says the same as that of another one exactly
if they have the same filter, mean the same order and have the same count, provided that no
term holds a newline. It has one line for every part of the filter other than a field group
around a single term: two blanks for each such part around it, and then what the part is. The
parts come in the order of their positions, each before its own parts, and lines with the
order and the count come last. -/
theorem outlines_tell_expressions {first second : String} {expression other : Expression}
    (parsed : Expression.parse first = .ok expression)
    (otherParsed : Expression.parse second = .ok other)
    (free : ∀ term ∈ expression.filter.termTexts, '\n' ∉ term.toList)
    (otherFree : ∀ term ∈ other.filter.termTexts, '\n' ∉ term.toList) :
    (expression.outlineText false = other.outlineText false ↔
      expression.filter = other.filter ∧ expression.order = other.order ∧
        expression.count = other.count) ∧
    expression.outlineText false = textOfLines (
      (expression.filter.positions.filterMap expression.filter.lineAt?).map indented ++
        ["sort: " ++ expression.order.text, "count: " ++ expression.count.repr]) ∧
    (∀ line ∈ expression.outlineLines, '\n' ∉ line.toList) ∧
    expression.filter.positions.Pairwise (· < ·) ∧
    ∀ position, position ∈ expression.filter.positions ↔
      (expression.filter.at? position).isSome = true := by
  have lineFree := Expression.newline_not_mem_outlineLines parsed free
  refine ⟨⟨fun same => ?_, ?_⟩, expression.outlineText_eq, lineFree,
    expression.filter.positions_sorted, fun position => Filter.mem_positions⟩
  · rw [expression.outlineText_eq, other.outlineText_eq] at same
    exact Expression.eq_of_outlineLines_eq parsed otherParsed (textOfLines_injective lineFree
      (Expression.newline_not_mem_outlineLines otherParsed otherFree) same)
  · rintro ⟨filters, orders, counts⟩
    rw [Expression.outlineText, Expression.outlineText, filters, orders, counts]

/-- Two spellings of an expression have one outline. -/
theorem outlines_tell_expressions_respelled :
    ∃ expression other,
      Expression.parse "\x7bgenre:Drama AND length:>=90 | rating | 5\x7d" = .ok expression ∧
      Expression.parse "\x7b[genre:(Drama) AND length:>=090] | RATING | 05\x7d" = .ok other ∧
      expression.outlineText false = other.outlineText false := by
  let filter : Filter := .all [.group .genre (.term .genre "Drama"), .runtime .atLeast 90]
  have same := @outlines_tell_expressions
    "\x7bgenre:Drama AND length:>=90 | rating | 5\x7d"
    "\x7b[genre:(Drama) AND length:>=090] | RATING | 05\x7d"
    ⟨filter, "rating", 5⟩ ⟨filter, "RATING", 5⟩ rfl rfl (by decide) (by decide)
  exact ⟨_, _, rfl, rfl, same.1.mpr ⟨rfl, by decide, rfl⟩⟩

end PlaylistRules
