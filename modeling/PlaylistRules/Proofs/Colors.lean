/-
This file proves that colours change nothing but the colours. Whatever is shown in colour,
an outline, a table, a rule or the results of a run, is what is shown without them with
control sequences put in. That holds if no text that is shown has an escape character.
What is derived from such texts has none either: a canonical form and the wording of a
fault consist of parts of the expression and of fixed words.
-/

import PlaylistRules.Proofs.Origins
import PlaylistRules.Proofs.Outlines
import PlaylistRules.Proofs.Painting
import PlaylistRules.Report.Rules
import PlaylistRules.Report.Runs

namespace PlaylistRules

open Number Text

/-! ### Filters and faults -/

@[simp]
theorem Field.isClean_keyword (field : Field) : IsClean field.keyword := by
  cases field <;> decide

@[simp]
theorem Comparison.isClean_symbol (comparison : Comparison) : IsClean comparison.symbol := by
  cases comparison <;> decide

@[simp]
theorem SortKey.isClean_text (key : SortKey) : IsClean key.text := by
  cases key <;> decide

theorem FormatError.isClean_suggestionText {suggestion : Option String}
    (clean : ∀ suggested ∈ suggestion.toList, IsClean suggested) :
    IsClean (suggestionText suggestion) := by
  unfold suggestionText
  cases suggestion with
  | none => decide
  | some suggested =>
    simp only [isClean_append, clean suggested List.mem_cons_self]
    decide

/-- The wording of a fault is clean if the texts that it carries are. -/
theorem FormatError.isClean_message {fault : FormatError}
    (clean : ∀ text ∈ fault.texts, IsClean text) : IsClean fault.message := by
  unfold message
  cases fault with
  | emptyFilter => decide
  | unknownKind kind suggestion =>
    obtain ⟨kindClean, suggestionClean⟩ := List.forall_mem_cons.mp clean
    simp only [isClean_append, kindClean, isClean_suggestionText suggestionClean]
    decide
  | _ =>
    simp only [texts, List.forall_mem_cons] at clean
    simp only [isClean_append, isClean_repr, Field.isClean_keyword, clean]
    decide

/-- The fault of an expression is worded in clean text if the expression is clean. -/
theorem Expression.isClean_message_of_parse {text : String} {fault : FormatError}
    (clean : IsClean text) (failed : parse text = .error fault) : IsClean fault.message := by
  have kinds : ∀ kind ∈ Filter.knownKinds, IsClean kind := by decide
  refine FormatError.isClean_message fun carried member => ?_
  rcases isPartOrKind_of_parse failed carried member with inText | known
  · exact clean.of_isInfix inText
  · exact kinds carried known

/-- The canonical form of a clean expression is clean. -/
theorem Expression.isClean_text_of_parse {text : String} {expression : Expression}
    (clean : IsClean text) (parsed : parse text = .ok expression) : IsClean expression.text := by
  obtain ⟨shaped, sortKey⟩ := isInfix_of_parse parsed
  have filter : escape ∉ Filter.write .clause expression.filter :=
    Filter.not_mem_write (by decide) (fun _ _ inText => clean.of_isInfix inText) shaped
  simp only [Expression.text, Filter.text, isClean_append, isClean_ofList, isClean_repr, filter,
    clean.of_isInfix sortKey]
  decide

/-! ### Outlines -/

theorem Filter.isClean_heading {filter : Filter}
    (free : ∀ field text, filter = term field text → IsClean text) : IsClean filter.heading := by
  cases filter with
  | watched state => cases state <;> decide
  | term field text =>
    simp only [heading, isClean_append, Field.isClean_keyword, free field text rfl]
    decide
  | _ =>
    simp only [heading, comparisonLine, isClean_append, isClean_ofList, Field.isClean_keyword,
      Comparison.isClean_symbol, escape_not_mem_integerText, escape_not_mem_plainText,
      not_false_eq_true]
    decide

/-- The lines of a filter are clean if its terms are. -/
theorem Filter.isClean_of_mem_outline {filter : Filter}
    (clean : ∀ term ∈ filter.termTexts, IsClean term) {level : Nat} {line : OutlineLine}
    (member : line ∈ filter.outline level) : IsClean line.text := by
  have listed : (line.level, line.text) ∈ plainLines (filter.outline level) :=
    List.mem_map.mpr ⟨line, member, rfl⟩
  rw [plainLines_outline, List.mem_map] at listed
  obtain ⟨shown, inLines, same⟩ := listed
  obtain ⟨position, part, atPosition, said⟩ := exists_part_of_mem_lines inLines
  have text : line.text = part.heading := (congrArg Prod.snd same).symm.trans said
  rw [text]
  exact isClean_heading fun field term single => clean term (mem_termTexts (single ▸ atPosition))

theorem OutlineLine.paints_render {line : OutlineLine} (clean : IsClean line.text) :
    Paints (line.render true) (line.render false) := by
  obtain ⟨level, isKeyword, text⟩ := line
  refine Paints.append (Paints.append (.refl (isClean_blanks _)) ?_) (.refl (by decide))
  cases isKeyword with
  | true => exact ((Paints.refl clean).paint .cyan).paint .bold
  | false => exact .refl clean

theorem Expression.paints_outlineText {expression : Expression}
    (clean : ∀ term ∈ expression.filter.termTexts, IsClean term) :
    Paints (expression.outlineText true) (expression.outlineText false) := by
  have lines := Paints.join fun line (member : line ∈ expression.filter.outline 0) =>
    OutlineLine.paints_render (Filter.isClean_of_mem_outline clean member)
  exact lines
    |>.append_clean (by decide)
    |>.append_clean expression.order.isClean_text
    |>.append_clean isClean_newline
    |>.append_clean (by decide)
    |>.append_clean (isClean_repr _)
    |>.append_clean isClean_newline

namespace Report

/-! ### Cells -/

theorem paints_headerLine {names : String} (clean : IsClean names) :
    Paints (headerLine true names) (headerLine false names) :=
  (Paints.paintIf clean .dimmed).append_clean isClean_newline

theorem paints_label {name : String} (clean : IsClean name) :
    Paints (label true name) (label false name) :=
  .paintIf clean .bold

theorem paints_paintEnabled {text : String} (clean : IsClean text) (enabled : Bool) :
    Paints (paintEnabled text enabled) text :=
  (Paints.refl clean).paint _

theorem isClean_enabledCell (enabled : Bool) : IsClean (enabledCell false enabled) := by
  cases enabled <;> decide

theorem paints_enabledCell (enabled : Bool) :
    Paints (enabledCell true enabled) (enabledCell false enabled) :=
  paints_paintEnabled (isClean_enabledCell enabled) enabled

theorem paints_paddedStatus (enabled : Bool) :
    Paints (paddedStatus true enabled) (paddedStatus false enabled) :=
  paints_paintEnabled ((isClean_padEnd _ _).mpr (isClean_enabledCell enabled)) enabled

theorem isClean_ratingCell (rating : Option Binary64) : IsClean (ratingCell false rating) := by
  cases rating with
  | none => decide
  | some value => exact (isClean_ofList _).mpr (escape_not_mem_tenthsText value)

theorem paints_paintRating {text : String} (clean : IsClean text) (rating : Binary64) :
    Paints (paintRating text rating) text := by
  rw [paintRating]
  split_ifs
  · exact (Paints.refl clean).paint _
  · exact (Paints.refl clean).paint _
  · exact .refl clean

theorem paints_paddedRating (rating : Option Binary64) :
    Paints (paddedRating true rating) (paddedRating false rating) := by
  have clean := (isClean_padStart 6 _).mpr (isClean_ratingCell rating)
  cases rating with
  | none => exact .refl clean
  | some value =>
    simp only [paddedRating, if_true, Bool.false_eq_true, if_false]
    exact paints_paintRating clean value

theorem isClean_yearCell (year : Option Int) : IsClean (yearCell year) := by
  cases year with
  | none => decide
  | some value => exact (isClean_ofList _).mpr (escape_not_mem_integerText value)

theorem isClean_runtimeCell (runtime : Option Int) : IsClean (runtimeCell runtime) := by
  cases runtime with
  | none => decide
  | some minutes =>
    rw [runtimeCell]
    split <;> simp <;> decide

theorem isClean_dateCell (instant : Option Calendar.Instant) : IsClean (dateCell instant) := by
  cases instant with
  | none => decide
  | some value => exact (isClean_ofList _).mpr (escape_not_mem_dateText value)

/-! ### Tables -/

/-- The line of a record, whose id and name are shown. -/
theorem paints_itemLine {record : Record} (id : IsClean record.id) (name : IsClean record.name) :
    Paints (itemLine true record) (itemLine false record) := by
  have before : IsClean (padEnd 8 (idCell record.id) ++ " " ++ padEnd 4 (yearCell record.year) ++
      " ") := by
    simp only [idCell, isClean_append, isClean_padEnd, id.firstChars, isClean_yearCell]
    decide
  have runtime : IsClean (padStart 7 (runtimeCell record.runtime)) :=
    (isClean_padStart _ _).mpr (isClean_runtimeCell _)
  have date : IsClean (padEnd 10 (dateCell record.dateAdded)) :=
    (isClean_padEnd _ _).mpr (isClean_dateCell _)
  exact Paints.refl before
    |>.append (paints_paddedRating record.rating)
    |>.append_clean isClean_space
    |>.append_clean runtime
    |>.append_clean isClean_space
    |>.append_clean date
    |>.append_clean isClean_space
    |>.append_clean (name.shortened 50)
    |>.append_clean isClean_newline

theorem paints_itemTable {records : List Record}
    (clean : ∀ record ∈ records, IsClean record.id ∧ IsClean record.name) :
    Paints (itemTable true records) (itemTable false records) := by
  unfold itemTable
  split
  · exact .refl (by decide)
  · exact (paints_headerLine (by decide)).append
      (Paints.join fun record member =>
        paints_itemLine (clean record member).1 (clean record member).2)

/-- The line of a rule, whose name and user are shown. -/
theorem paints_ruleLine {rule : Rule} (name : IsClean rule.name)
    (user : ∀ user ∈ rule.user, IsClean user) :
    Paints (ruleLine true rule) (ruleLine false rule) := by
  have before : IsClean (padEnd 25 (shortened 25 rule.name) ++ " ") := by
    simp only [isClean_append, isClean_padEnd, name.shortened]
    decide
  have shownUser : IsClean (rule.user.getD "-") := by
    cases named : rule.user with
    | none => decide
    | some found => exact user found named
  have after : IsClean (padEnd 12 (shortened 12 (rule.user.getD "-"))) :=
    (isClean_padEnd _ _).mpr (shownUser.shortened 12)
  exact Paints.refl before
    |>.append (paints_paddedStatus rule.enabled)
    |>.append_clean isClean_space
    |>.append_clean after
    |>.append_clean isClean_space
    |>.append_clean (isClean_repr _)
    |>.append_clean isClean_newline

theorem paints_ruleTable {rules : List Rule}
    (clean : ∀ rule ∈ rules, IsClean rule.name ∧ ∀ user ∈ rule.user, IsClean user) :
    Paints (ruleTable true rules) (ruleTable false rules) := by
  unfold ruleTable
  split
  · exact .refl (by decide)
  · exact (paints_headerLine (by decide)).append
      (Paints.join fun rule member => paints_ruleLine (clean rule member).1 (clean rule member).2)

/-! ### One rule -/

theorem paints_expressionNote {text : String} (clean : IsClean text) :
    Paints (expressionNote true text) (expressionNote false text) := by
  unfold expressionNote
  cases parsed : Expression.parse text with
  | ok expression =>
    have canonical := Expression.isClean_text_of_parse clean parsed
    refine .refl ?_
    dsimp only
    split
    · decide
    · simp only [isClean_append, canonical]
      decide
  | error fault =>
    have worded : IsClean ("     ! " ++ fault.message) :=
      (isClean_append _ _).mpr ⟨by decide, Expression.isClean_message_of_parse clean parsed⟩
    exact (Paints.paintIf worded .red).append_clean isClean_newline

theorem paints_expressionLines {texts : List String} (clean : ∀ text ∈ texts, IsClean text)
    (number : Nat) :
    Paints (expressionLines true number texts) (expressionLines false number texts) := by
  induction texts generalizing number with
  | nil => exact Painting.nil
  | cons text rest inductionHypothesis =>
    obtain ⟨textClean, restClean⟩ := List.forall_mem_cons.mp clean
    have line : IsClean ("  " ++ number.repr ++ ". " ++ text ++ "\n") := by
      simp only [isClean_append, isClean_repr, textClean]
      decide
    exact Paints.refl line
      |>.append (paints_expressionNote textClean)
      |>.append (inductionHypothesis restClean (number + 1))

theorem paints_userLine {user : Option String} (clean : ∀ name ∈ user, IsClean name) :
    Paints (userLine true user) (userLine false user) := by
  cases user with
  | none => exact .refl (by decide)
  | some name =>
    exact paints_label (by decide)
      |>.append_clean isClean_space
      |>.append_clean (clean name rfl)
      |>.append_clean isClean_newline

/-- The details of a rule, whose name, user and expressions are shown. -/
theorem paints_ruleDetails {rule : Rule} (name : IsClean rule.name)
    (user : ∀ user ∈ rule.user, IsClean user)
    (expressions : ∀ text ∈ rule.expressions, IsClean text) :
    Paints (ruleDetails true rule) (ruleDetails false rule) := by
  exact paints_label (by decide)
    |>.append_clean isClean_space
    |>.append_clean name
    |>.append_clean isClean_newline
    |>.append (paints_label (by decide))
    |>.append_clean isClean_space
    |>.append (paints_enabledCell rule.enabled)
    |>.append_clean isClean_newline
    |>.append (paints_userLine user)
    |>.append_clean isClean_newline
    |>.append (paints_label (by decide))
    |>.append_clean isClean_newline
    |>.append (paints_expressionLines expressions 1)

/-! ### Results of a run -/

section

variable {sourceFault sinkFault : Type} [Worded sourceFault] [Worded sinkFault]

/-- The texts that a result is shown from. -/
def textsOf : RunResult sourceFault sinkFault → List String
  | (rule, .ok outcome) =>
    rule :: (outcome.playlist.toList ++
      outcome.skipped.flatMap fun skipped => skipped.expression :: skipped.fault.texts)
  | (rule, .error (.source fault)) => [rule, Worded.message fault]
  | (rule, .error (.sink fault)) => [rule, Worded.message fault]

theorem paints_skippedLine {skipped : SkippedExpression}
    (clean : ∀ text ∈ skipped.expression :: skipped.fault.texts, IsClean text) :
    Paints (skippedLine true skipped) (skippedLine false skipped) := by
  obtain ⟨expression, fault⟩ := List.forall_mem_cons.mp clean
  have worded := FormatError.isClean_message fault
  refine (Paints.paintIf ?_ .yellow).append_clean isClean_newline
  simp only [isClean_append, expression, worded]
  decide

theorem paints_resultLine {result : RunResult sourceFault sinkFault}
    (clean : ∀ text ∈ textsOf result, IsClean text) :
    Paints (resultLine true result) (resultLine false result) := by
  obtain ⟨rule, fault | outcome⟩ := result
  · have worded : IsClean ("✗ " ++ rule ++ ": " ++ fault.message) := by
      unfold RunFault.message
      cases fault with
      | source fault | sink fault =>
        simp only [textsOf, List.forall_mem_cons] at clean
        simp only [isClean_append, clean]
        decide
    exact .paintIf worded .red
  · obtain ⟨ruleClean, othersClean⟩ := List.forall_mem_cons.mp clean
    cases made : outcome.playlist with
    | some id =>
      have idClean : IsClean id :=
        othersClean id (List.mem_append_left _ (Option.mem_toList.mpr made))
      simp only [resultLine, made]
      refine .paintIf ?_ .green
      simp only [idCell, isClean_append, isClean_repr, ruleClean, idClean.firstChars]
      decide
    | none =>
      simp only [resultLine, made]
      refine .paintIf ?_ .dimmed
      simp only [isClean_append, ruleClean]
      decide

theorem mem_textsOf_of_skipped {result : RunResult sourceFault sinkFault}
    {skipped : SkippedExpression} (member : skipped ∈ skippedOf result) {text : String}
    (carried : text ∈ skipped.expression :: skipped.fault.texts) : text ∈ textsOf result := by
  obtain ⟨rule, fault | outcome⟩ := result
  · cases member
  · exact List.mem_cons_of_mem _
      (List.mem_append_right _ (List.mem_flatMap.mpr ⟨skipped, member, carried⟩))

theorem paints_resultLines {results : List (RunResult sourceFault sinkFault)}
    (clean : ∀ result ∈ results, ∀ text ∈ textsOf result, IsClean text) :
    Paints (resultLines true results) (resultLines false results) := by
  unfold resultLines
  split
  · exact .refl (by decide)
  · refine Paints.join fun result member => ?_
    have line := (paints_resultLine (clean result member)).append_clean isClean_newline
    refine line.append (Paints.join fun skipped inResult =>
      paints_skippedLine fun text carried => ?_)
    exact clean result member text (mem_textsOf_of_skipped inResult carried)

end

/-! ### All of them -/

/-- Colours never change the text. Without its control sequences, whatever is shown in colour
is what is shown without colours, blanks and all: the outline of an expression, the table of
rules, the details of a rule, the table of records and the results of a run. No text in what
is shown may have an escape character. -/
theorem colors_keep_text {sourceFault sinkFault : Type} [Worded sourceFault] [Worded sinkFault] :
    (∀ expression : Expression, (∀ term ∈ expression.filter.termTexts, IsClean term) →
      uncolored (expression.outlineText true) = expression.outlineText false) ∧
    (∀ rules : List Rule,
      (∀ rule ∈ rules, IsClean rule.name ∧ ∀ user ∈ rule.user, IsClean user) →
        uncolored (ruleTable true rules) = ruleTable false rules) ∧
    (∀ rule : Rule, IsClean rule.name → (∀ user ∈ rule.user, IsClean user) →
      (∀ text ∈ rule.expressions, IsClean text) →
        uncolored (ruleDetails true rule) = ruleDetails false rule) ∧
    (∀ records : List Record, (∀ record ∈ records, IsClean record.id ∧ IsClean record.name) →
      uncolored (itemTable true records) = itemTable false records) ∧
    ∀ results : List (RunResult sourceFault sinkFault),
      (∀ result ∈ results, ∀ text ∈ textsOf result, IsClean text) →
        uncolored (resultLines true results) = resultLines false results :=
  ⟨fun _ clean => (Expression.paints_outlineText clean).uncolored_eq,
    fun _ clean => (paints_ruleTable clean).uncolored_eq,
    fun _ name user expressions => (paints_ruleDetails name user expressions).uncolored_eq,
    fun _ clean => (paints_itemTable clean).uncolored_eq,
    fun _ clean => (paints_resultLines clean).uncolored_eq⟩

/-- An outline with a keyword, rules of which one has a faulty expression, a record with a good
rating, and a run that failed. -/
theorem colors_keep_text_shown :
    let expression : Expression := ⟨.not (.group .genre (.term .genre "Drama")), "rating", 5⟩
    let rule : Rule := ⟨"Noir", ["genre"], some "ann", true⟩
    let record : Record :=
      ⟨"a1", "Box", "Movie", NameSet.empty, some 95, none, false, some 1999, some goodRating, none⟩
    let result : RunResult String String := ("Noir", .error (.source "gone"))
    uncolored (expression.outlineText true) = expression.outlineText false ∧
      expression.outlineText true =
        "\x1b[1m\x1b[36mNOT\x1b[39m\x1b[0m\n  genre = Drama\nsort: rating\ncount: 5\n" ∧
      uncolored (ruleTable true [rule]) = ruleTable false [rule] ∧
      uncolored (ruleDetails true rule) = ruleDetails false rule ∧
      uncolored (itemTable true [record]) = itemTable false [record] ∧
      uncolored (resultLines true [result]) = resultLines false [result] ∧
      resultLines true [result] = "\x1b[31m✗ Noir: failed to fetch content: gone\x1b[39m\n" := by
  intro expression rule record result
  obtain ⟨outlines, tables, details, items, runs⟩ := @colors_keep_text String String _ _
  exact ⟨outlines expression (by decide), by decide, tables [rule] (by decide),
    details rule (by decide) (by decide) (by decide), items [record] (by decide),
    runs [result] (by decide), by decide⟩

end Report

end PlaylistRules
