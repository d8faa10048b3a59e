/-
This file says what a rule selects. The selections of its valid expressions stand one
behind the other, and of the records with one id the first is kept. Taking the union
goes from left to right and never looks ahead: what an appended selection adds comes
behind, and it is the part that is new. So invalid expressions leave no trace among the
items, and neither does an expression that is there a second time.
-/

import Mathlib.Data.List.Induction
import Mathlib.Data.List.Nodup
import PlaylistRules.Rule

namespace PlaylistRules

/-! ### The first record of each id -/

/-- The ids of records. -/
def idsOf (records : List Record) : List String :=
  records.map (·.id)

@[simp]
theorem idsOf_append (first second : List Record) :
    idsOf (first ++ second) = idsOf first ++ idsOf second :=
  List.map_append

theorem mem_idsOf_of_mem {record : Record} {records : List Record} (member : record ∈ records) :
    record.id ∈ idsOf records :=
  List.mem_map_of_mem member

/-- Only which ids were seen matters, not in which order or how often. -/
theorem firstOfEachId_congr {seen other : List String} (same : ∀ id, id ∈ seen ↔ id ∈ other)
    (records : List Record) : firstOfEachId seen records = firstOfEachId other records := by
  induction records generalizing seen other with
  | nil => rfl
  | cons record rest inductionHypothesis =>
    have head : seen.contains record.id = other.contains record.id := by
      rw [Bool.eq_iff_iff, List.contains_iff_mem, List.contains_iff_mem, same]
    have tail : ∀ id, id ∈ record.id :: seen ↔ id ∈ record.id :: other := fun id => by
      rw [List.mem_cons, List.mem_cons, same]
    rw [firstOfEachId, firstOfEachId, head, inductionHypothesis same, inductionHypothesis tail]

/-- Records that are appended are looked at with the ids before them as seen. -/
theorem firstOfEachId_append (seen : List String) (first second : List Record) :
    firstOfEachId seen (first ++ second) =
      firstOfEachId seen first ++ firstOfEachId (idsOf first ++ seen) second := by
  induction first generalizing seen with
  | nil => rfl
  | cons record rest inductionHypothesis =>
    rw [List.cons_append, firstOfEachId, firstOfEachId]
    cases known : seen.contains record.id with
    | true =>
      rw [if_pos rfl, if_pos rfl, inductionHypothesis]
      refine congrArg _ (firstOfEachId_congr (fun id => ?_) second)
      have inSeen : record.id ∈ seen := List.contains_iff_mem.mp known
      simp only [idsOf, List.map_cons, List.cons_append, List.mem_cons, List.mem_append]
      constructor
      · exact .inr
      · rintro (rfl | member)
        · exact .inr inSeen
        · exact member
    | false =>
      rw [if_neg Bool.false_ne_true, if_neg Bool.false_ne_true, inductionHypothesis,
        List.cons_append]
      refine congrArg _ (congrArg _ (firstOfEachId_congr (fun id => ?_) second))
      simp only [idsOf, List.map_cons, List.cons_append, List.mem_cons, List.mem_append]
      exact or_left_comm

/-- Records whose ids were all seen add nothing. -/
theorem firstOfEachId_of_seen {seen : List String} {records : List Record}
    (known : ∀ record ∈ records, record.id ∈ seen) : firstOfEachId seen records = [] := by
  induction records with
  | nil => rfl
  | cons record rest inductionHypothesis =>
    rw [firstOfEachId, if_pos (List.contains_iff_mem.mpr (known record List.mem_cons_self))]
    exact inductionHypothesis fun later member => known later (List.mem_cons_of_mem _ member)

/-! ### The union by places -/

/-- Whether no record before the place of an entry has its id. -/
def isFirstOfId (records : List Record) (entry : Record × Nat) : Bool :=
  (records.take entry.2).all fun earlier => earlier.id != entry.1.id

/-- The records whose id has not occurred earlier, in their order. -/
def newRecords (records : List Record) : List Record :=
  (records.zipIdx.filter (isFirstOfId records)).map Prod.fst

theorem newRecords_concat (records : List Record) (last : Record) :
    newRecords (records ++ [last]) =
      newRecords records ++ if last.id ∈ idsOf records then [] else [last] := by
  have before : records.zipIdx.filter (isFirstOfId (records ++ [last])) =
      records.zipIdx.filter (isFirstOfId records) := by
    refine List.filter_congr fun entry member => ?_
    have inside : entry.2 < records.length := List.snd_lt_of_mem_zipIdx member
    rw [isFirstOfId, isFirstOfId, List.take_append_of_le_length (Nat.le_of_lt inside)]
  have atEnd : isFirstOfId (records ++ [last]) (last, records.length) =
      decide (last.id ∉ idsOf records) := by
    rw [isFirstOfId, List.take_left, Bool.eq_iff_iff, List.all_eq_true, decide_eq_true_iff]
    simp [idsOf]
  rw [newRecords, List.zipIdx_append, List.filter_append, before, List.map_append]
  refine congrArg _ ?_
  rw [List.zipIdx_singleton, Nat.zero_add, List.filter_singleton, atEnd]
  by_cases known : last.id ∈ idsOf records
  · simp [known]
  · simp [known]

/-- Whoever has seen nothing keeps exactly the new records. -/
theorem firstOfEachId_nil (records : List Record) :
    firstOfEachId [] records = newRecords records := by
  induction records using List.reverseRecOn with
  | nil => rfl
  | append_singleton records last inductionHypothesis =>
    rw [firstOfEachId_append, newRecords_concat, inductionHypothesis, List.append_nil]
    refine congrArg _ ?_
    rw [firstOfEachId, List.contains_eq_mem, firstOfEachId]
    by_cases known : last.id ∈ idsOf records
    · simp [known]
    · simp [known, firstOfEachId]

/-- A record is new exactly when it is the first with its id. -/
theorem mem_newRecords_iff (records : List Record) (record : Record) :
    record ∈ newRecords records ↔ records.find? (·.id == record.id) = some record := by
  induction records using List.reverseRecOn with
  | nil => simp [newRecords]
  | append_singleton records last inductionHypothesis =>
    rw [newRecords_concat, List.mem_append, inductionHypothesis, List.find?_append,
      List.find?_singleton]
    cases found : records.find? (·.id == record.id) with
    | some earlier =>
      have known : record.id ∈ idsOf records := by
        have same : earlier.id = record.id := by simpa using List.find?_some found
        exact same ▸ mem_idsOf_of_mem (List.mem_of_find?_eq_some found)
      rw [Option.some_or, or_iff_left]
      intro atEnd
      by_cases lastKnown : last.id ∈ idsOf records
      · simp [lastKnown] at atEnd
      · rw [if_neg lastKnown, List.mem_singleton] at atEnd
        exact lastKnown (atEnd ▸ known)
    | none =>
      have unknown : record.id ∉ idsOf records := by
        simpa [idsOf] using found
      rw [Option.none_or]
      by_cases same : last = record
      · subst same
        simp [unknown]
      · have notLast : record ∉ if last.id ∈ idsOf records then [] else [last] := by
          split
          · exact List.not_mem_nil
          · exact fun atEnd => same (List.mem_singleton.mp atEnd).symm
        simp [notLast, same]

/-- Every id that occurs is the id of a new record. -/
theorem mem_idsOf_newRecords_iff (records : List Record) (id : String) :
    id ∈ idsOf (newRecords records) ↔ id ∈ idsOf records := by
  constructor
  · intro member
    obtain ⟨record, new, rfl⟩ := List.mem_map.mp member
    exact mem_idsOf_of_mem (List.mem_of_find?_eq_some ((mem_newRecords_iff _ _).mp new))
  · intro member
    obtain ⟨record, inRecords, rfl⟩ := List.mem_map.mp member
    cases found : records.find? (·.id == record.id) with
    | none => simpa using List.find?_eq_none.mp found record inRecords
    | some first =>
      have same : first.id = record.id := by simpa using List.find?_some found
      rw [← same] at found ⊢
      exact mem_idsOf_of_mem ((mem_newRecords_iff _ _).mpr found)

theorem nodup_idsOf_newRecords (records : List Record) : (idsOf (newRecords records)).Nodup := by
  induction records using List.reverseRecOn with
  | nil => exact List.nodup_nil
  | append_singleton records last inductionHypothesis =>
    rw [newRecords_concat, idsOf_append]
    by_cases known : last.id ∈ idsOf records
    · rw [if_pos known]
      simpa [idsOf] using inductionHypothesis
    · rw [if_neg known]
      refine List.nodup_append.mpr ⟨inductionHypothesis, List.nodup_singleton _, ?_⟩
      intro id inNew other inLast same
      rw [mem_idsOf_newRecords_iff] at inNew
      rw [same, List.mem_singleton.mp inLast] at inNew
      exact known inNew

/-- What comes first stays in place when records are appended. -/
theorem newRecords_prefix (first second : List Record) :
    newRecords first <+: newRecords (first ++ second) := by
  rw [← firstOfEachId_nil, ← firstOfEachId_nil, firstOfEachId_append]
  exact List.prefix_append _ _

/-- Records that come again add nothing, whatever follows them. -/
theorem newRecords_append_again {before again : List Record} (after : List Record)
    (known : again ⊆ before) :
    newRecords (before ++ (again ++ after)) = newRecords (before ++ after) := by
  have nothing : firstOfEachId (idsOf before ++ []) again = [] :=
    firstOfEachId_of_seen fun record member =>
      List.mem_append_left _ (mem_idsOf_of_mem (known member))
  have sameIds (id : String) :
      id ∈ idsOf again ++ (idsOf before ++ []) ↔ id ∈ idsOf before ++ [] := by
    rw [List.mem_append, or_iff_right_of_imp]
    intro member
    obtain ⟨record, inAgain, rfl⟩ := List.mem_map.mp member
    exact List.mem_append_left _ (mem_idsOf_of_mem (known inAgain))
  rw [← firstOfEachId_nil, ← firstOfEachId_nil, firstOfEachId_append, firstOfEachId_append,
    firstOfEachId_append, nothing, List.nil_append, firstOfEachId_congr sameIds]

/-! ### Expressions that can be read -/

/-- Whether an expression can be read. -/
def isValid (text : String) : Bool :=
  (Expression.parse text).isOk

theorem isValid_iff (text : String) :
    isValid text = true ↔ ∃ expression, Expression.parse text = .ok expression := by
  rw [isValid]
  cases Expression.parse text with
  | error fault => exact ⟨nofun, nofun⟩
  | ok expression => exact ⟨fun _ => ⟨expression, rfl⟩, fun _ => rfl⟩

/-- The expressions among texts. -/
def validExpressions (texts : List String) : List Expression :=
  texts.filterMap fun text => (Expression.parse text).toOption

theorem mem_validExpressions {texts : List String} {expression : Expression} :
    expression ∈ validExpressions texts ↔
      ∃ text ∈ texts, Expression.parse text = .ok expression := by
  refine List.mem_filterMap.trans (exists_congr fun text => and_congr_right fun _ => ?_)
  cases Expression.parse text <;> simp [Except.toOption]

/-- What can be read decides which expressions there are. -/
theorem validExpressions_filter (texts : List String) :
    validExpressions (texts.filter isValid) = validExpressions texts := by
  rw [validExpressions, validExpressions, List.filterMap_filter]
  refine congrArg (List.filterMap · texts) (funext fun text => ?_)
  rw [isValid]
  cases Expression.parse text <;> rfl

/-- The selections of the expressions among texts, one after the other. -/
def selections (draw : Nat) (records : List Record) (texts : List String) : List Record :=
  (validExpressions texts).flatMap (·.select draw records)

theorem selections_append (draw : Nat) (records : List Record) (first second : List String) :
    selections draw records (first ++ second) =
      selections draw records first ++ selections draw records second := by
  rw [selections, validExpressions, List.filterMap_append, List.flatMap_append]
  rfl

theorem selections_subset {draw : Nat} {records : List Record} {texts : List String}
    {text : String} (member : text ∈ texts) :
    selections draw records [text] ⊆ selections draw records texts := by
  intro record inText
  obtain ⟨expression, valid, selected⟩ := List.mem_flatMap.mp inText
  obtain ⟨_, same, parsed⟩ := mem_validExpressions.mp valid
  rw [List.mem_singleton.mp same] at parsed
  exact List.mem_flatMap.mpr
    ⟨expression, mem_validExpressions.mpr ⟨text, member, parsed⟩, selected⟩

/-! ### Drawn numbers -/

/-- None of the expressions among texts asks for the random order. -/
def Steady (texts : List String) : Prop :=
  ∀ expression ∈ validExpressions texts, expression.order ≠ .random

instance (texts : List String) : Decidable (Steady texts) :=
  inferInstanceAs (Decidable (∀ expression ∈ validExpressions texts, expression.order ≠ .random))

theorem Steady.mono {texts larger : List String} (steady : Steady larger)
    (subset : texts ⊆ larger) : Steady texts := by
  intro expression member
  obtain ⟨text, inTexts, parsed⟩ := mem_validExpressions.mp member
  exact steady expression (mem_validExpressions.mpr ⟨text, subset inTexts, parsed⟩)

/-- A drawn number counts for the random order only. -/
theorem select_of_not_random {expression : Expression} (notRandom : expression.order ≠ .random)
    (draw other : Nat) (records : List Record) :
    expression.select draw records = expression.select other records := by
  rw [Expression.select, Expression.select]
  cases order : expression.order with
  | random => exact absurd order notRandom
  | _ => rfl

/-! ### Attempts -/

theorem attemptEach_append (draws : Draws) (records : List Record) (first second : List String) :
    ∃ laterDraws, attemptEach draws records (first ++ second) =
      attemptEach draws records first ++ attemptEach laterDraws records second := by
  induction first generalizing draws with
  | nil => exact ⟨draws, rfl⟩
  | cons text rest inductionHypothesis =>
    obtain ⟨laterDraws, split⟩ := inductionHypothesis draws.rest
    exact ⟨laterDraws, congrArg _ split⟩

/-- The attempts that succeed are the selections of the valid expressions. -/
theorem selected_attemptEach {texts : List String} (steady : Steady texts) (draws : Draws)
    (draw : Nat) (records : List Record) :
    (attemptEach draws records texts).filterMap Attempt.selected? =
      (validExpressions texts).map (·.select draw records) := by
  induction texts generalizing draws with
  | nil => rfl
  | cons text rest inductionHypothesis =>
    have others := inductionHypothesis (steady.mono (List.subset_cons_self _ _)) draws.rest
    rw [attemptEach, validExpressions, List.filterMap_cons, List.filterMap_cons]
    cases parsed : Expression.parse text with
    | error fault => exact others
    | ok expression =>
      have same := select_of_not_random
        (steady expression (mem_validExpressions.mpr ⟨text, List.mem_cons_self, parsed⟩))
        (draws 0) draw records
      exact congrArg₂ List.cons same others

/-- A text that cannot be read, with its fault. -/
def faulty? (text : String) : Option SkippedExpression :=
  match Expression.parse text with
  | .error fault => some ⟨text, fault⟩
  | .ok _ => none

/-- The attempts that fail are those of the texts that cannot be read. -/
theorem skipped_attemptEach (draws : Draws) (records : List Record) (texts : List String) :
    (attemptEach draws records texts).filterMap Attempt.skipped? = texts.filterMap faulty? := by
  induction texts generalizing draws with
  | nil => rfl
  | cons text rest inductionHypothesis =>
    have others := inductionHypothesis draws.rest
    rw [attemptEach, List.filterMap_cons, List.filterMap_cons, faulty?]
    cases Expression.parse text with
    | error fault => exact congrArg _ others
    | ok expression => exact others

theorem map_expression_faulty (texts : List String) :
    (texts.filterMap faulty?).map (·.expression) = texts.filter (!isValid ·) := by
  induction texts with
  | nil => rfl
  | cons text rest inductionHypothesis =>
    rw [List.filterMap_cons, List.filter_cons, faulty?, isValid]
    cases Expression.parse text with
    | error fault => exact congrArg (text :: ·) inductionHypothesis
    | ok expression => exact inductionHypothesis

theorem parse_of_mem_faulty {texts : List String} {skipped : SkippedExpression}
    (member : skipped ∈ texts.filterMap faulty?) :
    Expression.parse skipped.expression = .error skipped.fault := by
  obtain ⟨text, _, found⟩ := List.mem_filterMap.mp member
  rw [faulty?] at found
  cases parsed : Expression.parse text with
  | error fault =>
    rw [parsed] at found
    cases found
    exact parsed
  | ok expression =>
    rw [parsed] at found
    cases found

/-! ### Selections of rules -/

namespace Rule

/-- The items of a rule without the random order are the new ones among the selections of
its valid expressions. -/
theorem items_select {rule : Rule} (steady : Steady rule.expressions) (draws : Draws)
    (draw : Nat) (records : List Record) :
    (rule.select draws records).items = newRecords (selections draw records rule.expressions) := by
  rw [select, attempts, RuleSelection.ofAttempts, selected_attemptEach steady draws draw records,
    union, firstOfEachId_nil, selections, List.flatMap_def]

theorem skipped_select (rule : Rule) (draws : Draws) (records : List Record) :
    (rule.select draws records).skipped = rule.expressions.filterMap faulty? :=
  skipped_attemptEach draws records rule.expressions

/-- Without the random order, a selection depends on the expressions and the records only. -/
theorem select_congr {rule other : Rule} (same : other.expressions = rule.expressions)
    (steady : Steady rule.expressions) (draws otherDraws : Draws) (records : List Record) :
    other.select otherDraws records = rule.select draws records := by
  have items : (other.select otherDraws records).items = (rule.select draws records).items := by
    rw [items_select steady draws 0, items_select (same ▸ steady) otherDraws 0, same]
  have skipped :
      (other.select otherDraws records).skipped = (rule.select draws records).skipped := by
    rw [skipped_select, skipped_select, same]
  cases first : other.select otherDraws records
  cases second : rule.select draws records
  rw [first, second] at items skipped
  exact congrArg₂ RuleSelection.mk items skipped

/-- A rule selects the union of what its valid expressions select: of the records with one
id the first, in the order of the expressions. Its skipped expressions are the invalid
ones. So invalid expressions change nothing about the items, one more expression adds
items behind the others only, and one that is repeated adds none. -/
theorem select_eq_union (rule : Rule) (steady : Steady rule.expressions) (records : List Record)
    (draws : Draws) (draw : Nat) :
    let selected := selections draw records rule.expressions
    let selection := rule.select draws records
    selection.items = newRecords selected ∧
      (idsOf selection.items).Nodup ∧
      (∀ record ∈ selected, record.id ∈ idsOf selection.items) ∧
      (∀ record ∈ selection.items, selected.find? (·.id == record.id) = some record) ∧
      selection.skipped.map (·.expression) = rule.expressions.filter (!isValid ·) ∧
      (∀ skipped ∈ selection.skipped,
        Expression.parse skipped.expression = .error skipped.fault) ∧
      (∀ (other : Rule) (otherDraws : Draws),
        other.expressions.filter isValid = rule.expressions.filter isValid →
          (other.select otherDraws records).items = selection.items) ∧
      (∀ (text : String) (otherDraws : Draws),
        selection.items <+:
          ({ rule with expressions := rule.expressions ++ [text] }.select
            otherDraws records).items) ∧
      ∀ (before after : List String) (text : String) (otherDraws : Draws),
        rule.expressions = before ++ after → text ∈ before →
          ({ rule with expressions := before ++ text :: after }.select otherDraws records).items =
            selection.items := by
  intro selected selection
  have items : selection.items = newRecords selected := items_select steady draws draw records
  rw [items]
  refine ⟨rfl, nodup_idsOf_newRecords selected, ?_, ?_, ?_, ?_, ?_, ?_, ?_⟩
  · exact fun record member =>
      (mem_idsOf_newRecords_iff selected record.id).mpr (mem_idsOf_of_mem member)
  · exact fun record member => (mem_newRecords_iff selected record).mp member
  · rw [skipped_select, map_expression_faulty]
  · intro skipped member
    rw [skipped_select] at member
    exact parse_of_mem_faulty member
  · intro other otherDraws same
    have sameValid : validExpressions other.expressions = validExpressions rule.expressions := by
      rw [← validExpressions_filter, same, validExpressions_filter]
    have otherSteady : Steady other.expressions := fun expression member =>
      steady expression (sameValid ▸ member)
    rw [items_select otherSteady otherDraws draw, selections, sameValid]
    rfl
  · intro text otherDraws
    rw [select, attempts, RuleSelection.ofAttempts]
    obtain ⟨laterDraws, split⟩ := attemptEach_append otherDraws records rule.expressions [text]
    rw [split, List.filterMap_append, selected_attemptEach steady otherDraws draw, union,
      List.flatten_append, firstOfEachId_nil]
    exact newRecords_prefix _ _
  · intro before after text otherDraws split member
    have again : before ++ text :: after ⊆ rule.expressions := by
      rw [split]
      exact List.append_subset.mpr ⟨List.subset_append_left _ _, List.cons_subset.mpr
        ⟨List.mem_append_left _ member, List.subset_append_right _ _⟩⟩
    rw [items_select (steady.mono again) otherDraws draw, ← List.singleton_append,
      selections_append, selections_append, newRecords_append_again _ (selections_subset member),
      ← selections_append, ← split]

/-- The middle expression is invalid, and two records have one id. -/
theorem select_eq_union_invalid_between :
    let record (id contentType : String) (year : Int) : Record :=
      ⟨id, "", contentType, ⟨[], .nil⟩, none, none, false, some year, none, none⟩
    let records :=
      [record "a" "Movie" 1990, record "b" "Episode" 1991, record "a" "Episode" 1992]
    let rule : Rule := ⟨"Mixed",
      ["\x7btype:Episode | none | 2\x7d", "\x7btype:Episode\x7d", "\x7btype:Movie | none | 5\x7d"],
      none, true⟩
    let selection := rule.select (fun _ => 0) records
    Steady rule.expressions ∧
      selection.items.map (fun item => (item.id, item.year)) =
        [("b", some 1991), ("a", some 1992)] ∧
      selection.skipped.map (·.expression) = ["\x7btype:Episode\x7d"] := by
  intro record records rule selection
  have steady : Steady rule.expressions := by decide
  have union := select_eq_union rule steady records (fun _ => 0) 0
  exact ⟨steady, (congrArg _ union.1).trans (by decide), union.2.2.2.2.1.trans (by decide)⟩

end Rule

end PlaylistRules
