/-
This file lays a text that is read over the written text of the same filter. The
written text stands between opening and closing brackets, as it does inside a list or
a group, and the text that is read stands apart in the whole: next to it is a blank, a
bracket or the edge. Then the only text that is read as the filter is the written one,
perhaps in delimiters of its own. Here that is derived from the case in which the text
is not unwrapped; the next file proves that case for every filter.
-/

import PlaylistRules.Proofs.Alignment

namespace PlaylistRules

open Text

/-! ### Brackets and edges -/

/-- Opening brackets of either shape, and nothing else. -/
def AllOpeners (text : List Char) : Prop :=
  ∀ character ∈ text, Bracketing.clause.opens character = true

/-- Closing brackets of either shape, and nothing else. -/
def AllClosers (text : List Char) : Prop :=
  ∀ character ∈ text, Bracketing.clause.closes character = true

/-- What stands in front of a text apart: it ends with a blank or an opening bracket. -/
def FrontEdge (front : List Char) : Prop :=
  ∀ character ∈ front.getLast?, isBlank character = true ∨
    Bracketing.clause.opens character = true

/-- What stands behind a text apart: it begins with a blank or a closing bracket. -/
def BackEdge (back : List Char) : Prop :=
  ∀ character ∈ back.head?, isBlank character = true ∨
    Bracketing.clause.closes character = true

theorem isBracket_of_opens {character : Char}
    (opening : Bracketing.clause.opens character = true) : isBracket character = true := by
  by_contra plain
  rw [Bracketing.clause.opens_of_no_bracket (Bool.not_eq_true _ ▸ plain)] at opening
  cases opening

theorem isBracket_of_closes {character : Char}
    (closing : Bracketing.clause.closes character = true) : isBracket character = true := by
  by_contra plain
  rw [Bracketing.clause.closes_of_no_bracket (Bool.not_eq_true _ ▸ plain)] at closing
  cases closing

/-- No character is both a blank and a bracket. -/
theorem not_isBlank_of_isBracket {character : Char} (bracket : isBracket character = true) :
    ¬ isBlank character = true := by
  intro blank
  rw [isBracket_of_isBlank blank] at bracket
  cases bracket

/-- What can stand in front of a text apart does not close anything. -/
theorem not_closes_of_edge {character : Char}
    (edge : isBlank character = true ∨ Bracketing.clause.opens character = true) :
    ¬ Bracketing.clause.closes character = true := by
  intro closing
  rcases edge with blank | opening
  · exact not_isBlank_of_isBracket (isBracket_of_closes closing) blank
  · rw [Bracketing.clause.closes_of_opens opening] at closing
    cases closing

/-- What can stand behind a text apart does not open anything. -/
theorem not_opens_of_edge {character : Char}
    (edge : isBlank character = true ∨ Bracketing.clause.closes character = true) :
    ¬ Bracketing.clause.opens character = true := by
  intro opening
  rcases edge with blank | closing
  · exact not_isBlank_of_isBracket (isBracket_of_opens opening) blank
  · rw [Bracketing.clause.closes_of_opens opening] at closing
    cases closing

theorem opens_style (style : Bracketing) : Bracketing.clause.opens style.opener = true := by
  cases style <;> rfl

theorem closes_style (style : Bracketing) : Bracketing.clause.closes style.closer = true := by
  cases style <;> rfl

theorem eq_nil_of_allBlank {text : List Char} (blank : AllBlank text)
    (brackets : ∀ character ∈ text, isBracket character = true) : text = [] :=
  List.eq_nil_iff_forall_not_mem.mpr fun character member =>
    not_isBlank_of_isBracket (brackets character member) (blank character member)

theorem AllOpeners.eq_nil {text : List Char} (openers : AllOpeners text) (blank : AllBlank text) :
    text = [] :=
  eq_nil_of_allBlank blank fun character member => isBracket_of_opens (openers character member)

theorem AllClosers.eq_nil {text : List Char} (closers : AllClosers text) (blank : AllBlank text) :
    text = [] :=
  eq_nil_of_allBlank blank fun character member => isBracket_of_closes (closers character member)

theorem allOpeners_replicate (style : Bracketing) (depth : Nat) :
    AllOpeners (List.replicate depth style.opener) := by
  intro character member
  rw [List.eq_of_mem_replicate member]
  exact opens_style style

theorem allClosers_replicate (style : Bracketing) (depth : Nat) :
    AllClosers (List.replicate depth style.closer) := by
  intro character member
  rw [List.eq_of_mem_replicate member]
  exact closes_style style

theorem allOpeners_nil : AllOpeners [] := fun _ member => absurd member List.not_mem_nil

theorem allClosers_nil : AllClosers [] := fun _ member => absurd member List.not_mem_nil

theorem frontEdge_nil : FrontEdge [] := fun _ last => absurd last (by simp)

theorem backEdge_nil : BackEdge [] := fun _ first => absurd first (by simp)

theorem frontEdge_of_allBlank {front : List Char} (blank : AllBlank front) : FrontEdge front :=
  fun character last => Or.inl (blank character (List.mem_of_mem_getLast? last))

theorem backEdge_of_allBlank {back : List Char} (blank : AllBlank back) : BackEdge back :=
  fun character first => Or.inl (blank character (List.mem_of_mem_head? first))

theorem FrontEdge.append {front part : List Char} (edge : FrontEdge front)
    (each : ∀ character ∈ part, isBlank character = true ∨
      Bracketing.clause.opens character = true) : FrontEdge (front ++ part) := by
  intro character last
  by_cases none : part = []
  · rw [none, List.append_nil] at last
    exact edge character last
  · rw [List.getLast?_append_of_ne_nil _ none] at last
    exact each character (List.mem_of_mem_getLast? last)

theorem BackEdge.append {part back : List Char} (edge : BackEdge back)
    (each : ∀ character ∈ part, isBlank character = true ∨
      Bracketing.clause.closes character = true) : BackEdge (part ++ back) := by
  intro character first
  by_cases none : part = []
  · rw [none, List.nil_append] at first
    exact edge character first
  · rw [List.head?_append_of_ne_nil _ none] at first
    exact each character (List.mem_of_mem_head? first)

/-! ### Overlays -/

/-- A text that is read, between `front` and `back`, lies over a written text between
brackets. -/
structure Overlay (front text back openers written closers : List Char) : Prop where
  trimmed : trim text = text
  frontEdge : FrontEdge front
  backEdge : BackEdge back
  opening : AllOpeners openers
  closing : AllClosers closers
  same : front ++ text ++ back = openers ++ written ++ closers

section

variable {front text back openers written closers : List Char}

/-- A text lies over itself. -/
theorem Overlay.self (trimmed : trim text = text) : Overlay [] text [] [] text [] :=
  ⟨trimmed, frontEdge_nil, backEdge_nil, allOpeners_nil, allClosers_nil, rfl⟩

/-- The brackets around a written text have no landmarks. -/
theorem Overlay.count_openers (overlay : Overlay front text back openers written closers)
    (landmark : Landmark) : landmark.count openers = 0 :=
  landmark.count_eq_zero fun character member =>
    landmark.not_isAt_of_isBracket (isBracket_of_opens (overlay.opening character member))

theorem Overlay.count_closers (overlay : Overlay front text back openers written closers)
    (landmark : Landmark) : landmark.count closers = 0 :=
  landmark.count_eq_zero fun character member =>
    landmark.not_isAt_of_isBracket (isBracket_of_closes (overlay.closing character member))

/-- Delimiters that come off the text that is read belong to what stands around it. -/
theorem Overlay.unwrapped {style : Bracketing} {lead inner trail : List Char}
    (overlay : Overlay front (style.opener :: (lead ++ inner ++ trail) ++ [style.closer]) back
      openers written closers)
    (leadBlank : AllBlank lead) (trailBlank : AllBlank trail) (trimmed : trim inner = inner) :
    Overlay (front ++ style.opener :: lead) inner (trail ++ style.closer :: back) openers written
      closers := by
  refine ⟨trimmed, overlay.frontEdge.append ?_, ?_, overlay.opening, overlay.closing, ?_⟩
  · intro character member
    rcases List.mem_cons.mp member with rfl | inLead
    · exact Or.inr (opens_style style)
    · exact Or.inl (leadBlank character inLead)
  · refine BackEdge.append ?_ fun character member => Or.inl (trailBlank character member)
    intro character first
    rw [List.head?_cons, Option.mem_some_iff] at first
    exact Or.inr (first ▸ closes_style style)
  · rw [← overlay.same]
    simp

/-- Every overlaid text that is read as the filter is its written text in some delimiters. -/
def Filter.Located (style : Bracketing) (filter : Filter) : Prop :=
  ∀ ⦃levels : Nat⦄ ⦃front text back openers closers : List Char⦄,
    Overlay front text back openers (write style filter) closers →
    read levels style text = .ok filter →
    ∃ depth, openers = front ++ List.replicate depth style.opener ∧
      closers = List.replicate depth style.closer ++ back

/-- Every overlaid text that is read as the filter, and is not unwrapped for it, is its
written text. -/
def Filter.Anchored (style : Bracketing) (filter : Filter) : Prop :=
  ∀ ⦃levels : Nat⦄ ⦃front text back openers closers : List Char⦄,
    Overlay front text back openers (write style filter) closers →
    Reading (read levels) style text filter →
    (∃ inner, Undivided style text ∧ unwrap? style text = some inner ∧
        read levels style inner = .ok filter) ∨
      (front = openers ∧ back = closers)

/-- Unwrapping a text again and again ends with a text that is not unwrapped. -/
theorem Filter.Anchored.located {style : Bracketing} {filter : Filter}
    (anchored : filter.Anchored style) : filter.Located style := by
  intro levels
  induction levels with
  | zero =>
    intro front text back openers closers _ parsed
    cases parsed
  | succ levels inductionHypothesis =>
    intro front text back openers closers overlay parsed
    obtain ⟨_, reading⟩ := (read_eq_ok_iff levels style text filter).mp parsed
    rw [overlay.trimmed] at reading
    rcases anchored overlay reading with ⟨inner, _, wrapped, parsedInner⟩ | ⟨rfl, rfl⟩
    · obtain ⟨body, rfl, _, rfl⟩ := (unwrap?_eq_some_iff style text inner).mp wrapped
      obtain ⟨lead, trail, split, leadBlank, trailBlank⟩ := exists_eq_trim body
      rw [split] at overlay
      obtain ⟨depth, atFront, atBack⟩ := inductionHypothesis
        (overlay.unwrapped leadBlank trailBlank (trim_trim body)) parsedInner
      have leadNone : lead = [] := by
        refine AllOpeners.eq_nil (fun character member => overlay.opening character ?_) leadBlank
        rw [atFront]
        simp [member]
      have trailNone : trail = [] := by
        refine AllClosers.eq_nil (fun character member => overlay.closing character ?_) trailBlank
        rw [atBack]
        simp [member]
      refine ⟨depth + 1, ?_, ?_⟩
      · rw [atFront, leadNone, List.append_assoc, List.singleton_append, List.replicate_succ]
      · rw [atBack, trailNone, List.nil_append, List.replicate_succ', List.append_assoc,
          List.singleton_append]
    · exact ⟨0, by simp, by simp⟩

/-! ### Members of lists -/

/-- The delimiters that a list has inside another filter are the first of those around
it. -/
theorem Filter.Located.inside {style : Bracketing} {filter : Filter} {levels : Nat}
    (located : filter.Located style)
    (overlay : Overlay front text back openers (writeInside style filter) closers)
    (parsed : read levels style text = .ok filter) :
    ∃ own depth,
      openers ++ List.replicate own style.opener = front ++ List.replicate depth style.opener ∧
        List.replicate own style.closer ++ closers =
          List.replicate depth style.closer ++ back := by
  have split : ∃ own, writeInside style filter = List.replicate own style.opener ++
      write style filter ++ List.replicate own style.closer := by
    unfold writeInside delimited
    split
    · exact ⟨1, rfl⟩
    · exact ⟨0, by simp⟩
  obtain ⟨own, split⟩ := split
  have bare : Overlay front text back (openers ++ List.replicate own style.opener)
      (write style filter) (List.replicate own style.closer ++ closers) := by
    refine ⟨overlay.trimmed, overlay.frontEdge, overlay.backEdge, ?_, ?_, ?_⟩
    · exact List.forall_mem_append.mpr ⟨overlay.opening, allOpeners_replicate style own⟩
    · exact List.forall_mem_append.mpr ⟨allClosers_replicate style own, overlay.closing⟩
    · rw [overlay.same, split]
      simp
  exact ⟨own, located bare parsed⟩

/-- With nothing but blanks behind it, the text that is read begins where the member does. -/
theorem Filter.Located.front_eq {style : Bracketing} {filter : Filter} {levels : Nat}
    (located : filter.Located style)
    (overlay : Overlay front text back openers (writeInside style filter) [])
    (backBlank : AllBlank back) (parsed : read levels style text = .ok filter) :
    front = openers ∧ back = [] := by
  obtain ⟨own, depth, atFront, atBack⟩ := located.inside overlay parsed
  rw [List.append_nil] at atBack
  have none : back = [] := by
    refine AllClosers.eq_nil (fun character member => allClosers_replicate style own character ?_)
      backBlank
    rw [atBack]
    exact List.mem_append_right _ member
  rw [none, List.append_nil] at atBack
  have equal : own = depth := by simpa using congrArg List.length atBack
  rw [equal] at atFront
  exact ⟨(List.append_cancel_right atFront).symm, none⟩

/-- With nothing but blanks in front of it, the text that is read ends where the member
does. -/
theorem Filter.Located.back_eq {style : Bracketing} {filter : Filter} {levels : Nat}
    (located : filter.Located style)
    (overlay : Overlay front text back [] (writeInside style filter) closers)
    (frontBlank : AllBlank front) (parsed : read levels style text = .ok filter) :
    front = [] ∧ back = closers := by
  obtain ⟨own, depth, atFront, atBack⟩ := located.inside overlay parsed
  rw [List.nil_append] at atFront
  have none : front = [] := by
    refine AllOpeners.eq_nil (fun character member => allOpeners_replicate style own character ?_)
      frontBlank
    rw [atFront]
    exact List.mem_append_left _ member
  rw [none, List.nil_append] at atFront
  have equal : own = depth := by simpa using congrArg List.length atFront
  rw [equal] at atBack
  exact ⟨none, (List.append_cancel_left atBack).symm⟩

/-- The first member of a list is read where it was written. -/
theorem Filter.Located.front_eq_of_head {style : Bracketing} {filter : Filter} {levels : Nat}
    {segment : List Char} (located : filter.Located style) (frontEdge : FrontEdge front)
    (opening : AllOpeners openers) (nonblank : trim segment ≠ [])
    (parsed : read levels style (trim segment) = .ok filter)
    (same : front ++ segment = openers ++ writeInside style filter ++ [' ']) :
    front = openers := by
  obtain ⟨lead, trail, split, leadBlank, trailBlank⟩ := exists_eq_trim segment
  rcases List.eq_nil_or_concat' trail with none | ⟨others, last, found⟩
  · -- The text that is read would end with the blank behind the member.
    have ending := congrArg List.getLast? same
    rw [split, none, List.append_nil, ← List.append_assoc,
      List.getLast?_append_of_ne_nil _ nonblank, List.getLast?_concat] at ending
    have stop := ((trim_eq_self_iff (trim segment)).mp (trim_trim segment)).2 ' ' ending
    cases stop
  · have cut : front ++ lead ++ trim segment ++ others = openers ++ writeInside style filter := by
      rw [split, found, ← List.append_assoc, ← List.append_assoc,
        ← List.append_assoc] at same
      exact (List.append_inj' same rfl).1
    have othersBlank : AllBlank others := by
      intro character member
      exact trailBlank character (found ▸ List.mem_append_left _ member)
    have overlay : Overlay (front ++ lead) (trim segment) others openers
        (writeInside style filter) [] := by
      refine ⟨trim_trim segment, frontEdge.append fun character member =>
        Or.inl (leadBlank character member), backEdge_of_allBlank othersBlank, opening,
        allClosers_nil, ?_⟩
      rw [List.append_nil, cut]
    obtain ⟨atFront, _⟩ := located.front_eq overlay othersBlank parsed
    have none : lead = [] := by
      refine AllOpeners.eq_nil (fun character member => opening character ?_) leadBlank
      rw [← atFront]
      exact List.mem_append_right _ member
    rw [← atFront, none, List.append_nil]

/-- A member with nothing but brackets behind it is read where it was written. -/
theorem Filter.Located.back_eq_of_tail {style : Bracketing} {filter : Filter} {levels : Nat}
    {after : List Char} (located : filter.Located style) (backEdge : BackEdge back)
    (closing : AllClosers closers) (parsed : read levels style (trim after) = .ok filter)
    (same : after ++ back = writeInside style filter ++ closers) : back = closers := by
  obtain ⟨lead, trail, split, leadBlank, trailBlank⟩ := exists_eq_trim after
  have overlay : Overlay lead (trim after) (trail ++ back) [] (writeInside style filter)
      closers := by
    refine ⟨trim_trim after, frontEdge_of_allBlank leadBlank,
      backEdge.append fun character member => Or.inl (trailBlank character member),
      allOpeners_nil, closing, ?_⟩
    rw [List.nil_append, ← same, ← List.append_assoc, ← split]
  obtain ⟨_, atBack⟩ := located.back_eq overlay leadBlank parsed
  have none : trail = [] := by
    refine AllClosers.eq_nil (fun character member => closing character ?_) trailBlank
    rw [← atBack]
    exact List.mem_append_left _ member
  rw [← atBack, none, List.nil_append]

end

end PlaylistRules
