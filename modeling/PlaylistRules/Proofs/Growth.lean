/-
This file compares what is found at a path before and after directories on the way to it
were made. As long as what stands at its place is the same and the path never goes up, the
same is found there, with one exception: where nothing was found because a directory was
missing, a name further on that is too long may come up once that directory is there.
-/

import PlaylistRules.Proofs.Lineages
import PlaylistRules.Proofs.Refusals

namespace PlaylistRules.Storage

namespace Disk

/-! ### Growth -/

/-- Nothing changed but at some places, where anything may have, and on the way to a goal,
where directories may have been made. -/
structure Grows (goal : Location) (changed : Location → Prop) (before after : Disk) : Prop where
  current : after.current = before.current
  entry : ∀ place, ¬changed place → after.entry? place = before.entry? place ∨
    (before.entry? place = none ∧ after.entry? place = some .directory ∧
      place <:+ goal ∧ place ≠ goal)

namespace Grows

variable {goal : Location} {changed : Location → Prop} {before between after : Disk}

theorem refl (goal : Location) (changed : Location → Prop) (disk : Disk) :
    Grows goal changed disk disk :=
  ⟨rfl, fun _ _ => .inl rfl⟩

theorem trans (first : Grows goal changed before between)
    (second : Grows goal changed between after) : Grows goal changed before after where
  current := second.current.trans first.current
  entry place same := by
    rcases first.entry place same with earlier | ⟨missing, made, way⟩
    · rw [← earlier]
      exact second.entry place same
    · rcases second.entry place same with later | ⟨gone, _⟩
      · rw [later]
        exact .inr ⟨missing, made, way⟩
      · rw [made] at gone
        cases gone

theorem startOf (grows : Grows goal changed before after) (path : Path) :
    after.startOf path = before.startOf path := by
  rw [Disk.startOf, Disk.startOf, grows.current]

theorem place (grows : Grows goal changed before after) (path : Path) :
    after.place path = before.place path := by
  rw [Disk.place, Disk.place, grows.startOf]

/-- What stands at the goal is not made on the way to it. -/
theorem entry?_goal (grows : Grows goal changed before after) (same : ¬changed goal) :
    after.entry? goal = before.entry? goal := by
  rcases grows.entry goal same with equal | ⟨_, _, _, other⟩
  · exact equal
  · exact absurd rfl other

/-- Files that are not at a changed place stay as they are. -/
theorem file? (grows : Grows goal changed before after) {place : Location}
    (same : ¬changed place) : after.file? place = before.file? place := by
  rcases grows.entry place same with equal | ⟨missing, made, _⟩
  · exact file?_congr equal
  · rw [Disk.file?, Disk.file?, missing, made]

end Grows

/-! ### Walks -/

theorem walk_of_idle {piece : String} (idle : Path.isIdle piece = true) (disk : Disk)
    (here : Location) (rest : List String) :
    disk.walk here (piece :: rest) = disk.walk here rest := by
  rw [walk, if_pos idle]

theorem walk_of_long {piece : String} (isName : IsName piece) (long : isTooLong piece = true)
    (disk : Disk) (here : Location) (rest : List String) :
    disk.walk here (piece :: rest) = .error .nameTooLong := by
  rw [walk, isName.busy, if_neg Bool.false_ne_true, if_neg isName.inside, if_pos long]

theorem walk_of_name {piece : String} (isName : IsName piece) (short : ¬isTooLong piece = true)
    (disk : Disk) (here : Location) (rest : List String) :
    disk.walk here (piece :: rest) =
      match disk.entry? (piece :: here) with
      | some .directory => disk.walk (piece :: here) rest
      | some (.file _) => .error .notADirectory
      | none => .error .notFound := by
  have busy : ¬Path.isIdle piece = true := Bool.eq_false_iff.mp isName.busy
  exact (if_neg busy).trans ((if_neg isName.inside).trans (if_neg short))

/-- How a walk ends that meets no file: at a directory, at a gap or at a name that is too
long. -/
inductive EndsClear (disk : Disk) (here : Location) (pieces : List String) : Prop where
  | arrives {found : Location} (walked : disk.walk here pieces = .ok found)
      (there : disk.entry? found = some .directory)
  | gap (walked : disk.walk here pieces = .error .notFound)
  | long (walked : disk.walk here pieces = .error .nameTooLong)
      (piece : ∃ piece ∈ pieces, isTooLong piece = true)

theorem EndsClear.cons {disk : Disk} {here next : Location} {piece : String} {rest : List String}
    (ends : EndsClear disk next rest)
    (walks : disk.walk here (piece :: rest) = disk.walk next rest) :
    EndsClear disk here (piece :: rest) := by
  cases ends with
  | arrives walked there => exact .arrives (walks.trans walked) there
  | gap walked => exact .gap (walks.trans walked)
  | long walked piece =>
    obtain ⟨piece, member, tooLong⟩ := piece
    exact .long (walks.trans walked) ⟨piece, List.mem_cons_of_mem _ member, tooLong⟩

section

variable {goal : Location} {changed : Location → Prop} {before after : Disk}
  {pieces : List String} {here : Location}

/-- Beyond a directory that is new there is nothing but new directories. -/
theorem endsClear_of_missing (tree : IsTree before) (grows : Grows goal changed before after)
    (aside : ∀ place, place <:+ goal → ¬changed place) (inside : ".." ∉ pieces)
    (within : course here pieces <:+ goal) (missing : before.entry? here = none)
    (made : after.entry? here = some .directory) : EndsClear after here pieces := by
  induction pieces generalizing here with
  | nil => exact .arrives rfl made
  | cons piece rest inductionHypothesis =>
    obtain ⟨level, inside⟩ := List.ne_and_not_mem_of_not_mem_cons inside
    rcases isIdle_or_isName level with idle | isName
    · rw [course_cons_of_idle idle] at within
      exact (inductionHypothesis inside within missing made).cons (walk_of_idle idle ..)
    rw [course_cons_of_name isName] at within
    by_cases tooLong : isTooLong piece = true
    · exact .long (walk_of_long isName tooLong ..) ⟨piece, List.mem_cons_self, tooLong⟩
    have walks := walk_of_name isName tooLong after here rest
    have nothing := tree.entry?_eq_none (List.suffix_cons piece here) missing
    rcases grows.entry _ (aside _ ((suffix_course inside _).trans within)) with same | ⟨_, new, _⟩
    · rw [same, nothing] at walks
      exact .gap walks
    · rw [new] at walks
      exact (inductionHypothesis inside within nothing new).cons walks

/-- A walk goes as before, unless it ended at a gap on the way. -/
theorem walk_eq_or_endsClear (tree : IsTree before) (grows : Grows goal changed before after)
    (aside : ∀ place, place <:+ goal → ¬changed place) (inside : ".." ∉ pieces)
    (within : course here pieces <:+ goal) :
    after.walk here pieces = before.walk here pieces ∨
    (before.walk here pieces = .error .notFound ∧ before.entry? goal = none ∧
      EndsClear after here pieces) := by
  induction pieces generalizing here with
  | nil => exact .inl rfl
  | cons piece rest inductionHypothesis =>
    obtain ⟨level, inside⟩ := List.ne_and_not_mem_of_not_mem_cons inside
    rcases isIdle_or_isName level with idle | isName
    · rw [course_cons_of_idle idle] at within
      rw [walk_of_idle idle, walk_of_idle idle]
      rcases inductionHypothesis inside within with same | ⟨gap, missing, ends⟩
      · exact .inl same
      · exact .inr ⟨gap, missing, ends.cons (walk_of_idle idle ..)⟩
    rw [course_cons_of_name isName] at within
    by_cases tooLong : isTooLong piece = true
    · rw [walk_of_long isName tooLong, walk_of_long isName tooLong]
      exact .inl rfl
    have walks := walk_of_name isName tooLong after here rest
    have walked := walk_of_name isName tooLong before here rest
    have way := (suffix_course inside (piece :: here)).trans within
    rcases grows.entry _ (aside _ way) with same | ⟨nothing, new, _⟩
    · rw [same] at walks
      cases there : before.entry? (piece :: here) with
      | none =>
        rw [there] at walks walked
        exact .inl (walks.trans walked.symm)
      | some entry =>
        rw [there] at walks walked
        cases entry with
        | file content => exact .inl (walks.trans walked.symm)
        | directory =>
          rw [walked]
          rcases inductionHypothesis inside within with same | ⟨gap, missing, ends⟩
          · exact .inl (walks.trans same)
          · exact .inr ⟨gap, missing, ends.cons walks⟩
    · -- The walk used to end here. What follows was never looked at before.
      rw [nothing] at walked
      rw [new] at walks
      exact .inr ⟨walked, tree.entry?_eq_none way nothing,
        (endsClear_of_missing tree grows aside inside within nothing new).cons walks⟩

end

/-! ### Paths -/

/-- Whether two disks show the same at a path, or show nothing at first and then that a name
of the path is too long. -/
def ShowsAlike (path : Path) {Shown : Type} (before after : Except FileFault Shown) : Prop :=
  after = before ∨ (before = .error .notFound ∧ after = .error .nameTooLong ∧
    ∃ piece ∈ path.pieces, isTooLong piece = true)

theorem find?_of_approach_error {disk : Disk} {path : Path} {fault : FileFault}
    (fails : disk.approach path = .error fault) : disk.find? path = .error fault := by
  rw [find?, fails]

/-- What is found at a path depends on where it leads and what stands at its place. -/
theorem find?_congr {before after : Disk} {path : Path}
    (leads : after.approach path = before.approach path)
    (same : after.entry? (before.place path) = before.entry? (before.place path)) :
    after.find? path = before.find? path := by
  rw [find?, find?, leads]
  cases approached : before.approach path with
  | error fault => rfl
  | ok found =>
    obtain ⟨directory, ending⟩ := found
    rcases ending with _ | _ | ⟨name, slash⟩
    case name =>
      rw [place_of_approach approached] at same
      simp only [same]
    all_goals rfl

/-- What is found at a path at whose place there is nothing, if no file is in the way. -/
theorem find?_of_endsClear {disk : Disk} {path : Path} {last : String} {front : List String}
    (inside : ".." ∉ path.pieces) (usable : IsUsable path)
    (split : solidPieces path = last :: front) (nothing : disk.entry? (disk.place path) = none)
    (ends : EndsClear disk (disk.startOf path) front.reverse) :
    disk.find? path = .error .notFound ∨ (disk.find? path = .error .nameTooLong ∧
      ∃ piece ∈ path.pieces, isTooLong piece = true) := by
  have leads := approach_of_solidPieces usable split disk
  obtain ⟨blanks, pieces, solid, empty, _⟩ := pieces_of_solidPieces split
  have idle : ∀ piece ∈ blanks, Path.isIdle piece = true := fun piece member => by
    rw [empty piece member]
    rfl
  cases ends with
  | gap walked =>
    rw [walked] at leads
    exact .inl (find?_of_approach_error leads)
  | long walked piece =>
    rw [walked] at leads
    obtain ⟨piece, member, tooLong⟩ := piece
    exact .inr ⟨find?_of_approach_error leads, piece, by simp [pieces, List.mem_reverse.mp member],
      tooLong⟩
  | @arrives found walked there =>
    have arrived := walk_eq_course walked
    rw [walked, Except.bind] at leads
    by_cases tooLong : isTooLong last = true
    · rw [if_pos tooLong] at leads
      exact .inr ⟨find?_of_approach_error leads, last, by simp [pieces], tooLong⟩
    rw [if_neg tooLong] at leads
    have placed : disk.place path = course found (last :: blanks) := by
      rw [place, pieces, course_append, arrived]
    by_cases here : last = "."
    · -- The path would lead to the directory itself, which is not there.
      have allIdle : ∀ piece ∈ last :: blanks, Path.isIdle piece = true :=
        List.forall_mem_cons.mpr ⟨by rw [here]; rfl, idle⟩
      rw [placed, course_idle allIdle, there] at nothing
      cases nothing
    · have level : last ≠ ".." := fun up => inside (by simp [pieces, up])
      rw [(ofPiece_eq_name_iff last last _ _).mpr ⟨here, level, rfl, rfl⟩] at leads
      rw [place_of_approach leads] at nothing
      exact .inl (by rw [find?, leads]; simp only [nothing])

/-- What is found at a path that never goes up is the same, unless a name that is too long
comes up after a gap is gone. -/
theorem find?_alike {changed : Location → Prop} {before after : Disk} {path : Path}
    (inside : ".." ∉ path.pieces) (tree : IsTree before)
    (grows : Grows (before.place path) changed before after)
    (aside : ∀ place, place <:+ before.place path → ¬changed place) :
    ShowsAlike path (before.find? path) (after.find? path) := by
  by_cases usable : IsUsable path
  case neg =>
    obtain ⟨fault, fails⟩ := approach_of_not_isUsable usable
    exact .inl (by rw [find?, find?, fails, fails])
  cases split : solidPieces path with
  | nil =>
    exact .inl (by rw [find?, find?, approach_of_no_piece usable split,
      approach_of_no_piece usable split])
  | cons last front =>
    have target := grows.entry?_goal (aside _ List.suffix_rfl)
    have leads := approach_of_solidPieces usable split before
    have leadsAfter := approach_of_solidPieces usable split after
    rw [grows.startOf] at leadsAfter
    obtain ⟨blanks, pieces, _⟩ := pieces_of_solidPieces split
    have parts := inside
    rw [pieces, List.mem_append, not_or] at parts
    have within : course (before.startOf path) front.reverse <:+ before.place path := by
      rw [place, pieces, course_append]
      exact suffix_course parts.2 _
    rcases walk_eq_or_endsClear tree grows aside parts.1 within with same | ⟨gap, missing, ends⟩
    · rw [same, ← leads] at leadsAfter
      exact .inl (find?_congr leadsAfter target)
    · rw [gap] at leads
      rw [← grows.startOf] at ends
      rw [missing, ← grows.place] at target
      rw [find?_of_approach_error leads]
      exact (find?_of_endsClear inside usable split target ends).imp_right fun shows => ⟨rfl, shows⟩

end Disk

end PlaylistRules.Storage
