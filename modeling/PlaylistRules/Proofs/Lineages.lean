/-
This file proves where the relatives of a path lead that never goes up. Its parents lead
to the directories around its place, and its temporary path to a place beside it, which
is another one unless the path has the extension of temporary files.
-/

import Mathlib.Data.List.TakeWhile
import PlaylistRules.Proofs.Places

namespace PlaylistRules.Storage

namespace Path

/-! ### Extensions -/

/-- What follows the last dot of a name. A dot at the start is part of the name. -/
def extensionOf? (name : String) : Option String :=
  match name.toList.reverse.dropWhile (· != '.') with
  | [] => none
  | _ :: before =>
    if before.isEmpty || name == ".." then none
    else some (String.ofList (name.toList.reverse.takeWhile (· != '.')).reverse)

/-- The extension of the name that a path ends in. -/
def extension? (path : Path) : Option String :=
  path.reversedPieces.head?.bind extensionOf?

/-- A name that is its own temporary name has the extension of those. -/
theorem extensionOf?_of_temporary {name : String} (same : stem name ++ "." ++ "tmp" = name) :
    extensionOf? name = some "tmp" := by
  have reversed : name.toList.reverse = 'p' :: 'm' :: 't' :: '.' :: (stem name).toList.reverse := by
    rw [← congrArg String.toList same]
    simp
  have stop : name.toList.reverse.dropWhile (· != '.') = '.' :: (stem name).toList.reverse := by
    rw [reversed]
    rfl
  have taken : name.toList.reverse.takeWhile (· != '.') = ['p', 'm', 't'] := by
    rw [reversed]
    rfl
  have other : (name == "..") = false := by
    rw [← same]
    exact beq_false_of_ne (Disk.isName_temporary (stem name)).inside
  have solid : (stem name).toList.reverse.isEmpty = false := by
    cases blank : (stem name).toList.reverse.isEmpty with
    | false => rfl
    | true =>
      have whole : stem name = name := by
        rw [stem, stop]
        exact if_pos blank
      have longer := congrArg String.length same
      rw [whole, String.length_append, String.length_append] at longer
      change _ + 1 + 3 = _ at longer
      omega
  rw [extensionOf?, stop]
  simp only [solid, other, taken]
  rfl

/-! ### Pieces -/

theorem eq_of_isIdle {piece : String} (idle : isIdle piece = true) : piece = "" ∨ piece = "." := by
  rwa [isIdle, Bool.or_eq_true, beq_iff_eq, beq_iff_eq] at idle

/-- The pieces of a path around the name that it ends in. -/
theorem pieces_of_reversedPieces {path : Path} {name : String} {before : List String}
    (split : path.reversedPieces = name :: before) :
    ∃ blanks, path.pieces = before.reverse ++ name :: blanks ∧ isIdle name = false ∧
      ∀ piece ∈ blanks, isIdle piece = true := by
  obtain ⟨blanks, pieces, parts⟩ := Disk.reverse_of_dropWhile split
  rw [List.reverse_reverse] at pieces
  exact ⟨blanks, pieces, parts⟩

/-- Whether a path starts at the root depends on its first piece alone, once there is a
further one. -/
theorem isAbsolute_of_pieces {path : Path} {first : String} {more : List String}
    (pieces : path.pieces = first :: more) :
    path.isAbsolute = (first == "" && !more.isEmpty) := by
  rw [isAbsolute, pieces, List.head?_cons]
  cases more <;> simp

/-- A path that ends in a name starts at the root exactly if what comes before the name is
not empty and begins with an empty piece. -/
theorem isAbsolute_of_name {path : Path} {front blanks : List String} {name : String}
    (pieces : path.pieces = front ++ name :: blanks) (solid : isIdle name = false) :
    path.isAbsolute = (front.head? == some "") := by
  cases front with
  | nil =>
    have nonempty : (name == "") = false := by
      rw [isIdle, Bool.or_eq_false_iff] at solid
      exact solid.1
    rw [isAbsolute_of_pieces pieces, nonempty]
    rfl
  | cons first more =>
    rw [isAbsolute_of_pieces pieces, List.head?_cons]
    simp

/-- A path that ends in no name has at most the empty path as its parent. -/
theorem parent?_eq_of_reversedPieces_nil {path parent : Path} (split : path.reversedPieces = [])
    (above : path.parent? = some parent) : parent = ⟨[""]⟩ := by
  rw [parent?, split] at above
  simp only [Option.ite_none_right_eq_some, Option.some.injEq] at above
  exact above.2.symm

/-- What the parent of a path is: the start of the path, if only idle pieces come before its
name, or else the path up to the last other piece. -/
theorem parent?_cases {path parent : Path} {name : String} {before : List String}
    (split : path.reversedPieces = name :: before) (above : path.parent? = some parent) :
    ((∀ piece ∈ before.reverse, isIdle piece = true) ∧
      parent = (before.reverse.head?.map start).getD ⟨[""]⟩) ∨
    ∃ front last blanks, before.reverse = front ++ last :: blanks ∧ isIdle last = false ∧
      (∀ piece ∈ blanks, isIdle piece = true) ∧ parent = ⟨front ++ [last]⟩ := by
  rw [parent?, split] at above
  cases kept : before.dropWhile isIdle with
  | nil =>
    simp only [kept, Option.some.injEq] at above
    refine .inl ⟨fun piece member => ?_, by rw [List.head?_reverse, above]⟩
    exact List.dropWhile_eq_nil_iff.mp kept piece (List.mem_reverse.mp member)
  | cons last front =>
    simp only [kept, Option.some.injEq] at above
    obtain ⟨blanks, pieces, solid, idle⟩ := Disk.reverse_of_dropWhile kept
    exact .inr ⟨front.reverse, last, blanks, pieces, solid, idle,
      by rw [← above, List.reverse_cons]⟩

/-- The parent of a path that never goes up never goes up. -/
theorem inside_parent {path parent : Path} (inside : ".." ∉ path.pieces)
    (above : path.parent? = some parent) : ".." ∉ parent.pieces := by
  cases split : path.reversedPieces with
  | nil =>
    rw [parent?_eq_of_reversedPieces_nil split above]
    decide
  | cons name before =>
    obtain ⟨_, pieces, _⟩ := pieces_of_reversedPieces split
    rw [pieces] at inside
    rcases parent?_cases split above with ⟨idle, rfl⟩ | ⟨front, last, blanks, around, _, _, rfl⟩
    · cases front : before.reverse with
      | nil => decide
      | cons first more =>
        rcases eq_of_isIdle (idle first (by rw [front]; exact List.mem_cons_self)) with rfl | rfl
        · change ".." ∉ ["", ""]
          decide
        · change ".." ∉ ["."]
          decide
    · rw [around] at inside
      simp only [List.mem_append, List.mem_cons, not_or] at inside
      simp [inside]

end Path

namespace Disk

variable {path parent : Path} {name : String} {before : List String}

/-! ### Places -/

theorem isName_of_reversedPieces (split : path.reversedPieces = name :: before)
    (inside : ".." ∉ path.pieces) : IsName name := by
  obtain ⟨blanks, pieces, solid, _⟩ := Path.pieces_of_reversedPieces split
  refine ⟨solid, fun up => inside ?_⟩
  rw [pieces, up]
  simp

/-- The place of a path is its name in the place that its other pieces lead to. -/
theorem place_of_reversedPieces (split : path.reversedPieces = name :: before)
    (inside : ".." ∉ path.pieces) (disk : Disk) :
    disk.place path = name :: course (disk.startOf path) before.reverse := by
  obtain ⟨blanks, pieces, _, idle⟩ := Path.pieces_of_reversedPieces split
  rw [place, pieces, ← List.singleton_append, ← List.append_assoc, course_append, course_append,
    course_name (isName_of_reversedPieces split inside), course_idle idle]

theorem startOf_of_name {front blanks : List String} {other : Path} {otherName : String}
    {otherBlanks : List String} (pieces : path.pieces = front ++ name :: blanks)
    (solid : Path.isIdle name = false)
    (otherPieces : other.pieces = front ++ otherName :: otherBlanks)
    (otherSolid : Path.isIdle otherName = false) (disk : Disk) :
    disk.startOf other = disk.startOf path := by
  rw [startOf, startOf, Path.isAbsolute_of_name pieces solid,
    Path.isAbsolute_of_name otherPieces otherSolid]

/-- The temporary path leads to the same directory. -/
theorem place_withExtension (split : path.reversedPieces = name :: before)
    (inside : ".." ∉ path.pieces) (disk : Disk) :
    disk.place (path.withExtension "tmp") =
      (Path.stem name ++ "." ++ "tmp") :: (disk.place path).tail := by
  obtain ⟨blanks, pieces, solid, _⟩ := Path.pieces_of_reversedPieces split
  have isName := isName_of_reversedPieces split inside
  have shape : path.withExtension "tmp" =
      ⟨before.reverse ++ [Path.stem name ++ "." ++ "tmp"]⟩ := by
    rw [Path.withExtension, split]
    exact if_neg isName.inside
  have temporary := isName_temporary (Path.stem name)
  rw [shape, place_plain rfl temporary, place_of_reversedPieces split inside, List.tail_cons,
    startOf_of_name pieces solid rfl temporary.busy]

/-- The place of the temporary path is not on the way to the place of the path. -/
theorem not_suffix_place_withExtension (inside : ".." ∉ path.pieces)
    (extension : path.extension? ≠ some "tmp") (split : path.reversedPieces = name :: before)
    (disk : Disk) : ¬disk.place (path.withExtension "tmp") <:+ disk.place path := by
  intro suffix
  rw [place_withExtension split inside, place_of_reversedPieces split inside, List.tail_cons]
    at suffix
  have same := suffix.eq_of_length rfl
  refine extension ?_
  rw [Path.extension?, split]
  exact Path.extensionOf?_of_temporary (List.cons.inj same).1

/-- The parent of a name alone leads to where its path starts. -/
theorem place_start {front blanks : List String} (pieces : path.pieces = front ++ name :: blanks)
    (solid : Path.isIdle name = false) (idle : ∀ piece ∈ front, Path.isIdle piece = true)
    (disk : Disk) :
    disk.place ((front.head?.map Path.start).getD ⟨[""]⟩) = disk.startOf path := by
  rw [startOf, Path.isAbsolute_of_name pieces solid]
  cases front with
  | nil => rfl
  | cons first more =>
    rcases Path.eq_of_isIdle (idle first List.mem_cons_self) with rfl | rfl <;> rfl

/-- The parent of a path leads to the directory around its place. -/
theorem place_parent (split : path.reversedPieces = name :: before)
    (inside : ".." ∉ path.pieces) (above : path.parent? = some parent) (disk : Disk) :
    disk.place parent = (disk.place path).tail := by
  obtain ⟨_, pieces, solid, _⟩ := Path.pieces_of_reversedPieces split
  rw [place_of_reversedPieces split inside, List.tail_cons]
  rcases Path.parent?_cases split above with
    ⟨idle, rfl⟩ | ⟨front, last, blanks, around, solidLast, idle, rfl⟩
  · rw [place_start pieces solid idle, course_idle idle]
  · rw [around, List.append_assoc, List.cons_append] at pieces
    rw [place, startOf_of_name pieces solidLast rfl solidLast, around,
      List.append_cons front last blanks, course_append _ _ blanks, course_idle idle]

/-- All the parents of a path lead to places around its own. -/
theorem place_suffix_of_mem_lineageWithin {count : Nat} {relative : Path}
    (inside : ".." ∉ path.pieces) (member : relative ∈ path.lineageWithin count) (disk : Disk) :
    disk.place relative <:+ disk.place path := by
  induction count generalizing path with
  | zero => cases member
  | succ count inductionHypothesis =>
    rw [Path.lineageWithin] at member
    split at member
    · cases member
    rcases List.mem_cons.mp member with rfl | further
    · exact List.suffix_rfl
    cases above : path.parent? with
    | none =>
      rw [above] at further
      cases further
    | some parent =>
      rw [above] at further
      have suffix := inductionHypothesis (Path.inside_parent inside above) further
      cases split : path.reversedPieces with
      | cons name before =>
        rw [place_parent split inside above] at suffix
        exact suffix.trans (List.tail_suffix _)
      | nil =>
        rw [Path.parent?_eq_of_reversedPieces_nil split above] at further
        cases count <;> cases further

/-- The directories that saving at a path makes are strictly around its place. -/
theorem place_of_mem_lineage_parent {relative : Path} (inside : ".." ∉ path.pieces)
    (above : path.parent? = some parent) (member : relative ∈ parent.lineage) (disk : Disk) :
    disk.place relative <:+ disk.place path ∧ disk.place relative ≠ disk.place path := by
  cases split : path.reversedPieces with
  | nil =>
    rw [Path.parent?_eq_of_reversedPieces_nil split above] at member
    cases member
  | cons name before =>
    have suffix := place_suffix_of_mem_lineageWithin (Path.inside_parent inside above) member disk
    rw [place_parent split inside above] at suffix
    refine ⟨suffix.trans (List.tail_suffix _), fun same => ?_⟩
    have shorter := suffix.length_le
    rw [same, place_of_reversedPieces split inside, List.tail_cons, List.length_cons] at shorter
    omega

/-! ### Pieces that stay or go down -/

/-- A piece that does not go up stays or is a name. -/
theorem isIdle_or_isName {piece : String} (level : ".." ≠ piece) :
    Path.isIdle piece = true ∨ IsName piece := by
  cases idle : Path.isIdle piece with
  | true => exact .inl rfl
  | false => exact .inr ⟨idle, level.symm⟩

theorem course_cons_of_idle {piece : String} (idle : Path.isIdle piece = true) (here : Location)
    (rest : List String) : course here (piece :: rest) = course here rest := by
  rw [course, if_pos idle]

theorem course_cons_of_name {piece : String} (isName : IsName piece) (here : Location)
    (rest : List String) : course here (piece :: rest) = course (piece :: here) rest := by
  rw [course, isName.busy, if_neg Bool.false_ne_true, if_neg isName.inside]

/-- Where a path leads that never goes up is below where it starts. -/
theorem suffix_course {pieces : List String} (inside : ".." ∉ pieces) (here : Location) :
    here <:+ course here pieces := by
  induction pieces generalizing here with
  | nil => exact List.suffix_rfl
  | cons piece rest inductionHypothesis =>
    obtain ⟨level, inside⟩ := List.ne_and_not_mem_of_not_mem_cons inside
    rcases isIdle_or_isName level with idle | isName
    · rw [course_cons_of_idle idle]
      exact inductionHypothesis inside here
    · rw [course_cons_of_name isName]
      exact (List.suffix_cons piece here).trans (inductionHypothesis inside _)

end Disk

end PlaylistRules.Storage
