/-
This file proves how the parents of a path are made. A path leads to a directory exactly if
all its pieces can be walked. So a path that leads anywhere has parents that are directories
already, and nothing is made for it; and a path whose parents could not be made leads
nowhere.
-/

import PlaylistRules.Proofs.Growth
import PlaylistRules.Proofs.Lineages

namespace PlaylistRules.Storage

namespace Disk

variable {disk : Disk} {path parent : Path}

/-! ### Directories -/

theorem walk_append (disk : Disk) (here : Location) (first second : List String) :
    disk.walk here (first ++ second) =
      (disk.walk here first).bind fun between => disk.walk between second := by
  induction first generalizing here with
  | nil => rfl
  | cons piece first inductionHypothesis =>
    rw [List.cons_append, walk, walk]
    split
    · exact inductionHypothesis here
    split
    · exact inductionHypothesis here.tail
    split
    · rfl
    split
    · exact inductionHypothesis (piece :: here)
    · rfl
    · rfl

/-- The start of a walk that comes to an end. -/
theorem walk_of_prefix {first second : List String} {here found : Location}
    (walked : disk.walk here (first ++ second) = .ok found) :
    ∃ between, disk.walk here first = .ok between ∧ disk.walk between second = .ok found := by
  rw [walk_append] at walked
  cases first : disk.walk here first with
  | error fault =>
    rw [first] at walked
    cases walked
  | ok between =>
    rw [first] at walked
    exact ⟨between, rfl, walked⟩

/-- A path leads to a directory if all its pieces can be walked. -/
theorem isDirectory_of_walk {place : Location} (usable : IsUsable path)
    (walked : disk.walk (disk.startOf path) path.pieces = .ok place) :
    disk.isDirectory path = true := by
  rw [isDirectory_iff, find?]
  cases split : solidPieces path with
  | nil =>
    rw [approach_of_no_piece usable split]
    exact ⟨_, rfl⟩
  | cons last front =>
    obtain ⟨blanks, pieces, solid, -⟩ := pieces_of_solidPieces split
    rw [pieces] at walked
    obtain ⟨directory, front, step⟩ := walk_of_prefix walked
    rw [approach_of_solidPieces usable split, front, Except.bind, Ending.ofPiece]
    by_cases here : last = "."
    · rw [if_pos here, here]
      exact ⟨_, rfl⟩
    rw [if_neg here]
    by_cases above : last = ".."
    · rw [if_pos above, above]
      exact ⟨_, rfl⟩
    rw [if_neg above]
    have isName : IsName last := ⟨by simp [Path.isIdle, solid, here], above⟩
    by_cases long : isTooLong last = true
    · rw [walk_of_long isName long] at step
      cases step
    rw [walk_of_name isName long] at step
    rw [if_neg long]
    split at step
    case h_1 there =>
      simp only [there]
      exact ⟨_, rfl⟩
    all_goals cases step

/-! ### Parents -/

theorem dropWhile_dropWhile_of_imp {first second : String → Bool}
    (implies : ∀ piece, first piece = true → second piece = true) (pieces : List String) :
    (pieces.dropWhile first).dropWhile second = pieces.dropWhile second := by
  induction pieces with
  | nil => rfl
  | cons piece rest inductionHypothesis =>
    by_cases dropped : first piece = true
    · rw [List.dropWhile_cons_of_pos dropped, inductionHypothesis,
        List.dropWhile_cons_of_pos (implies piece dropped)]
    · rw [List.dropWhile_cons_of_neg dropped]

theorem dropWhile_solidPieces (path : Path) :
    (solidPieces path).dropWhile Path.isIdle = path.reversedPieces := by
  refine dropWhile_dropWhile_of_imp (fun piece blank => ?_) _
  rw [Path.isIdle, blank, Bool.true_or]

/-- The pieces in front of the last name of a path are walked to find it. -/
theorem suffix_of_solidPieces {last name : String} {front before : List String}
    (solid : solidPieces path = last :: front) (split : path.reversedPieces = name :: before) :
    before <:+ front := by
  have same := dropWhile_solidPieces path
  rw [solid, split] at same
  by_cases idle : Path.isIdle last = true
  · rw [List.dropWhile_cons_of_pos idle] at same
    exact (List.suffix_cons name before).trans (same ▸ List.dropWhile_suffix _)
  · rw [List.dropWhile_cons_of_neg idle] at same
    exact (List.cons.inj same).2 ▸ List.suffix_rfl

/-- A path that is the start of a usable one is usable. -/
theorem IsUsable.of_prefix {front back : List String} (usable : IsUsable path)
    (pieces : path.pieces = front ++ back) (nonempty : (⟨front⟩ : Path).isEmpty = false) :
    IsUsable ⟨front⟩ where
  noZero := by
    have noZero := usable.noZero
    rw [Path.hasZero, pieces, List.any_append, Bool.or_eq_false_iff] at noZero
    exact noZero.1
  nonempty := nonempty
  short := by
    refine Nat.le_trans ?_ usable.short
    rw [Path.text, Path.text, pieces]
    change ("/".intercalate front).utf8ByteSize ≤ _
    cases back with
    | nil => rw [List.append_nil]
    | cons piece back =>
      have some : front ≠ [] := by
        rintro rfl
        cases nonempty
      rw [String.intercalate_append_of_ne_nil some (List.cons_ne_nil _ _),
        String.utf8ByteSize_append, String.utf8ByteSize_append]
      omega

/-- The parent of a path that leads anywhere is a directory, unless it is empty. -/
theorem isDirectory_parent {found : Location × Ending} (leads : disk.approach path = .ok found)
    (above : path.parent? = some parent) (nonempty : parent.isEmpty = false) :
    disk.isDirectory parent = true := by
  obtain ⟨usable, ends⟩ := (approach_eq_ok_iff ..).mp leads
  cases split : path.reversedPieces with
  | nil =>
    rw [Path.parent?_eq_of_reversedPieces_nil split above] at nonempty
    cases nonempty
  | cons name before =>
    obtain ⟨_, pieces, solidName, _⟩ := Path.pieces_of_reversedPieces split
    rcases Path.parent?_cases split above with
      ⟨idle, rfl⟩ | ⟨front, last, blanks, around, solid, idle, rfl⟩
    · cases start : before.reverse with
      | nil =>
        rw [start] at nonempty
        cases nonempty
      | cons first more =>
        rcases Path.eq_of_isIdle (idle first (by rw [start]; exact List.mem_cons_self)) with
          rfl | rfl
        · exact @isDirectory_of_walk disk ⟨["", ""]⟩ [] ⟨by decide, by decide, by decide⟩ rfl
        · exact @isDirectory_of_walk disk ⟨["."]⟩ disk.current
            ⟨by decide, by decide, by decide⟩ rfl
    · rcases ends with ⟨none, -⟩ | ⟨piece, walkedPieces, directory, solidPath, walked, -⟩
      · have same := dropWhile_solidPieces path
        rw [none, split] at same
        cases same
      · have suffix := List.reverse_prefix.mpr (suffix_of_solidPieces solidPath split)
        obtain ⟨more, whole⟩ := suffix
        rw [around, List.append_assoc, List.cons_append] at pieces whole
        have start : disk.startOf ⟨front ++ [last]⟩ = disk.startOf path :=
          startOf_of_name pieces solid rfl solid disk
        rw [List.append_cons] at pieces whole
        rw [← whole] at walked
        obtain ⟨place, walked, -⟩ := walk_of_prefix walked
        rw [← start] at walked
        exact isDirectory_of_walk (usable.of_prefix pieces nonempty) walked

/-- All the parents of a directory are directories. -/
theorem isDirectory_of_mem_lineage {relative : Path} (there : disk.isDirectory path = true)
    (member : relative ∈ path.lineage) : disk.isDirectory relative = true := by
  rw [Path.lineage] at member
  generalize path.pieces.length + 1 = count at member
  induction count generalizing path with
  | zero => cases member
  | succ count inductionHypothesis =>
    rw [Path.lineageWithin] at member
    split at member
    · cases member
    rcases List.mem_cons.mp member with rfl | further
    · exact there
    cases above : path.parent? with
    | none =>
      rw [above] at further
      cases further
    | some parent =>
      rw [above] at further
      obtain ⟨_, found⟩ := (isDirectory_iff disk path).mp there
      cases leads : disk.approach path with
      | error fault =>
        rw [find?, leads] at found
        cases found
      | ok ends =>
        cases nonempty : parent.isEmpty with
        | false => exact inductionHypothesis (isDirectory_parent leads above nonempty) further
        | true =>
          cases count with
          | zero => cases further
          | succ count =>
            change relative ∈ parent.lineageWithin (count + 1) at further
            rw [Path.lineageWithin, if_pos nonempty] at further
            cases further

/-- All the parents of a path that leads anywhere are directories. -/
theorem isDirectory_of_mem_lineage_parent {relative : Path} {found : Location × Ending}
    (leads : disk.approach path = .ok found) (above : path.parent? = some parent)
    (member : relative ∈ parent.lineage) : disk.isDirectory relative = true := by
  cases nonempty : parent.isEmpty with
  | false => exact isDirectory_of_mem_lineage (isDirectory_parent leads above nonempty) member
  | true =>
    rw [Path.lineage, Path.lineageWithin, if_pos nonempty] at member
    cases member

end Disk

/-! ### Making parents -/

namespace FileTask

open Disk

/-- Whether a directory is there after an attempt to make it. -/
def confirm (path : Path) : Except FileFault Unit → FileTask (Except FileFault Unit)
  | .ok () => done (.ok ())
  | .error fault => isDirectory path fun found => done (if found then .ok () else .error fault)

theorem makeLineage_cons (path : Path) (parents : List Path) :
    makeLineage (path :: parents) = makeDirectory path fun answer =>
      if answer = .error .notFound then do
        match ← makeLineage parents with
        | .ok () => makeDirectory path (confirm path)
        | .error fault => return .error fault
      else confirm path answer := by
  rw [makeLineage]
  congr 1
  funext answer
  rcases answer with fault | made
  · by_cases missing : fault = .notFound
    · rw [missing, if_pos rfl]
      rfl
    · rw [if_neg fun same => missing (Except.error.inj same)]
      cases fault with
      | notFound => exact absurd rfl missing
      | _ => rfl
  · rfl

/-- What every attempt to make one of some directories keeps is kept when all are made. -/
theorem Outcome.rel_makeLineage {keeps : Disk → Disk → Prop} (refl : ∀ disk, keeps disk disk)
    (trans : ∀ before between after, keeps before between → keeps between after →
      keeps before after) {paths : List Path}
    (tries : ∀ path ∈ paths, ∀ disk answer after,
      Tried disk (disk.makeDirectory path) answer after → keeps disk after)
    {disk after : Disk} {answer : Except FileFault Unit}
    (outcome : Outcome (makeLineage paths) disk answer after) : keeps disk after := by
  induction paths generalizing disk after answer with
  | nil =>
    rw [outcome.of_done.2]
    exact refl disk
  | cons path parents inductionHypothesis =>
    have first := tries path List.mem_cons_self
    have confirmed {reply answer : Except FileFault Unit} {disk after : Disk}
        (outcome : Outcome (confirm path reply) disk answer after) : after = disk := by
      rcases reply with fault | made
      · cases outcome with | isDirectory rest => exact rest.of_done.2
      · exact outcome.of_done.2
    rw [makeLineage_cons] at outcome
    cases outcome with | makeDirectory tried rest =>
    beta_reduce at rest
    split at rest
    case isFalse =>
      rw [confirmed rest]
      exact first _ _ _ tried
    case isTrue =>
      obtain ⟨made, middle, above, last⟩ := rest.of_bind
      have second := trans _ _ _ (first _ _ _ tried)
        (inductionHypothesis (fun parent member => tries parent (List.mem_cons_of_mem _ member))
          above)
      rcases made with fault | made
      · rw [last.of_done.2]
        exact second
      · cases last with | makeDirectory again rest =>
        rw [confirmed rest]
        exact trans _ _ _ second (first _ _ _ again)

/-- Making directories changes no file, whatever is refused. -/
theorem Outcome.file?_of_makeLineage {paths : List Path} {disk after : Disk}
    {answer : Except FileFault Unit} (outcome : Outcome (makeLineage paths) disk answer after)
    (place : Location) : after.file? place = disk.file? place := by
  refine @rel_makeLineage (fun before after => after.file? place = before.file? place)
    (fun _ => rfl) (fun _ _ _ first second => second.trans first) paths
    (fun path _ disk _ _ tried => ?_) disk after answer outcome
  cases tried with
  | works => exact file?_makeDirectory disk path place
  | refused fault => rfl

theorem run_confirm (path : Path) (reply : Except FileFault Unit) (disk : Disk) :
    (confirm path reply).run disk =
      (if disk.isDirectory path = true then .ok () else reply, disk) := by
  cases reply with
  | error fault => rfl
  | ok made => rw [ite_self]; rfl

/-- Directories that are there are not made again. -/
theorem run_makeLineage_of_isDirectory {paths : List Path} {disk : Disk}
    (there : ∀ path ∈ paths, disk.isDirectory path = true) :
    (makeLineage paths).run disk = (.ok (), disk) := by
  cases paths with
  | nil => rfl
  | cons path parents =>
    have first := there path List.mem_cons_self
    rw [makeLineage_cons, run, makeDirectory_of_isDirectory first, if_neg (by simp), run_confirm,
      if_pos first]

/-- A failed attempt to make directories leaves one of them missing. -/
theorem exists_of_makeLineage_eq_error {paths : List Path} {disk after : Disk} {fault : FileFault}
    (failed : (makeLineage paths).run disk = (.error fault, after)) :
    ∃ path ∈ paths, after.isDirectory path = false := by
  induction paths generalizing disk after fault with
  | nil => cases failed
  | cons path parents inductionHypothesis =>
    have confirmed {reply : Except FileFault Unit} {disk : Disk}
        (failed : (confirm path reply).run disk = (.error fault, after)) :
        after.isDirectory path = false := by
      rw [run_confirm] at failed
      obtain ⟨reply, rfl⟩ := Prod.mk.inj failed
      split at reply
      case isTrue => cases reply
      case isFalse missing => exact Bool.eq_false_iff.mpr missing
    rw [makeLineage_cons, run] at failed
    split at failed
    case isFalse => exact ⟨path, List.mem_cons_self, confirmed failed⟩
    case isTrue =>
      rw [run_bind] at failed
      generalize above : (makeLineage parents).run _ = made at failed
      obtain ⟨fault | made, between⟩ := made
      · obtain ⟨-, rfl⟩ := Prod.mk.inj failed
        obtain ⟨parent, member, missing⟩ := inductionHypothesis above
        exact ⟨parent, List.mem_cons_of_mem _ member, missing⟩
      · exact ⟨path, List.mem_cons_self, confirmed failed⟩

/-- Makes the directories around a path. -/
def makeParent (path : Path) : FileTask (Except FileFault Unit) :=
  match path.parent? with
  | some parent => makeDirectories parent
  | none => pure (.ok ())

/-- Nothing is made for a path that leads anywhere. -/
theorem run_makeParent_of_approach {path : Path} {disk : Disk} {found : Location × Ending}
    (leads : disk.approach path = .ok found) : (makeParent path).run disk = (.ok (), disk) := by
  rw [makeParent]
  cases above : path.parent? with
  | none => rfl
  | some parent =>
    exact run_makeLineage_of_isDirectory fun relative member =>
      isDirectory_of_mem_lineage_parent leads above member

/-- A path whose parents could not be made leads nowhere. -/
theorem approach_of_makeParent_eq_error {path : Path} {disk after : Disk} {fault : FileFault}
    (failed : (makeParent path).run disk = (.error fault, after)) :
    ∃ fault, after.approach path = .error fault := by
  cases leads : after.approach path with
  | error fault => exact ⟨fault, rfl⟩
  | ok found =>
    rw [makeParent] at failed
    cases above : path.parent? with
    | none =>
      rw [above] at failed
      cases failed
    | some parent =>
      rw [above] at failed
      obtain ⟨relative, member, missing⟩ := exists_of_makeLineage_eq_error failed
      rw [isDirectory_of_mem_lineage_parent leads above member] at missing
      cases missing

theorem Outcome.file?_of_makeParent {path : Path} {disk after : Disk}
    {answer : Except FileFault Unit} (outcome : Outcome (makeParent path) disk answer after)
    (place : Location) : after.file? place = disk.file? place := by
  rw [makeParent] at outcome
  split at outcome
  · exact outcome.file?_of_makeLineage place
  · rw [outcome.of_done.2]

end FileTask

end PlaylistRules.Storage
