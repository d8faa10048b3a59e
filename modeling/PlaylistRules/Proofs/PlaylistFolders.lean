/-
This file proves that files of playlists are added to a folder and never disturbed,
whatever the disk refuses. A call that succeeds adds one file, from which the playlist is
read back; a call that fails adds none, and may leave its temporary file behind. So after
rules were run, the new playlist files in the folder are those of the outcomes that name a
playlist, one for each.
-/

import PlaylistRules.Proofs.AtomicSaves
import PlaylistRules.Proofs.Decoded
import PlaylistRules.Proofs.Isolation
import PlaylistRules.Storage.CatalogFile
import PlaylistRules.Storage.PlaylistFolder

namespace PlaylistRules.Storage

open Disk FileTask

namespace PlaylistFolder

/-! ### Places of playlists -/

/-- The temporary file of the playlist with an id. -/
def temporaryOf (folder : Path) (id : String) : Path :=
  (fileOf folder id).withExtension "tmp"

/-- Whether a name is that of a playlist file. -/
def IsFileName (name : String) : Prop :=
  ∃ id, name = id ++ ".json"

theorem isName_of_extension {id extension : String} (long : 3 ≤ extension.length) :
    IsName (id ++ extension) := by
  have other {short : String} (fewer : short.length < 3) : id ++ extension ≠ short := by
    intro same
    have lengths := congrArg String.length same
    rw [String.length_append] at lengths
    omega
  refine ⟨?_, other (by decide)⟩
  rw [Path.isIdle, beq_false_of_ne (other (by decide)), beq_false_of_ne (other (by decide))]
  rfl

theorem pieces_child (folder : Path) (name : String) :
    ∃ front, (folder.child name).pieces = front ++ [name] := by
  rw [Path.child]
  split
  · exact ⟨_, rfl⟩
  · exact ⟨_, rfl⟩

/-- A name in a folder is in the place of the folder. -/
theorem place_child {name : String} (isName : IsName name) (folder : Path) (disk : Disk) :
    disk.place (folder.child name) = name :: disk.place folder := by
  by_cases slash : folder.pieces.getLast? = some ""
  · obtain ⟨front, split⟩ := List.getLast?_eq_some_iff.mp slash
    have pieces : (folder.child name).pieces = front ++ [name] := by
      rw [Path.child, if_pos slash, split, List.dropLast_concat]
    have start : disk.startOf (folder.child name) = disk.startOf folder := by
      rw [startOf, startOf, Path.isAbsolute, Path.isAbsolute, pieces, split]
      cases front <;> simp
    rw [place, place, start, pieces, split, course_append, course_append, course_name isName]
    rfl
  · have pieces : (folder.child name).pieces = folder.pieces ++ [name] := by
      rw [Path.child, if_neg slash]
    have start : disk.startOf (folder.child name) = disk.startOf folder := by
      rw [startOf, startOf, Path.isAbsolute, Path.isAbsolute, pieces]
      rcases shape : folder.pieces with _ | ⟨first, _ | ⟨second, rest⟩⟩
      · simp
      · have solid : first ≠ "" := by simpa [shape] using slash
        simp [solid]
      · simp
    rw [place, place, start, pieces, course_append, course_name isName]

theorem place_fileOf (folder : Path) (id : String) (disk : Disk) :
    disk.place (fileOf folder id) = (id ++ ".json") :: disk.place folder :=
  place_child (isName_of_extension (by decide)) folder disk

theorem stem_file {id : String} (nonempty : id ≠ "") : Path.stem (id ++ ".json") = id := by
  have stop : (id ++ ".json").toList.reverse.dropWhile (· != '.') = '.' :: id.toList.reverse := by
    simp
  have some : id.toList.reverse.isEmpty = false := by
    simpa using nonempty
  rw [Path.stem, stop]
  simp only [some, Bool.false_eq_true, if_false, List.reverse_reverse, String.ofList_toList]

theorem place_temporaryOf (folder : Path) {id : String} (nonempty : id ≠ "") (disk : Disk) :
    disk.place (temporaryOf folder id) = (id ++ ".tmp") :: disk.place folder := by
  have isName : IsName (id ++ ".json") := isName_of_extension (by decide)
  obtain ⟨front, split⟩ : ∃ front, (fileOf folder id).pieces = front ++ [id ++ ".json"] :=
    pieces_child folder (id ++ ".json")
  have around : disk.place folder = course (disk.startOf (fileOf folder id)) front := by
    have file := place_fileOf folder id disk
    rw [place_plain split isName] at file
    exact (List.cons.inj file).2.symm
  have temporary : temporaryOf folder id = ⟨front ++ [id ++ ".tmp"]⟩ := by
    rw [temporaryOf, withExtension_plain split isName, stem_file nonempty]
    simp [String.append_assoc]
  rw [temporary, place_plain rfl (isName_of_extension (by decide)), around,
    startOf_of_name split isName.busy rfl (isName_of_extension (by decide)).busy]

theorem not_isFileName_temporary (id : String) : ¬IsFileName (id ++ ".tmp") := by
  rintro ⟨other, same⟩
  have last := congrArg (fun name : String => name.toList.getLast?) same
  simp at last

/-! ### Single calls -/

/-- A call that makes a playlist, and its answer. -/
structure Call where
  stamp : Stamp
  name : String
  user : Option String
  items : List String
  answer : Except PlaylistFault Playlist

/-- The playlist that a call is to make. -/
def Call.playlist (call : Call) : Playlist :=
  ⟨call.stamp.id, call.name, call.user, call.items, call.stamp.time⟩

/-- What a call comes to on a disk that may refuse any change. -/
def Call.LeadsTo (folder : Path) (call : Call) (before after : Disk) : Prop :=
  FileTask.Outcome (add folder call.stamp call.name call.user call.items) before call.answer after

/-- Whether a stamp is fresh in a folder: no file is in the place of the file of its id, nor in
that of the temporary file. Its time has a text. -/
structure IsFresh (disk : Disk) (folder : Path) (stamp : Stamp) : Prop where
  nonempty : stamp.id ≠ ""
  writable : stamp.time.IsWritable
  file : disk.file? (disk.place (fileOf folder stamp.id)) = none
  temporary : disk.file? (disk.place (temporaryOf folder stamp.id)) = none

/-- Whether the file of a playlist is all that was added between two disks. -/
structure IsAdded (folder : Path) (playlist : Playlist) (before after : Disk) : Prop where
  new : before.file? (before.place (fileOf folder playlist.id)) = none
  content : after.contentAt? (fileOf folder playlist.id) = some playlist.toJson.pretty.toUTF8
  noTemporary : after.isPresent (temporaryOf folder playlist.id) = false
  others : ∀ place, place ≠ before.place (fileOf folder playlist.id) →
    after.file? place = before.file? place

/-- Whether at most the temporary file of an id was added between two disks. -/
structure IsLeftOver (folder : Path) (id : String) (before after : Disk) : Prop where
  new : before.file? (before.place (temporaryOf folder id)) = none
  others : ∀ place, place ≠ before.place (temporaryOf folder id) →
    after.file? place = before.file? place

variable {folder : Path} {call : Call} {before after : Disk}

theorem IsFresh.not_isAside (fresh : IsFresh before folder call.stamp) :
    ¬IsAside before (fileOf folder call.stamp.id)
      (before.place (fileOf folder call.stamp.id)) := by
  rintro ⟨-, same⟩
  change _ = before.place (temporaryOf folder call.stamp.id) at same
  rw [place_fileOf, place_temporaryOf folder fresh.nonempty, List.cons.injEq] at same
  exact not_isFileName_temporary call.stamp.id ⟨_, same.1.symm⟩

/-- A call adds the file of its playlist, or it fails and adds at most a temporary file. -/
theorem Call.LeadsTo.cases (fresh : IsFresh before folder call.stamp)
    (leadsTo : call.LeadsTo folder before after) :
    (call.answer = .ok call.playlist ∧ IsAdded folder call.playlist before after) ∨
    ∃ fault, call.answer = .error fault ∧ IsLeftOver folder call.stamp.id before after := by
  obtain ⟨made, middle, first, rest⟩ := FileTask.Outcome.of_bind leadsTo
  have keeps : KeepsDirectories before middle := .outcome first
  have files := first.file?_of_makeLineage
  rcases made with fault | made
  · obtain ⟨answered, rfl⟩ := rest.of_done
    exact .inr ⟨_, answered, fresh.temporary, fun place _ => files place⟩
  obtain ⟨replaced, final, second, last⟩ := rest.of_bind
  have apart : ¬IsAside middle (fileOf folder call.stamp.id)
      (middle.place (fileOf folder call.stamp.id)) := by
    rw [IsAside, keeps.place, keeps.place]
    exact fresh.not_isAside
  rcases second.replace_entries apart with
    ⟨fault, rfl, others⟩ | ⟨rfl, directory, name, directory', name', source, target, elsewhere,
      entries⟩
  · obtain ⟨answered, rfl⟩ := last.of_done
    refine .inr ⟨_, answered, fresh.temporary, fun place other => ?_⟩
    rw [← files place]
    refine file?_congr (others place fun aside => other ?_)
    rw [aside.2, keeps.place]
    rfl
  · obtain ⟨answered, rfl⟩ := last.of_done
    have kept : KeepsDirectories before after := keeps.trans (.outcome second)
    have filePlace := place_of_approach target
    have temporaryPlace := place_of_approach source
    rw [kept.place] at filePlace temporaryPlace
    refine .inl ⟨answered, fresh.file, ?_, ?_, fun place other => ?_⟩
    · exact (contentAt?_eq_some_iff ..).mpr ⟨directory', name', target, by
        rw [file?_eq_some_iff, entries, if_pos rfl]; rfl⟩
    · change after.isPresent ((fileOf folder call.stamp.id).withExtension "tmp") = false
      rw [Disk.isPresent, find?_of_approach source, entries, if_neg elsewhere, if_pos rfl]
      rfl
    · change place ≠ before.place (fileOf folder call.stamp.id) at other
      rw [filePlace] at other
      by_cases aside : place = before.place (temporaryOf folder call.stamp.id)
      · rw [aside, fresh.temporary, temporaryOf, temporaryPlace, file?, entries,
          if_neg elsewhere, if_pos rfl]
      · rw [temporaryOf, temporaryPlace] at aside
        rw [← files place]
        exact file?_congr (by rw [entries, if_neg other, if_neg aside])

/-! ### Stored playlists -/

/-- Whether the text in the file of a playlist decodes to the playlist. -/
def IsStored (disk : Disk) (folder : Path) (playlist : Playlist) : Prop :=
  ∃ text, disk.read (fileOf folder playlist.id) = .ok text ∧
    DataKind.playlist.decode? text = some playlist

theorem isStored_of_contentAt? {disk : Disk} {playlist : Playlist}
    (writable : playlist.createdAt.IsWritable)
    (content : disk.contentAt? (fileOf folder playlist.id) =
      some playlist.toJson.pretty.toUTF8) : IsStored disk folder playlist := by
  refine ⟨playlist.toJson.pretty, ?_, ?_⟩
  · rw [read_of_contentAt? content, textOf?_toUTF8]
  · rw [DataKind.decode?, Json.parse?_pretty playlist.isFaithful_toJson, Option.bind_some]
    exact Playlist.ofJson?_toJson writable

/-- What is in a file stays there while directories and contents stay. -/
theorem contentAt?_of_kept {path : Path} {content : ByteArray}
    (keeps : KeepsDirectories before after)
    (kept : ∀ place content, before.file? place = some content → after.file? place = some content)
    (found : before.contentAt? path = some content) : after.contentAt? path = some content := by
  obtain ⟨directory, name, leads, there⟩ := (contentAt?_eq_some_iff ..).mp found
  exact (contentAt?_eq_some_iff ..).mpr ⟨directory, name, keeps.approach leads, kept _ _ there⟩

theorem IsAdded.kept {playlist : Playlist} (added : IsAdded folder playlist before after)
    (place : Location) (content : ByteArray) (there : before.file? place = some content) :
    after.file? place = some content := by
  rw [added.others, there]
  rintro rfl
  rw [added.new] at there
  cases there

theorem IsLeftOver.kept {id : String} (leftOver : IsLeftOver folder id before after)
    (place : Location) (content : ByteArray) (there : before.file? place = some content) :
    after.file? place = some content := by
  rw [leftOver.others, there]
  rintro rfl
  rw [leftOver.new] at there
  cases there

theorem IsAdded.file?_eq_some {playlist : Playlist} (added : IsAdded folder playlist before after)
    (keeps : KeepsDirectories before after) :
    after.file? (before.place (fileOf folder playlist.id)) =
      some playlist.toJson.pretty.toUTF8 := by
  obtain ⟨directory, name, leads, there⟩ := (contentAt?_eq_some_iff ..).mp added.content
  rw [← keeps.place, place_of_approach leads, there]

/-- A call that fails adds no playlist file. -/
theorem IsLeftOver.file?_of_isFileName {id name : String} {around : Location}
    (nonempty : id ≠ "") (leftOver : IsLeftOver folder id before after)
    (isFileName : IsFileName name) :
    after.file? (name :: around) = before.file? (name :: around) := by
  refine leftOver.others _ fun same => ?_
  rw [place_temporaryOf folder nonempty, List.cons.injEq] at same
  rw [same.1] at isFileName
  exact not_isFileName_temporary id isFileName

/-! ### Calls in turn -/

/-- Calls one after the other, each with a stamp that is fresh when its turn comes. -/
inductive CallsInTurn (folder : Path) : Disk → List Call → Disk → Prop where
  | none (disk : Disk) : CallsInTurn folder disk [] disk
  | next {before between after : Disk} {call : Call} {later : List Call}
      (fresh : IsFresh before folder call.stamp) (leadsTo : call.LeadsTo folder before between)
      (rest : CallsInTurn folder between later after) :
      CallsInTurn folder before (call :: later) after

/-- The playlists that calls made. -/
def made (calls : List Call) : List Playlist :=
  calls.filterMap (·.answer.toOption)

/-- Whether the files of some playlists are all the playlist files that were added between
two disks, one for each, and no file was changed. -/
structure AreAdded (folder : Path) (playlists : List Playlist) (before after : Disk) : Prop where
  distinct : (playlists.map (·.id)).Nodup
  stored : ∀ playlist ∈ playlists, IsStored after folder playlist
  kept : ∀ place content, before.file? place = some content → after.file? place = some content
  new : ∀ name around, IsFileName name →
    (before.file? (name :: around) = none ∧ after.file? (name :: around) ≠ none ↔
      around = before.place folder ∧ ∃ playlist ∈ playlists, name = playlist.id ++ ".json")

namespace AreAdded

variable {between : Disk} {playlists : List Playlist}

/-- One more playlist was added first. Its file is in place by the time the others come, so
none of them has its id. -/
theorem cons {playlist : Playlist} (later : AreAdded folder playlists between after)
    (keeps : KeepsDirectories before between) (keepsLater : KeepsDirectories between after)
    (writable : playlist.createdAt.IsWritable) (added : IsAdded folder playlist before between) :
    AreAdded folder (playlist :: playlists) before after := by
  have there := added.file?_eq_some keeps
  have others := added.others
  have new := added.new
  have news := later.new
  rw [place_fileOf] at there others new
  rw [keeps.place folder] at news
  refine ⟨?_, ?_, fun place content present =>
    later.kept place content (added.kept place content present), ?_⟩
  · rw [List.map_cons, List.nodup_cons]
    refine ⟨fun again => ?_, later.distinct⟩
    obtain ⟨other, member, same⟩ := List.mem_map.mp again
    have absent := ((news _ _ ⟨playlist.id, rfl⟩).mpr ⟨rfl, other, member, by rw [same]⟩).1
    rw [there] at absent
    cases absent
  · refine List.forall_mem_cons.mpr ⟨?_, later.stored⟩
    exact isStored_of_contentAt? writable
      (contentAt?_of_kept keepsLater later.kept added.content)
  · intro name around isFileName
    rw [List.exists_mem_cons_iff, and_or_left, ← news name around isFileName]
    by_cases here : name :: around = (playlist.id ++ ".json") :: before.place folder
    · obtain ⟨rfl, rfl⟩ := List.cons.inj here
      rw [later.kept _ _ there]
      exact iff_of_true ⟨new, Option.some_ne_none _⟩ (.inl ⟨rfl, rfl⟩)
    · rw [others _ here]
      refine (or_iff_right fun both => here ?_).symm
      rw [both.1, both.2]

/-- A call that failed came first. -/
theorem after_leftOver {id : String} (later : AreAdded folder playlists between after)
    (keeps : KeepsDirectories before between) (nonempty : id ≠ "")
    (leftOver : IsLeftOver folder id before between) :
    AreAdded folder playlists before after := by
  refine ⟨later.distinct, later.stored, fun place content there =>
    later.kept place content (leftOver.kept place content there), fun name around isFileName => ?_⟩
  rw [← leftOver.file?_of_isFileName nonempty isFileName, ← keeps.place]
  exact later.new name around isFileName

end AreAdded

namespace CallsInTurn

variable {calls later : List Call} {between : Disk}

theorem keeps (inTurn : CallsInTurn folder before calls after) : KeepsDirectories before after := by
  induction inTurn with
  | none disk => exact .refl disk
  | next _ leadsTo _ inductionHypothesis =>
    exact (KeepsDirectories.outcome leadsTo).trans inductionHypothesis

theorem append (first : CallsInTurn folder before calls between)
    (second : CallsInTurn folder between later after) :
    CallsInTurn folder before (calls ++ later) after := by
  induction first with
  | none _ => exact second
  | next fresh leadsTo _ inductionHypothesis =>
    exact .next fresh leadsTo (inductionHypothesis second)

theorem of_append {earlier : List Call}
    (inTurn : CallsInTurn folder before (earlier ++ later) after) :
    ∃ between, CallsInTurn folder before earlier between ∧
      CallsInTurn folder between later after := by
  induction earlier generalizing before with
  | nil => exact ⟨before, .none before, inTurn⟩
  | cons call earlier inductionHypothesis =>
    cases inTurn with | next fresh leadsTo rest =>
    obtain ⟨between, first, second⟩ := inductionHypothesis rest
    exact ⟨between, .next fresh leadsTo first, second⟩

theorem areAdded (inTurn : CallsInTurn folder before calls after) :
    AreAdded folder (made calls) before after := by
  induction inTurn with
  | none disk => exact ⟨.nil, List.forall_mem_nil _, fun _ _ there => there, by simp [made]⟩
  | @next before between after call later fresh leadsTo rest inductionHypothesis =>
    have keeps : KeepsDirectories before between := .outcome leadsTo
    rcases leadsTo.cases fresh with ⟨answered, added⟩ | ⟨fault, answered, leftOver⟩
    · have playlists : made (call :: later) = call.playlist :: made later := by
        simp [made, answered, Except.toOption]
      rw [playlists]
      exact inductionHypothesis.cons keeps rest.keeps fresh.writable added
    · have playlists : made (call :: later) = made later := by
        simp [made, answered, Except.toOption]
      rw [playlists]
      exact inductionHypothesis.after_leftOver keeps fresh.nonempty leftOver

end CallsInTurn

/-! ### Runs of rules -/

/-- A stamp with another id stays fresh through a call. -/
theorem IsFresh.after_call {stamp : Stamp} (fresh : IsFresh before folder stamp)
    (other : stamp.id ≠ call.stamp.id) (callFresh : IsFresh before folder call.stamp)
    (leadsTo : call.LeadsTo folder before after) : IsFresh after folder stamp := by
  have keeps : KeepsDirectories before after := .outcome leadsTo
  have others (name : String) (notFile : name ≠ call.stamp.id ++ ".json")
      (notTemporary : name ≠ call.stamp.id ++ ".tmp") :
      after.file? (name :: before.place folder) = before.file? (name :: before.place folder) := by
    rcases leadsTo.cases callFresh with ⟨-, added⟩ | ⟨_, -, leftOver⟩
    · refine added.others _ fun same => notFile ?_
      rw [place_fileOf, List.cons.injEq] at same
      exact same.1
    · refine leftOver.others _ fun same => notTemporary ?_
      rw [place_temporaryOf folder callFresh.nonempty, List.cons.injEq] at same
      exact same.1
  obtain ⟨nonempty, writable, file, temporary⟩ := fresh
  rw [place_fileOf] at file
  rw [place_temporaryOf folder nonempty] at temporary
  refine ⟨nonempty, writable, ?_, ?_⟩
  · rw [place_fileOf, keeps.place, others _ _ _, file]
    · rwa [Ne, String.append_left_inj]
    · exact fun same => not_isFileName_temporary call.stamp.id ⟨_, same.symm⟩
  · rw [place_temporaryOf folder nonempty, keeps.place, others _ _ _, temporary]
    · exact fun same => not_isFileName_temporary stamp.id ⟨_, same⟩
    · rwa [Ne, String.append_left_inj]

/-- Whether a playlist is the one that an outcome names. -/
structure IsNamed (playlist : Playlist) (outcome : PlaylistRules.Outcome) : Prop where
  id : outcome.playlist = some playlist.id
  name : outcome.rule = playlist.name
  items : outcome.items = playlist.items

/-- The outcome of a report, if it names a playlist. -/
def naming? (report : RunReport sourceFault sinkFault) : Option PlaylistRules.Outcome :=
  match report.result with
  | .ok outcome => if outcome.playlist.isSome then some outcome else none
  | .error _ => none

/-- Whether a source changes no files and uses no stamps. -/
def OnlyReads (source : Source (StateT Nat FileTask) sourceFault) : Prop :=
  ∀ user used before answer after, FileTask.Outcome ((source.fetch user).run used) before answer
    after → answer.2 = used ∧ after = before

theorem onlyReads_catalog (catalog : Path) : OnlyReads (CatalogFile.source catalog) := by
  intro user used before answer after outcome
  change FileTask.Outcome (CatalogFile.fetch catalog user >>= _) before answer after at outcome
  obtain ⟨records, between, first, last⟩ := outcome.of_bind
  obtain ⟨rfl, rfl⟩ := last.of_done
  exact ⟨rfl, (first.of_looks (CatalogFile.looks_fetch catalog user)).2⟩

/-- Whether an action makes playlists in turn with the stamps that follow the used ones, and
its answer tells which playlists it made. -/
def Tells (folder : Path) (stamps : Nat → Stamp) (told : α → List Playlist → Prop)
    (action : StateT Nat FileTask α) : Prop :=
  ∀ used before answer after,
    (∀ index, used ≤ index → IsFresh before folder (stamps index)) →
    FileTask.Outcome (action.run used) before answer after →
    ∃ calls, CallsInTurn folder before calls after ∧ told answer.1 (made calls) ∧
      ∀ index, answer.2 ≤ index → IsFresh after folder (stamps index)

namespace Tells

variable {stamps : Nat → Stamp}

theorem pure {told : α → List Playlist → Prop} {answer : α} (none : told answer []) :
    Tells folder stamps told (pure answer) := by
  intro used before result after fresh outcome
  obtain ⟨rfl, rfl⟩ := FileTask.Outcome.of_done outcome
  exact ⟨[], .none after, none, fresh⟩

theorem bind {told : α → List Playlist → Prop} {toldLater : β → List Playlist → Prop}
    {action : StateT Nat FileTask α} {next : α → StateT Nat FileTask β}
    (first : Tells folder stamps told action)
    (rest : ∀ answer playlists, told answer playlists →
      Tells folder stamps (fun result later => toldLater result (playlists ++ later))
        (next answer)) :
    Tells folder stamps toldLater (action >>= next) := by
  intro used before result after fresh outcome
  rw [StateT.run_bind] at outcome
  obtain ⟨⟨answer, used'⟩, between, firstly, lastly⟩ := outcome.of_bind
  obtain ⟨calls, inTurn, tells, stillFresh⟩ := first used before _ between fresh firstly
  obtain ⟨later, inTurnLater, tellsLater, freshAfter⟩ :=
    rest answer _ tells used' between result after stillFresh lastly
  refine ⟨calls ++ later, inTurn.append inTurnLater, ?_, freshAfter⟩
  rwa [made, List.filterMap_append]

theorem fetch {source : Source (StateT Nat FileTask) sourceFault} (reads : OnlyReads source)
    (user : Option String) :
    Tells folder stamps (fun _ playlists => playlists = []) (source.fetch user) := by
  intro used before answer after fresh outcome
  obtain ⟨same, rfl⟩ := reads user used before answer after outcome
  exact ⟨[], .none after, rfl, same ▸ fresh⟩

/-- What a call of the sink tells. -/
def ToldByCall (name : String) (items : List String) (answer : Except PlaylistFault String)
    (playlists : List Playlist) : Prop :=
  match answer with
  | .ok id => ∃ playlist, playlists = [playlist] ∧ playlist.id = id ∧ playlist.name = name ∧
      playlist.items = items
  | .error _ => playlists = []

theorem create (distinct : Function.Injective fun index => (stamps index).id) (name : String)
    (user : Option String) (items : List String) :
    Tells folder stamps (ToldByCall name items) ((sink folder stamps).create name user items) := by
  intro used before answer after fresh outcome
  change FileTask.Outcome ((add folder (stamps used) name user items >>= _) >>= _) before answer
    after at outcome
  obtain ⟨counted, between, lifted, last⟩ := outcome.of_bind
  obtain ⟨rfl, rfl⟩ := last.of_done
  obtain ⟨reply, between, first, last⟩ := lifted.of_bind
  obtain ⟨rfl, rfl⟩ := last.of_done
  have leadsTo : Call.LeadsTo folder ⟨stamps used, name, user, items, reply⟩ before after := first
  have usedFresh := fresh used (Nat.le_refl used)
  refine ⟨_, .next usedFresh leadsTo (.none after), ?_, fun index later => ?_⟩
  · rcases leadsTo.cases usedFresh with ⟨answered, -⟩ | ⟨fault, answered, -⟩
    · change reply = .ok ⟨(stamps used).id, name, user, items, (stamps used).time⟩ at answered
      subst answered
      exact ⟨_, rfl, rfl, rfl, rfl⟩
    · cases answered
      rfl
  · refine (fresh index (Nat.le_of_succ_le later)).after_call ?_ usedFresh leadsTo
    exact fun same => absurd (distinct same) (Nat.ne_of_gt later)

/-- What a run of a rule tells: the playlist that its outcome names, if it does. -/
def ToldByRun (report : RunReport sourceFault PlaylistFault) (playlists : List Playlist) : Prop :=
  List.Forall₂ IsNamed playlists (naming? report).toList

variable {source : Source (StateT Nat FileTask) sourceFault}

theorem run (reads : OnlyReads source)
    (distinct : Function.Injective fun index => (stamps index).id) (draws : Draws) (rule : Rule) :
    Tells folder stamps ToldByRun (rule.run source (sink folder stamps) draws) := by
  rw [Rule.run_eq]
  refine bind (fetch reads rule.user) fun answer playlists none => ?_
  subst none
  cases answer with
  | error fault => exact pure .nil
  | ok records =>
    dsimp only
    split
    case isTrue => exact pure .nil
    case isFalse =>
      refine bind (create distinct rule.name rule.user _) fun answer playlists told => ?_
      cases answer with
      | error fault =>
        cases told
        exact pure .nil
      | ok id =>
        obtain ⟨playlist, rfl, rfl, name, items⟩ := told
        exact pure (.cons ⟨rfl, name.symm, items.symm⟩ .nil)

/-- The playlists that a run of rules makes are those that the outcomes name, in turn. -/
theorem runAll [Worded sourceFault] (reads : OnlyReads source)
    (distinct : Function.Injective fun index => (stamps index).id) (draws : Nat → Draws)
    (rules : List Rule) :
    Tells folder stamps
      (fun reports playlists => List.Forall₂ IsNamed playlists (reports.filterMap naming?))
      (runAll source (sink folder stamps) draws rules) := by
  induction rules generalizing draws with
  | nil => exact pure .nil
  | cons rule rest inductionHypothesis =>
    rw [PlaylistRules.runAll]
    split
    case isFalse => exact inductionHypothesis _
    case isTrue =>
      refine bind (run reads distinct _ rule) fun report playlists told => ?_
      refine bind (inductionHypothesis _) fun reports later toldLater => pure ?_
      have same : naming? report.withFaultEvent = naming? report := by
        rw [naming?, naming?, RunReport.result_withFaultEvent]
      rw [List.append_nil, List.filterMap_cons, same]
      rw [ToldByRun] at told
      cases named : naming? report with
      | none =>
        rw [named, Option.toList_none, List.forall₂_nil_right_iff] at told
        rw [told]
        exact toldLater
      | some outcome =>
        rw [named] at told
        exact List.rel_append told toldLater

end Tells

/-- Files of playlists are added and never disturbed, whatever the disk refuses. A call that
succeeds answers with its playlist and adds the file of it alone; the playlist is read back
from there, and nothing is left at the temporary path. A call that fails changes no file and
adds no playlist file. After calls in turn the new playlist files are those of the playlists
they made, and after a run of rules those of the playlists that the outcomes name, one for
each and with the same items. -/
theorem playlists_only_added (folder : Path) :
    (∀ start calls final, CallsInTurn folder start calls final →
      (∀ earlier call later, calls = earlier ++ call :: later →
        ∃ before after, CallsInTurn folder start earlier before ∧
          call.LeadsTo folder before after ∧ CallsInTurn folder after later final ∧
          ((call.answer = .ok call.playlist ∧ IsStored after folder call.playlist ∧
              IsAdded folder call.playlist before after) ∨
            ∃ fault, call.answer = .error fault ∧
              (∀ place content, before.file? place = some content →
                after.file? place = some content) ∧
              ∀ name around, IsFileName name →
                after.file? (name :: around) = before.file? (name :: around))) ∧
      AreAdded folder (made calls) start final) ∧
    ∀ {sourceFault : Type} [Worded sourceFault] (source : Source (StateT Nat FileTask) sourceFault)
      (stamps : Nat → Stamp) (draws : Nat → Draws) (rules : List Rule) (start : Disk)
      (answer : List (RunReport sourceFault PlaylistFault) × Nat) (final : Disk),
      OnlyReads source → (Function.Injective fun index => (stamps index).id) →
      (∀ index, IsFresh start folder (stamps index)) →
      FileTask.Outcome ((runAll source (sink folder stamps) draws rules).run 0) start answer
        final →
      ∃ playlists, AreAdded folder playlists start final ∧
        List.Forall₂ IsNamed playlists (answer.1.filterMap naming?) := by
  constructor
  · intro start calls final inTurn
    refine ⟨fun earlier call later split => ?_, inTurn.areAdded⟩
    subst split
    obtain ⟨before, first, rest⟩ := inTurn.of_append
    cases rest with | @next _ after _ _ _ fresh leadsTo rest =>
    refine ⟨before, after, first, leadsTo, rest, ?_⟩
    rcases leadsTo.cases fresh with ⟨answered, added⟩ | ⟨fault, answered, leftOver⟩
    · exact .inl ⟨answered, isStored_of_contentAt? fresh.writable added.content, added⟩
    · exact .inr ⟨fault, answered, leftOver.kept, fun name around isFileName =>
        leftOver.file?_of_isFileName fresh.nonempty isFileName⟩
  · intro sourceFault _ source stamps draws rules start answer final reads distinct fresh outcome
    obtain ⟨calls, inTurn, told, _⟩ :=
      Tells.runAll reads distinct draws rules 0 start _ final (fun index _ => fresh index) outcome
    exact ⟨made calls, inTurn.areAdded, told⟩

/-- Stamps with numbered ids, all of the first instant of 1970. -/
def numberedStamp (index : Nat) : Stamp := ⟨numberedId index, ⟨0, 0⟩⟩

theorem isFresh_numberedStamp (folder : Path) (index : Nat) :
    IsFresh ⟨[], [], []⟩ folder (numberedStamp index) := by
  have nonempty : (numberedStamp index).id ≠ "" := by
    simp [numberedStamp, numberedId]
  have writable : (⟨0, 0⟩ : Calendar.Instant).IsWritable :=
    ⟨by decide, by decide, .inl (by decide)⟩
  refine ⟨nonempty, writable, ?_, ?_⟩
  · rw [place_fileOf]
    rfl
  · rw [place_temporaryOf folder nonempty]
    rfl

/-- A call on a disk that refuses nothing. -/
theorem Call.LeadsTo.of_run (folder : Path) (stamp : Stamp) (name : String) (user : Option String)
    (items : List String) (disk : Disk) :
    Call.LeadsTo folder ⟨stamp, name, user, items,
      ((add folder stamp name user items).run disk).1⟩ disk
      ((add folder stamp name user items).run disk).2 :=
  FileTask.outcome_run _ disk

/-- A playlist is refused, the next one is made, and a rule makes one from a record. -/
theorem playlists_only_added_refused :
    let folder : Path := ⟨["lists"]⟩
    let disk : Disk := ⟨[], [], []⟩
    let refused : Call :=
      ⟨numberedStamp 0, "Noir", none, ["m1"], .error (.createDirectory folder .busy)⟩
    let run := (add folder (numberedStamp 1) "Noir" none ["m1"]).run disk
    let works : Call := ⟨numberedStamp 1, "Noir", none, ["m1"], run.1⟩
    let record : Record :=
      ⟨"m1", "Heat", "movie", .ofList ["Crime"], none, none, false, none, none, none⟩
    let source : Source (StateT Nat FileTask) String := ⟨fun _ => pure (.ok [record])⟩
    let rule : Rule := ⟨"Noir", ["\x7bgenre:Crime | none | 5\x7d"], none, true⟩
    let ended := ((runAll source (sink folder numberedStamp) (fun _ _ => 0) [rule]).run 0).run disk
    CallsInTurn folder disk [refused, works] run.2 ∧
      (made [refused, works]).length = 1 ∧
      AreAdded folder (made [refused, works]) disk run.2 ∧
      (ended.1.1.filterMap naming?).length = 1 ∧
      ∃ playlists, AreAdded folder playlists disk ended.2 ∧
        List.Forall₂ IsNamed playlists (ended.1.1.filterMap naming?) := by
  intro folder disk refused run works record source rule ended
  have distinct : Function.Injective fun index => (numberedStamp index).id := numberedId_injective
  have fresh := isFresh_numberedStamp folder
  have refusal : refused.LeadsTo folder disk disk := by
    have lineage : Path.lineage folder = [folder] := by decide
    rw [Call.LeadsTo, add, store, FileTask.makeDirectories, lineage]
    exact .makeDirectory (.refused .busy) (.isDirectory (.done _ _))
  have success : works.LeadsTo folder disk run.2 := .of_run folder (numberedStamp 1) ..
  have inTurn : CallsInTurn folder disk [refused, works] run.2 :=
    .next (fresh 0) refusal (.next (fresh 1) success (.none _))
  have one : (made [refused, works]).length = 1 := by decide
  have named : (ended.1.1.filterMap naming?).length = 1 := by decide
  have onlyReads : OnlyReads source := by
    intro user used before answer after outcome
    obtain ⟨rfl, rfl⟩ := FileTask.Outcome.of_done outcome
    exact ⟨rfl, rfl⟩
  have outcome : FileTask.Outcome
      ((runAll source (sink folder numberedStamp) (fun _ _ => 0) [rule]).run 0) disk ended.1
      ended.2 := FileTask.outcome_run _ disk
  clear_value ended
  have run := (playlists_only_added folder).2 source numberedStamp _ _ disk _ _ onlyReads distinct
    fresh outcome
  exact ⟨inTurn, one, ((playlists_only_added folder).1 _ _ _ inTurn).2, named, run⟩

end PlaylistFolder

end PlaylistRules.Storage
