/-
This file compares what a preview shows with what a run puts into a playlist. Both read
the catalog file and try the same expressions on the records of the same user. They part
at the end only: a run stores what it selected, and a preview of nothing but invalid
expressions ends in the fault of the first one.
-/

import PlaylistRules.CommandLine.Expressions
import PlaylistRules.Proofs.Columns
import PlaylistRules.Proofs.Isolation
import PlaylistRules.Proofs.JsonData
import PlaylistRules.Proofs.Places
import PlaylistRules.Storage.CatalogFile

namespace PlaylistRules

open Storage CommandLine

/-! ### What the JSON text of a selection reports -/

namespace Report

/-- The ids that the JSON text of a selection lists, and its skipped expressions with the
wording of their faults. -/
def reported? (text : String) : Option (List String × List (String × String)) := do
  let [items, skipped] ← (← Json.parse? text).fields? ["items", "skipped"] | none
  return (← Json.required (Json.listOf? itemId?) items,
    ← Json.defaulted [] (Json.listOf? skippedTexts?) skipped)
where
  itemId? (item : Json) : Option String := do
    let [id] ← item.fields? ["id"] | none
    Json.required Json.string? id
  skippedTexts? (item : Json) : Option (String × String) := do
    let [expression, error] ← item.fields? ["expression", "error"] | none
    return (← Json.required Json.string? expression, ← Json.required Json.string? error)

theorem itemId?_itemJson (record : Record) :
    reported?.itemId? (itemJson record) = some record.id := by
  have fields : (itemJson record).fields? ["id"] = some [some (.string record.id)] :=
    Json.fields?_ofMembers _ [("id", _)] (by simp) (by simp)
  rw [reported?.itemId?, fields]
  rfl

theorem skippedTexts?_skippedJson (skipped : SkippedExpression) :
    reported?.skippedTexts? (skippedJson skipped) =
      some (skipped.expression, skipped.fault.message) := by
  have fields : (skippedJson skipped).fields? ["expression", "error"] =
      some [some (.string skipped.expression), some (.string skipped.fault.message)] :=
    Json.fields?_ofMembers [("expression", some _), ("error", some _)]
      [("expression", _), ("error", _)] (by simp) (List.Subset.refl _)
  rw [reported?.skippedTexts?, fields]
  rfl

theorem isFaithful_itemJson (record : Record) : (itemJson record).IsFaithful := by
  refine Json.isFaithful_ofMembers ?_
  simp [Json.IsFaithful, Record.namesJson]

theorem isFaithful_skippedJson (skipped : SkippedExpression) :
    (skippedJson skipped).IsFaithful := by
  simp [skippedJson, Json.IsFaithful, Json.HoldFaithful]

/-- The JSON value that reports a selection. -/
def selectionJson (selection : RuleSelection) : Json :=
  Json.ofMembers [("items", some (.array (selection.items.map itemJson))),
    ("skipped", arrayUnlessEmpty (selection.skipped.map skippedJson))]

theorem selectionText_eq (selection : RuleSelection) :
    selectionText selection = (selectionJson selection).pretty := rfl

theorem isFaithful_selectionJson (selection : RuleSelection) :
    (selectionJson selection).IsFaithful := by
  refine Json.isFaithful_ofMembers ?_
  have items : Json.AreFaithful (selection.items.map itemJson) :=
    (Json.areFaithful_iff _).mpr (List.forall_mem_map.mpr fun record _ =>
      isFaithful_itemJson record)
  have skipped : Json.AreFaithful (selection.skipped.map skippedJson) :=
    (Json.areFaithful_iff _).mpr (List.forall_mem_map.mpr fun skipped _ =>
      isFaithful_skippedJson skipped)
  simp [arrayUnlessEmpty, Json.IsFaithful, items, skipped]

theorem fields?_selectionJson (selection : RuleSelection) :
    (selectionJson selection).fields? ["items", "skipped"] =
      some [some (.array (selection.items.map itemJson)),
        arrayUnlessEmpty (selection.skipped.map skippedJson)] :=
  Json.fields?_ofMembers _ [("items", _), ("skipped", _)] (by simp) (List.Subset.refl _)

/-- The text reports the ids in their order, and every skipped expression. -/
theorem reported?_selectionText (selection : RuleSelection) :
    reported? (selectionText selection ++ "\n") =
      some (idsOf selection.items,
        selection.skipped.map fun skipped => (skipped.expression, skipped.fault.message)) := by
  have items : Json.listOf? reported?.itemId? (.array (selection.items.map itemJson)) =
      some (idsOf selection.items) :=
    Json.listOf?_map_of_seen fun record _ => itemId?_itemJson record
  have skipped : Json.defaulted [] (Json.listOf? reported?.skippedTexts?)
      (arrayUnlessEmpty (selection.skipped.map skippedJson)) =
        some (selection.skipped.map fun skipped =>
          (skipped.expression, skipped.fault.message)) := by
    have read := Json.listOf?_map_of_seen fun skipped (_ : skipped ∈ selection.skipped) =>
      skippedTexts?_skippedJson skipped
    cases entries : selection.skipped with
    | nil => rfl
    | cons first rest => rwa [entries] at read
  rw [reported?, selectionText_eq, Json.parse?_pretty_line (isFaithful_selectionJson selection),
    Option.bind_eq_bind, Option.bind_some, fields?_selectionJson]
  simp only [Option.bind_eq_bind, Option.bind_some, Json.required, items, skipped]
  rfl

/-! ### What the table of a selection shows -/

/-- The table has a row for each record in their order, which starts with the beginning of
its id. -/
theorem exists_rows_itemTable (records : List Record) :
    ∃ rows : List (List String),
      rows.map List.head? = (idsOf records).map (fun id => some (Text.padEnd 8 (idCell id))) ∧
      itemTable false records =
        if rows = [] then "No items matched.\n" else textOf (itemNames :: rows) := by
  refine ⟨records.map itemFields, ?_, ?_⟩
  · rw [idsOf, List.map_map, List.map_map]
    exact List.map_congr_left fun record _ => head?_itemFields record
  · cases records with
    | nil => rfl
    | cons record records => exact itemTable_eq_textOf record records

end Report

/-! ### Selections of the same expressions -/

theorem length_skipped_eq_iff {texts : List String} :
    (texts.filterMap faulty?).length = texts.length ↔ ∀ text ∈ texts, isValid text = false := by
  rw [← List.length_map (·.expression), map_expression_faulty, List.length_filter_eq_length_iff]
  simp

/-- Nothing but invalid expressions select nothing, and all of them are skipped. -/
theorem Rule.select_of_invalid {rule : Rule} (steady : Steady rule.expressions)
    (invalid : ∀ text ∈ rule.expressions, isValid text = false) (draws : Draws)
    (records : List Record) :
    (rule.select draws records).items = [] ∧
      (rule.select draws records).skipped.map (·.expression) = rule.expressions := by
  constructor
  · have none : validExpressions rule.expressions = [] := by
      rw [← validExpressions_filter, List.filter_eq_nil_iff.mpr fun text member => by
        rw [invalid text member]; exact Bool.false_ne_true]
      rfl
    rw [items_select steady draws 0, selections, none]
    rfl
  · rw [skipped_select, map_expression_faulty, List.filter_eq_self]
    exact fun text member => by rw [invalid text member]; rfl

/-! ### Previews of records -/

section

variable {display : Display} {draws : Draws} {expressions : List String} {user : Option String}
  {records : List Record}

theorem previewRecords_eq :
    previewRecords display draws expressions user records =
      let selection := (previewRule expressions).select draws records
      let notices := .event (loadedEvent records user) ::
        ((previewRule expressions).attempts draws records).map (.event <| ·.event "preview")
      let shown : Answer := ⟨display.choose (Report.selectionText selection)
        (Report.itemTable display.colors selection.items), notices, none⟩
      match selection.skipped with
      | first :: _ =>
        if selection.skipped.length = expressions.length then
          ⟨"", notices, some (.expression first.fault)⟩
        else shown
      | [] => shown :=
  rfl

/-- A preview in which some expression is valid shows what is selected. -/
theorem previewRecords_of_valid (display : Display) (draws : Draws) (user : Option String)
    (records : List Record) (valid : ∃ text ∈ expressions, isValid text = true) :
    let selection := (previewRule expressions).select draws records
    (previewRecords display draws expressions user records).fault = none ∧
      (previewRecords display draws expressions user records).output =
        display.choose (Report.selectionText selection)
          (Report.itemTable display.colors selection.items) := by
  intro selection
  have notAll : selection.skipped.length ≠ expressions.length := by
    intro same
    obtain ⟨text, member, valid⟩ := valid
    rw [Rule.skipped_select] at same
    rw [length_skipped_eq_iff.mp same text member] at valid
    cases valid
  rw [previewRecords_eq]
  dsimp only
  split
  · rw [if_neg notAll]
    exact ⟨rfl, rfl⟩
  · exact ⟨rfl, rfl⟩

/-- A preview of invalid expressions ends in the fault of the first one. -/
theorem previewRecords_of_invalid {first : String} {rest : List String} {fault : FormatError}
    (split : expressions = first :: rest) (parsed : Expression.parse first = .error fault)
    (invalid : ∀ text ∈ expressions, isValid text = false) :
    (previewRecords display draws expressions user records).fault = some (.expression fault) ∧
      (previewRecords display draws expressions user records).output = "" := by
  have skipped : ((previewRule expressions).select draws records).skipped =
      ⟨first, fault⟩ :: rest.filterMap faulty? := by
    have found : faulty? first = some ⟨first, fault⟩ := by rw [faulty?, parsed]
    rw [Rule.skipped_select, previewRule, split, List.filterMap_cons, found]
  have all : ((previewRule expressions).select draws records).skipped.length =
      expressions.length := by
    rw [Rule.skipped_select]
    exact length_skipped_eq_iff.mpr invalid
  rw [previewRecords_eq]
  dsimp only
  split
  case h_1 head tail found =>
    rw [skipped] at found
    rw [if_pos all, ← (List.cons.inj found).1]
    exact ⟨rfl, rfl⟩
  case h_2 found =>
    rw [skipped] at found
    cases found

end

/-! ### Runs on a catalog file -/

section

variable {σ sinkFault : Type} {path : Path} {disk : Disk} {catalog : Catalog}

/-- Loading a catalog only reads. -/
theorem CatalogFile.run_load (loads : ((CatalogFile.load path).run disk).1 = .ok catalog) :
    (CatalogFile.load path).run disk = (.ok catalog, disk) := by
  refine Prod.ext loads ?_
  rw [CatalogFile.load, FileTask.run_bind, FileTask.textOf, FileTask.run, FileTask.run]
  cases disk.read path <;> rfl

theorem CatalogFile.run_fetch (loads : ((CatalogFile.load path).run disk).1 = .ok catalog)
    (user : Option String) (state : σ) :
    (((CatalogFile.source path).fetch user).run state).run disk =
      ((.ok (catalog.itemsFor user), state), disk) := by
  change (CatalogFile.fetch path user >>= _).run disk = _
  rw [FileTask.run_bind, CatalogFile.fetch, FileTask.run_bind, CatalogFile.run_load loads]
  rfl

/-- A run selects from the records of its user, and makes a playlist if there are any. -/
theorem Rule.run_of_loads (loads : ((CatalogFile.load path).run disk).1 = .ok catalog)
    (sink : Sink (StateT σ FileTask) sinkFault) (draws : Draws) (rule : Rule) (state : σ)
    (succeeds : let items := rule.itemIds draws (catalog.itemsFor rule.user)
      items ≠ [] → ∃ playlist,
        (((sink.create rule.name rule.user items).run state).run disk).1.1 = .ok playlist) :
    let records := catalog.itemsFor rule.user
    let ran := ((rule.run (CatalogFile.source path) sink draws).run state).run disk
    ∃ playlist, ran.1.1.result = .ok ⟨rule.name, playlist, rule.itemIds draws records,
        (rule.select draws records).skipped⟩ ∧
      (rule.itemIds draws records = [] ↔ playlist = none) ∧
      (playlist = none → ran.1.2 = state ∧ ran.2 = disk) := by
  intro records ran
  have fetched := CatalogFile.run_fetch loads rule.user state
  have ranEq : ran = ((rule.run (CatalogFile.source path) sink draws).run state).run disk := rfl
  rw [run_eq, StateT.run_bind, FileTask.run_bind, fetched] at ranEq
  dsimp only at ranEq
  by_cases empty : rule.itemIds draws records = []
  · rw [if_pos (List.isEmpty_iff.mpr empty)] at ranEq
    rw [ranEq]
    exact ⟨none, rfl, iff_of_true empty rfl, fun _ => ⟨rfl, rfl⟩⟩
  · rw [if_neg fun isEmpty => empty (List.isEmpty_iff.mp isEmpty), StateT.run_bind,
      FileTask.run_bind] at ranEq
    obtain ⟨playlist, created⟩ := succeeds empty
    rw [created] at ranEq
    rw [ranEq]
    exact ⟨some playlist, rfl, iff_of_false empty nofun, nofun⟩

/-- A preview tries the expressions on what the user sees in the catalog. -/
theorem run_preview {workspace : Workspace} (placed : workspace.catalog = some path)
    (loads : ((CatalogFile.load path).run disk).1 = .ok catalog) (display : Display)
    (draws : Draws) (expressions : List String) (user : Option String) :
    (preview display workspace draws expressions user).run disk =
      (previewRecords display draws expressions (user.or workspace.user)
        (catalog.itemsFor (user.or workspace.user)), disk) := by
  rw [preview, placed]
  dsimp only
  rw [FileTask.run_bind, CatalogFile.run_load loads]
  rfl

/-- A preview shows what a run puts into the playlist. On one catalog file, for one user
and the same expressions without the random order, a preview in which some expression is
valid shows the records whose ids the run stores, and reports the expressions that the run
skips; its table has a row for each of these ids. If no expression is valid, the preview
ends in the fault of the first one, while the run makes no playlist and skips them all. -/
theorem preview_shows_run (sink : Sink (StateT σ FileTask) sinkFault) (display : Display)
    (workspace : Workspace) (user : Option String) (rule : Rule) (state : σ)
    (draws ruleDraws : Draws) (placed : workspace.catalog = some path)
    (loads : ((CatalogFile.load path).run disk).1 = .ok catalog)
    (sameUser : rule.user = user.or workspace.user) (nonempty : rule.expressions ≠ [])
    (steady : Steady rule.expressions)
    (succeeds : let items := rule.itemIds ruleDraws (catalog.itemsFor rule.user)
      items ≠ [] → ∃ playlist,
        (((sink.create rule.name rule.user items).run state).run disk).1.1 = .ok playlist) :
    let previewed := (preview display workspace draws rule.expressions user).run disk
    let ran := ((rule.run (CatalogFile.source path) sink ruleDraws).run state).run disk
    let selection := rule.select ruleDraws (catalog.itemsFor rule.user)
    previewed.2 = disk ∧
      ∃ outcome, ran.1.1.result = .ok outcome ∧
        outcome.rule = rule.name ∧
        outcome.items = idsOf selection.items ∧
        outcome.skipped = selection.skipped ∧
        (outcome.items = [] ↔ outcome.playlist = none) ∧
        (outcome.playlist = none → ran.1.2 = state ∧ ran.2 = disk) ∧
        ((∃ text ∈ rule.expressions, isValid text = true) →
          previewed.1.fault = none ∧
            previewed.1.output = display.choose (Report.selectionText selection)
              (Report.itemTable display.colors selection.items) ∧
            (display.json = true → Report.reported? previewed.1.output =
              some (outcome.items,
                outcome.skipped.map fun skipped => (skipped.expression, skipped.fault.message))) ∧
            (display.json = false → display.quiet = false → display.colors = false →
              ∃ rows : List (List String),
                rows.map List.head? =
                  outcome.items.map (fun id => some (Text.padEnd 8 (Report.idCell id))) ∧
                previewed.1.output = if rows = [] then "No items matched.\n"
                  else Report.textOf (Report.itemNames :: rows))) ∧
        ((∀ text ∈ rule.expressions, isValid text = false) →
          outcome.items = [] ∧
            outcome.skipped.map (·.expression) = rule.expressions ∧
            (∀ skipped ∈ outcome.skipped,
              Expression.parse skipped.expression = .error skipped.fault) ∧
            ∃ fault, rule.expressions.head?.map Expression.parse = some (.error fault) ∧
              previewed.1.fault = some (.expression fault) ∧ previewed.1.output = "") := by
  intro previewed ran selection
  obtain ⟨playlist, result, noneIff, untouched⟩ :=
    Rule.run_of_loads loads sink ruleDraws rule state succeeds
  have previewedEq : previewed = _ := run_preview placed loads display draws rule.expressions user
  rw [← sameUser] at previewedEq
  rw [previewedEq]
  refine ⟨rfl, _, result, rfl, rfl, rfl, noneIff, untouched, fun valid => ?_, fun invalid => ?_⟩
  · obtain ⟨faultless, shown⟩ :=
      previewRecords_of_valid display draws rule.user (catalog.itemsFor rule.user) valid
    have same : (previewRule rule.expressions).select draws (catalog.itemsFor rule.user) =
        selection := Rule.select_congr rfl steady ruleDraws draws _
    rw [same] at shown
    refine ⟨faultless, shown, fun json => ?_, fun plain loud colorless => ?_⟩
    · rw [shown, Display.choose, if_pos json]
      exact Report.reported?_selectionText selection
    · obtain ⟨rows, heads, table⟩ := Report.exists_rows_itemTable selection.items
      refine ⟨rows, heads, ?_⟩
      rw [shown, Display.choose, plain, loud, colorless]
      exact table
  · obtain ⟨items, skipped⟩ := Rule.select_of_invalid steady invalid ruleDraws
      (catalog.itemsFor rule.user)
    refine ⟨congrArg idsOf items, skipped, fun skipped member => ?_, ?_⟩
    · rw [Rule.skipped_select] at member
      exact parse_of_mem_faulty member
    · obtain ⟨first, rest, split⟩ := List.exists_cons_of_ne_nil nonempty
      have firstInvalid := invalid first (split ▸ List.mem_cons_self)
      rw [isValid] at firstInvalid
      cases parsed : Expression.parse first with
      | ok expression =>
        rw [parsed] at firstInvalid
        cases firstInvalid
      | error fault =>
        refine ⟨fault, ?_, previewRecords_of_invalid split parsed invalid⟩
        rw [split, List.head?_cons, Option.map_some, parsed]

end

/-- Two records, the second of which one user has watched. -/
def twoRecords : Catalog :=
  ⟨[⟨"a", "A", "Movie", .empty, none, none, false, none, none, none⟩,
    ⟨"b", "B", "Episode", .empty, none, none, false, none, none, none⟩],
    [("sam", ⟨["b"], List.pairwise_singleton _ _⟩)]⟩

/-- A disk whose only file is the catalog. -/
def catalogDisk : Disk :=
  ⟨[(["catalog.json"], .file twoRecords.toJson.compact.toUTF8)], [], []⟩

theorem load_catalogDisk :
    ((CatalogFile.load ⟨["catalog.json"]⟩).run catalogDisk).1 = .ok twoRecords := by
  have parsed : Catalog.parse? twoRecords.toJson.compact = some twoRecords := by
    rw [Catalog.parse?, Json.parse?_compact]
    · rfl
    · simp [twoRecords, Catalog.toJson, Record.toJson, Record.namesJson, Json.ofMembers,
        Json.IsFaithful, Json.HoldFaithful, Json.AreFaithful]
  have content : catalogDisk.contentAt? ⟨["catalog.json"]⟩ =
      some twoRecords.toJson.compact.toUTF8 := rfl
  have read := Disk.read_of_contentAt? content
  rw [Disk.textOf?_toUTF8] at read
  rw [CatalogFile.load, FileTask.run_bind, FileTask.textOf, FileTask.run, FileTask.run, read]
  dsimp only
  rw [CatalogFile.ofText, parsed]
  rfl

/-- The first expression is invalid, and the second asks for what the default user has
watched. -/
theorem preview_shows_run_watched :
    let path : Path := ⟨["catalog.json"]⟩
    let sink : Sink (StateT (List PlaylistRequest) FileTask) Unit :=
      ⟨fun name user items made => return (.ok "p1", made ++ [⟨name, user, items⟩])⟩
    let rule : Rule := ⟨"Mixed", ["\x7btype:Episode\x7d", "\x7bwatchstatus:true | none | 5\x7d",
      "\x7btype:Movie | none | 5\x7d"], some "sam", true⟩
    let previewed := (preview ⟨true, false, false, false⟩
      ⟨some path, ⟨["playlists"]⟩, ⟨["rules.json"]⟩, some "sam"⟩ (fun _ => 0) rule.expressions
      none).run catalogDisk
    let ran := ((rule.run (CatalogFile.source path) sink fun _ => 0).run []).run catalogDisk
    ∃ outcome, ran.1.1.result = .ok outcome ∧ outcome.items = ["b", "a"] ∧
      previewed.1.fault = none ∧
      (Report.reported? previewed.1.output).map Prod.fst = some ["b", "a"] := by
  intro path sink rule
  have steady : Steady rule.expressions := by decide +kernel
  obtain ⟨_, outcome, result, _, items, _, _, _, valid, _⟩ :=
    preview_shows_run sink ⟨true, false, false, false⟩
      ⟨some path, ⟨["playlists"]⟩, ⟨["rules.json"]⟩, some "sam"⟩ none rule [] (fun _ => 0)
      (fun _ => 0) rfl load_catalogDisk rfl (List.cons_ne_nil _ _) steady fun _ => ⟨"p1", rfl⟩
  obtain ⟨faultless, _, reported, _⟩ :=
    valid ⟨"\x7btype:Movie | none | 5\x7d", by decide, by decide⟩
  have ids : outcome.items = ["b", "a"] := items.trans (by decide +kernel)
  dsimp only
  refine ⟨outcome, result, ids, faultless, ?_⟩
  rw [reported rfl, Option.map_some, ids]

end PlaylistRules
