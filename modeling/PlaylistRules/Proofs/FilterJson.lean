/-
This file proves that filters are read from JSON values as they are written. Reading lets
containers nest up to a limit, and a filter that was read within a limit takes up no more
of them when it is written: every constructor writes as many containers around its parts
as reading counts for it. Only a rating that is not finite is lost, and with it everything
around it.
-/

import PlaylistRules.Filter.Encoding
import PlaylistRules.Proofs.JsonData

namespace PlaylistRules

open Number

/-! ### Lists -/

namespace Json

/-- Every value of a list was read from an item. -/
theorem exists_of_mem_mapM {read : α → Option β} {items : List α} {values : List β}
    (found : items.mapM read = some values) {value : β} (member : value ∈ values) :
    ∃ item ∈ items, read item = some value := by
  induction items generalizing values with
  | nil =>
    rw [List.mapM_nil] at found
    cases found
    cases member
  | cons item rest inductionHypothesis =>
    rw [List.mapM_cons] at found
    simp only [Option.bind_eq_bind, Option.bind_eq_some_iff] at found
    obtain ⟨first, readFirst, others, readOthers, same⟩ := found
    cases same
    rcases List.mem_cons.mp member with rfl | inOthers
    · exact ⟨item, List.mem_cons_self, readFirst⟩
    · obtain ⟨other, inRest, read⟩ := inductionHypothesis readOthers inOthers
      exact ⟨other, List.mem_cons_of_mem _ inRest, read⟩

theorem exists_of_mem_listOf? {read : Json → Option α} {value : Json} {values : List α}
    (found : listOf? read value = some values) {entry : α} (member : entry ∈ values) :
    ∃ item, read item = some entry := by
  cases value with
  | array items =>
    obtain ⟨item, _, read⟩ := exists_of_mem_mapM found member
    exact ⟨item, read⟩
  | _ => cases found

end Json

/-! ### Comparisons -/

theorem Comparison.ofName?_name (comparison : Comparison) :
    ofName? comparison.name = some comparison := by
  cases comparison <;> decide

namespace Filter

/-! ### Filters that fit -/

/-- The filters whose values nest within a number of containers and whose numbers have
the sizes that reading allows. -/
inductive Storable : (containers : Nat) → Filter → Prop where
  | all {containers : Nat} {children : List Filter}
      (each : ∀ child ∈ children, Storable containers child) :
      Storable (containers + 2) (.all children)
  | any {containers : Nat} {children : List Filter}
      (each : ∀ child ∈ children, Storable containers child) :
      Storable (containers + 2) (.any children)
  | not {containers : Nat} {inner : Filter} (inside : Storable containers inner) :
      Storable (containers + 1) (.not inner)
  | group {containers : Nat} {field : Field} {value : Filter} (inside : Storable containers value) :
      Storable (containers + 1) (.group field value)
  | term {containers : Nat} {field : Field} {text : String} :
      Storable (containers + 1) (.term field text)
  | runtime {containers : Nat} {comparison : Comparison} {minutes : Int}
      (low : -2 ^ 63 ≤ minutes) (high : minutes ≤ 2 ^ 63 - 1) :
      Storable (containers + 2) (.runtime comparison minutes)
  | released {containers : Nat} {comparison : Comparison} {year : Int}
      (low : -2 ^ 31 ≤ year) (high : year ≤ 2 ^ 31 - 1) :
      Storable (containers + 2) (.released comparison year)
  | rating {containers : Nat} {comparison : Comparison} {value : Binary64}
      (finite : value.isFinite = true) : Storable (containers + 2) (.rating comparison value)
  | watched {containers : Nat} {state : Bool} : Storable (containers + 1) (.watched state)

theorem comparisonOfJson?_eq_some {unit : String} {number? : Json → Option α}
    {filter : Comparison → α → Filter} {containers : Nat} {value : Json} {found : Filter}
    (read : comparisonOfJson? unit number? filter containers value = some found) :
    ∃ rest comparison number item, containers = rest + 1 ∧ number? item = some number ∧
      found = filter comparison number := by
  cases containers with
  | zero => cases read
  | succ rest =>
    simp only [comparisonOfJson?, Option.bind_eq_bind, Option.bind_eq_some_iff] at read
    obtain ⟨fields, _, parts⟩ := read
    split at parts
    case h_2 => cases parts
    case h_1 comparison number =>
      simp only [Option.bind_eq_some_iff, Json.required] at parts
      obtain ⟨comparison, _, number, ⟨item, _, readNumber⟩, same⟩ := parts
      exact ⟨rest, comparison, number, item, rfl, readNumber, (Option.some.inj same).symm⟩

theorem storable_of_leafOfJson? {containers : Nat} {name : String} {value : Json} {filter : Filter}
    (found : leafOfJson? containers name value = some filter) :
    filter.Storable (containers + 1) := by
  unfold leafOfJson? at found
  split at found
  case h_8 => cases found
  case h_4 =>
    obtain ⟨rest, comparison, minutes, item, rfl, read, rfl⟩ := comparisonOfJson?_eq_some found
    obtain ⟨low, high⟩ := Json.bounds_of_integer? read
    exact .runtime low high
  case h_5 =>
    obtain ⟨rest, comparison, year, item, rfl, read, rfl⟩ := comparisonOfJson?_eq_some found
    obtain ⟨low, high⟩ := Json.bounds_of_integer? read
    exact .released low high
  case h_6 =>
    obtain ⟨rest, comparison, rating, item, rfl, read, rfl⟩ := comparisonOfJson?_eq_some found
    exact .rating (Json.isFinite_of_binary64? read)
  case h_7 =>
    obtain ⟨state, _, rfl⟩ := Option.map_eq_some_iff.mp found
    exact .watched
  all_goals
    obtain ⟨text, _, rfl⟩ := Option.map_eq_some_iff.mp found
    exact .term

/-- A filter that was read fits the containers within which it was read. -/
theorem storable_of_ofJson? {containers : Nat} {value : Json} {filter : Filter}
    (found : ofJson? containers value = some filter) : filter.Storable containers := by
  induction containers using Nat.strongRecOn generalizing value filter with
  | ind containers inductionHypothesis =>
    unfold ofJson? at found
    split at found
    case h_2 => cases found
    case h_1 containers name value =>
      split at found
      case h_7 => exact storable_of_leafOfJson? found
      case h_1 =>
        split at found
        case h_2 => cases found
        case h_1 containers items =>
          obtain ⟨children, read, rfl⟩ := Option.map_eq_some_iff.mp found
          refine .all fun child member => ?_
          obtain ⟨item, _, readItem⟩ := Json.exists_of_mem_mapM read member
          exact inductionHypothesis containers (by omega) readItem
      case h_2 =>
        split at found
        case h_2 => cases found
        case h_1 containers items =>
          obtain ⟨children, read, rfl⟩ := Option.map_eq_some_iff.mp found
          refine .any fun child member => ?_
          obtain ⟨item, _, readItem⟩ := Json.exists_of_mem_mapM read member
          exact inductionHypothesis containers (by omega) readItem
      case h_3 =>
        obtain ⟨inner, read, rfl⟩ := Option.map_eq_some_iff.mp found
        exact .not (inductionHypothesis containers (Nat.lt_succ_self _) read)
      all_goals
        obtain ⟨inner, read, rfl⟩ := Option.map_eq_some_iff.mp found
        exact .group (inductionHypothesis containers (Nat.lt_succ_self _) read)

/-! ### Ratings -/

mutual

/-- The ratings that a filter compares with. -/
def ratings : Filter → List Binary64
  | all children => ratingsEach children
  | any children => ratingsEach children
  | not inner => ratings inner
  | group _ value => ratings value
  | rating _ value => [value]
  | _ => []

def ratingsEach : List Filter → List Binary64
  | [] => []
  | child :: rest => ratings child ++ ratingsEach rest

end

theorem ratingsEach_eq_flatMap (children : List Filter) :
    ratingsEach children = children.flatMap ratings := by
  induction children with
  | nil => rfl
  | cons child rest inductionHypothesis =>
    rw [ratingsEach, inductionHypothesis, List.flatMap_cons]

theorem mem_ratingsEach {children : List Filter} {child : Filter} (member : child ∈ children)
    {value : Binary64} (inChild : value ∈ child.ratings) : value ∈ ratingsEach children := by
  rw [ratingsEach_eq_flatMap]
  exact List.mem_flatMap.mpr ⟨child, member, inChild⟩

/-! ### Reading what was written -/

theorem toJsonEach_eq_map (children : List Filter) : toJsonEach children = children.map toJson := by
  induction children with
  | nil => rfl
  | cons child rest inductionHypothesis => rw [toJsonEach, inductionHypothesis, List.map_cons]

theorem mapM_toJsonEach {containers : Nat} {children : List Filter}
    (each : ∀ child ∈ children, ofJson? containers child.toJson = some child) :
    (toJsonEach children).mapM (ofJson? containers) = some children := by
  rw [toJsonEach_eq_map]
  exact Json.listOf?_map each

theorem ofJson?_toJson_group (containers : Nat) (field : Field) (value : Filter) :
    ofJson? (containers + 1) (group field value).toJson =
      group field <$> ofJson? containers value.toJson := by
  cases field <;> rfl

theorem comparisonOfJson?_comparisonJson {unit : String} (number? : Json → Option α)
    (filter : Comparison → α → Filter) (comparison : Comparison) (written : Json)
    (distinct : "op" ≠ unit) (containers : Nat) :
    comparisonOfJson? unit number? filter (containers + 1)
      (.object [("op", .string comparison.name), (unit, written)]) =
        filter comparison <$> number? written := by
  have fields : Json.fields? ["op", unit]
      (.object [("op", .string comparison.name), (unit, written)]) =
        some [some (.string comparison.name), some written] :=
    Json.fields?_ofMembers [("op", some _), (unit, some _)] [("op", _), (unit, _)]
      (by simp [distinct]) (List.Subset.refl _)
  rw [comparisonOfJson?, fields]
  simp only [Option.bind_eq_bind, Option.bind_some, Json.required, Comparison.ofJson?,
    Comparison.ofName?_name]
  cases number? written <;> rfl

/-- A filter that fits is read back from its JSON value, if its ratings are. -/
theorem ofJson?_toJson {containers : Nat} {filter : Filter} (storable : filter.Storable containers)
    (back : ∀ value ∈ filter.ratings, Json.IsReadAsWritten value) :
    ofJson? containers filter.toJson = some filter := by
  induction storable with
  | @all containers children _ inductionHypothesis =>
    have each := mapM_toJsonEach fun child member =>
      inductionHypothesis child member fun value inChild =>
        back value (mem_ratingsEach member inChild)
    change all <$> (toJsonEach children).mapM (ofJson? containers) = _
    rw [each]
    rfl
  | @any containers children _ inductionHypothesis =>
    have each := mapM_toJsonEach fun child member =>
      inductionHypothesis child member fun value inChild =>
        back value (mem_ratingsEach member inChild)
    change any <$> (toJsonEach children).mapM (ofJson? containers) = _
    rw [each]
    rfl
  | @not containers inner _ inductionHypothesis =>
    change not <$> ofJson? containers inner.toJson = _
    rw [inductionHypothesis back]
    rfl
  | @group containers field value _ inductionHypothesis =>
    rw [ofJson?_toJson_group, inductionHypothesis back]
    rfl
  | @term containers field text => cases field <;> rfl
  | @runtime containers comparison minutes low high =>
    refine (comparisonOfJson?_comparisonJson minutesOfJson? runtime comparison (.ofInt minutes)
      (by decide) containers).trans ?_
    rw [minutesOfJson?, Json.integer?_of_bounds low high (by decide) (by decide)]
    rfl
  | @released containers comparison year low high =>
    refine (comparisonOfJson?_comparisonJson yearOfJson? released comparison (.ofInt year)
      (by decide) containers).trans ?_
    rw [yearOfJson?, Json.integer?_of_bounds low high (by decide) (by decide)]
    rfl
  | @rating containers comparison value finite =>
    refine (comparisonOfJson?_comparisonJson Json.binary64? rating comparison (.ofBinary64 value)
      (by decide) containers).trans ?_
    rw [Json.binary64?_ofBinary64 (back value List.mem_cons_self) finite]
    rfl
  | watched => rfl

mutual

/-- A filter with an infinite rating is not read back, within any number of containers. -/
theorem ofJson?_toJson_of_infinite {value : Binary64} (infinite : value.isFinite = false) :
    (filter : Filter) → value ∈ filter.ratings → (containers : Nat) →
      ofJson? containers filter.toJson = none
  | _, _, 0 => rfl
  | all _, _, 1 | any _, _, 1 => rfl
  | all children, member, containers + 2 =>
    congrArg (all <$> ·) (mapM_toJsonEach_of_infinite infinite children member containers)
  | any children, member, containers + 2 =>
    congrArg (any <$> ·) (mapM_toJsonEach_of_infinite infinite children member containers)
  | not inner, member, containers + 1 =>
    congrArg (not <$> ·) (ofJson?_toJson_of_infinite infinite inner member containers)
  | group field inner, member, containers + 1 => by
    rw [ofJson?_toJson_group, ofJson?_toJson_of_infinite infinite inner member containers]
    rfl
  | rating _ _, _, 1 => rfl
  | rating comparison number, member, containers + 2 => by
    obtain rfl := List.mem_singleton.mp member
    refine (comparisonOfJson?_comparisonJson Json.binary64? rating comparison (.ofBinary64 value)
      (by decide) containers).trans ?_
    rw [Json.ofBinary64, if_neg (by simp [infinite])]
    rfl

theorem mapM_toJsonEach_of_infinite {value : Binary64} (infinite : value.isFinite = false) :
    (children : List Filter) → value ∈ ratingsEach children → (containers : Nat) →
      (toJsonEach children).mapM (ofJson? containers) = none
  | child :: rest, member, containers => by
    rw [toJsonEach, List.mapM_cons]
    rcases List.mem_append.mp member with inChild | inRest
    · rw [ofJson?_toJson_of_infinite infinite child inChild containers]
      rfl
    · rw [mapM_toJsonEach_of_infinite infinite rest inRest containers]
      cases ofJson? containers child.toJson <;> rfl

end

mutual

/-- Whatever a filter holds, its value can be spelled out. -/
theorem isFaithful_toJson : (filter : Filter) → filter.toJson.IsFaithful
  | all children => ⟨areFaithful_toJsonEach children, trivial⟩
  | any children => ⟨areFaithful_toJsonEach children, trivial⟩
  | not inner => ⟨isFaithful_toJson inner, trivial⟩
  | group _ value => ⟨isFaithful_toJson value, trivial⟩
  | term _ _ => ⟨trivial, trivial⟩
  | runtime _ minutes => ⟨⟨trivial, Json.isFaithful_ofInt minutes, trivial⟩, trivial⟩
  | released _ year => ⟨⟨trivial, Json.isFaithful_ofInt year, trivial⟩, trivial⟩
  | rating _ value => ⟨⟨trivial, Json.isFaithful_ofBinary64 value, trivial⟩, trivial⟩
  | watched _ => ⟨trivial, trivial⟩

theorem areFaithful_toJsonEach : (children : List Filter) → Json.AreFaithful (toJsonEach children)
  | [] => trivial
  | child :: rest => ⟨isFaithful_toJson child, areFaithful_toJsonEach rest⟩

end

end Filter

/-! ### Expressions -/

namespace Expression

/-- An expression whose filter fits and whose count has 64 bits. The object around the
filter takes up one container. -/
structure IsStorable (expression : Expression) : Prop where
  filter : expression.filter.Storable (Filter.containerLimit - 1)
  count : expression.count < 2 ^ 64

theorem isFaithful_toJson (expression : Expression) : expression.toJson.IsFaithful :=
  ⟨expression.filter.isFaithful_toJson, trivial, Json.isFaithful_ofInt expression.count, trivial⟩

theorem isStorable_of_ofJson? {value : Json} {expression : Expression}
    (found : ofJson? value = some expression) : expression.IsStorable := by
  simp only [ofJson?, Option.bind_eq_bind, Option.bind_eq_some_iff] at found
  obtain ⟨fields, _, parts⟩ := found
  split at parts
  case h_2 => cases parts
  case h_1 =>
    simp only [Option.bind_eq_some_iff, Json.required] at parts
    obtain ⟨filter, ⟨_, _, readFilter⟩, _, _, count, ⟨_, _, readCount⟩, same⟩ := parts
    cases same
    exact ⟨Filter.storable_of_ofJson? readFilter, Json.lt_of_natural? readCount⟩

theorem fields?_toJson (expression : Expression) :
    expression.toJson.fields? ["filter", "sort_key", "count"] =
      some [some expression.filter.toJson, some (.string expression.sortKey),
        some (.ofNat expression.count)] :=
  Json.fields?_ofMembers [("filter", some _), ("sort_key", some _), ("count", some _)]
    [("filter", _), ("sort_key", _), ("count", _)] (by simp) (List.Subset.refl _)

/-- An expression is read back from its JSON value, if its ratings are. -/
theorem ofJson?_toJson {expression : Expression} (storable : expression.IsStorable)
    (back : ∀ value ∈ expression.filter.ratings, Json.IsReadAsWritten value) :
    ofJson? expression.toJson = some expression := by
  rw [ofJson?, fields?_toJson]
  simp only [Option.bind_eq_bind, Option.bind_some, Json.required, Json.string?,
    Filter.ofJson?_toJson storable.filter back,
    Json.natural?_ofNat storable.count (Nat.le_refl _)]
  rfl

/-- An expression with an infinite rating is not read back. -/
theorem ofJson?_toJson_of_infinite {expression : Expression} {value : Binary64}
    (infinite : value.isFinite = false) (member : value ∈ expression.filter.ratings) :
    ofJson? expression.toJson = none := by
  rw [ofJson?, fields?_toJson]
  simp only [Option.bind_eq_bind, Option.bind_some, Json.required,
    Filter.ofJson?_toJson_of_infinite infinite _ member, Option.bind_none]

end Expression

end PlaylistRules
