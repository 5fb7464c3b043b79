import BasinRegister.Proofs.Storage.Children

/-!
# Looking single records up

A store tells records apart by their very names, but they are looked up by names in either case, so that a look-up may be about
several records. That of a location or of a template answers by their number, which no children change
(`Memory.lookups_by_number`). That of an office or of a water user takes the first of them in the order of the keys, even where the
very name of another one was given (`Memory.lookups_take_first`).
-/

namespace BasinRegister

/-! ## The only record -/

/-- How a look-up answers that is about the records `found` and returns one of them as `item` makes it. -/
structure AnswersOnly {α : Type} (what : String) (found : List α) (item : α → α)
    (answer : Except StorageError (Option α)) : Prop where
  /-- Nothing is returned exactly if there is no record. -/
  nothing : answer = .ok none ↔ found = []
  /-- A record is returned exactly if it is the only one. -/
  only : ∀ x, answer = .ok (some x) ↔ ∃ y, found = [y] ∧ x = item y
  /-- Several records are refused with their number, and nothing else fails. -/
  several : ∀ e, answer = .error e ↔ 2 ≤ found.length ∧ e = .integrity ⟨what, found.length⟩

/-- The rows of records that are told apart answer by the number of the records. -/
theorem AnswersOnly.of_groups {π κ : Type} [GroupKey π κ] [DecidableEq κ] [Assemble π String] {found : List π}
    (group : π → Group π String) (hdistinct : ((found.map group).map fun g => GroupKey.key g.parent).Nodup)
    (hchildren : ∀ x ∈ found, (group x).children.Nodup) (what : String) :
    AnswersOnly what found (fun x => (group x).assemble)
      (((groupSingle what (flattenGroups (found.map group))).map (·.map Group.assemble)).mapError .integrity) := by
  rw [groupSingle_flattenGroups hdistinct (List.forall_mem_map.mpr hchildren)]
  match found with
  | [] => constructor <;> simp [RowGrouper.finishSingle, Except.map, Except.mapError]
  | [x] => constructor <;> simp [RowGrouper.finishSingle, Except.map, Except.mapError, eq_comm]
  | x :: y :: rest => constructor <;> simp [RowGrouper.finishSingle, Except.map, Except.mapError, eq_comm]

/-- How a stored record is returned: as it is stored, with the children that are stored under its key. -/
structure ReturnedWith {α : Type} (bare : α → α) (children : α → List String) (key : Key) (pairs : List (Key × String))
    (stored returned : α) : Prop where
  /-- Apart from its children it is what is stored. -/
  fields : bare returned = stored
  /-- The children ascend, none twice. -/
  ascending : OrderedTexts (children returned)
  /-- They are those under its key. -/
  exactly : ∀ c, c ∈ children returned ↔ (key, c) ∈ pairs

namespace Memory

variable {m : Memory}

/-- A look-up of a location answers by the number of those that have its name. -/
theorem answersOnly_location? (hw : m.WellFormed) (ho : m.Ordered) (office name : String) :
    AnswersOnly (StorageError.locationSubject office name) (m.locationsNamed office name) m.withAliases
      (m.location? office name) := by
  rw [hw.location?_eq]
  refine AnswersOnly.of_groups (fun l => ⟨l, m.aliasesOf (locationKey l)⟩) ?_ ?_ _
  · rw [List.map_map]
    exact nodup_locationKeys hw ho _
  · intro l _
    exact (ho.aliasesOf _).nodup

/-- A look-up of a template answers by the number of those that have its identifier. -/
theorem answersOnly_template? (hw : m.WellFormed) (ho : m.Ordered) (office : Option String) (id : String) :
    AnswersOnly (StorageError.templateSubject office id) (m.templatesNamed office id) m.withRatings
      (m.template? office id) := by
  rw [template?_eq]
  refine AnswersOnly.of_groups m.templateGroup ?_ ?_ _
  · rw [List.map_map]
    exact nodup_templateKeys hw ho _
  · intro t _
    exact (ho.ratingsOf hw t).nodup

/-- A location is returned with its aliases. -/
theorem returnedWith_aliases (hw : m.WellFormed) (ho : m.Ordered) {l : Location} (hl : l ∈ m.locations.values) :
    ReturnedWith Location.withoutAliases Location.aliases (locationKey l) (m.aliasPairs .all) l (m.withAliases l) := by
  have hmatching : l ∈ m.matching .all := List.mem_filter.mpr ⟨hl, rfl⟩
  refine ⟨withoutAliases_withAliases hw hmatching, ho.aliasesOf _, ?_⟩
  intro c
  rw [← (perm_aliasPairs hw ho .all).1.mem_iff]
  exact (mem_childPairs_of_mem (nodup_keys_withAliases hw ho .all) (List.mem_map_of_mem hmatching)).symm

/-- A template is returned with its ratings. -/
theorem returnedWith_ratings (hw : m.WellFormed) (ho : m.Ordered) {t : RatingTemplate} (ht : t ∈ m.templates.values) :
    ReturnedWith RatingTemplate.withoutRatings RatingTemplate.ratingIds (templateKey t) (m.ratingPairs .all) t
      (m.withRatings t) := by
  have hmatching : t ∈ m.matchingTemplates .all := List.mem_filter.mpr ⟨ht, rfl⟩
  refine ⟨?_, ho.ratingsOf hw t, ?_⟩
  · obtain ⟨k, hk⟩ := Keyed.mem_values.mp ht
    have hbare : t.ratingIds = [] := hw.templatesBare _ hk
    simp [RatingTemplate.withoutRatings, withRatings, ← hbare]
  · intro c
    rw [← (perm_ratingPairs hw ho .all).1.mem_iff]
    exact (mem_childPairs_of_mem (nodup_keys_withRatings hw ho .all) (List.mem_map_of_mem hmatching)).symm

/-- A put changes the templates only if it adds one. -/
theorem templates_of_put {m' : Memory} {record : Put} (h : m.put record = .ok m') :
    m'.templates = m.templates ∨ ∃ t, record = .ratingTemplate t := by
  cases record with
  | office o =>
    obtain ⟨-, rfl⟩ := putOffice_ok h
    exact .inl rfl
  | location l =>
    obtain ⟨-, rfl⟩ := putLocation_ok h
    rw [addAliases_eq]
    exact .inl rfl
  | locationAlias a =>
    obtain ⟨-, rfl⟩ := putLocationAlias_ok h
    rw [addAliases_eq]
    exact .inl rfl
  | ratingTemplate t => exact .inr ⟨t, rfl⟩
  | ratingSpec r =>
    obtain ⟨-, -, rfl⟩ := putSpec_ok h
    exact .inl rfl
  | waterUser u =>
    obtain ⟨-, rfl⟩ := putWaterUser_ok h
    exact .inl rfl

/-- A run that puts no location leaves the locations as they are, whatever aliases it adds. -/
theorem locations_performAll {operations : List Operation} (hnone : ∀ l, .put (.location l) ∉ operations) (m : Memory) :
    (Backend.performAll m operations).2.locations = m.locations := by
  refine Backend.performAll_keeps_of (P := fun s => s.locations = m.locations) operations ?_ m rfl
  intro s record s' hmem hsame hput
  rcases locations_of_put hput with hs | ⟨l, rfl, -⟩
  · exact hs.trans hsame
  · exact absurd hmem (hnone l)

/-- A run that puts no template leaves the templates as they are, whatever ratings it adds. -/
theorem templates_performAll {operations : List Operation} (hnone : ∀ t, .put (.ratingTemplate t) ∉ operations) (m : Memory) :
    (Backend.performAll m operations).2.templates = m.templates := by
  refine Backend.performAll_keeps_of (P := fun s => s.templates = m.templates) operations ?_ m rfl
  intro s record s' hmem hsame hput
  rcases templates_of_put hput with hs | ⟨t, rfl⟩
  · exact hs.trans hsame
  · exact absurd hmem (hnone t)

/-- In a store in memory a look-up of a location or of a template answers by the number of stored records that have the name in
either case, in the office named in either case or in any: it returns none, the only one or the error that there are so many. A
record is returned as it is stored, with exactly the aliases that are stored under its key, or the ratings that name it and are
not aliased items. Whatever children a run adds, it is for the same records that their number answers. -/
theorem lookups_by_number (h : m.Reachable) :
    (∀ office name, AnswersOnly (StorageError.locationSubject office name) (m.locationsNamed office name) m.withAliases
      (m.location? office name)) ∧
    (∀ office id, AnswersOnly (StorageError.templateSubject office id) (m.templatesNamed office id) m.withRatings
      (m.template? office id)) ∧
    (∀ l ∈ m.locations.values, ReturnedWith Location.withoutAliases Location.aliases (locationKey l) (m.aliasPairs .all) l
      (m.withAliases l)) ∧
    (∀ t ∈ m.templates.values, ReturnedWith RatingTemplate.withoutRatings RatingTemplate.ratingIds (templateKey t)
      (m.ratingPairs .all) t (m.withRatings t)) ∧
    ∀ operations, (∀ l, .put (.location l) ∉ operations) → (∀ t, .put (.ratingTemplate t) ∉ operations) →
      (∀ office name,
        (Backend.performAll m operations).2.locationsNamed office name = m.locationsNamed office name) ∧
      ∀ office id, (Backend.performAll m operations).2.templatesNamed office id = m.templatesNamed office id := by
  have hw := h.wellFormed
  have ho := h.ordered
  refine ⟨answersOnly_location? hw ho, answersOnly_template? hw ho, fun l hl => returnedWith_aliases hw ho hl,
    fun t ht => returnedWith_ratings hw ho ht, ?_⟩
  intro operations hlocations htemplates
  constructor
  · intro office name
    rw [locationsNamed, locations_performAll hlocations, locationsNamed]
  · intro office id
    rw [templatesNamed, templates_performAll htemplates, templatesNamed]

/-- An office of a district. -/
def districtOffice (name longName : String) : Office := { name, longName, officeType := "DIS", reportsTo := none }

/-- A location with other names. -/
def siteOf (officeId name : String) (aliases : List String) : Location :=
  { officeId
    name
    latitude := none
    longitude := none
    horizontalDatum := none
    timezoneName := none
    locationKind := none
    publicName := none
    active := true
    aliases }

/-- A water user at the project `KEYS`. -/
def keysUser (entityName : String) : WaterUser :=
  { entityName, projectId := { officeId := "SWT", name := "KEYS" }, waterRight := none }

/-- A store with records whose names differ in case only, some of them with children. -/
def namesakes : Memory :=
  (Backend.performAll (Backend.empty : Memory) [
    .put (.office (districtOffice "swt" "Small")), .put (.office (districtOffice "SWT" "Tulsa District")),
    .put (.location (siteOf "SWT" "keys" [])), .put (.location (siteOf "SWT" "KEYS" ["Keystone", "KEYO2"])),
    .put (.location (siteOf "SWT" "TENK" ["Tenkiller"])),
    .put (.locationAlias { officeId := "SWT", locationId := "TENK", aliasId := "TENO2" }),
    .put (.ratingTemplate (linearTemplate "stage")), .put (.ratingTemplate (linearTemplate "Stage")),
    .put (.ratingTemplate (linearTemplate "Elev")),
    .put (.ratingSpec { officeId := "SWT", ratingId := "KEYS.2", templateId := "Elev", aliasedItem := none }),
    .put (.ratingSpec { officeId := "SWT", ratingId := "KEYS.1", templateId := "Elev", aliasedItem := none }),
    .put (.ratingSpec { officeId := "SWT", ratingId := "KEYS.3", templateId := "Elev", aliasedItem := some "KEYS.1" }),
    .put (.waterUser (keysUser "City")), .put (.waterUser (keysUser "CITY"))]).2

/-- There each number of records answers. -/
theorem lookups_by_number_namesakes :
    namesakes.Reachable ∧
    namesakes.location? "SWT" "WEBB" = .ok none ∧
    namesakes.location? "swt" "tenk" = .ok (some (siteOf "SWT" "TENK" ["TENO2", "Tenkiller"])) ∧
    namesakes.location? "SWT" "KEYS" = .error (.integrity { what := "location SWT/KEYS", found := 2 }) ∧
    namesakes.template? (some "SWA") "Elev" = .ok none ∧
    namesakes.template? none "elev" = .ok (some { linearTemplate "Elev" with ratingIds := ["KEYS.1", "KEYS.2"] }) ∧
    namesakes.template? none "stage" = .error (.integrity { what := "rating template stage", found := 2 }) := by
  have hreachable : namesakes.Reachable := ⟨_, rfl⟩
  obtain ⟨hlocation, htemplate, -⟩ := lookups_by_number hreachable
  refine ⟨hreachable, (hlocation _ _).nothing.mpr ?_, ((hlocation _ _).only _).mpr ?_, ((hlocation _ _).several _).mpr ?_,
    (htemplate _ _).nothing.mpr ?_, ((htemplate _ _).only _).mpr ?_, ((htemplate _ _).several _).mpr ?_⟩
  · decide
  · exact ⟨siteOf "SWT" "TENK" [], by decide, by decide⟩
  · decide
  · decide
  · exact ⟨linearTemplate "Elev", by decide, by decide⟩
  · decide

end Memory

/-! ## The first record -/

/-- The names of a key in one case. -/
def foldKey (k : Key) : Key := k.map Text.fold

/-- Of records that ascend by a key, a search finds the one with the least key among those that pass its test. -/
theorem Keyed.find?_eq_some_iff {α : Type} {key : α → Key} {vs : List α} (h : vs.Pairwise fun a b => key a < key b)
    {test : α → Bool} {x : α} :
    vs.find? test = some x ↔ x ∈ vs ∧ test x = true ∧ ∀ y ∈ vs, test y = true → ¬key y < key x := by
  rw [List.find?_eq_some_iff_append]
  constructor
  · rintro ⟨hx, before, behind, rfl, hbefore⟩
    refine ⟨by simp, hx, ?_⟩
    intro y hy htest hlt
    obtain ⟨-, htail, -⟩ := List.pairwise_append.mp h
    rcases List.mem_append.mp hy with hy | hy
    · have hfails := hbefore y hy
      simp [htest] at hfails
    · rcases List.mem_cons.mp hy with rfl | hy
      · exact List.lt_irrefl _ hlt
      · exact List.lt_asymm hlt ((List.pairwise_cons.mp htail).1 y hy)
  · rintro ⟨hmem, hx, hleast⟩
    obtain ⟨before, behind, rfl⟩ := List.append_of_mem hmem
    refine ⟨hx, before, behind, rfl, ?_⟩
    intro y hy
    have hlt : key y < key x := (List.pairwise_append.mp h).2.2 y hy x (by simp)
    by_contra htest
    exact hleast y (by simp [hy]) (by simpa using htest) hlt

/-- How a look-up by the key of a stored record answers that returns the first of the records with that key in either case. -/
structure TakesFirst {α : Type} (key : α → Key) (records : List α) (x : α) (answer : Option α) : Prop where
  /-- A record is returned that has the key in either case and that comes before all others that do. -/
  first : ∃ y ∈ records, answer = some y ∧ foldKey (key y) = foldKey (key x) ∧
    ∀ z ∈ records, foldKey (key z) = foldKey (key x) → ¬key z < key y
  /-- It is the very record exactly if no other one with its key in either case comes before it. -/
  itself : answer = some x ↔ ∀ z ∈ records, foldKey (key z) = foldKey (key x) → ¬key z < key x

/-- A search through ascending records for a key in either case takes the first. -/
theorem TakesFirst.of_find? {α : Type} {key : α → Key} {records : List α} (h : records.Pairwise fun a b => key a < key b)
    {x : α} (hx : x ∈ records) :
    TakesFirst key records x (records.find? fun z => foldKey (key z) = foldKey (key x)) := by
  have hfind : ∀ y, records.find? (fun z => foldKey (key z) = foldKey (key x)) = some y ↔
      y ∈ records ∧ foldKey (key y) = foldKey (key x) ∧
        ∀ z ∈ records, foldKey (key z) = foldKey (key x) → ¬key z < key y := by
    intro y
    rw [Keyed.find?_eq_some_iff h]
    simp only [decide_eq_true_eq]
  constructor
  · have hsome : (records.find? fun z => foldKey (key z) = foldKey (key x)).isSome = true :=
      List.find?_isSome.mpr ⟨x, hx, by simp⟩
    obtain ⟨y, hy⟩ := Option.isSome_iff_exists.mp hsome
    obtain ⟨hmem, hsame, hleast⟩ := (hfind y).mp hy
    exact ⟨y, hmem, hy, hsame, hleast⟩
  · rw [hfind x]
    constructor
    · rintro ⟨-, -, hleast⟩
      exact hleast
    · intro hleast
      exact ⟨hx, rfl, hleast⟩

namespace Memory

variable {m : Memory}

/-- An office is looked up by its key in either case. -/
theorem office?_eq_find? (m : Memory) (o : Office) :
    m.office? o.name = m.offices.values.find? fun z => foldKey (officeKey z) = foldKey (officeKey o) := by
  unfold office?
  congr 1
  funext z
  rw [Bool.eq_iff_iff]
  simp [Text.sameFolded, foldKey, officeKey]

/-- A water user is looked up by its key in either case. -/
theorem waterUser?_eq_find? (m : Memory) (u : WaterUser) :
    m.waterUser? u.projectId.officeId u.projectId.name u.entityName =
      m.waterUsers.values.find? fun z => foldKey (waterUserKey z) = foldKey (waterUserKey u) := by
  unfold waterUser?
  congr 1
  funext z
  rw [Bool.eq_iff_iff]
  simp [Text.sameFolded, foldKey, waterUserKey, and_assoc]

/-- An office or a water user that is in a store in memory is never lost: behind any further operations a look-up by its very names
returns a record with those names in either case, the first of them in the order of the keys. It returns the very record exactly
if no other one with its names in either case comes before it. -/
theorem lookups_take_first (h : m.Reachable) (operations : List Operation) :
    let later := (Backend.performAll m operations).2
    (∀ o ∈ m.offices.values, TakesFirst officeKey later.offices.values o (later.office? o.name)) ∧
    ∀ u ∈ m.waterUsers.values, TakesFirst waterUserKey later.waterUsers.values u
      (later.waterUser? u.projectId.officeId u.projectId.name u.entityName) := by
  intro later
  have hw : later.WellFormed := Backend.performAll_keeps (fun _ _ _ h hput => h.put hput) operations m h.wellFormed
  have ho : later.Ordered := Backend.performAll_keeps (fun _ _ _ h hput => h.put hput) operations m h.ordered
  have hextends : m.Extends later := extends_performAll m operations
  constructor
  · intro o hmem
    rw [office?_eq_find?]
    exact TakesFirst.of_find? (ho.offices.values hw.officeKeys) ((hextends.offices.map _).subset hmem)
  · intro u hmem
    rw [waterUser?_eq_find?]
    exact TakesFirst.of_find? (ho.waterUsers.values hw.waterUserKeys) ((hextends.waterUsers.map _).subset hmem)

/-- Of two offices and of two water users whose names differ in case only, the one in upper case comes first. -/
theorem lookups_take_first_namesakes :
    namesakes.Reachable ∧
    namesakes.office? "SWT" = some (districtOffice "SWT" "Tulsa District") ∧
    namesakes.waterUser? "SWT" "KEYS" "CITY" = some (keysUser "CITY") := by
  have hreachable : namesakes.Reachable := ⟨_, rfl⟩
  obtain ⟨hoffices, husers⟩ := lookups_take_first hreachable []
  refine ⟨hreachable, (hoffices (districtOffice "SWT" "Tulsa District") ?_).itself.mpr ?_,
    (husers (keysUser "CITY") ?_).itself.mpr ?_⟩
  all_goals decide

/-- The other office and the other water user are there as well, but their very names do not return them. -/
theorem not_itself_namesakes :
    namesakes.Reachable ∧
    (∃ o ∈ namesakes.offices.values, namesakes.office? o.name ≠ some o) ∧
    ∃ u ∈ namesakes.waterUsers.values,
      namesakes.waterUser? u.projectId.officeId u.projectId.name u.entityName ≠ some u := by
  refine ⟨⟨_, rfl⟩, ⟨districtOffice "swt" "Small", ?_, ?_⟩, ⟨keysUser "City", ?_, ?_⟩⟩
  all_goals decide

end Memory

end BasinRegister
