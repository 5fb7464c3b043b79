import BasinRegister.Proofs.Paging.Pages
import BasinRegister.Proofs.Storage.SharedWalk

/-!
# Children on the pages of a walk

A walk through a store in memory loses no child, gives none twice and gives none to another parent, however the parents are cut
into pages (`Memory.walks_keep_children`). Children are compared as pairs with the keys of their parents: those on the pages of
a walk are those that the store holds for the parents that the filter accepts.
-/

namespace BasinRegister

/-- The children of parents, each with the key of its parent. -/
def childPairs {π : Type} (key : π → Key) (children : π → List String) (parents : List π) : List (Key × String) :=
  parents.flatMap fun x => (children x).map (key x, ·)

/-- Whether a filter accepts an office and an identifier that make a key. -/
def Filter.acceptsKey (f : Filter) (k : Key) : Bool := f.accepts (k.getD 0 "") (k.getD 1 "")

/-- The filter that accepts everything. -/
def Filter.all : Filter := { office := none, mask := none }

theorem mem_childPairs {π : Type} {key : π → Key} {children : π → List String} {parents : List π} {k : Key} {c : String} :
    (k, c) ∈ childPairs key children parents ↔ ∃ x ∈ parents, key x = k ∧ c ∈ children x := by
  simp only [childPairs, List.mem_flatMap, List.mem_map, Prod.mk.injEq]
  constructor
  · rintro ⟨x, hx, _, hc, hk, rfl⟩
    exact ⟨x, hx, hk, hc⟩
  · rintro ⟨x, hx, hk, hc⟩
    exact ⟨x, hx, c, hc, hk, rfl⟩

/-- A parent whose key no other has is paired with its own children. -/
theorem mem_childPairs_of_mem {π : Type} {key : π → Key} {children : π → List String} {parents : List π}
    (hkeys : (parents.map key).Nodup) {x : π} (hx : x ∈ parents) {c : String} :
    (key x, c) ∈ childPairs key children parents ↔ c ∈ children x := by
  rw [mem_childPairs]
  constructor
  · rintro ⟨y, hy, hkey, hc⟩
    rwa [List.inj_on_of_nodup_map hkeys hy hx hkey] at hc
  · intro hc
    exact ⟨x, hx, rfl, hc⟩

/-- No pair stands twice if no parent has the key of another or a child twice. -/
theorem nodup_childPairs {π : Type} {key : π → Key} {children : π → List String} {parents : List π}
    (hkeys : (parents.map key).Nodup) (hchildren : ∀ x ∈ parents, (children x).Nodup) :
    (childPairs key children parents).Nodup := by
  rw [childPairs, List.nodup_flatMap]
  refine ⟨fun x hx => (hchildren x hx).map fun a b hab => (Prod.mk.inj hab).2, ?_⟩
  refine (List.pairwise_map.mp hkeys).imp ?_
  intro x y hne
  refine List.disjoint_left.mpr ?_
  intro pair hx hy
  obtain ⟨c, -, rfl⟩ := List.mem_map.mp hx
  obtain ⟨d, -, hd⟩ := List.mem_map.mp hy
  exact hne (Prod.mk.inj hd).1.symm

/-- In an ordered collection a key has the record that stands under it. -/
theorem Keyed.Ordered.get?_eq {α : Type} {m : Keyed α} (h : m.Ordered) {k : Key} {v : α} (hmem : (k, v) ∈ m.entries) :
    m.get? k = some v := by
  obtain ⟨w, hw⟩ := Option.isSome_iff_exists.mp (contains_iff.mpr ⟨v, hmem⟩)
  have hsame : (k, w) = (k, v) := Keyed.eq_of_key_eq h (mem_of_get? hw) hmem rfl
  rw [hw, (Prod.mk.inj hsame).2]

namespace Memory

variable {m : Memory}

/-- A store behind some run of operations on the empty one. -/
def Reachable (m : Memory) : Prop := ∃ operations, m = (Backend.performAll (Backend.empty : Memory) operations).2

theorem Reachable.wellFormed (h : m.Reachable) : m.WellFormed := by
  obtain ⟨operations, rfl⟩ := h
  exact Backend.performAll_keeps (P := WellFormed) (fun _ _ _ h hput => h.put hput) operations _ wellFormed_empty

theorem Reachable.ordered (h : m.Reachable) : m.Ordered := by
  obtain ⟨operations, rfl⟩ := h
  exact Backend.performAll_keeps (P := Ordered) (fun _ _ _ h hput => h.put hput) operations _ ordered_empty

/-- The templates that a filter accepts, in the order of their keys. -/
def matchingTemplates (m : Memory) (filter : Filter) : List RatingTemplate :=
  m.templates.values.filter filter.acceptsTemplate

/-- A template as it is returned, with its ratings. -/
def withRatings (m : Memory) (t : RatingTemplate) : RatingTemplate := { t with ratingIds := m.ratingsOf t }

/-- The ratings that are not aliased items and whose template a filter accepts, each with the key of that template. -/
def ratingPairs (m : Memory) (filter : Filter) : List (Key × String) :=
  (m.specs.values.filter fun r => r.aliasedItem.isNone && filter.acceptsKey (specTemplateKey r)).map fun r =>
    (specTemplateKey r, r.ratingId)

/-- The aliases of the locations that a filter accepts, each with the key of its location. -/
def aliasPairs (m : Memory) (filter : Filter) : List (Key × String) :=
  (m.aliases.entries.filter fun entry => filter.acceptsKey entry.1).flatMap fun entry => entry.2.map (entry.1, ·)

/-- Without a filter these are all ratings that are not aliased items. -/
theorem ratingPairs_all (m : Memory) :
    m.ratingPairs .all =
      (m.specs.values.filter (·.aliasedItem.isNone)).map fun r => ([r.officeId, r.templateId], r.ratingId) := by
  have haccepts : ∀ k, Filter.all.acceptsKey k = true := fun _ => rfl
  simp only [ratingPairs, haccepts, Bool.and_true]
  rfl

/-- Without a filter these are all aliases. -/
theorem aliasPairs_all (m : Memory) :
    m.aliasPairs .all = m.aliases.entries.flatMap fun entry => entry.2.map (entry.1, ·) := by
  have haccepts : ∀ k, Filter.all.acceptsKey k = true := fun _ => rfl
  simp only [aliasPairs, haccepts, List.filter_true]

/-! ## Parents and their children -/

/-- No two of the accepted templates have the same key. -/
theorem nodup_keys_withRatings (hw : m.WellFormed) (ho : m.Ordered) (filter : Filter) :
    (((m.matchingTemplates filter).map m.withRatings).map templateKey).Nodup := by
  rw [List.map_map]
  exact Keyed.nodup_map_of_ascending ((ho.templates.values hw.templateKeys).filter _) fun a b hab => hab

/-- No two of the accepted locations have the same key. -/
theorem nodup_keys_withAliases (hw : m.WellFormed) (ho : m.Ordered) (filter : Filter) :
    (((m.matching filter).map m.withAliases).map locationKey).Nodup := by
  rw [List.map_map]
  exact Keyed.nodup_map_of_ascending ((ho.locations.values hw.locationKeys).filter _) fun a b hab => hab

/-- The ratings of the accepted templates are those that name an accepted template. -/
theorem perm_ratingPairs (hw : m.WellFormed) (ho : m.Ordered) (filter : Filter) :
    (childPairs templateKey RatingTemplate.ratingIds ((m.matchingTemplates filter).map m.withRatings)).Perm
      (m.ratingPairs filter) ∧
    (m.ratingPairs filter).Nodup := by
  have hpairs : (childPairs templateKey RatingTemplate.ratingIds ((m.matchingTemplates filter).map m.withRatings)).Nodup := by
    apply nodup_childPairs (nodup_keys_withRatings hw ho filter)
    intro t ht
    obtain ⟨u, -, rfl⟩ := List.mem_map.mp ht
    exact (ho.ratingsOf hw u).nodup
  have hstored : (m.ratingPairs filter).Nodup := by
    refine Keyed.nodup_map_of_ascending ((ho.specs.values hw.specKeys).filter _) ?_
    intro a b hab
    simp only [Prod.mk.injEq, specTemplateKey, List.cons.injEq, and_true] at hab
    rw [specKey, specKey, hab.1.1, hab.2]
  refine ⟨(List.perm_ext_iff_of_nodup hpairs hstored).mpr ?_, hstored⟩
  rintro ⟨k, c⟩
  have hstored : (k, c) ∈ m.ratingPairs filter ↔
      ∃ r, (r ∈ m.specs.values ∧ r.aliasedItem.isNone = true ∧ filter.acceptsKey (specTemplateKey r) = true) ∧
        specTemplateKey r = k ∧ r.ratingId = c := by
    simp only [ratingPairs, List.mem_map, List.mem_filter, Bool.and_eq_true, Prod.mk.injEq]
  rw [hstored, mem_childPairs]
  constructor
  · rintro ⟨_, ht, rfl, hc⟩
    obtain ⟨t, hmatching, rfl⟩ := List.mem_map.mp ht
    obtain ⟨htemplate, haccepted⟩ := List.mem_filter.mp hmatching
    obtain ⟨r, hr, rfl⟩ := List.mem_map.mp (show c ∈ m.ratingsOf t from hc)
    simp only [List.mem_filter, Bool.and_eq_true, decide_eq_true_eq] at hr
    obtain ⟨hspec, ⟨hplain, hoffice⟩, hid⟩ := hr
    have hkey : specTemplateKey r = templateKey t := by rw [specTemplateKey, templateKey, hoffice, hid]
    exact ⟨r, ⟨hspec, hplain, hkey ▸ haccepted⟩, hkey, rfl⟩
  · rintro ⟨r, ⟨hspec, hplain, haccepted⟩, rfl, rfl⟩
    -- the template that a rating names is there, so the rating is not lost
    obtain ⟨j, hj⟩ := Keyed.mem_values.mp hspec
    obtain ⟨⟨k, t⟩, ht, hoffice, hid⟩ := hw.specsOfTemplates _ hj
    have hkey : templateKey t = specTemplateKey r := by rw [specTemplateKey, templateKey, hoffice, hid]
    refine ⟨m.withRatings t, List.mem_map_of_mem (List.mem_filter.mpr ⟨Keyed.mem_values.mpr ⟨k, ht⟩, ?_⟩), hkey, ?_⟩
    · rwa [← hkey] at haccepted
    · refine List.mem_map.mpr ⟨r, List.mem_filter.mpr ⟨hspec, ?_⟩, rfl⟩
      simp only [Bool.and_eq_true, decide_eq_true_eq]
      exact ⟨⟨hplain, hoffice.symm⟩, hid.symm⟩

/-- The aliases of the accepted locations are those that stand under an accepted key. -/
theorem perm_aliasPairs (hw : m.WellFormed) (ho : m.Ordered) (filter : Filter) :
    (childPairs locationKey Location.aliases ((m.matching filter).map m.withAliases)).Perm (m.aliasPairs filter) ∧
    (m.aliasPairs filter).Nodup := by
  have hpairs : (childPairs locationKey Location.aliases ((m.matching filter).map m.withAliases)).Nodup := by
    apply nodup_childPairs (nodup_keys_withAliases hw ho filter)
    intro l hl
    obtain ⟨u, -, rfl⟩ := List.mem_map.mp hl
    exact (ho.aliasesOf _).nodup
  have hstored : (m.aliasPairs filter).Nodup := by
    show (childPairs Prod.fst Prod.snd _).Nodup
    refine nodup_childPairs ?_ ?_
    · exact Keyed.nodup_map_of_ascending (ho.aliases.filter _) fun a b hab => hab
    · intro entry hentry
      exact (ho.aliasTexts entry (List.mem_of_mem_filter hentry)).nodup
  refine ⟨(List.perm_ext_iff_of_nodup hpairs hstored).mpr ?_, hstored⟩
  rintro ⟨k, c⟩
  have hentries : (k, c) ∈ m.aliasPairs filter ↔ ∃ entry ∈ m.aliases.entries.filter fun entry => filter.acceptsKey entry.1,
      entry.1 = k ∧ c ∈ entry.2 := mem_childPairs
  rw [hentries, mem_childPairs]
  constructor
  · rintro ⟨_, hl, rfl, hc⟩
    obtain ⟨l, hmatching, rfl⟩ := List.mem_map.mp hl
    obtain ⟨hlocation, haccepted⟩ := List.mem_filter.mp hmatching
    have hc : c ∈ m.aliasesOf (locationKey l) := hc
    unfold aliasesOf at hc
    cases hnames : m.aliases.get? (locationKey l) with
    | none =>
      rw [hnames] at hc
      cases hc
    | some names =>
      rw [hnames] at hc
      exact ⟨(locationKey l, names), List.mem_filter.mpr ⟨Keyed.mem_of_get? hnames, haccepted⟩, rfl, hc⟩
  · rintro ⟨⟨k, names⟩, hentry, rfl, hc⟩
    obtain ⟨hmem, haccepted⟩ := List.mem_filter.mp hentry
    -- the location that an alias belongs to is there, so the alias is not lost
    obtain ⟨⟨l, hl⟩, -⟩ := hw.aliasesOfLocations _ hmem
    obtain rfl : k = locationKey l := hw.locationKeys _ hl
    refine ⟨m.withAliases l, List.mem_map_of_mem (List.mem_filter.mpr ⟨Keyed.mem_values.mpr ⟨_, hl⟩, haccepted⟩), rfl, ?_⟩
    show c ∈ m.aliasesOf (locationKey l)
    rw [aliasesOf, ho.aliases.get?_eq hmem]
    exact hc

/-- No rating of a template has the identifier of an aliased item in its office. -/
theorem not_mem_ratingsOf_of_aliased (hw : m.WellFormed) (ho : m.Ordered) {r : RatingSpec} (hr : r ∈ m.specs.values)
    (haliased : r.aliasedItem.isSome = true) {t : RatingTemplate} (hoffice : t.officeId = r.officeId) :
    r.ratingId ∉ m.ratingsOf t := by
  intro hmem
  obtain ⟨s, hs, hid⟩ := List.mem_map.mp hmem
  simp only [List.mem_filter, Bool.and_eq_true, decide_eq_true_eq] at hs
  obtain ⟨hs, ⟨hplain, hoffice'⟩, -⟩ := hs
  have hkey : specKey s = specKey r := by rw [specKey, specKey, hoffice', hoffice, hid]
  rw [Keyed.eq_of_key_eq (ho.specs.values hw.specKeys) hs hr hkey, Option.isNone_iff_eq_none] at hplain
  rw [hplain] at haliased
  cases haliased

/-! ## Walks -/

/-- A walk through the groups of a source has one course and holds them all. -/
theorem exists_walk_of_groups {π κ : Type} [GroupKey π κ] [DecidableEq κ] {source : RowSource Filter π String StorageError}
    {groups : Filter → List (Group π String)} {hdistinct : ∀ filter, ((groups filter).map fun g => GroupKey.key g.parent).Nodup}
    (hkeeps : source.Keeps fun filter => Listing.ofGroups (groups filter) (hdistinct filter)) {filter : Filter}
    (hcount : source.count filter = .ok (UInt64.ofNat (groups filter).length))
    (hchildren : ∀ g ∈ groups filter, g.children.Nodup) (hsmall : (groups filter).length < UInt64.size)
    {page : PageRequest → Except StorageError (Page π)} {item : Group π String → π}
    (hpage : ∀ request p, source.page filter request = .ok p → page request = .ok (p.map item))
    (choices : Nat → PageChoice) :
    ∃ pages, PageWalk page choices none pages ∧ pages.flatMap (·.items) = (groups filter).map item := by
  have hlength : (Listing.ofGroups (groups filter) (hdistinct filter)).parents.length = (groups filter).length :=
    List.length_map _
  rw [← hlength] at hcount hsmall
  obtain ⟨pages, hwalk, hitems⟩ := PageWalk.exists_of_keeps hkeeps hcount hsmall hpage choices
  exact ⟨pages, hwalk, by rw [hitems, Listing.groups_ofGroups _ hchildren]⟩

/-- No location has an alias twice. -/
theorem nodup_children_locationGroups (ho : m.Ordered) (filter : Filter) :
    ∀ g ∈ m.locationGroups filter, g.children.Nodup := by
  rw [locationGroups]
  exact List.forall_mem_map.mpr fun l _ => (ho.aliasesOf _).nodup

/-- No template has a rating twice. -/
theorem nodup_children_templateGroups (hw : m.WellFormed) (ho : m.Ordered) (filter : Filter) :
    ∀ g ∈ m.templateGroups filter, g.children.Nodup :=
  List.forall_mem_map.mpr fun t _ => (ho.ratingsOf hw t).nodup

/-- The groups of locations stand for the locations that a filter accepts, with their aliases. -/
theorem map_assemble_locationGroups (m : Memory) (filter : Filter) :
    (m.locationGroups filter).map Group.assemble = (m.matching filter).map m.withAliases := by
  rw [locationGroups, List.map_map]
  rfl

theorem map_assemble_templateGroups (m : Memory) (filter : Filter) :
    (m.templateGroups filter).map Group.assemble = (m.matchingTemplates filter).map m.withRatings := by
  rw [templateGroups, List.map_map]
  rfl

/-- A page of locations is made of a page of groups. -/
theorem locationsPage_of_rows {filter : Filter} (request : PageRequest) (p : Page (Group Location String))
    (h : m.locationRows.page filter request = .ok p) : Backend.locationsPage m filter request = .ok (p.map Group.assemble) := by
  have hrows : (Backend.locationRows m).page filter request = .ok p := h
  rw [Backend.locationsPage, hrows]
  rfl

theorem templatesPage_of_rows {filter : Filter} (request : PageRequest) (p : Page (Group RatingTemplate String))
    (h : m.templateRows.page filter request = .ok p) : Backend.templatesPage m filter request = .ok (p.map Group.assemble) := by
  have hrows : (Backend.templateRows m).page filter request = .ok p := h
  rw [Backend.templatesPage, hrows]
  rfl

/-- A walk through the locations that a filter accepts gives them in order, with their aliases. -/
theorem exists_walk_locations (hw : m.WellFormed) (ho : m.Ordered) (filter : Filter)
    (hsmall : m.locations.values.length < UInt64.size) (choices : Nat → PageChoice) :
    ∃ pages, PageWalk (Backend.locationsPage m filter) choices none pages ∧
      pages.flatMap (·.items) = (m.matching filter).map m.withAliases := by
  have hlength : (m.locationGroups filter).length ≤ m.locations.values.length := by
    rw [locationGroups, List.length_map]
    exact List.length_filter_le _ _
  rw [← map_assemble_locationGroups]
  exact exists_walk_of_groups (keeps_locationRows hw ho) (count_locationRows m filter) (nodup_children_locationGroups ho filter) (by omega)
    locationsPage_of_rows choices

/-- A walk through the templates that a filter accepts gives them in order, with their ratings. -/
theorem exists_walk_templates (hw : m.WellFormed) (ho : m.Ordered) (filter : Filter)
    (hsmall : m.templates.values.length < UInt64.size) (choices : Nat → PageChoice) :
    ∃ pages, PageWalk (Backend.templatesPage m filter) choices none pages ∧
      pages.flatMap (·.items) = (m.matchingTemplates filter).map m.withRatings := by
  have hlength : (m.templateGroups filter).length ≤ m.templates.values.length := by
    rw [templateGroups, List.length_map]
    exact List.length_filter_le _ _
  rw [← map_assemble_templateGroups]
  exact exists_walk_of_groups (keeps_templateRows hw ho) (count_templateRows m filter) (nodup_children_templateGroups hw ho filter) (by omega)
    templatesPage_of_rows choices

end Memory

/-! ## Nothing is lost -/

/-- What the pages of a walk from the start give of parents with their children. -/
structure CompleteWalk {π : Type} (page : PageRequest → Except StorageError (Page π)) (choices : Nat → PageChoice)
    (key : π → Key) (children : π → List String) (parents : List π) (pairs : List (Key × String))
    (pages : List (Page π)) : Prop where
  /-- The pages are those of a walk. -/
  walk : PageWalk page choices none pages
  /-- The walk has no other course. -/
  only : ∀ others, PageWalk page choices none others → others = pages
  /-- The pages hold the parents one after the other. -/
  items : pages.flatMap (·.items) = parents
  /-- The parents stand in the order of their keys, none twice. -/
  inOrder : (parents.map key).Pairwise (· < ·)
  /-- The children on the pages are those that there are, each under its own parent. -/
  keeps : (childPairs key children (pages.flatMap (·.items))).Perm pairs
  /-- None stands twice. -/
  once : (childPairs key children (pages.flatMap (·.items))).Nodup
  /-- The children of a parent ascend. -/
  ascending : ∀ x ∈ pages.flatMap (·.items), OrderedTexts (children x)

namespace Memory

variable {m : Memory}

/-- A walk through a store in memory, whatever its pages hold at most, gives exactly the parents that the filter accepts, each
with all its children. The pairs of a template and a rating are those of the ratings that are not aliased items, and no aliased
item is among the ratings of any template of its office; the pairs of a location and an alias are those of all aliases. No pair
is lost and none stands twice, and the children of each parent ascend. Without a filter these are all ratings that are not aliased
items and all aliases that the store holds. -/
theorem walks_keep_children (h : m.Reachable) (hlocations : m.locations.values.length < UInt64.size)
    (htemplates : m.templates.values.length < UInt64.size) (filter : Filter) (choices : Nat → PageChoice) :
    (∃ pages, CompleteWalk (Backend.templatesPage m filter) choices templateKey RatingTemplate.ratingIds
        ((m.matchingTemplates filter).map m.withRatings) (m.ratingPairs filter) pages ∧
      ∀ r ∈ m.specs.values, r.aliasedItem.isSome = true → ∀ t ∈ pages.flatMap (·.items), t.officeId = r.officeId →
        r.ratingId ∉ t.ratingIds) ∧
    (∃ pages, CompleteWalk (Backend.locationsPage m filter) choices locationKey Location.aliases
      ((m.matching filter).map m.withAliases) (m.aliasPairs filter) pages) ∧
    m.ratingPairs .all =
      ((m.specs.values.filter (·.aliasedItem.isNone)).map fun r => ([r.officeId, r.templateId], r.ratingId)) ∧
    m.aliasPairs .all = m.aliases.entries.flatMap fun entry => entry.2.map (entry.1, ·) := by
  have hw := h.wellFormed
  have ho := h.ordered
  refine ⟨?_, ?_, m.ratingPairs_all, m.aliasPairs_all⟩
  · obtain ⟨pages, hwalk, hitems⟩ := exists_walk_templates hw ho filter htemplates choices
    obtain ⟨hkeeps, honce⟩ := perm_ratingPairs hw ho filter
    refine ⟨pages, ⟨hwalk, fun others hothers => hwalk.unique hothers, hitems, ?_, ?_, ?_, ?_⟩, ?_⟩
    · rw [List.map_map, List.pairwise_map]
      exact (ho.templates.values hw.templateKeys).filter filter.acceptsTemplate
    · rw [hitems]
      exact hkeeps
    · rw [hitems]
      exact hkeeps.nodup_iff.mpr honce
    · rw [hitems]
      exact List.forall_mem_map.mpr fun t _ => ho.ratingsOf hw t
    · rw [hitems]
      exact fun r hr haliased => List.forall_mem_map.mpr fun t _ hoffice =>
        not_mem_ratingsOf_of_aliased hw ho hr haliased hoffice
  · obtain ⟨pages, hwalk, hitems⟩ := exists_walk_locations hw ho filter hlocations choices
    obtain ⟨hkeeps, honce⟩ := perm_aliasPairs hw ho filter
    refine ⟨pages, ⟨hwalk, fun others hothers => hwalk.unique hothers, hitems, ?_, ?_, ?_, ?_⟩⟩
    · rw [List.map_map, List.pairwise_map]
      exact (ho.locations.values hw.locationKeys).filter filter.acceptsLocation
    · rw [hitems]
      exact hkeeps
    · rw [hitems]
      exact hkeeps.nodup_iff.mpr honce
    · rw [hitems]
      exact List.forall_mem_map.mpr fun l _ => ho.aliasesOf (locationKey l)

/-- A template of an office. -/
def linearTemplate (id : String) : RatingTemplate :=
  { officeId := "SWT"
    id
    version := "Linear"
    description := none
    dependentParameter := "Flow"
    specs := [{ parameter := "Stage", inRangeMethod := "LINEAR", outRangeLowMethod := "ERROR", outRangeHighMethod := "ERROR" }]
    ratingIds := [] }

/-- A store with two templates whose identifiers differ in case only, and with a rating of each and an aliased item. -/
def twoTemplates : Memory :=
  (Backend.performAll (Backend.empty : Memory) [
    .put (.ratingTemplate (linearTemplate "stage")), .put (.ratingTemplate (linearTemplate "Stage")),
    .put (.ratingSpec { officeId := "SWT", ratingId := "KEYS.2", templateId := "stage", aliasedItem := none }),
    .put (.ratingSpec { officeId := "SWT", ratingId := "KEYS.1", templateId := "Stage", aliasedItem := none }),
    .put (.ratingSpec { officeId := "SWT", ratingId := "KEYS.3", templateId := "stage", aliasedItem := some "KEYS.1" })]).2

/-- Each of them is found under its own template, one template a page. -/
theorem walks_keep_children_twoTemplates :
    twoTemplates.Reachable ∧ twoTemplates.locations.values.length < UInt64.size ∧
    twoTemplates.templates.values.length < UInt64.size ∧
    ∃ pages, PageWalk (Backend.templatesPage twoTemplates .all) (fun _ => ⟨1, false⟩) none pages ∧
      (childPairs templateKey RatingTemplate.ratingIds (pages.flatMap (·.items))).Perm
        [(["SWT", "Stage"], "KEYS.1"), (["SWT", "stage"], "KEYS.2")] := by
  have hreachable : twoTemplates.Reachable := ⟨_, rfl⟩
  have hlocations : twoTemplates.locations.values.length < UInt64.size := by decide
  have htemplates : twoTemplates.templates.values.length < UInt64.size := by decide
  obtain ⟨⟨pages, hcomplete, -⟩, -⟩ := walks_keep_children hreachable hlocations htemplates .all (fun _ => ⟨1, false⟩)
  have hpairs : twoTemplates.ratingPairs .all = [(["SWT", "Stage"], "KEYS.1"), (["SWT", "stage"], "KEYS.2")] := by decide
  exact ⟨hreachable, hlocations, htemplates, pages, hcomplete.walk, hpairs ▸ hcomplete.keeps⟩

end Memory

end BasinRegister
