import BasinRegister.Proofs.Paging.Contract
import BasinRegister.Proofs.Storage.Memory
import BasinRegister.Proofs.Text.Case

/-!
# The listings of a store in memory

A walk through a store in memory hands out the rows of groups: the records that the filter accepts in the order of their keys,
each with its children in order (`Memory.walkLocations_eq`, `Memory.walkTemplates_eq`). No two of the groups have the same parent,
so the listing keeps the contract of a source (`Memory.keeps_locationRows`, `Memory.keeps_templateRows`).
-/

namespace BasinRegister.Memory

variable {m : Memory}

/-! ## Groups -/

/-- The locations that a filter accepts, each with its aliases as a group. -/
def locationGroups (m : Memory) (filter : Filter) : List (Group Location String) :=
  (m.locations.values.filter filter.acceptsLocation).map fun l => ⟨l, m.aliasesOf (locationKey l)⟩

/-- A template with its ratings as a group. -/
def templateGroup (m : Memory) (t : RatingTemplate) : Group RatingTemplate String := ⟨t, m.ratingsOf t⟩

/-- The templates that a filter accepts, each with its ratings as a group. -/
def templateGroups (m : Memory) (filter : Filter) : List (Group RatingTemplate String) :=
  (m.templates.values.filter filter.acceptsTemplate).map m.templateGroup

/-- Behind a row that was handed out, every further child has a row and nothing follows them. -/
theorem joinRows_true {π γ : Type} (parent : π) (children : List γ) :
    joinRows parent true children = children.map fun c => ⟨parent, some c⟩ := by
  induction children with
  | nil => rfl
  | cons c children ih => rw [joinRows, ih, List.map_cons]

/-- What is handed out for a parent are the rows of the group that it makes with its children. -/
theorem joinRows_false {π γ : Type} (parent : π) (children : List γ) :
    joinRows parent false children = (Group.mk parent children).rows := by
  cases children with
  | nil => rfl
  | cons c children =>
    rw [joinRows, joinRows_true]
    rfl

/-- A walk through the locations hands out the rows of their groups. -/
theorem walkLocations_eq (hw : m.WellFormed) (filter : Filter) (skip : Nat) :
    m.walkLocations filter skip = flattenGroups ((m.locationGroups filter).drop skip) := by
  rw [walkLocations, flattenGroups, locationGroups, Keyed.values, List.filter_map, List.map_map, ← List.map_drop,
    List.flatMap_map]
  refine List.flatMap_congr fun entry hentry => ?_
  have hkey := hw.locationKeys entry (List.mem_of_mem_filter (List.mem_of_mem_drop hentry))
  rw [joinRows_false, Function.comp_apply, hkey]

/-- A walk through templates hands out the rows of their groups. -/
theorem walkTemplates_eq (m : Memory) (ts : List RatingTemplate) :
    m.walkTemplates ts = flattenGroups (ts.map m.templateGroup) := by
  rw [walkTemplates, flattenGroups, List.flatMap_map]
  exact List.flatMap_congr fun t _ => joinRows_false t (m.ratingsOf t)

/-- The ratings of a template ascend. -/
theorem Ordered.ratingsOf (ho : m.Ordered) (hw : m.WellFormed) (t : RatingTemplate) : OrderedTexts (m.ratingsOf t) := by
  rw [OrderedTexts, Memory.ratingsOf, List.pairwise_map]
  refine ((ho.specs.values hw.specKeys).filter _).imp_of_mem ?_
  intro a b ha hb hab
  simp only [List.mem_filter, Bool.and_eq_true, decide_eq_true_eq] at ha hb
  simpa [specKey, ha.2.1.2, hb.2.1.2, List.cons_lt_cons_iff] using hab

/-! ## Parents -/

/-- The stored locations are told apart by what groups locations. -/
theorem nodup_locationKeys (hw : m.WellFormed) (ho : m.Ordered) (test : Location → Bool) :
    ((m.locations.values.filter test).map fun l => GroupKey.key l).Nodup := by
  refine Keyed.nodup_map_of_ascending ((ho.locations.values hw.locationKeys).filter _) ?_
  intro a b hab
  have hoffice : a.officeId = b.officeId := congrArg LocationKey.officeId hab
  have hname : a.name = b.name := congrArg LocationKey.name hab
  rw [locationKey, locationKey, hoffice, hname]

/-- The stored templates are told apart by what groups templates. -/
theorem nodup_templateKeys (hw : m.WellFormed) (ho : m.Ordered) (test : RatingTemplate → Bool) :
    ((m.templates.values.filter test).map fun t => GroupKey.key t).Nodup := by
  refine Keyed.nodup_map_of_ascending ((ho.templates.values hw.templateKeys).filter _) ?_
  intro a b hab
  have hoffice : a.officeId = b.officeId := congrArg RatingTemplateKey.officeId hab
  have hid : a.id = b.id := congrArg RatingTemplateKey.id hab
  rw [templateKey, templateKey, hoffice, hid]

/-- No location has two groups. -/
theorem nodup_locationGroups (hw : m.WellFormed) (ho : m.Ordered) (filter : Filter) :
    ((m.locationGroups filter).map fun g => GroupKey.key g.parent).Nodup := by
  rw [locationGroups, List.map_map]
  exact nodup_locationKeys hw ho filter.acceptsLocation

/-- No template has two groups. -/
theorem nodup_templateGroups (hw : m.WellFormed) (ho : m.Ordered) (filter : Filter) :
    ((m.templateGroups filter).map fun g => GroupKey.key g.parent).Nodup := by
  rw [templateGroups, List.map_map]
  exact nodup_templateKeys hw ho filter.acceptsTemplate

/-! ## Look-ups -/

/-- The locations of an office and a name in either case, in the order of their keys. -/
def locationsNamed (m : Memory) (office name : String) : List Location :=
  m.locations.values.filter fun l => Text.sameFolded l.officeId office && Text.sameFolded l.name name

/-- The templates of an identifier in either case, in one office or in any, in the order of their keys. -/
def templatesNamed (m : Memory) (office : Option String) (id : String) : List RatingTemplate :=
  m.templates.values.filter fun t => (office.all fun o => Text.sameFolded t.officeId o) && Text.sameFolded t.id id

/-- A location is looked up among the groups of those that have its name. -/
theorem WellFormed.location?_eq (hw : m.WellFormed) (office name : String) :
    m.location? office name =
      ((groupSingle (StorageError.locationSubject office name)
        (flattenGroups ((m.locationsNamed office name).map fun l => ⟨l, m.aliasesOf (locationKey l)⟩))).map
          (·.map Group.assemble)).mapError .integrity := by
  unfold location?
  dsimp only
  rw [walkLocations_eq hw, List.drop_zero, filter_flattenGroups fun l : Location => Text.sameFolded l.name name,
    locationGroups, List.filter_map, List.filter_filter, locationsNamed]
  congr 5
  refine List.filter_congr ?_
  intro l _
  simp only [Filter.acceptsLocation, Filter.accepts, Filter.acceptsOffice, Option.all_some, Option.all_none,
    Bool.and_true, Function.comp_apply, Text.sameFolded_comm office]
  rw [Bool.and_comm]

/-- A template is looked up among the groups of those that have its identifier. -/
theorem template?_eq (m : Memory) (office : Option String) (id : String) :
    m.template? office id =
      ((groupSingle (StorageError.templateSubject office id)
        (flattenGroups ((m.templatesNamed office id).map m.templateGroup))).map
          (·.map Group.assemble)).mapError .integrity := by
  unfold template?
  dsimp only
  rw [walkTemplates_eq, templatesNamed]
  simp only [Filter.acceptsOffice, Text.sameFolded_comm (_ : RatingTemplate).officeId]

/-! ## Sources -/

/-- The source of the locations hands out the rows of their groups. -/
theorem scan_locationRows (hw : m.WellFormed) (filter : Filter) (skip : UInt64) (wanted : UInt32) :
    m.locationRows.scan filter skip wanted = ⟨flattenGroups ((m.locationGroups filter).drop skip.toNat), none⟩ := by
  rw [← walkLocations_eq hw]
  rfl

/-- The source of the templates hands out the rows of their groups. -/
theorem scan_templateRows (m : Memory) (filter : Filter) (skip : UInt64) (wanted : UInt32) :
    m.templateRows.scan filter skip wanted = ⟨flattenGroups ((m.templateGroups filter).drop skip.toNat), none⟩ := by
  rw [templateGroups, ← List.map_drop, ← walkTemplates_eq]
  rfl

/-- What is left behind the elements that were skipped is all that can be wanted. -/
theorem exists_take_drop_eq {α : Type} (xs : List α) (skip : Nat) (wanted : UInt32) :
    ∃ n, wanted.toNat ≤ n ∧ (xs.drop skip).take n = xs.drop skip := by
  refine ⟨max wanted.toNat xs.length, Nat.le_max_left _ _, List.take_of_length_le ?_⟩
  rw [List.length_drop]
  omega

/-- The listing of locations keeps the contract of a source. -/
theorem keeps_locationRows (hw : m.WellFormed) (ho : m.Ordered) :
    m.locationRows.Keeps fun filter => Listing.ofGroups (m.locationGroups filter) (nodup_locationGroups hw ho filter) := by
  refine RowSource.keeps_of_groups (nodup_locationGroups hw ho) ?_
  intro filter skip wanted
  obtain ⟨n, hn, hall⟩ := exists_take_drop_eq (m.locationGroups filter) skip.toNat wanted
  exact ⟨n, hn, by rw [hall, scan_locationRows hw]⟩

/-- The listing of templates keeps the contract of a source. -/
theorem keeps_templateRows (hw : m.WellFormed) (ho : m.Ordered) :
    m.templateRows.Keeps fun filter => Listing.ofGroups (m.templateGroups filter) (nodup_templateGroups hw ho filter) := by
  refine RowSource.keeps_of_groups (nodup_templateGroups hw ho) ?_
  intro filter skip wanted
  obtain ⟨n, hn, hall⟩ := exists_take_drop_eq (m.templateGroups filter) skip.toNat wanted
  exact ⟨n, hn, by rw [hall, scan_templateRows]⟩

/-- The number of locations is counted. -/
theorem count_locationRows (m : Memory) (filter : Filter) :
    m.locationRows.count filter = .ok (UInt64.ofNat (m.locationGroups filter).length) := by
  rw [locationRows, locationGroups, List.length_map]

/-- The number of templates is counted. -/
theorem count_templateRows (m : Memory) (filter : Filter) :
    m.templateRows.count filter = .ok (UInt64.ofNat (m.templateGroups filter).length) := by
  rw [templateRows, templateGroups, List.length_map]

end BasinRegister.Memory
