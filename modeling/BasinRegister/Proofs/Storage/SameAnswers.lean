import BasinRegister.Proofs.Storage.Listings
import BasinRegister.Proofs.Storage.SameRecords
import Mathlib.Data.List.Nodup

/-!
# The same answers from both stores

Stores with the same records answer every look-up and every listing alike. A look-up that takes the first of several names
that are equal up to case does so as long as no two records have such names. For the others, both stores hand out the rows of
the same groups: their children are ordered alike, and the parents are selected alike.
-/

namespace BasinRegister

/-- Of records that a test accepts at most one of, it finds the same in every order. -/
theorem find?_eq_of_perm {α : Type} {test : α → Bool} {xs ys : List α} (h : xs.Perm ys)
    (hunique : ∀ a ∈ xs, ∀ b ∈ xs, test a = true → test b = true → a = b) : xs.find? test = ys.find? test := by
  cases hx : xs.find? test with
  | none =>
    rw [eq_comm, List.find?_eq_none]
    intro y hy
    exact List.find?_eq_none.mp hx y (h.mem_iff.mpr hy)
  | some x =>
    have hxmem := List.mem_of_find?_eq_some hx
    have hxtest := List.find?_some hx
    obtain ⟨y, hy⟩ := Option.isSome_iff_exists.mp (List.find?_isSome.mpr ⟨x, h.mem_iff.mp hxmem, hxtest⟩)
    rw [hy, hunique x hxmem y (h.mem_iff.mpr (List.mem_of_find?_eq_some hy)) hxtest (List.find?_some hy)]

/-- A filter whose mask both stores can read: it has no line feeds and NULs, and its pattern is not too large. -/
def Filter.Comparable (f : Filter) : Prop :=
  ∀ mask ∈ f.mask, Mask.Plain mask.text ∧ Glob.Like.isTooLarge mask.toLike = false

/-- A filter whose mask holds no noncharacter that the `LIKE` operator replaces. -/
def Filter.Kept (f : Filter) : Prop := ∀ mask ∈ f.mask, Glob.Like.Kept mask.text

namespace SameRecords

variable {m : Memory} {r : Relational}

/-! ## Children -/

/-- The aliases of a location are ordered alike. -/
theorem orderBy_aliasesOf (h : SameRecords m r) (ho : m.Ordered) (l : Location) :
    Relational.orderBy (fun c => [c]) (r.aliasesOf l) = m.aliasesOf (Memory.locationKey l) := by
  have hnodup : (r.aliasesOf l).Nodup := by
    refine List.Nodup.map_on ?_ (h.aliasesOnce.filter _)
    rintro ⟨o, n, x⟩ ha ⟨o', n', x'⟩ hb hx
    simp only [List.mem_filter, Bool.and_eq_true, decide_eq_true_eq] at ha hb
    obtain ⟨-, rfl, rfl⟩ := ha
    obtain ⟨-, rfl, rfl⟩ := hb
    exact congrArg _ hx
  refine Relational.orderBy_texts (ho.aliasesOf _) ?_
  rw [List.perm_ext_iff_of_nodup (ho.aliasesOf _).nodup hnodup]
  intro x
  have hx := h.aliases ⟨l.officeId, l.name, x⟩
  rw [show m.aliasesOf (Memory.locationKey l) = m.aliasesOf (Memory.aliasKey ⟨l.officeId, l.name, x⟩) from rfl, ← hx]
  simp only [Relational.aliasesOf, List.mem_map, List.mem_filter, Bool.and_eq_true, decide_eq_true_eq]
  constructor
  · intro hmem
    exact ⟨⟨l.officeId, l.name, x⟩, ⟨hmem, rfl, rfl⟩, rfl⟩
  · rintro ⟨⟨o, n, y⟩, ⟨hmem, rfl, rfl⟩, rfl⟩
    exact hmem

/-- The ratings of a template are ordered alike. -/
theorem orderBy_ratingsOf (h : SameRecords m r) (hw : m.WellFormed) (ho : m.Ordered) (t : RatingTemplate) :
    Relational.orderBy (fun c => [c]) (r.ratingsOf (TemplateRow.ofTemplate t)) = m.ratingsOf t := by
  refine Relational.orderBy_texts (ho.ratingsOf hw t) ?_
  have hsame : ∀ s : RatingSpec,
      (s.aliasedItem.isNone && decide (s.officeId = t.officeId) && decide (s.templateId = t.id)) =
        (decide (s.officeId = t.officeId) && decide (s.templateId = t.id) && s.aliasedItem.isNone) := by
    intro s
    rw [Bool.and_assoc, Bool.and_comm]
  rw [Memory.ratingsOf, Relational.ratingsOf]
  simp only [hsame]
  exact (h.specs.filter _).map _

/-! ## Parents -/

/-- The locations that a query selects, in its order. -/
theorem orderBy_locations (h : SameRecords m r) (hw : m.WellFormed) (ho : m.Ordered) (test : Location → Bool) :
    Relational.orderBy Relational.locationKey (r.locations.filter test) = m.locations.values.filter test :=
  Relational.orderBy_eq ((ho.locations.values hw.locationKeys).filter _) (h.locations.filter _)

/-- The templates that a query selects, in its order. -/
theorem orderBy_templates (h : SameRecords m r) (hw : m.WellFormed) (ho : m.Ordered) (test : TemplateRow → Bool) :
    Relational.orderBy Relational.templateKey (r.templates.filter test) =
      (m.templates.values.filter fun t => test (TemplateRow.ofTemplate t)).map TemplateRow.ofTemplate := by
  refine Relational.orderBy_eq ?_ ?_
  · exact List.pairwise_map.mpr ((ho.templates.values hw.templateKeys).filter _)
  · rw [← Function.comp_def test, ← List.filter_map]
    exact h.templates.filter _

/-- A template comes back out of its row. -/
theorem template_ofTemplate (h : SameRecords m r) (hw : m.WellFormed) {t : RatingTemplate} (ht : t ∈ m.templates.values) :
    (TemplateRow.ofTemplate t).template = .ok t := by
  obtain ⟨k, hk⟩ := Keyed.mem_values.mp ht
  have hspecs : (TemplateRow.ofTemplate t).columns.specs = .ok t.specs :=
    SpecColumns.specs_ofSpecs (hw.templatesWithSpecs _ hk) (h.columnar t ht)
  have hbare : t.ratingIds = [] := hw.templatesBare _ hk
  rw [TemplateRow.template, hspecs]
  simp only [TemplateRow.ofTemplate, ← hbare]

/-! ## Look-ups of the first record -/

theorem allOffices_eq (h : SameRecords m r) (hw : m.WellFormed) (ho : m.Ordered) : r.allOffices = m.offices.values :=
  Relational.orderBy_eq (ho.offices.values hw.officeKeys) h.offices

/-- An office is found alike, as long as no two have names that are equal up to case. -/
theorem office?_eq (h : SameRecords m r) (hw : m.WellFormed) (ho : m.Ordered)
    (hapart : ∀ a ∈ m.offices.values, ∀ b ∈ m.offices.values, Text.sameFolded a.name b.name = true → a.name = b.name)
    (name : String) : m.office? name = r.office? name := by
  unfold Memory.office? Relational.office?
  simp only [Relational.sameUpper_eq]
  refine find?_eq_of_perm h.offices ?_
  intro a ha b hb hfirst hsecond
  have hname : a.name = b.name := hapart a ha b hb (Text.sameFolded_of_both hfirst hsecond)
  have hkey : Memory.officeKey a = Memory.officeKey b := congrArg (fun name => [name]) hname
  exact Keyed.eq_of_key_eq (ho.offices.values hw.officeKeys) ha hb hkey

/-- A water user is found alike, as long as no two have keys that are equal up to case. -/
theorem waterUser?_eq (h : SameRecords m r) (hw : m.WellFormed) (ho : m.Ordered)
    (hapart : ∀ a ∈ m.waterUsers.values, ∀ b ∈ m.waterUsers.values,
      List.Forall₂ (fun x y => Text.sameFolded x y = true) (Memory.waterUserKey a) (Memory.waterUserKey b) →
        Memory.waterUserKey a = Memory.waterUserKey b)
    (office project name : String) : m.waterUser? office project name = r.waterUser? office project name := by
  unfold Memory.waterUser? Relational.waterUser?
  simp only [Relational.sameUpper_eq]
  refine find?_eq_of_perm h.waterUsers ?_
  intro a ha b hb hfirst hsecond
  simp only [Bool.and_eq_true] at hfirst hsecond
  obtain ⟨⟨hoffice, hproject⟩, hname⟩ := hfirst
  obtain ⟨⟨hoffice', hproject'⟩, hname'⟩ := hsecond
  refine Keyed.eq_of_key_eq (ho.waterUsers.values hw.waterUserKeys) ha hb (hapart a ha b hb ?_)
  exact .cons (Text.sameFolded_of_both hoffice hoffice')
    (.cons (Text.sameFolded_of_both hproject hproject') (.cons (Text.sameFolded_of_both hname hname') .nil))

/-! ## Look-ups of the only record -/

/-- Locations joined with their aliases are read as their groups in memory. -/
theorem readRows_locations (h : SameRecords m r) (ho : m.Ordered) (ls : List Location) :
    Relational.readRows .ok (ls.flatMap (Relational.join r.aliasesOf)) =
      (⟨flattenGroups (ls.map fun l => ⟨l, m.aliasesOf (Memory.locationKey l)⟩), none⟩ :
        RowStream Location String StorageError) := by
  have hread : Relational.readRows .ok ((ls.map fun l => l).flatMap (Relational.join r.aliasesOf)) =
      (_ : RowStream Location String StorageError) := Relational.readRows_join fun _ _ => rfl
  simpa only [List.map_id', h.orderBy_aliasesOf ho] using hread

/-- Templates joined with their ratings are read as their groups in memory. -/
theorem readRows_templates (h : SameRecords m r) (hw : m.WellFormed) (ho : m.Ordered) {ts : List RatingTemplate}
    (hts : ∀ t ∈ ts, t ∈ m.templates.values) :
    Relational.readRows TemplateRow.template ((ts.map TemplateRow.ofTemplate).flatMap (Relational.join r.ratingsOf)) =
      ⟨flattenGroups (ts.map m.templateGroup), none⟩ := by
  rw [Relational.readRows_join fun t ht => h.template_ofTemplate hw (hts t ht)]
  simp only [h.orderBy_ratingsOf hw ho]
  rfl

/-- A location is found alike, and several are refused alike. -/
theorem location?_eq (h : SameRecords m r) (hw : m.WellFormed) (ho : m.Ordered) (office name : String) :
    m.location? office name = r.location? office name := by
  unfold Relational.location?
  rw [hw.location?_eq, Memory.locationsNamed]
  simp only [Relational.sameUpper_eq, h.orderBy_locations hw ho, h.readRows_locations ho]
  rfl

/-- A template is found alike, and several are refused alike. -/
theorem template?_eq (h : SameRecords m r) (hw : m.WellFormed) (ho : m.Ordered) (office : Option String) (id : String) :
    m.template? office id = r.template? office id := by
  have hrows : Relational.orderBy Relational.templateKey (r.templates.filter fun t =>
      (office.all fun o => Text.sameFolded t.officeId o) && Text.sameFolded t.id id) =
      (m.templatesNamed office id).map TemplateRow.ofTemplate := h.orderBy_templates hw ho _
  have hstored : ∀ t ∈ m.templatesNamed office id, t ∈ m.templates.values := fun _ ht => List.mem_of_mem_filter ht
  unfold Relational.template?
  simp only [Relational.sameUpper_eq, hrows]
  rw [Memory.template?_eq, h.readRows_templates hw ho hstored]
  rfl

/-! ## Pages -/

/-- A page of locations is the same, as long as the filter has a mask that both stores read alike. -/
theorem locationRows_page_eq (h : SameRecords m r) (hw : m.WellFormed) (ho : m.Ordered) {filter : Filter}
    (hfilter : filter.Comparable) (hkept : filter.Kept) (hfit : m.locations.values.length ≤ Relational.greatestOffset)
    (request : PageRequest) : m.locationRows.page filter request = r.locationRows.page filter request := by
  have hselect : Relational.select (fun l : Location => l.officeId) (fun l => l.name) filter r.locations =
      .ok (r.locations.filter filter.acceptsLocation) := by
    refine Relational.select_ok (fun mask hmask => (hfilter mask hmask).2) ?_
    intro mask hmask l hl
    obtain ⟨hplain, hname⟩ := h.locationNames l (h.locations.mem_iff.mpr hl)
    exact Mask.selects_toLike (hfilter mask hmask).1 (hkept mask hmask) hplain hname
  have horder : Relational.orderBy Relational.locationKey (r.locations.filter filter.acceptsLocation) =
      (m.locations.values.filter filter.acceptsLocation).map fun l => l := by
    rw [h.orderBy_locations hw ho, List.map_id']
  have hgroups : m.locationGroups filter = (m.locations.values.filter filter.acceptsLocation).map
      fun l => ⟨l, Relational.orderBy (fun c => [c]) (r.aliasesOf l)⟩ := by
    simp only [Memory.locationGroups, h.orderBy_aliasesOf ho]
  exact Relational.page_source ((Memory.keeps_locationRows hw ho).only filter) (Memory.count_locationRows m filter) hselect horder (fun _ _ => rfl) hgroups
    (Nat.le_trans (List.length_filter_le _ _) hfit) request

/-- A page of templates is the same, as long as the filter has a mask that both stores read alike. -/
theorem templateRows_page_eq (h : SameRecords m r) (hw : m.WellFormed) (ho : m.Ordered) {filter : Filter}
    (hfilter : filter.Comparable) (hkept : filter.Kept) (hfit : m.templates.values.length ≤ Relational.greatestOffset)
    (request : PageRequest) : m.templateRows.page filter request = r.templateRows.page filter request := by
  have hselect : Relational.select (fun t : TemplateRow => t.officeId) (fun t => t.id) filter r.templates =
      .ok (r.templates.filter fun t => filter.accepts t.officeId t.id) := by
    refine Relational.select_ok (fun mask hmask => (hfilter mask hmask).2) ?_
    intro mask hmask row hrow
    obtain ⟨t, ht, rfl⟩ := List.mem_map.mp (h.templates.mem_iff.mpr hrow)
    obtain ⟨hplain, hid⟩ := h.templateIds t ht
    exact Mask.selects_toLike (hfilter mask hmask).1 (hkept mask hmask) hplain hid
  have horder := h.orderBy_templates hw ho fun t => filter.accepts t.officeId t.id
  have hgroups : m.templateGroups filter = (m.templates.values.filter filter.acceptsTemplate).map
      fun t => ⟨t, Relational.orderBy (fun c => [c]) (r.ratingsOf (TemplateRow.ofTemplate t))⟩ := by
    simp only [h.orderBy_ratingsOf hw ho]
    rfl
  exact Relational.page_source ((Memory.keeps_templateRows hw ho).only filter) (Memory.count_templateRows m filter) hselect horder
    (fun t ht => h.template_ofTemplate hw (List.mem_of_mem_filter ht)) hgroups
    (Nat.le_trans (List.length_filter_le _ _) hfit) request

end SameRecords

end BasinRegister
