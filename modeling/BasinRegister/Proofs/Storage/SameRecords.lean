import BasinRegister.Proofs.Record.SpecColumns
import BasinRegister.Proofs.Storage.Memory
import BasinRegister.Proofs.Storage.Relational

/-!
# The same records in both stores

A store in memory and a relational store with the same records (`SameRecords`) take the same puts and refuse the same, and have
the same records behind them (`SameRecords.put`). A record must be one that the relational store keeps as it is
(`Put.Comparable`), and masks must be able to read its name (`Put.Kept`).
-/

namespace BasinRegister

open Number (Double)

/-! ## Records that both stores keep -/

/-- A location that the relational store keeps as it is, and whose name a mask reads. -/
structure Location.Comparable (l : Location) : Prop where
  /-- The name has no line feeds and NULs. -/
  name : Mask.Plain l.name
  /-- A coordinate is a number, and it is not the negative zero. -/
  coordinates : ∀ x, x ∈ l.latitude ∨ x ∈ l.longitude → x.isNaN = false ∧ x ≠ Double.zero.neg

/-- A template that comes back out of its columns, and whose identifier a mask reads. -/
structure RatingTemplate.Comparable (t : RatingTemplate) : Prop where
  /-- The identifier has no line feeds and NULs. -/
  id : Mask.Plain t.id
  /-- The specs come back out of their columns. -/
  specs : ∀ s ∈ t.specs, s.Columnar

/-- A record that both stores keep as it is. -/
def Put.Comparable : Put → Prop
  | .location l => l.Comparable
  | .ratingTemplate t => t.Comparable
  | _ => True

/-- A record whose name holds no noncharacter that the `LIKE` operator replaces. -/
def Put.Kept : Put → Prop
  | .location l => Glob.Like.Kept l.name
  | .ratingTemplate t => Glob.Like.Kept t.id
  | _ => True

/-- A store in memory and a relational store with the same records. -/
structure SameRecords (m : Memory) (r : Relational) : Prop where
  /-- The offices are the same. -/
  offices : m.offices.values.Perm r.offices
  /-- The locations are the same. -/
  locations : m.locations.values.Perm r.locations
  /-- The aliases of each location are the same. -/
  aliases : ∀ a : LocationAlias, a ∈ r.aliases ↔ a.aliasId ∈ m.aliasesOf (Memory.aliasKey a)
  /-- No alias has two rows. -/
  aliasesOnce : r.aliases.Nodup
  /-- The rows of the templates are those of the same templates. -/
  templates : (m.templates.values.map TemplateRow.ofTemplate).Perm r.templates
  /-- The ratings are the same. -/
  specs : m.specs.values.Perm r.specs
  /-- The water users are the same. -/
  waterUsers : m.waterUsers.values.Perm r.waterUsers
  /-- Masks read the names of the locations. -/
  locationNames : ∀ l ∈ m.locations.values, Mask.Plain l.name ∧ Glob.Like.Kept l.name
  /-- Masks read the identifiers of the templates. -/
  templateIds : ∀ t ∈ m.templates.values, Mask.Plain t.id ∧ Glob.Like.Kept t.id
  /-- The specs of every template come back out of their columns. -/
  columnar : ∀ t ∈ m.templates.values, ∀ s ∈ t.specs, s.Columnar

/-- Stores without records have the same ones. -/
theorem sameRecords_empty : SameRecords Memory.empty Relational.empty := by
  constructor
  case aliases => exact fun a => ⟨fun h => absurd h List.not_mem_nil, fun h => absurd h List.not_mem_nil⟩
  case locationNames | templateIds | columnar => exact fun _ h => absurd h List.not_mem_nil
  case aliasesOnce => exact List.Pairwise.nil
  all_goals exact List.Perm.nil

/-! ## What comes of a put -/

/-- Errors of the same variant. Only the texts of conflicts may differ. -/
inductive StorageError.Alike : StorageError → StorageError → Prop where
  /-- The same error. -/
  | refl (e : StorageError) : Alike e e
  /-- Two conflicts. -/
  | conflict (s t : String) : Alike (.conflict s) (.conflict t)

/-- Both stores take a put and have the same records behind it, or both refuse it alike. -/
inductive SamePut : Except StorageError Memory → Except StorageError Relational → Prop where
  /-- Both take it. -/
  | ok {m : Memory} {r : Relational} : SameRecords m r → SamePut (.ok m) (.ok r)
  /-- Both refuse it. -/
  | error {e e' : StorageError} : e.Alike e' → SamePut (.error e) (.error e')

namespace SameRecords

variable {m : Memory} {r : Relational}

/-! ## Keys -/

/-- Both stores know the same offices. -/
theorem contains_office (h : SameRecords m r) (hw : m.WellFormed) (name : String) :
    m.offices.contains [name] = r.offices.any fun p => p.name = name := by
  rw [Keyed.contains_eq_any hw.officeKeys, h.offices.any_eq]
  simp [Memory.officeKey]

/-- Both stores know the same locations. -/
theorem contains_location (h : SameRecords m r) (hw : m.WellFormed) (office name : String) :
    m.locations.contains [office, name] = r.locations.any fun p => p.officeId = office && p.name = name := by
  rw [Keyed.contains_eq_any hw.locationKeys, h.locations.any_eq]
  simp [Memory.locationKey]

/-- Both stores know the same templates. -/
theorem contains_template (h : SameRecords m r) (hw : m.WellFormed) (office id : String) :
    m.templates.contains [office, id] = r.templates.any fun p => p.officeId = office && p.id = id := by
  rw [Keyed.contains_eq_any hw.templateKeys, ← h.templates.any_eq, List.any_map]
  simp only [Memory.templateKey, List.cons.injEq, and_true, Bool.decide_and]
  rfl

/-- Both stores know the same ratings. -/
theorem contains_spec (h : SameRecords m r) (hw : m.WellFormed) (office id : String) :
    m.specs.contains [office, id] = r.specs.any fun p => p.officeId = office && p.ratingId = id := by
  rw [Keyed.contains_eq_any hw.specKeys, h.specs.any_eq]
  simp [Memory.specKey]

/-- Both stores know the same water users. -/
theorem contains_waterUser (h : SameRecords m r) (hw : m.WellFormed) (project : ProjectId) (name : String) :
    m.waterUsers.contains [project.officeId, project.name, name] =
      r.waterUsers.any fun p => p.projectId = project && p.entityName = name := by
  obtain ⟨office, projectName⟩ := project
  have hsame : ∀ p : WaterUser, decide (Memory.waterUserKey p = [office, projectName, name]) =
      (decide (p.projectId = ⟨office, projectName⟩) && decide (p.entityName = name)) := by
    rintro ⟨entityName, ⟨o, n⟩, right⟩
    simp [Memory.waterUserKey, Bool.and_assoc]
  rw [Keyed.contains_eq_any hw.waterUserKeys, h.waterUsers.any_eq]
  simp only [hsame]

/-! ## Puts -/

/-- What holds of all records and of a new one holds of them behind its insertion. -/
theorem forall_mem_values_insert {α : Type} {c : Keyed α} {k : Key} {v : α} {P : α → Prop}
    (hnew : c.contains k = false) (hv : P v) (h : ∀ w ∈ c.values, P w) : ∀ w ∈ (c.insert k v).values, P w := by
  intro w hmem
  rcases List.mem_append.mp ((Keyed.perm_values_insert hnew v).mem_iff.mp hmem) with hmem | hmem
  · exact h w hmem
  · exact List.mem_singleton.mp hmem ▸ hv

/-- An office is put into both stores or into neither. -/
theorem putOffice (h : SameRecords m r) (hw : m.WellFormed) (o : Office) : SamePut (m.putOffice o) (r.putOffice o) := by
  unfold Memory.putOffice Relational.putOffice
  have hthere : m.offices.contains (Memory.officeKey o) = _ := h.contains_office hw o.name
  rw [← hthere]
  by_cases hc : m.offices.contains (Memory.officeKey o) = true
  · rw [if_pos hc, if_pos hc]
    exact SamePut.error (StorageError.Alike.refl _)
  · rw [if_neg hc, if_neg hc]
    have hnew := Bool.eq_false_iff.mpr hc
    exact SamePut.ok { h with offices := (Keyed.perm_values_insert hnew o).trans (h.offices.append_right [o]) }

/-- Aliases added to a location. -/
theorem addAliases (h : SameRecords m r) (office name : String) (names : List String) :
    SameRecords (m.addAliases [office, name] names)
      { r with aliases := (names.map fun aliasId => ⟨office, name, aliasId⟩).foldl Relational.addAlias r.aliases } := by
  have haliases : ∀ a : LocationAlias,
      a ∈ (names.map fun aliasId => ⟨office, name, aliasId⟩).foldl Relational.addAlias r.aliases ↔
        a.aliasId ∈ (m.addAliases [office, name] names).aliasesOf (Memory.aliasKey a) := by
    rintro ⟨o, l, aliasId⟩
    rw [Relational.mem_foldl_addAlias, Memory.mem_aliasesOf_addAliases, h.aliases]
    simp only [Memory.aliasKey, List.mem_map, LocationAlias.mk.injEq, List.cons.injEq, and_true]
    constructor
    · rintro (hmem | ⟨x, hx, rfl, rfl, rfl⟩)
      · exact Or.inl hmem
      · exact Or.inr ⟨⟨rfl, rfl⟩, hx⟩
    · rintro (hmem | ⟨⟨rfl, rfl⟩, hx⟩)
      · exact Or.inl hmem
      · exact Or.inr ⟨aliasId, hx, rfl, rfl, rfl⟩
  rw [Memory.addAliases_eq] at haliases ⊢
  exact { h with aliases := haliases, aliasesOnce := Relational.nodup_foldl_addAlias h.aliasesOnce _ }

/-- So is a location whose name and coordinates both stores keep. -/
theorem putLocation (h : SameRecords m r) (hw : m.WellFormed) {l : Location} (hl : l.Comparable)
    (hkept : Glob.Like.Kept l.name) : SamePut (m.putLocation l) (r.putLocation l) := by
  unfold Memory.putLocation Relational.putLocation
  have hthere : m.locations.contains (Memory.locationKey l) = _ := h.contains_location hw l.officeId l.name
  rw [← hthere]
  by_cases hc : m.locations.contains (Memory.locationKey l) = true
  · rw [if_pos hc, if_pos hc]
    exact SamePut.error (StorageError.Alike.refl _)
  · rw [if_neg hc, if_neg hc]
    have hnew := Bool.eq_false_iff.mpr hc
    -- the location is put without its aliases, which are then added as they would be on their own
    have hsame : SameRecords { m with locations := m.locations.insert (Memory.locationKey l) l.withoutAliases }
        { r with locations := r.locations ++ [Relational.keptLocation l] } := by
      rw [Relational.keptLocation_eq hl.coordinates]
      exact { h with
        locations := (Keyed.perm_values_insert hnew _).trans (h.locations.append_right _)
        locationNames := forall_mem_values_insert hnew ⟨hl.name, hkept⟩ h.locationNames }
    exact SamePut.ok (hsame.addAliases l.officeId l.name l.aliases)

/-- So is an alias. -/
theorem putLocationAlias (h : SameRecords m r) (hw : m.WellFormed) (a : LocationAlias) :
    SamePut (m.putLocationAlias a) (r.putLocationAlias a) := by
  unfold Memory.putLocationAlias Relational.putLocationAlias
  have hthere : m.locations.contains (Memory.aliasKey a) = _ := h.contains_location hw a.officeId a.locationId
  rw [← hthere]
  by_cases hc : m.locations.contains (Memory.aliasKey a) = true
  · rw [if_pos hc, if_pos hc]
    exact SamePut.ok (h.addAliases a.officeId a.locationId [a.aliasId])
  · rw [if_neg hc, if_neg hc]
    exact SamePut.error (StorageError.Alike.refl _)

/-- So is a template whose identifier and specs both stores keep. -/
theorem putTemplate (h : SameRecords m r) (hw : m.WellFormed) {t : RatingTemplate} (ht : t.Comparable)
    (hkept : Glob.Like.Kept t.id) : SamePut (m.putTemplate t) (r.putTemplate t) := by
  unfold Memory.putTemplate Relational.putTemplate
  have hthere : m.templates.contains (Memory.templateKey t) = _ := h.contains_template hw t.officeId t.id
  rw [← hthere]
  by_cases hspecs : t.specs.isEmpty = true
  · rw [if_pos hspecs, if_pos hspecs]
    exact SamePut.error (StorageError.Alike.refl _)
  · rw [if_neg hspecs, if_neg hspecs]
    by_cases hc : m.templates.contains (Memory.templateKey t) = true
    · rw [if_pos hc, if_pos hc]
      exact SamePut.error (StorageError.Alike.conflict _ _)
    · rw [if_neg hc, if_neg hc]
      have hnew := Bool.eq_false_iff.mpr hc
      have hrows := ((Keyed.perm_values_insert hnew t.withoutRatings).map TemplateRow.ofTemplate).trans
        (by simpa using h.templates.append_right [TemplateRow.ofTemplate t.withoutRatings])
      exact SamePut.ok { h with
        templates := hrows
        templateIds := forall_mem_values_insert hnew ⟨ht.id, hkept⟩ h.templateIds
        columnar := forall_mem_values_insert hnew ht.specs h.columnar }

/-- So is a rating. -/
theorem putSpec (h : SameRecords m r) (hw : m.WellFormed) (s : RatingSpec) : SamePut (m.putSpec s) (r.putSpec s) := by
  unfold Memory.putSpec Relational.putSpec
  have htemplate : m.templates.contains (Memory.specTemplateKey s) = _ := h.contains_template hw s.officeId s.templateId
  have hthere : m.specs.contains (Memory.specKey s) = _ := h.contains_spec hw s.officeId s.ratingId
  rw [← htemplate, ← hthere]
  by_cases ht : (!m.templates.contains (Memory.specTemplateKey s)) = true
  · rw [if_pos ht, if_pos ht]
    exact SamePut.error (StorageError.Alike.refl _)
  · rw [if_neg ht, if_neg ht]
    by_cases hc : m.specs.contains (Memory.specKey s) = true
    · rw [if_pos hc, if_pos hc]
      exact SamePut.error (StorageError.Alike.conflict _ _)
    · rw [if_neg hc, if_neg hc]
      have hnew := Bool.eq_false_iff.mpr hc
      exact SamePut.ok { h with specs := (Keyed.perm_values_insert hnew s).trans (h.specs.append_right [s]) }

/-- So is a water user. -/
theorem putWaterUser (h : SameRecords m r) (hw : m.WellFormed) (u : WaterUser) :
    SamePut (m.putWaterUser u) (r.putWaterUser u) := by
  unfold Memory.putWaterUser Relational.putWaterUser
  have hthere : m.waterUsers.contains (Memory.waterUserKey u) = _ := h.contains_waterUser hw u.projectId u.entityName
  rw [← hthere]
  by_cases hc : m.waterUsers.contains (Memory.waterUserKey u) = true
  · rw [if_pos hc, if_pos hc]
    exact SamePut.error (StorageError.Alike.conflict _ _)
  · rw [if_neg hc, if_neg hc]
    have hnew := Bool.eq_false_iff.mpr hc
    exact SamePut.ok { h with waterUsers := (Keyed.perm_values_insert hnew u).trans (h.waterUsers.append_right [u]) }

/-- Stores with the same records take the same puts. -/
theorem put (h : SameRecords m r) (hw : m.WellFormed) {record : Put} (hrecord : record.Comparable)
    (hkept : record.Kept) : SamePut (m.put record) (r.put record) := by
  cases record with
  | office o => exact h.putOffice hw o
  | location l => exact h.putLocation hw hrecord hkept
  | locationAlias a => exact h.putLocationAlias hw a
  | ratingTemplate t => exact h.putTemplate hw hrecord hkept
  | ratingSpec s => exact h.putSpec hw s
  | waterUser u => exact h.putWaterUser hw u

end SameRecords

end BasinRegister
