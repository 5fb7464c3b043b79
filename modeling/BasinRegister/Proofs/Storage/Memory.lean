import BasinRegister.Storage.Memory
import BasinRegister.Proofs.Storage.Keyed
import BasinRegister.Proofs.Storage.Runs

/-!
# What every store in memory keeps

The six collections of a store in memory belong together: records stand under their own keys and without their children,
aliases belong to locations that are there, and ratings to templates that are there (`Memory.WellFormed`). Every put keeps
this, so it holds behind any run of operations on the empty store, and no put takes anything away
(`Memory.extends_performAll`). Each put is opened once, by a lemma that says all it does.
-/

namespace BasinRegister.Memory

/-- How the collections of a store belong together. -/
structure WellFormed (m : Memory) : Prop where
  /-- Every office stands under its own key. -/
  officeKeys : ∀ e ∈ m.offices.entries, e.1 = officeKey e.2
  /-- Every location stands under its own key. -/
  locationKeys : ∀ e ∈ m.locations.entries, e.1 = locationKey e.2
  /-- Every template stands under its own key. -/
  templateKeys : ∀ e ∈ m.templates.entries, e.1 = templateKey e.2
  /-- Every rating stands under its own key. -/
  specKeys : ∀ e ∈ m.specs.entries, e.1 = specKey e.2
  /-- Every water user stands under its own key. -/
  waterUserKeys : ∀ e ∈ m.waterUsers.entries, e.1 = waterUserKey e.2
  /-- Locations stand without their aliases. -/
  locationsBare : ∀ e ∈ m.locations.entries, e.2.aliases = []
  /-- Templates stand without their ratings. -/
  templatesBare : ∀ e ∈ m.templates.entries, e.2.ratingIds = []
  /-- Aliases stand under the key of a location that is there, and only where there are some. -/
  aliasesOfLocations : ∀ e ∈ m.aliases.entries, (∃ l, (e.1, l) ∈ m.locations.entries) ∧ e.2 ≠ []
  /-- Every template has a spec. -/
  templatesWithSpecs : ∀ e ∈ m.templates.entries, e.2.specs ≠ []
  /-- Every rating, an aliased item or not, names a template of its office that is there. -/
  specsOfTemplates : ∀ e ∈ m.specs.entries, ∃ d ∈ m.templates.entries,
    d.2.officeId = e.2.officeId ∧ d.2.id = e.2.templateId

/-- Keys ascend in every collection, and so do the aliases of a location: no key and no alias stands twice. -/
structure Ordered (m : Memory) : Prop where
  /-- The names of the offices ascend. -/
  offices : m.offices.Ordered
  /-- The keys of the locations ascend. -/
  locations : m.locations.Ordered
  /-- The keys of the aliases ascend. -/
  aliases : m.aliases.Ordered
  /-- The keys of the templates ascend. -/
  templates : m.templates.Ordered
  /-- The keys of the ratings ascend. -/
  specs : m.specs.Ordered
  /-- The keys of the water users ascend. -/
  waterUsers : m.waterUsers.Ordered
  /-- The aliases of each location ascend. -/
  aliasTexts : ∀ e ∈ m.aliases.entries, OrderedTexts e.2

/-! ## What each put does -/

/-- An office that is put was not there and is there now. -/
theorem putOffice_ok {m m' : Memory} {o : Office} (h : m.putOffice o = .ok m') :
    m.offices.contains (officeKey o) = false ∧ m' = { m with offices := m.offices.insert (officeKey o) o } := by
  unfold putOffice at h
  split at h
  · cases h
  · rename_i hc
    cases h
    exact ⟨Bool.eq_false_iff.mpr hc, rfl⟩

/-- A location that is put was not there; it is there now, and its aliases are where they belong. -/
theorem putLocation_ok {m m' : Memory} {l : Location} (h : m.putLocation l = .ok m') :
    m.locations.contains (locationKey l) = false ∧
      m' = addAliases { m with locations := m.locations.insert (locationKey l) l.withoutAliases } (locationKey l)
        l.aliases := by
  unfold putLocation at h
  split at h
  · cases h
  · rename_i hc
    cases h
    exact ⟨Bool.eq_false_iff.mpr hc, rfl⟩

/-- An alias that is put belongs to a location that is there. -/
theorem putLocationAlias_ok {m m' : Memory} {a : LocationAlias} (h : m.putLocationAlias a = .ok m') :
    m.locations.contains (aliasKey a) = true ∧ m' = m.addAliases (aliasKey a) [a.aliasId] := by
  unfold putLocationAlias at h
  split at h
  · rename_i hc
    cases h
    exact ⟨hc, rfl⟩
  · cases h

/-- A template that is put has specs, was not there and is there now, without its ratings. -/
theorem putTemplate_ok {m m' : Memory} {t : RatingTemplate} (h : m.putTemplate t = .ok m') :
    t.specs ≠ [] ∧ m.templates.contains (templateKey t) = false ∧
      m' = { m with templates := m.templates.insert (templateKey t) t.withoutRatings } := by
  unfold putTemplate at h
  split at h
  · cases h
  · rename_i hs
    split at h
    · cases h
    · rename_i hc
      cases h
      exact ⟨fun he => hs (List.isEmpty_iff.mpr he), Bool.eq_false_iff.mpr hc, rfl⟩

/-- A rating that is put belongs to a template that is there; it was not there and is there now. -/
theorem putSpec_ok {m m' : Memory} {r : RatingSpec} (h : m.putSpec r = .ok m') :
    m.templates.contains (specTemplateKey r) = true ∧ m.specs.contains (specKey r) = false ∧
      m' = { m with specs := m.specs.insert (specKey r) r } := by
  unfold putSpec at h
  split at h
  · cases h
  · rename_i ht
    split at h
    · cases h
    · rename_i hc
      cases h
      exact ⟨by simpa using ht, Bool.eq_false_iff.mpr hc, rfl⟩

/-- A water user that is put was not there and is there now. -/
theorem putWaterUser_ok {m m' : Memory} {u : WaterUser} (h : m.putWaterUser u = .ok m') :
    m.waterUsers.contains (waterUserKey u) = false ∧
      m' = { m with waterUsers := m.waterUsers.insert (waterUserKey u) u } := by
  unfold putWaterUser at h
  split at h
  · cases h
  · rename_i hc
    cases h
    exact ⟨Bool.eq_false_iff.mpr hc, rfl⟩

/-- Adding aliases touches nothing but the aliases of one location. -/
theorem addAliases_eq (m : Memory) (k : Key) (names : List String) :
    m.addAliases k names = { m with aliases := (m.addAliases k names).aliases } := by
  unfold addAliases
  split <;> rfl

/-- What holds of all aliases, and of those that a location gets with new ones, holds behind their addition. -/
theorem forall_mem_addAliases {m : Memory} {k : Key} {names : List String} {P : Key × List String → Prop}
    (hnew : names ≠ [] → P (k, insertTexts names (m.aliasesOf k))) (h : ∀ e ∈ m.aliases.entries, P e) :
    ∀ e ∈ (m.addAliases k names).aliases.entries, P e := by
  unfold addAliases
  split
  · exact h
  · rename_i hne
    exact Keyed.forall_mem_insert (hnew fun he => hne (List.isEmpty_iff.mpr he)) h

/-- The aliases of each location behind an addition. -/
theorem mem_aliasesOf_addAliases {m : Memory} {k j : Key} {names : List String} {x : String} :
    x ∈ (m.addAliases k names).aliasesOf j ↔ x ∈ m.aliasesOf j ∨ j = k ∧ x ∈ names := by
  unfold addAliases
  split
  · rename_i hempty
    rw [List.isEmpty_iff.mp hempty]
    simp
  · simp only [aliasesOf, Keyed.get?_insert]
    split
    · rename_i hkey
      subst hkey
      rw [Option.getD_some, mem_insertTexts]
      tauto
    · rename_i hkey
      simp [hkey]

/-- Where there were texts, there are some after others are put among them. -/
theorem insertTexts_ne_nil {xs ys : List String} (h : xs ≠ []) : insertTexts xs ys ≠ [] := by
  obtain ⟨x, hx⟩ := List.exists_mem_of_ne_nil xs h
  exact List.ne_nil_of_mem (mem_insertTexts.mpr (Or.inl hx))

/-! ## Every put keeps it -/

/-- A record under a new key leaves the others in their order. -/
theorem sublist_insert {α : Type} {c : Keyed α} {k : Key} (v : α) (hnew : c.contains k = false) :
    c.entries.Sublist (c.insert k v).entries :=
  Keyed.sublist_insertEntry (Keyed.ne_of_contains hnew)

/-- The new entry of an insertion under a new key. -/
theorem mem_insert_self {α : Type} (c : Keyed α) (k : Key) (v : α) : (k, v) ∈ (c.insert k v).entries :=
  Keyed.mem_of_get? (by rw [Keyed.get?_insert, if_pos rfl])

/-- Aliases added to a location that is there keep the store well-formed. -/
theorem WellFormed.addAliases {m : Memory} (h : m.WellFormed) {k : Key} (names : List String)
    (hk : ∃ l, (k, l) ∈ m.locations.entries) : (m.addAliases k names).WellFormed := by
  have haliases : ∀ e ∈ (m.addAliases k names).aliases.entries,
      (∃ l, (e.1, l) ∈ m.locations.entries) ∧ e.2 ≠ [] :=
    forall_mem_addAliases (fun hne => ⟨hk, insertTexts_ne_nil hne⟩) h.aliasesOfLocations
  rw [addAliases_eq]
  exact { h with aliasesOfLocations := haliases }

/-- Every put keeps a store well-formed. -/
theorem WellFormed.put {m m' : Memory} {record : Put} (h : m.WellFormed) (hput : m.put record = .ok m') :
    m'.WellFormed := by
  cases record with
  | office o =>
    obtain ⟨-, rfl⟩ := putOffice_ok hput
    exact { h with officeKeys := Keyed.forall_mem_insert rfl h.officeKeys }
  | location l =>
    obtain ⟨hnew, rfl⟩ := putLocation_ok hput
    refine WellFormed.addAliases ?_ _ ⟨_, mem_insert_self _ _ _⟩
    exact { h with
      locationKeys := Keyed.forall_mem_insert rfl h.locationKeys
      locationsBare := Keyed.forall_mem_insert rfl h.locationsBare
      aliasesOfLocations := fun e he =>
        have ⟨⟨l', hl'⟩, hne⟩ := h.aliasesOfLocations e he
        ⟨⟨l', (sublist_insert _ hnew).subset hl'⟩, hne⟩ }
  | locationAlias a =>
    obtain ⟨hk, rfl⟩ := putLocationAlias_ok hput
    exact h.addAliases _ (Keyed.contains_iff.mp hk)
  | ratingTemplate t =>
    obtain ⟨hspecs, hnew, rfl⟩ := putTemplate_ok hput
    exact { h with
      templateKeys := Keyed.forall_mem_insert rfl h.templateKeys
      templatesBare := Keyed.forall_mem_insert rfl h.templatesBare
      templatesWithSpecs := Keyed.forall_mem_insert hspecs h.templatesWithSpecs
      specsOfTemplates := fun e he =>
        have ⟨d, hd, hde⟩ := h.specsOfTemplates e he
        ⟨d, (sublist_insert _ hnew).subset hd, hde⟩ }
  | ratingSpec r =>
    obtain ⟨ht, hnew, rfl⟩ := putSpec_ok hput
    obtain ⟨t, ht⟩ := Keyed.contains_iff.mp ht
    have hkey := h.templateKeys _ ht
    simp only [specTemplateKey, templateKey, List.cons.injEq, and_true] at hkey
    exact { h with
      specKeys := Keyed.forall_mem_insert rfl h.specKeys
      specsOfTemplates := Keyed.forall_mem_insert ⟨_, ht, hkey.1.symm, hkey.2.symm⟩ h.specsOfTemplates }
  | waterUser u =>
    obtain ⟨-, rfl⟩ := putWaterUser_ok hput
    exact { h with waterUserKeys := Keyed.forall_mem_insert rfl h.waterUserKeys }

/-- The aliases of a location ascend. -/
theorem Ordered.aliasesOf {m : Memory} (h : m.Ordered) (k : Key) : OrderedTexts (m.aliasesOf k) := by
  unfold Memory.aliasesOf
  cases hk : m.aliases.get? k with
  | none => exact List.Pairwise.nil
  | some texts => exact h.aliasTexts _ (Keyed.mem_of_get? hk)

/-- Aliases are added in order. -/
theorem Ordered.addAliases {m : Memory} (h : m.Ordered) (k : Key) (names : List String) :
    (m.addAliases k names).Ordered := by
  have haliases : (m.addAliases k names).aliases.Ordered := by
    unfold Memory.addAliases
    split
    · exact h.aliases
    · exact h.aliases.insert _ _
  have htexts : ∀ e ∈ (m.addAliases k names).aliases.entries, OrderedTexts e.2 :=
    forall_mem_addAliases (fun _ => (h.aliasesOf k).insertTexts names) h.aliasTexts
  rw [addAliases_eq]
  exact { h with aliases := haliases, aliasTexts := htexts }

/-- Every put keeps a store ordered. -/
theorem Ordered.put {m m' : Memory} {record : Put} (h : m.Ordered) (hput : m.put record = .ok m') : m'.Ordered := by
  cases record with
  | office o =>
    obtain ⟨-, rfl⟩ := putOffice_ok hput
    exact { h with offices := h.offices.insert _ _ }
  | location l =>
    obtain ⟨-, rfl⟩ := putLocation_ok hput
    refine Ordered.addAliases ?_ _ _
    exact { h with locations := h.locations.insert _ _ }
  | locationAlias a =>
    obtain ⟨-, rfl⟩ := putLocationAlias_ok hput
    exact h.addAliases _ _
  | ratingTemplate t =>
    obtain ⟨-, -, rfl⟩ := putTemplate_ok hput
    exact { h with templates := h.templates.insert _ _ }
  | ratingSpec r =>
    obtain ⟨-, -, rfl⟩ := putSpec_ok hput
    exact { h with specs := h.specs.insert _ _ }
  | waterUser u =>
    obtain ⟨-, rfl⟩ := putWaterUser_ok hput
    exact { h with waterUsers := h.waterUsers.insert _ _ }

/-! ## Nothing is taken away -/

/-- A store with all the records of another one, in the same order among each other. -/
structure Extends (m m' : Memory) : Prop where
  /-- The offices are there. -/
  offices : m.offices.entries.Sublist m'.offices.entries
  /-- The locations are there. -/
  locations : m.locations.entries.Sublist m'.locations.entries
  /-- The aliases are there. -/
  aliases : ∀ k, ∀ x ∈ m.aliasesOf k, x ∈ m'.aliasesOf k
  /-- The templates are there. -/
  templates : m.templates.entries.Sublist m'.templates.entries
  /-- The ratings are there. -/
  specs : m.specs.entries.Sublist m'.specs.entries
  /-- The water users are there. -/
  waterUsers : m.waterUsers.entries.Sublist m'.waterUsers.entries

/-- A store extends itself. -/
theorem Extends.refl (m : Memory) : m.Extends m := by
  constructor
  case aliases => exact fun _ _ hx => hx
  all_goals exact List.Sublist.refl _

/-- An extension of an extension is one. -/
theorem Extends.trans {m m' m'' : Memory} (h : m.Extends m') (h' : m'.Extends m'') : m.Extends m'' := by
  constructor
  case aliases => exact fun k x hx => h'.aliases k x (h.aliases k x hx)
  · exact h.offices.trans h'.offices
  · exact h.locations.trans h'.locations
  · exact h.templates.trans h'.templates
  · exact h.specs.trans h'.specs
  · exact h.waterUsers.trans h'.waterUsers

/-- A store with more aliases is an extension. -/
theorem extends_addAliases (m : Memory) (k : Key) (names : List String) : m.Extends (m.addAliases k names) := by
  have haliases : ∀ j, ∀ x ∈ m.aliasesOf j, x ∈ (m.addAliases k names).aliasesOf j :=
    fun j x hx => mem_aliasesOf_addAliases.mpr (Or.inl hx)
  rw [addAliases_eq] at haliases ⊢
  exact { Extends.refl m with aliases := haliases }

/-- A put takes nothing away. -/
theorem extends_put {m m' : Memory} {record : Put} (hput : m.put record = .ok m') : m.Extends m' := by
  cases record with
  | office o =>
    obtain ⟨hnew, rfl⟩ := putOffice_ok hput
    exact { Extends.refl m with offices := sublist_insert o hnew }
  | location l =>
    obtain ⟨hnew, rfl⟩ := putLocation_ok hput
    refine Extends.trans ?_ (extends_addAliases _ _ _)
    exact { Extends.refl m with locations := sublist_insert _ hnew }
  | locationAlias a =>
    obtain ⟨-, rfl⟩ := putLocationAlias_ok hput
    exact extends_addAliases _ _ _
  | ratingTemplate t =>
    obtain ⟨-, hnew, rfl⟩ := putTemplate_ok hput
    exact { Extends.refl m with templates := sublist_insert _ hnew }
  | ratingSpec r =>
    obtain ⟨-, hnew, rfl⟩ := putSpec_ok hput
    exact { Extends.refl m with specs := sublist_insert r hnew }
  | waterUser u =>
    obtain ⟨hnew, rfl⟩ := putWaterUser_ok hput
    exact { Extends.refl m with waterUsers := sublist_insert u hnew }

/-- No run of operations takes anything away. -/
theorem extends_performAll (m : Memory) (operations : List Operation) :
    m.Extends (Backend.performAll m operations).2 :=
  Backend.performAll_keeps (P := m.Extends) (fun _ _ _ h hput => h.trans (extends_put hput)) operations m
    (Extends.refl m)

/-! ## Every run keeps it -/

/-- A store without records is well-formed. -/
theorem wellFormed_empty : empty.WellFormed := by
  constructor <;> exact fun e he => absurd he List.not_mem_nil

/-- A store without records is in order. -/
theorem ordered_empty : empty.Ordered := by
  constructor
  case aliasTexts => exact fun e he => absurd he List.not_mem_nil
  all_goals exact Keyed.ordered_empty

/-- Behind any operations on the empty store, whether they succeed or fail, its collections belong together, and no key
and no alias of a location stands twice. -/
theorem wellFormed_performAll (operations : List Operation) :
    (Backend.performAll (Backend.empty : Memory) operations).2.WellFormed ∧
      (Backend.performAll (Backend.empty : Memory) operations).2.Ordered := by
  constructor
  · exact Backend.performAll_keeps (P := WellFormed) (fun _ _ _ h hput => h.put hput) operations _ wellFormed_empty
  · exact Backend.performAll_keeps (P := Ordered) (fun _ _ _ h hput => h.put hput) operations _ ordered_empty

end BasinRegister.Memory
