import BasinRegister.Proofs.Storage.Memory
import BasinRegister.Proofs.Storage.Relational
import BasinRegister.Proofs.Storage.Scripts

/-!
# What puts do to a store

A put either does all it is to do or nothing (`put_settled`): the records of every kind are counted before and behind it. Behind a put
that succeeds each record that it is to add stands once, and all others as often as before.
-/

namespace BasinRegister

/-! ## Counting records -/

/-- A record as it stands in a store, which may have a form of its own for templates. -/
inductive StoredRecord (τ : Type) where
  /-- An office. -/
  | office (record : Office)
  /-- A location without its aliases. -/
  | location (record : Location)
  /-- An alias of a location. -/
  | locationAlias (record : LocationAlias)
  /-- A template without its ratings. -/
  | template (record : τ)
  /-- A rating. -/
  | ratingSpec (record : RatingSpec)
  /-- A water user. -/
  | waterUser (record : WaterUser)
  deriving DecidableEq

/-- The alias of a location as a record. -/
def Location.aliasRecord (l : Location) (aliasId : String) : LocationAlias :=
  { officeId := l.officeId, locationId := l.name, aliasId }

/-- The records that a put is to add to a store that has these forms for locations and for templates. -/
def Put.stored {τ : Type} (location : Location → Location) (template : RatingTemplate → τ) : Put → List (StoredRecord τ)
  | .office o => [.office o]
  | .location l => .location (location l) :: l.aliases.map fun aliasId => .locationAlias (l.aliasRecord aliasId)
  | .locationAlias a => [.locationAlias a]
  | .ratingTemplate t => [.template (template t)]
  | .ratingSpec r => [.ratingSpec r]
  | .waterUser u => [.waterUser u]

/-- How often a record stands in a store in memory. -/
def Memory.count (m : Memory) : StoredRecord RatingTemplate → Nat
  | .office o => m.offices.values.count o
  | .location l => m.locations.values.count l
  | .locationAlias a => (m.aliasesOf (Memory.aliasKey a)).count a.aliasId
  | .template t => m.templates.values.count t
  | .ratingSpec r => m.specs.values.count r
  | .waterUser u => m.waterUsers.values.count u

/-- How often a record stands in a relational store. -/
def Relational.count (r : Relational) : StoredRecord TemplateRow → Nat
  | .office o => r.offices.count o
  | .location l => r.locations.count l
  | .locationAlias a => r.aliases.count a
  | .template t => r.templates.count t
  | .ratingSpec s => r.specs.count s
  | .waterUser u => r.waterUsers.count u

/-- A location stores its own aliases. -/
theorem mem_stored_location {τ : Type} {location : Location → Location} {template : RatingTemplate → τ} {l : Location}
    {a : LocationAlias} :
    StoredRecord.locationAlias a ∈ (Put.location l).stored location template ↔
      Memory.aliasKey a = Memory.locationKey l ∧ a.aliasId ∈ l.aliases := by
  obtain ⟨officeId, locationId, aliasId⟩ := a
  simp only [Put.stored, List.mem_cons, reduceCtorEq, List.mem_map, StoredRecord.locationAlias.injEq, false_or,
    Location.aliasRecord, LocationAlias.mk.injEq, Memory.aliasKey, Memory.locationKey, List.cons.injEq, and_true]
  constructor
  · rintro ⟨x, hx, rfl, rfl, rfl⟩
    exact ⟨⟨rfl, rfl⟩, hx⟩
  · rintro ⟨⟨rfl, rfl⟩, hx⟩
    exact ⟨aliasId, hx, rfl, rfl, rfl⟩

/-- A record with one more behind the others, which is not among them. -/
theorem count_append_new {α : Type} [DecidableEq α] {rows : List α} {v : α} (hnew : v ∉ rows) (x : α) :
    (rows ++ [v]).count x = if x = v then 1 else rows.count x := by
  rw [List.count_append, List.count_singleton]
  split
  · rename_i h
    obtain rfl := eq_of_beq h
    rw [if_pos rfl, List.count_eq_zero_of_not_mem hnew]
  · rename_i h
    rw [if_neg fun hx => h (by rw [hx, beq_self_eq_true]), Nat.add_zero]

/-! ## The store in memory -/

namespace Keyed

variable {α : Type} {m : Keyed α} {key : α → Key}

/-- No record has a key without a record. -/
theorem not_mem_values_of_contains (hkeys : ∀ e ∈ m.entries, e.1 = key e.2) {k : Key} (hnew : m.contains k = false)
    {v : α} (hv : key v = k) : v ∉ m.values := by
  intro hmem
  obtain ⟨l, hl⟩ := mem_values.mp hmem
  exact ne_of_contains hnew _ hl ((hkeys _ hl).trans hv)

/-- A record put under a new key of its own stands there once. -/
theorem count_values_insert [DecidableEq α] (hkeys : ∀ e ∈ m.entries, e.1 = key e.2) {k : Key}
    (hnew : m.contains k = false) {v : α} (hv : key v = k) (x : α) :
    (m.insert k v).values.count x = if x = v then 1 else m.values.count x := by
  rw [(perm_values_insert hnew v).count_eq, count_append_new (not_mem_values_of_contains hkeys hnew hv)]

end Keyed

namespace Memory

variable {m m' : Memory}

/-- Aliases that are added stand there once. -/
theorem count_aliasesOf_addAliases (ho : m.Ordered) (k : Key) (names : List String) (j : Key) (x : String) :
    ((m.addAliases k names).aliasesOf j).count x = if j = k ∧ x ∈ names then 1 else (m.aliasesOf j).count x := by
  rw [((ho.addAliases k names).aliasesOf j).nodup.count, (ho.aliasesOf j).nodup.count]
  simp only [mem_aliasesOf_addAliases]
  by_cases hadded : j = k ∧ x ∈ names <;> simp [hadded]

/-- Aliases are added to no other records. -/
theorem count_addAliases (m : Memory) (k : Key) (names : List String) (x : StoredRecord RatingTemplate)
    (hx : ∀ a, x ≠ .locationAlias a) : (m.addAliases k names).count x = m.count x := by
  rw [addAliases_eq]
  cases x with
  | locationAlias a => exact absurd rfl (hx a)
  | _ => rfl

/-- A put in memory leaves what it is to add once, and everything else as often as it was there. -/
theorem count_put {record : Put} (hw : m.WellFormed) (ho : m.Ordered) (hput : m.put record = .ok m')
    (x : StoredRecord RatingTemplate) :
    m'.count x = if x ∈ record.stored Location.withoutAliases RatingTemplate.withoutRatings then 1 else m.count x := by
  cases record with
  | office o =>
    obtain ⟨hnew, rfl⟩ := putOffice_ok hput
    cases x with
    | office p => simpa [Put.stored, count] using Keyed.count_values_insert hw.officeKeys hnew rfl p
    | _ => simp [Put.stored, count, aliasesOf]
  | location l =>
    obtain ⟨hnew, rfl⟩ := putLocation_ok hput
    have hordered : ({ m with locations := m.locations.insert (locationKey l) l.withoutAliases } : Memory).Ordered :=
      { ho with locations := ho.locations.insert _ _ }
    cases x with
    | location p =>
      rw [count_addAliases _ _ _ _ (by simp)]
      simpa [Put.stored, count] using Keyed.count_values_insert (v := l.withoutAliases) hw.locationKeys hnew rfl p
    | locationAlias a =>
      simp only [mem_stored_location, count, count_aliasesOf_addAliases hordered]
      rfl
    | _ =>
      rw [count_addAliases _ _ _ _ (by simp)]
      simp [Put.stored, count]
  | locationAlias a =>
    obtain ⟨-, rfl⟩ := putLocationAlias_ok hput
    cases x with
    | locationAlias b =>
      obtain ⟨officeId, locationId, aliasId⟩ := a
      obtain ⟨officeId', locationId', aliasId'⟩ := b
      simp [Put.stored, count, count_aliasesOf_addAliases ho, aliasKey, and_assoc]
    | _ =>
      rw [count_addAliases _ _ _ _ (by simp)]
      simp [Put.stored]
  | ratingTemplate t =>
    obtain ⟨-, hnew, rfl⟩ := putTemplate_ok hput
    cases x with
    | template u =>
      simpa [Put.stored, count] using Keyed.count_values_insert (v := t.withoutRatings) hw.templateKeys hnew rfl u
    | _ => simp [Put.stored, count, aliasesOf]
  | ratingSpec r =>
    obtain ⟨-, hnew, rfl⟩ := putSpec_ok hput
    cases x with
    | ratingSpec s => simpa [Put.stored, count] using Keyed.count_values_insert hw.specKeys hnew rfl s
    | _ => simp [Put.stored, count, aliasesOf]
  | waterUser u =>
    obtain ⟨hnew, rfl⟩ := putWaterUser_ok hput
    cases x with
    | waterUser v => simpa [Put.stored, count] using Keyed.count_values_insert hw.waterUserKeys hnew rfl v
    | _ => simp [Put.stored, count, aliasesOf]

/-- A location that is not there has no aliases. -/
theorem WellFormed.aliasesOf_eq_nil (hw : m.WellFormed) {k : Key} (h : m.locations.contains k = false) :
    m.aliasesOf k = [] := by
  unfold aliasesOf
  cases hk : m.aliases.get? k with
  | none => rfl
  | some names =>
    obtain ⟨⟨l, hl⟩, -⟩ := hw.aliasesOfLocations _ (Keyed.mem_of_get? hk)
    exact absurd rfl (Keyed.ne_of_contains h _ hl)

/-- Nothing that a put adds was there before, unless it is an alias on its own. -/
theorem count_eq_zero_of_put {record : Put} (hw : m.WellFormed) (hput : m.put record = .ok m')
    (hrecord : ∀ a, record ≠ .locationAlias a) {x : StoredRecord RatingTemplate}
    (hx : x ∈ record.stored Location.withoutAliases RatingTemplate.withoutRatings) : m.count x = 0 := by
  cases record with
  | office o =>
    obtain ⟨hnew, -⟩ := putOffice_ok hput
    rw [List.mem_singleton.mp hx]
    exact List.count_eq_zero_of_not_mem (Keyed.not_mem_values_of_contains hw.officeKeys hnew rfl)
  | location l =>
    obtain ⟨hnew, -⟩ := putLocation_ok hput
    rcases List.mem_cons.mp hx with rfl | hx
    · exact List.count_eq_zero_of_not_mem (Keyed.not_mem_values_of_contains hw.locationKeys hnew rfl)
    · obtain ⟨aliasId, -, rfl⟩ := List.mem_map.mp hx
      have hnone : m.aliasesOf (aliasKey (l.aliasRecord aliasId)) = [] := hw.aliasesOf_eq_nil hnew
      rw [count, hnone, List.count_nil]
  | locationAlias a => exact absurd rfl (hrecord a)
  | ratingTemplate t =>
    obtain ⟨-, hnew, -⟩ := putTemplate_ok hput
    rw [List.mem_singleton.mp hx]
    exact List.count_eq_zero_of_not_mem (Keyed.not_mem_values_of_contains hw.templateKeys hnew rfl)
  | ratingSpec r =>
    obtain ⟨-, hnew, -⟩ := putSpec_ok hput
    rw [List.mem_singleton.mp hx]
    exact List.count_eq_zero_of_not_mem (Keyed.not_mem_values_of_contains hw.specKeys hnew rfl)
  | waterUser u =>
    obtain ⟨hnew, -⟩ := putWaterUser_ok hput
    rw [List.mem_singleton.mp hx]
    exact List.count_eq_zero_of_not_mem (Keyed.not_mem_values_of_contains hw.waterUserKeys hnew rfl)

end Memory

/-! ## The relational store -/

namespace Relational

variable {r r' : Relational}

/-- Every alias belongs to a location that is there, and none has two rows. -/
structure AliasesPlaced (r : Relational) : Prop where
  /-- Every alias belongs to a location that is there. -/
  ofLocations : ∀ a ∈ r.aliases, ∃ l ∈ r.locations, l.officeId = a.officeId ∧ l.name = a.locationId
  /-- No alias has two rows. -/
  once : r.aliases.Nodup

/-! ### What each put does -/

/-- An office that is put has a name of its own and a row behind the others. -/
theorem putOffice_eq_ok {o : Office} (h : r.putOffice o = .ok r') :
    (∀ p ∈ r.offices, p.name ≠ o.name) ∧ r' = { r with offices := r.offices ++ [o] } := by
  unfold putOffice at h
  split at h
  · cases h
  · rename_i hnew
    cases h
    exact ⟨by simpa using hnew, rfl⟩

/-- A location that is put has a name of its own in its office, a row and its aliases. -/
theorem putLocation_eq_ok {l : Location} (h : r.putLocation l = .ok r') :
    (∀ p ∈ r.locations, p.officeId = l.officeId → p.name ≠ l.name) ∧
      r' = { r with
        locations := r.locations ++ [keptLocation l]
        aliases := (l.aliases.map l.aliasRecord).foldl addAlias r.aliases } := by
  unfold putLocation at h
  split at h
  · cases h
  · rename_i hnew
    cases h
    exact ⟨by simpa using hnew, rfl⟩

/-- An alias that is put belongs to a location that is there. -/
theorem putLocationAlias_eq_ok {a : LocationAlias} (h : r.putLocationAlias a = .ok r') :
    (∃ p ∈ r.locations, p.officeId = a.officeId ∧ p.name = a.locationId) ∧
      r' = { r with aliases := [a].foldl addAlias r.aliases } := by
  unfold putLocationAlias at h
  split at h
  · rename_i hthere
    cases h
    exact ⟨by simpa using hthere, rfl⟩
  · cases h

/-- A template that is put has an identifier of its own in its office and a row. -/
theorem putTemplate_eq_ok {t : RatingTemplate} (h : r.putTemplate t = .ok r') :
    (∀ p ∈ r.templates, p.officeId = t.officeId → p.id ≠ t.id) ∧
      r' = { r with templates := r.templates ++ [TemplateRow.ofTemplate t] } := by
  unfold putTemplate at h
  split at h
  · cases h
  · split at h
    · cases h
    · rename_i hnew
      cases h
      exact ⟨by simpa using hnew, rfl⟩

/-- A rating that is put has an identifier of its own in its office and a row. -/
theorem putSpec_eq_ok {s : RatingSpec} (h : r.putSpec s = .ok r') :
    (∀ p ∈ r.specs, p.officeId = s.officeId → p.ratingId ≠ s.ratingId) ∧ r' = { r with specs := r.specs ++ [s] } := by
  unfold putSpec at h
  split at h
  · cases h
  · split at h
    · cases h
    · rename_i hnew
      cases h
      exact ⟨by simpa using hnew, rfl⟩

/-- A water user that is put has a name of its own in its project and a row. -/
theorem putWaterUser_eq_ok {u : WaterUser} (h : r.putWaterUser u = .ok r') :
    (∀ p ∈ r.waterUsers, p.projectId = u.projectId → p.entityName ≠ u.entityName) ∧
      r' = { r with waterUsers := r.waterUsers ++ [u] } := by
  unfold putWaterUser at h
  split at h
  · cases h
  · rename_i hnew
    cases h
    exact ⟨by simpa using hnew, rfl⟩

/-! ### Rows -/

/-- Aliases that are added stand there once. -/
theorem count_foldl_addAlias {rows : List LocationAlias} (h : rows.Nodup) (added : List LocationAlias)
    (a : LocationAlias) : (added.foldl addAlias rows).count a = if a ∈ added then 1 else rows.count a := by
  rw [(nodup_foldl_addAlias h added).count, h.count]
  simp only [mem_foldl_addAlias]
  by_cases hadded : a ∈ added <;> simp [hadded]

/-- Aliases that are added to locations that are there are placed. -/
theorem AliasesPlaced.addAliases (h : r.AliasesPlaced) {locations : List Location} (hmore : r.locations ⊆ locations)
    {added : List LocationAlias}
    (hadded : ∀ a ∈ added, ∃ l ∈ locations, l.officeId = a.officeId ∧ l.name = a.locationId) :
    ({ r with locations, aliases := added.foldl addAlias r.aliases } : Relational).AliasesPlaced := by
  refine ⟨?_, nodup_foldl_addAlias h.once added⟩
  intro a ha
  rcases mem_foldl_addAlias.mp ha with ha | ha
  · obtain ⟨l, hl, hkey⟩ := h.ofLocations a ha
    exact ⟨l, hmore hl, hkey⟩
  · exact hadded a ha

/-- Every put places its aliases. -/
theorem AliasesPlaced.put {record : Put} (h : r.AliasesPlaced) (hput : r.put record = .ok r') : r'.AliasesPlaced := by
  cases record with
  | office o =>
    obtain ⟨-, rfl⟩ := putOffice_eq_ok hput
    exact ⟨h.ofLocations, h.once⟩
  | location l =>
    obtain ⟨-, rfl⟩ := putLocation_eq_ok hput
    refine h.addAliases (List.subset_append_left _ _) ?_
    intro a ha
    obtain ⟨aliasId, -, rfl⟩ := List.mem_map.mp ha
    exact ⟨keptLocation l, by simp, rfl, rfl⟩
  | locationAlias a =>
    obtain ⟨hthere, rfl⟩ := putLocationAlias_eq_ok hput
    refine h.addAliases (List.Subset.refl _) ?_
    intro b hb
    rwa [List.mem_singleton.mp hb]
  | ratingTemplate t =>
    obtain ⟨-, rfl⟩ := putTemplate_eq_ok hput
    exact ⟨h.ofLocations, h.once⟩
  | ratingSpec s =>
    obtain ⟨-, rfl⟩ := putSpec_eq_ok hput
    exact ⟨h.ofLocations, h.once⟩
  | waterUser u =>
    obtain ⟨-, rfl⟩ := putWaterUser_eq_ok hput
    exact ⟨h.ofLocations, h.once⟩

/-! ### Counts -/

/-- Nothing that a put adds was there before, unless it is an alias on its own. -/
theorem count_eq_zero_of_put {record : Put} (h : r.AliasesPlaced) (hput : r.put record = .ok r')
    (hrecord : ∀ a, record ≠ .locationAlias a) {x : StoredRecord TemplateRow}
    (hx : x ∈ record.stored keptLocation TemplateRow.ofTemplate) : r.count x = 0 := by
  cases record with
  | office o =>
    obtain ⟨hnew, -⟩ := putOffice_eq_ok hput
    rw [List.mem_singleton.mp hx]
    exact List.count_eq_zero_of_not_mem fun hmem => hnew o hmem rfl
  | location l =>
    obtain ⟨hnew, -⟩ := putLocation_eq_ok hput
    rcases List.mem_cons.mp hx with rfl | hx
    · exact List.count_eq_zero_of_not_mem fun hmem => hnew (keptLocation l) hmem rfl rfl
    · obtain ⟨aliasId, -, rfl⟩ := List.mem_map.mp hx
      refine List.count_eq_zero_of_not_mem fun hmem => ?_
      obtain ⟨p, hp, hoffice, hname⟩ := h.ofLocations _ hmem
      exact hnew p hp hoffice hname
  | locationAlias a => exact absurd rfl (hrecord a)
  | ratingTemplate t =>
    obtain ⟨hnew, -⟩ := putTemplate_eq_ok hput
    rw [List.mem_singleton.mp hx]
    exact List.count_eq_zero_of_not_mem fun hmem => hnew (TemplateRow.ofTemplate t) hmem rfl rfl
  | ratingSpec s =>
    obtain ⟨hnew, -⟩ := putSpec_eq_ok hput
    rw [List.mem_singleton.mp hx]
    exact List.count_eq_zero_of_not_mem fun hmem => hnew s hmem rfl rfl
  | waterUser u =>
    obtain ⟨hnew, -⟩ := putWaterUser_eq_ok hput
    rw [List.mem_singleton.mp hx]
    exact List.count_eq_zero_of_not_mem fun hmem => hnew u hmem rfl rfl

/-- A put into tables leaves what it is to add once, and everything else as often as it was there. -/
theorem count_put {record : Put} (h : r.AliasesPlaced) (hput : r.put record = .ok r') (x : StoredRecord TemplateRow) :
    r'.count x = if x ∈ record.stored keptLocation TemplateRow.ofTemplate then 1 else r.count x := by
  cases record with
  | office o =>
    obtain ⟨hnew, rfl⟩ := putOffice_eq_ok hput
    cases x with
    | office p => simpa [Put.stored, count] using count_append_new (fun hmem => hnew o hmem rfl) p
    | _ => simp [Put.stored, count]
  | location l =>
    obtain ⟨hnew, rfl⟩ := putLocation_eq_ok hput
    cases x with
    | location p =>
      simpa [Put.stored, count] using count_append_new (fun hmem => hnew (keptLocation l) hmem rfl rfl) p
    | locationAlias a => simpa [Put.stored, count] using count_foldl_addAlias h.once (l.aliases.map l.aliasRecord) a
    | _ => simp [Put.stored, count]
  | locationAlias a =>
    obtain ⟨-, rfl⟩ := putLocationAlias_eq_ok hput
    cases x with
    | locationAlias b => simpa [Put.stored, count] using count_foldl_addAlias h.once [a] b
    | _ => simp [Put.stored, count]
  | ratingTemplate t =>
    obtain ⟨hnew, rfl⟩ := putTemplate_eq_ok hput
    cases x with
    | template row =>
      simpa [Put.stored, count] using count_append_new (fun hmem => hnew (TemplateRow.ofTemplate t) hmem rfl rfl) row
    | _ => simp [Put.stored, count]
  | ratingSpec s =>
    obtain ⟨hnew, rfl⟩ := putSpec_eq_ok hput
    cases x with
    | ratingSpec q => simpa [Put.stored, count] using count_append_new (fun hmem => hnew s hmem rfl rfl) q
    | _ => simp [Put.stored, count]
  | waterUser u =>
    obtain ⟨hnew, rfl⟩ := putWaterUser_eq_ok hput
    cases x with
    | waterUser v => simpa [Put.stored, count] using count_append_new (fun hmem => hnew u hmem rfl rfl) v
    | _ => simp [Put.stored, count]

end Relational

/-! ## All or nothing -/

/-- What may come of the steps of a put into a store that counts its records, where calls fail by faults. -/
structure Settled {σ τ : Type} [Backend σ] [DecidableEq τ] (count : σ → StoredRecord τ → Nat)
    (stored : List (StoredRecord τ)) (s : σ) (record : Put) (faults : Faults) (result : Option StorageError × σ) : Prop where
  /-- Where the put fails, the store is as it was. -/
  unchanged : ∀ e, result.1 = some e → result.2 = s
  /-- It fails for a fault, or because the store refuses the record. -/
  cause : ∀ e, result.1 = some e → Backend.put s record = .error e ∨ ∃ i, faults i = some e
  /-- Where it does not fail, the store takes the record. -/
  taken : result.1 = none → Backend.perform s (.put record) = (.stored, result.2)
  /-- Then every record that is to be added stands there once, and every other as often as before. -/
  added : result.1 = none → ∀ x, count result.2 x = if x ∈ stored then 1 else count s x
  /-- None of those records was there before, unless the put is one of an alias on its own. -/
  new : result.1 = none → (∀ a, record ≠ .locationAlias a) → ∀ x ∈ stored, count s x = 0

/-- The steps of a put settle it if they are whole and come to the put. -/
theorem Settled.of_script {σ τ : Type} [Backend σ] [DecidableEq τ] {count : σ → StoredRecord τ → Nat}
    {stored : List (StoredRecord τ)} {s : σ} {record : Put} {script : Script σ} (hwhole : script.Whole)
    (hrun : script.run Faults.absent s = outcome s (Backend.put s record))
    (hadded : ∀ s', Backend.put s record = .ok s' → ∀ x, count s' x = if x ∈ stored then 1 else count s x)
    (hnew : ∀ s', Backend.put s record = .ok s' → (∀ a, record ≠ .locationAlias a) → ∀ x ∈ stored, count s x = 0)
    (faults : Faults) : Settled count stored s record faults (script.run faults s) := by
  have hput : (script.run faults s).1 = none → Backend.put s record = .ok (script.run faults s).2 := by
    intro hnone
    rcases script.run_cases faults s with hsame | ⟨e, left, hfailed, -⟩
    · rw [hsame, hrun] at hnone ⊢
      cases hresult : Backend.put s record with
      | ok s' => rfl
      | error e =>
        rw [hresult] at hnone
        cases hnone
    · rw [hfailed] at hnone
      cases hnone
  refine ⟨?_, ?_, ?_, fun hnone => hadded _ (hput hnone), fun hnone => hnew _ (hput hnone)⟩
  · intro e he
    exact hwhole.unchanged (Prod.ext he rfl)
  · intro e he
    rcases script.run_cases faults s with hsame | ⟨e', left, hfailed, hfault⟩
    · rw [hsame, hrun] at he
      cases hresult : Backend.put s record with
      | ok s' =>
        rw [hresult] at he
        cases he
      | error e' =>
        rw [hresult] at he
        cases he
        exact .inl rfl
    · rw [hfailed] at he
      cases he
      exact .inr hfault
  · intro hnone
    rw [Backend.perform, hput hnone]

/-- Every put into every store, whatever was done with the store before and whichever of its calls fail, does all it is to do
or nothing. Where it fails, the store is as it was. Where it does not, each record that it is to add stands there once: a
location together with its aliases, and a template without its ratings. All other records of every kind stand there as often
as before. A relational store has a form of its own for templates and for the coordinates of locations. -/
theorem put_settled (operations : List Operation) (record : Put) (faults : Faults) :
    let m := (Backend.performAll (Backend.empty : Memory) operations).2
    let r := (Backend.performAll (Backend.empty : Relational) operations).2
    Settled Memory.count (record.stored Location.withoutAliases RatingTemplate.withoutRatings) m record faults
      ((Memory.script record).run faults m) ∧
    Settled Relational.count (record.stored Relational.keptLocation TemplateRow.ofTemplate) r record faults
      ((Relational.script record).run faults r) := by
  constructor
  · have hw := Backend.performAll_keeps (P := Memory.WellFormed) (fun _ _ _ h hput => h.put hput) operations _
      Memory.wellFormed_empty
    have ho := Backend.performAll_keeps (P := Memory.Ordered) (fun _ _ _ h hput => h.put hput) operations _
      Memory.ordered_empty
    refine .of_script (Memory.whole_script record) (Memory.run_script _ record) ?_ ?_ faults
    · intro m' hput x
      exact Memory.count_put hw ho hput x
    · intro m' hput hrecord x hx
      exact Memory.count_eq_zero_of_put hw hput hrecord hx
  · have hempty : Relational.empty.AliasesPlaced := ⟨fun a ha => absurd ha List.not_mem_nil, List.nodup_nil⟩
    have hplaced := Backend.performAll_keeps (P := Relational.AliasesPlaced) (fun _ _ _ h hput => h.put hput) operations _
      hempty
    refine .of_script (Relational.whole_script record) (Relational.run_script _ record) ?_ ?_ faults
    · intro r' hput x
      exact Relational.count_put hplaced hput x
    · intro r' hput hrecord x hx
      exact Relational.count_eq_zero_of_put hplaced hput hrecord hx

/-- A location whose latitude is not a number. -/
def locationAtNoNumber : Location :=
  { officeId := "SWT"
    name := "KEYS"
    latitude := some .notANumber
    longitude := some ⟨0xC058100000000000⟩
    horizontalDatum := none
    timezoneName := none
    locationKind := none
    publicName := none
    active := true
    aliases := [] }

/-- A relational store takes such a location and adds another one, which has no latitude. -/
theorem count_locationAtNoNumber :
    ∃ r, (Backend.put Relational.empty (.location locationAtNoNumber) : Except StorageError Relational) = .ok r ∧
      r.count (.location locationAtNoNumber.withoutAliases) = 0 ∧
      r.count (.location { locationAtNoNumber with latitude := none }) = 1 :=
  ⟨_, rfl, by decide, by decide⟩

end BasinRegister
