import BasinRegister.Proofs.Outcome
import BasinRegister.Proofs.Storage.Lookups
import BasinRegister.Proofs.Storage.Seeding
import Mathlib.Data.List.Sort

/-!
# The order in which a store is loaded

Each collection of a store in memory ascends, so a store is the set of what it holds and not the history of its puts
(`Memory.Holds.unique`). Records that go into an empty store in two orders make the same store, and a location with aliases is
the location and then its aliases, in any order and with any repetitions (`Memory.load_order_immaterial`).
-/

namespace BasinRegister

/-! ## Collections with the same contents -/

namespace Keyed

variable {α : Type} {c d : Keyed α}

/-- Keys that ascend do so strictly, and never both ways. -/
instance irrefl_keys : Std.Irrefl fun a b : Key × α => a.1 < b.1 := ⟨fun a => List.lt_irrefl a.1⟩

instance antisymm_keys : Std.Antisymm fun a b : Key × α => a.1 < b.1 :=
  ⟨fun a _ hab hba => absurd (List.lt_trans hab hba) (List.lt_irrefl a.1)⟩

/-- Collections in order are the same if they have the same entries. -/
theorem Ordered.eq_of_mem_iff (hc : c.Ordered) (hd : d.Ordered) (h : ∀ e, e ∈ c.entries ↔ e ∈ d.entries) : c = d := by
  obtain ⟨cs⟩ := c
  obtain ⟨ds⟩ := d
  exact congrArg Keyed.mk (List.Pairwise.eq_of_mem_iff hc hd h)

/-- An entry is a record under its own key. -/
theorem mem_entries_iff {key : α → Key} (hkeys : ∀ e ∈ c.entries, e.1 = key e.2) {e : Key × α} :
    e ∈ c.entries ↔ e.1 = key e.2 ∧ e.2 ∈ c.values := by
  constructor
  · intro he
    exact ⟨hkeys e he, mem_values.mpr ⟨e.1, he⟩⟩
  · rintro ⟨hkey, hvalue⟩
    obtain ⟨k, hk⟩ := mem_values.mp hvalue
    have hsame : k = e.1 := (hkeys _ hk).trans hkey.symm
    rwa [hsame] at hk

/-- Collections in order whose records stand under their own keys are the same if they have the same records. -/
theorem Ordered.eq_of_count [DecidableEq α] {key : α → Key} (hc : c.Ordered) (hd : d.Ordered)
    (hckeys : ∀ e ∈ c.entries, e.1 = key e.2) (hdkeys : ∀ e ∈ d.entries, e.1 = key e.2)
    (h : ∀ v, c.values.count v = d.values.count v) : c = d := by
  refine hc.eq_of_mem_iff hd ?_
  intro e
  rw [mem_entries_iff hckeys, mem_entries_iff hdkeys, ← List.count_pos_iff, ← List.count_pos_iff, h]

theorem insertEntry_insertEntry (k : Key) (v w : α) (es : List (Key × α)) :
    insertEntry k w (insertEntry k v es) = insertEntry k w es := by
  induction es with
  | nil => simp [insertEntry]
  | cons e es ih =>
    obtain ⟨l, u⟩ := e
    by_cases hlt : k < l
    · simp [insertEntry, hlt]
    · by_cases heq : k = l
      · subst heq
        simp only [insertEntry, hlt, ↓reduceIte]
      · simp [insertEntry, hlt, heq, ih]

/-- Of two records under one key the second stays. -/
theorem insert_insert (c : Keyed α) (k : Key) (v w : α) : (c.insert k v).insert k w = c.insert k w :=
  congrArg Keyed.mk (insertEntry_insertEntry k v w c.entries)

end Keyed

/-- Texts in order are the same if they have the same members. -/
theorem OrderedTexts.eq_of_mem_iff {xs ys : List String} (hx : OrderedTexts xs) (hy : OrderedTexts ys)
    (h : ∀ x, x ∈ xs ↔ x ∈ ys) : xs = ys :=
  List.Pairwise.eq_of_mem_iff hx hy h

theorem insertTexts_append (xs ys texts : List String) :
    insertTexts (xs ++ ys) texts = insertTexts ys (insertTexts xs texts) :=
  List.foldl_append

namespace Memory

variable {m m' : Memory}

/-! ## Stores that hold the same records -/

/-- An entry of the aliases is all the aliases of its location, where there are some. -/
theorem WellFormed.mem_aliases_iff (hw : m.WellFormed) (ho : m.Ordered) {k : Key} {names : List String} :
    (k, names) ∈ m.aliases.entries ↔ names = m.aliasesOf k ∧ names ≠ [] := by
  constructor
  · intro he
    have hget : m.aliases.get? k = some names := ho.aliases.get?_eq he
    refine ⟨?_, (hw.aliasesOfLocations _ he).2⟩
    rw [aliasesOf, hget, Option.getD_some]
  · rintro ⟨hnames, hne⟩
    cases hget : m.aliases.get? k with
    | none =>
      rw [aliasesOf, hget, Option.getD_none] at hnames
      exact absurd hnames hne
    | some texts =>
      rw [aliasesOf, hget, Option.getD_some] at hnames
      exact hnames ▸ Keyed.mem_of_get? hget

/-- The aliases of a location are the same in two stores that have each alias equally often. -/
theorem aliasesOf_eq_of_count (ho : m.Ordered) (ho' : m'.Ordered)
    (h : ∀ a, m.count (.locationAlias a) = m'.count (.locationAlias a)) (l : Location) :
    m.aliasesOf (locationKey l) = m'.aliasesOf (locationKey l) := by
  refine (ho.aliasesOf _).eq_of_mem_iff (ho'.aliasesOf _) ?_
  intro x
  have hx : (m.aliasesOf (locationKey l)).count x = (m'.aliasesOf (locationKey l)).count x := h (l.aliasRecord x)
  rw [← List.count_pos_iff, ← List.count_pos_iff, hx]

/-- An entry of the aliases of one store is one of any other store with the same aliases. -/
theorem mem_aliases_of_count (hw : m.WellFormed) (ho : m.Ordered) (hw' : m'.WellFormed) (ho' : m'.Ordered)
    (h : ∀ a, m.count (.locationAlias a) = m'.count (.locationAlias a)) {e : Key × List String} (he : e ∈ m.aliases.entries) :
    e ∈ m'.aliases.entries := by
  obtain ⟨k, names⟩ := e
  obtain ⟨⟨l, hl⟩, -⟩ := hw.aliasesOfLocations _ he
  have hk : k = locationKey l := hw.locationKeys _ hl
  subst hk
  rw [hw.mem_aliases_iff ho, aliasesOf_eq_of_count ho ho' h] at he
  exact (hw'.mem_aliases_iff ho').mpr he

/-- A store is told by how often each record stands in it. -/
theorem eq_of_count (hw : m.WellFormed) (ho : m.Ordered) (hw' : m'.WellFormed) (ho' : m'.Ordered)
    (h : ∀ x, m.count x = m'.count x) : m = m' := by
  have hoffices : m.offices = m'.offices :=
    ho.offices.eq_of_count ho'.offices hw.officeKeys hw'.officeKeys fun o => h (.office o)
  have hlocations : m.locations = m'.locations :=
    ho.locations.eq_of_count ho'.locations hw.locationKeys hw'.locationKeys fun l => h (.location l)
  have haliases : m.aliases = m'.aliases := by
    have hcount (a : LocationAlias) : m.count (.locationAlias a) = m'.count (.locationAlias a) := h _
    refine ho.aliases.eq_of_mem_iff ho'.aliases ?_
    intro e
    exact ⟨mem_aliases_of_count hw ho hw' ho' hcount, mem_aliases_of_count hw' ho' hw ho fun a => (hcount a).symm⟩
  have htemplates : m.templates = m'.templates :=
    ho.templates.eq_of_count ho'.templates hw.templateKeys hw'.templateKeys fun t => h (.template t)
  have hspecs : m.specs = m'.specs :=
    ho.specs.eq_of_count ho'.specs hw.specKeys hw'.specKeys fun r => h (.ratingSpec r)
  have hwaterUsers : m.waterUsers = m'.waterUsers :=
    ho.waterUsers.eq_of_count ho'.waterUsers hw.waterUserKeys hw'.waterUserKeys fun u => h (.waterUser u)
  obtain ⟨offices, locations, aliases, templates, specs, waterUsers⟩ := m
  simp only at hoffices hlocations haliases htemplates hspecs hwaterUsers
  rw [hoffices, hlocations, haliases, htemplates, hspecs, hwaterUsers]

/-- Stores that hold the same records are the same. -/
theorem Holds.unique {ps qs : List Put} (h : m.Holds ps) (h' : m'.Holds qs) (hmem : ∀ p, p ∈ ps ↔ p ∈ qs) : m = m' := by
  refine eq_of_count h.wellFormed h.ordered h'.wellFormed h'.ordered ?_
  intro x
  rw [h.count, h'.count]
  simp only [List.mem_flatMap, hmem]

/-- Behind puts that all succeed a store holds their records as well. -/
theorem Holds.foldlM {before ps : List Put} (h : m.Holds before) (hputs : ps.foldlM Memory.put m = .ok m') :
    m'.Holds (before ++ ps) := by
  induction ps generalizing m before with
  | nil =>
    cases hputs
    rwa [List.append_nil]
  | cons p ps ih =>
    rw [List.foldlM_cons, bind_eq_ok] at hputs
    obtain ⟨next, hput, hputs⟩ := hputs
    have hholds : m'.Holds ((before ++ [p]) ++ ps) := ih (h.put hput) hputs
    rwa [List.append_assoc] at hholds

/-! ## Aliases one by one -/

/-- Aliases that are added in two parts are added. -/
theorem addAliases_addAliases (m : Memory) (k : Key) (xs ys : List String) :
    (m.addAliases k xs).addAliases k ys = m.addAliases k (xs ++ ys) := by
  rcases xs with _ | ⟨x, xs⟩
  · rfl
  rcases ys with _ | ⟨y, ys⟩
  · rw [List.append_nil]
    rfl
  have hadded (zs : List String) (hzs : zs ≠ []) (s : Memory) :
      s.addAliases k zs = { s with aliases := s.aliases.insert k (insertTexts zs (s.aliasesOf k)) } := by
    rw [addAliases, if_neg (by simpa using hzs)]
  have hbetween : (m.addAliases k (x :: xs)).aliasesOf k = insertTexts (x :: xs) (m.aliasesOf k) := by
    rw [hadded _ (by simp), aliasesOf, Keyed.get?_insert, if_pos rfl, Option.getD_some]
  rw [hadded (y :: ys) (by simp), hbetween, hadded (x :: xs) (by simp), hadded _ (by simp), Keyed.insert_insert,
    insertTexts_append]

/-- The order of the aliases that are added does not matter, nor do repetitions. -/
theorem Ordered.addAliases_congr (ho : m.Ordered) (k : Key) {xs ys : List String} (h : ∀ x, x ∈ xs ↔ x ∈ ys) :
    m.addAliases k xs = m.addAliases k ys := by
  have hnone : xs.isEmpty = ys.isEmpty := by
    rw [Bool.eq_iff_iff, List.isEmpty_iff, List.isEmpty_iff, List.eq_nil_iff_forall_not_mem, List.eq_nil_iff_forall_not_mem]
    simp only [h]
  have htexts : insertTexts xs (m.aliasesOf k) = insertTexts ys (m.aliasesOf k) := by
    refine ((ho.aliasesOf k).insertTexts xs).eq_of_mem_iff ((ho.aliasesOf k).insertTexts ys) ?_
    intro x
    rw [mem_insertTexts, mem_insertTexts, h]
  rw [Memory.addAliases, Memory.addAliases, hnone, htexts]

/-- Aliases that are put one after the other to a location that is there are added to it. -/
theorem foldlM_locationAlias (l : Location) (names : List String) (hl : m.locations.contains (locationKey l) = true) :
    (names.map fun x => Put.locationAlias (l.aliasRecord x)).foldlM Memory.put m =
      .ok (m.addAliases (locationKey l) names) := by
  induction names generalizing m with
  | nil => rfl
  | cons x names ih =>
    have hput : m.put (.locationAlias (l.aliasRecord x)) = .ok (m.addAliases (locationKey l) [x]) := by
      rw [Memory.put, putLocationAlias, show aliasKey (l.aliasRecord x) = locationKey l from rfl, if_pos hl]
      rfl
    have hthere : (m.addAliases (locationKey l) [x]).locations.contains (locationKey l) = true := by
      rw [addAliases_eq]
      exact hl
    rw [List.map_cons, List.foldlM_cons, hput]
    exact (ih hthere).trans (congrArg Except.ok (addAliases_addAliases m _ [x] names))

/-- A location with aliases is put like the location without them and then each of them, whatever the order and the repetitions. -/
theorem Ordered.put_location_eq (ho : m.Ordered) (l : Location) {names : List String} (h : ∀ x, x ∈ names ↔ x ∈ l.aliases) :
    m.put (.location l) =
      (.location l.withoutAliases :: names.map fun x => .locationAlias (l.aliasRecord x)).foldlM Memory.put m := by
  have hbare : m.put (.location l.withoutAliases) = if m.locations.contains (locationKey l) then .error (.locationExists l)
      else .ok { m with locations := m.locations.insert (locationKey l) l.withoutAliases } := rfl
  rw [List.foldlM_cons, hbare, Memory.put, putLocation]
  split
  · rfl
  · have hplaced : ({ m with locations := m.locations.insert (locationKey l) l.withoutAliases } : Memory).Ordered :=
      { ho with locations := ho.locations.insert _ _ }
    have hthere : (m.locations.insert (locationKey l) l.withoutAliases).contains (locationKey l) = true :=
      Keyed.contains_iff.mpr ⟨_, mem_insert_self _ _ _⟩
    exact ((foldlM_locationAlias l names hthere).trans (congrArg Except.ok (hplaced.addAliases_congr _ h))).symm

/-! ## Any order -/

/-- Loading order does not matter. Puts that all succeed on an empty store make the same store in every order in which they do,
so that all later look-ups and pages answer alike, and that store holds their records; and in every store a location with aliases
is put, or refused, like the location without them and then each alias, in any order and with any repetitions. -/
theorem load_order_immaterial :
    (∀ ps qs : List Put, ps.Perm qs → ∀ m m' : Memory,
      ps.foldlM Memory.put empty = .ok m → qs.foldlM Memory.put empty = .ok m' → m = m' ∧ m.Holds ps) ∧
    ∀ m : Memory, m.Reachable → ∀ (l : Location) (names : List String), (∀ x, x ∈ names ↔ x ∈ l.aliases) →
      m.put (.location l) =
        (.location l.withoutAliases :: names.map fun x => .locationAlias (l.aliasRecord x)).foldlM Memory.put m := by
  constructor
  · intro ps qs hperm m m' hps hqs
    have hholds : m.Holds ps := holds_empty.foldlM hps
    exact ⟨hholds.unique (holds_empty.foldlM hqs) fun p => hperm.mem_iff, hholds⟩
  · intro m hreachable l names hnames
    exact hreachable.ordered.put_location_eq l hnames

/-- Two locations, one with an alias of each kind, and a rating on its template. -/
def sitesFirst : List Put :=
  [.location (siteOf "SWT" "TENK" ["Tenkiller"]), .locationAlias { officeId := "SWT", locationId := "TENK", aliasId := "TENO2" },
    .location (siteOf "SWT" "KEYS" []), .ratingTemplate (linearTemplate "Elev"),
    .ratingSpec { officeId := "SWT", ratingId := "KEYS.1", templateId := "Elev", aliasedItem := none }]

/-- The same records in another order. -/
def ratingsFirst : List Put :=
  [.ratingTemplate (linearTemplate "Elev"), .location (siteOf "SWT" "KEYS" []),
    .ratingSpec { officeId := "SWT", ratingId := "KEYS.1", templateId := "Elev", aliasedItem := none },
    .location (siteOf "SWT" "TENK" ["Tenkiller"]), .locationAlias { officeId := "SWT", locationId := "TENK", aliasId := "TENO2" }]

/-- Both orders make one store, and a location with two aliases is put like the location and then its aliases, one of them twice. -/
theorem load_order_immaterial_sites :
    sitesFirst.Perm ratingsFirst ∧
    (∃ m, sitesFirst.foldlM Memory.put empty = .ok m ∧ ratingsFirst.foldlM Memory.put empty = .ok m) ∧
    namesakes.Reachable ∧ (∀ x, x ∈ ["B", "A", "B"] ↔ x ∈ (siteOf "SWT" "FOSS" ["A", "B"]).aliases) ∧
    namesakes.put (.location (siteOf "SWT" "FOSS" ["A", "B"])) =
      (.location (siteOf "SWT" "FOSS" []) :: ["B", "A", "B"].map fun x =>
        .locationAlias ((siteOf "SWT" "FOSS" ["A", "B"]).aliasRecord x)).foldlM Memory.put namesakes := by
  have hperm : sitesFirst.Perm ratingsFirst := by decide
  have hreachable : namesakes.Reachable := ⟨_, rfl⟩
  have hnames (x : String) : x ∈ ["B", "A", "B"] ↔ x ∈ (siteOf "SWT" "FOSS" ["A", "B"]).aliases := by
    simp only [siteOf, List.mem_cons, List.not_mem_nil, or_false]
    tauto
  obtain ⟨m, hm⟩ : ∃ m, sitesFirst.foldlM Memory.put empty = .ok m := ⟨_, rfl⟩
  obtain ⟨m', hm'⟩ : ∃ m', ratingsFirst.foldlM Memory.put empty = .ok m' := ⟨_, rfl⟩
  have hsame : m = m' := (load_order_immaterial.1 sitesFirst ratingsFirst hperm m m' hm hm').1
  exact ⟨hperm, ⟨m, hm, hsame ▸ hm'⟩, hreachable, hnames, load_order_immaterial.2 namesakes hreachable _ _ hnames⟩

end Memory

end BasinRegister
