import BasinRegister.Proofs.Format.Lookup
import BasinRegister.Proofs.Grouping
import BasinRegister.Proofs.Media.ContentType

/-!
# The catalog of formats

The catalog lists what a registry that was built can be asked for: every registered content type once, in order, with the content
type that it leads to and the kinds that can be had in it (`Registry.catalog_truthful`). The kinds are gathered from all formatters
of a content type, while a request takes the first that declares its kind; the two agree.
-/

namespace BasinRegister

variable {b : Blueprint} {r : Registry} {d : Descriptor} {e : FormatEntry} {contentType canonical : ContentType}

namespace Blueprint

/-- No content type is described twice. -/
theorem nodup_descriptors (hbuild : b.build = .ok r) : (r.descriptors.map (·.contentType)).Nodup := by
  obtain ⟨links, -, hformats, -, hdistinct, hds⟩ := addAliases_eq_ok.mp (build_eq_ok.mp hbuild).2.1
  have hnodup : ((formatDescriptors b.formatters).map (·.contentType)).Nodup := by
    have hself : (Descriptor.contentType ∘ fun contentType => (⟨contentType, none⟩ : Descriptor)) = id := rfl
    rw [formatDescriptors, List.map_map, hself, List.map_id]
    exact nodup_eraseDups _
  rw [hds, List.append_nil, List.map_append, List.nodup_append]
  refine ⟨hnodup, List.pairwise_map.mpr hdistinct, ?_⟩
  rintro _ hformat _ hlink rfl
  obtain ⟨f, hf, rfl⟩ := List.mem_map.mp hformat
  obtain ⟨l, hl, heq⟩ := List.mem_map.mp hlink
  exact find?_eq_none.mp (hformats l hl) f hf heq.symm

end Blueprint

namespace Registry

/-! ## Entries -/

theorem mem_catalog : e ∈ r.catalog ↔ ∃ d ∈ r.descriptors, e = r.entry d := by
  rw [catalog, List.mem_mergeSort, List.mem_map]
  simp only [eq_comm]

/-- Every descriptor of a registry that was built has a canonical content type, which is described as a format. -/
theorem exists_canonical (hbuild : b.build = .ok r) (hd : d ∈ r.descriptors) :
    ∃ canonical, r.canonical? d.contentType = some canonical ∧ r.canonical? canonical = some canonical ∧
      (⟨canonical, none⟩ : Descriptor) ∈ r.descriptors := by
  have hfound : (Descriptor.find? r.descriptors d.contentType).isSome := by
    rw [(Blueprint.describes_of_build hbuild).find?_eq_some.mpr ⟨hd, rfl⟩]
    rfl
  obtain ⟨canonical, hcanonical⟩ := Option.isSome_iff_exists.mp ((Blueprint.isSome_canonical? hbuild).mpr hfound)
  obtain ⟨⟨⟨_, _⟩, hformat, rfl⟩, hself⟩ := Descriptor.find?_of_chainEnd (Blueprint.canonical?_eq_some.mp hcanonical)
  obtain ⟨hmem, rfl⟩ := Descriptor.contentType_of_find? hformat
  exact ⟨_, hcanonical, Blueprint.canonical?_eq_some.mpr hself, hmem⟩

/-- The entry of a descriptor with its canonical content type. -/
theorem entry_eq (h : r.canonical? d.contentType = some canonical) :
    r.entry d = ⟨d.contentType, d.aliasOf.map fun _ => canonical, r.kindsOf canonical⟩ := by
  rw [entry, h]
  cases d.aliasOf <;> rfl

/-- What an entry leads to is its canonical content type. -/
theorem canonical?_of_mem_catalog (hbuild : b.build = .ok r) (he : e ∈ r.catalog) :
    r.canonical? e.contentType = some (e.aliasOf.getD e.contentType) ∧
      e.kinds = r.kindsOf (e.aliasOf.getD e.contentType) := by
  obtain ⟨d, hd, rfl⟩ := mem_catalog.mp he
  obtain ⟨canonical, hcanonical, -, -⟩ := exists_canonical hbuild hd
  rw [entry_eq hcanonical]
  cases hformat : d.aliasOf with
  | none =>
    obtain rfl : canonical = d.contentType :=
      Option.some.inj (hcanonical.symm.trans (canonical?_of_format hbuild hd hformat))
    exact ⟨hcanonical, rfl⟩
  | some target => exact ⟨hcanonical, rfl⟩

/-! ## The catalog -/

/-- What an entry says of a registry is so. -/
structure Tells (b : Blueprint) (r : Registry) (e : FormatEntry) : Prop where
  /-- It names no other content type exactly if its own is that of a formatter. -/
  format : e.aliasOf = none ↔ ∃ f ∈ b.formatters, f.contentType = e.contentType
  /-- The one that it names otherwise is where the aliases lead, and has an entry that names no other and has the same kinds. -/
  leads : ∀ canonical, e.aliasOf = some canonical → b.Leads e.contentType canonical ∧
    ∃ c ∈ r.catalog, c.contentType = canonical ∧ c.aliasOf = none ∧ c.kinds = e.kinds
  /-- Its kinds stand in their order, none twice. -/
  ordered : e.kinds.Pairwise fun a b => a.index < b.index
  /-- A request for its content type is granted for exactly its kinds, and with the content type that it leads to. -/
  request : e.contentType.isAny = false → ∀ requested c, ',' ∉ requested.toList → Accept.candidate? requested = some c →
    c.contentType = e.contentType → c.quality.isPositive = true → ∀ kind,
      ((∃ chosen, r.resolve requested kind = .ok chosen) ↔ kind ∈ e.kinds) ∧
        ∀ chosen, r.resolve requested kind = .ok chosen → chosen.contentType = e.aliasOf.getD e.contentType

/-- Every entry tells the truth: what it says was gathered from the descriptors and formatters that a request is resolved by. -/
theorem tells_of_mem_catalog (hbuild : b.build = .ok r) (he : e ∈ r.catalog) : r.Tells b e := by
  have hdescribes := Blueprint.describes_of_build hbuild
  obtain ⟨hcanonical, hkinds⟩ := canonical?_of_mem_catalog hbuild he
  obtain ⟨d, hd, hentry⟩ := mem_catalog.mp he
  obtain ⟨canonical, hleads, hself, hformat⟩ := exists_canonical hbuild hd
  rw [entry_eq hleads] at hentry
  constructor
  · rw [hentry, Option.map_eq_none_iff]
    constructor
    · intro hnone
      rcases (hdescribes.mem_iff d).mp hd with ⟨f, hf, rfl⟩ | ⟨_, _, -, rfl⟩
      · exact ⟨f, hf, rfl⟩
      · cases hnone
    · rintro ⟨f, hf, heq⟩
      rw [← hdescribes.unique _ ((hdescribes.mem_iff _).mpr (.inl ⟨f, hf, rfl⟩)) d hd heq]
  · intro target htarget
    obtain rfl : canonical = target := by
      rw [hentry] at htarget
      exact (Option.map_eq_some_iff.mp htarget).choose_spec.2
    rw [hentry]
    exact ⟨(Blueprint.canonical?_iff_leads hbuild).mp hleads, r.entry ⟨canonical, none⟩, mem_catalog.mpr ⟨_, hformat, rfl⟩,
      by rw [entry_eq (d := ⟨canonical, none⟩) hself]; exact ⟨rfl, rfl, rfl⟩⟩
  · rw [hkinds]
    exact ascending_kindsOf
  · intro hany requested c hcomma hc hcontentType hpositive kind
    have hwanted : r.wanted c = e.contentType := by
      rw [wanted, hcontentType, hany]
      rfl
    rw [resolve_single hcomma hc hpositive (by rw [hwanted]; exact hcanonical), hkinds]
    exact ⟨exists_lookup_iff, fun chosen hchosen => (of_bind? (lookup_eq_ok.mp hchosen)).1⟩

/-- The catalog of a registry that was built has an entry for every registered content type and for no other one. The entries
ascend strictly, so no content type has two, and what each of them says is so. -/
theorem catalog_truthful (hbuild : b.build = .ok r) :
    (∀ contentType, (∃ e ∈ r.catalog, e.contentType = contentType) ↔ b.Registers contentType) ∧
      (r.catalog.Pairwise fun e f => e.contentType.Precedes f.contentType) ∧ ∀ e ∈ r.catalog, r.Tells b e := by
  refine ⟨?_, ?_, fun e => tells_of_mem_catalog hbuild⟩
  · intro contentType
    rw [← (Blueprint.describes_of_build hbuild).isSome_find?, Descriptor.find?, List.find?_isSome]
    simp only [mem_catalog, decide_eq_true_eq]
    constructor
    · rintro ⟨_, ⟨d, hd, rfl⟩, rfl⟩
      exact ⟨d, hd, rfl⟩
    · rintro ⟨d, hd, rfl⟩
      exact ⟨_, ⟨d, hd, rfl⟩, rfl⟩
  · have hsorted : r.catalog.Pairwise fun e f => e.contentType.le f.contentType = true :=
      List.pairwise_mergeSort (fun e f g => ContentType.le_trans e.contentType f.contentType g.contentType)
        (fun e f => ContentType.le_total e.contentType f.contentType) _
    have hdistinct : r.catalog.Pairwise fun e f => e.contentType ≠ f.contentType := by
      have hperm : (r.catalog.map (·.contentType)).Perm (r.descriptors.map (·.contentType)) := by
        have hentries := (List.mergeSort_perm (r.descriptors.map r.entry) fun e f => e.contentType.le f.contentType).map
          (·.contentType)
        rwa [List.map_map] at hentries
      exact List.pairwise_map.mp (hperm.nodup_iff.mpr (Blueprint.nodup_descriptors hbuild))
    refine hsorted.imp₂ ?_ hdistinct
    intro e f hle hne
    exact (ContentType.le_iff.mp hle).resolve_right hne

/-- An alias of version 2 has the kinds of version 2, and a request for it in capitals gets version 2. -/
theorem catalog_truthful_chained :
    ∃ r, Blueprint.chained.build = .ok r ∧ ∃ e ∈ r.catalog, e.contentType = ⟨"application/json", none⟩ ∧
      e.aliasOf = some ⟨"application/json", some "2"⟩ ∧ .waterUser ∈ e.kinds ∧
      ∃ chosen, r.resolve "Application/JSON;q=0.5" .waterUser = .ok chosen ∧
        chosen.contentType = ⟨"application/json", some "2"⟩ := by
  let d : Descriptor := ⟨⟨"application/json", none⟩, some ⟨"application/json", some "2"⟩⟩
  have hbuilt : (Blueprint.chained.build.toOption.map fun r =>
      (decide (d ∈ r.descriptors), r.canonical? d.contentType,
        r.formatters.any fun f => f.contentType = ⟨"application/json", some "2"⟩ && f.supports .waterUser)) =
      some (true, some ⟨"application/json", some "2"⟩, true) := by
    decide +kernel
  cases hbuild : Blueprint.chained.build with
  | error e => simp [hbuild, Except.toOption] at hbuilt
  | ok r =>
    rw [hbuild] at hbuilt
    obtain ⟨hd, hrest⟩ := Prod.mk.inj (Option.some.inj hbuilt)
    obtain ⟨hcanonical, hwaterUser⟩ := Prod.mk.inj hrest
    obtain ⟨-, -, htells⟩ := catalog_truthful hbuild
    have hmem := mem_catalog.mpr ⟨d, of_decide_eq_true hd, (entry_eq hcanonical).symm⟩
    have hkind : Kind.waterUser ∈ r.kindsOf ⟨"application/json", some "2"⟩ := by
      obtain ⟨f, hf, hdeclares⟩ := List.any_eq_true.mp hwaterUser
      exact mem_kindsOf.mpr ⟨f, hf, by simpa using hdeclares⟩
    have hcandidate : Accept.candidate? "Application/JSON;q=0.5" = some ⟨⟨"application/json", none⟩, ⟨0x3F000000⟩⟩ := by
      decide +kernel
    obtain ⟨hgranted, hcontentType⟩ := (htells _ hmem).request rfl "Application/JSON;q=0.5" _ (by decide) hcandidate rfl
      (by decide) .waterUser
    obtain ⟨chosen, hchosen⟩ := hgranted.mpr hkind
    exact ⟨r, rfl, _, hmem, rfl, rfl, hkind, chosen, hchosen, hcontentType chosen hchosen⟩

end Registry

end BasinRegister
