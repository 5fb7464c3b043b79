import BasinRegister.Format.Standard

/-!
# Formatters do not fail

A formatter of the register writes every payload of a kind that it declares, as long as the records in it are of that kind
(`Standard.total_of_mem`). Only those for one kind look at the records at all.
-/

namespace BasinRegister

/-- A formatter writes every payload of records of a kind that it declares. -/
def Formatter.Total (f : Formatter) : Prop :=
  ∀ payload : Payload, f.supports payload.kind = true → (∀ item ∈ payload.items, item.kind = payload.kind) →
    ∃ body, f.format payload = .ok body

namespace FormatterTag

variable {tag : FormatterTag} {write : Payload → Except FormattingError String}

/-- A formatter writes a payload of a kind that it declares as its writer does. -/
theorem format_eq {payload : Payload} (hkind : tag.kinds.contains payload.kind = true) :
    (tag.formatter write).format payload = write payload := if_pos hkind

theorem total_of_text (tag : FormatterTag) (text : Payload → String) : (tag.formatter fun payload => .ok (text payload)).Total :=
  fun _ hkind _ => ⟨_, format_eq hkind⟩

end FormatterTag

/-- Records of one kind are all read as such. -/
theorem Delimited.offices_ok {items : List Entity} (h : ∀ item ∈ items, item.kind = .office) :
    ∃ offices, Delimited.offices items = .ok offices := by
  induction items with
  | nil => exact ⟨[], rfl⟩
  | cons item items ih =>
    obtain ⟨offices, hoffices⟩ := ih fun item hitem => h item (List.mem_cons_of_mem _ hitem)
    cases item with
    | office o => exact ⟨o :: offices, by rw [Delimited.offices, hoffices]; rfl⟩
    | location l => exact absurd (h _ List.mem_cons_self) (by simp [Entity.kind])
    | ratingTemplate t => exact absurd (h _ List.mem_cons_self) (by simp [Entity.kind])
    | waterUser u => exact absurd (h _ List.mem_cons_self) (by simp [Entity.kind])

theorem GeoJson.locations_ok {items : List Entity} (h : ∀ item ∈ items, item.kind = .location) :
    ∃ locations, GeoJson.locations items = .ok locations := by
  induction items with
  | nil => exact ⟨[], rfl⟩
  | cons item items ih =>
    obtain ⟨locations, hlocations⟩ := ih fun item hitem => h item (List.mem_cons_of_mem _ hitem)
    cases item with
    | location l => exact ⟨l :: locations, by rw [GeoJson.locations, hlocations]; rfl⟩
    | office o => exact absurd (h _ List.mem_cons_self) (by simp [Entity.kind])
    | ratingTemplate t => exact absurd (h _ List.mem_cons_self) (by simp [Entity.kind])
    | waterUser u => exact absurd (h _ List.mem_cons_self) (by simp [Entity.kind])

theorem Delimited.total_formatter (name base : String) (delimiter : Char) : (Delimited.formatter name base delimiter).Total := by
  intro payload hkind hitems
  have hoffice : payload.kind = .office := List.mem_singleton.mp (List.contains_iff_mem.mp hkind)
  obtain ⟨offices, hoffices⟩ := Delimited.offices_ok fun item hitem => (hitems item hitem).trans hoffice
  refine ⟨Delimited.document delimiter offices, ?_⟩
  rw [Delimited.formatter, FormatterTag.format_eq]
  · simp only [hoffices]
  · exact hkind

theorem GeoJson.total_formatter : GeoJson.formatter.Total := by
  intro payload hkind hitems
  have hlocation : payload.kind = .location := List.mem_singleton.mp (List.contains_iff_mem.mp hkind)
  obtain ⟨locations, hlocations⟩ := GeoJson.locations_ok fun item hitem => (hitems item hitem).trans hlocation
  refine ⟨(GeoJson.document (locations.map GeoJson.feature) payload).render, ?_⟩
  rw [GeoJson.formatter, FormatterTag.format_eq]
  · simp only [hlocations]
  · exact hkind

/-- The formatters of the register do not fail. -/
theorem Standard.total_of_mem {f : Formatter} (hf : f ∈ Standard.formatters) : f.Total := by
  simp only [Standard.formatters, List.mem_cons, List.not_mem_nil, or_false] at hf
  rcases hf with rfl | rfl | rfl | rfl | rfl | rfl | rfl
  · exact FormatterTag.total_of_text _ _
  · exact FormatterTag.total_of_text _ _
  · exact FormatterTag.total_of_text _ _
  · exact FormatterTag.total_of_text _ _
  · exact Delimited.total_formatter _ _ _
  · exact Delimited.total_formatter _ _ _
  · exact GeoJson.total_formatter

end BasinRegister
