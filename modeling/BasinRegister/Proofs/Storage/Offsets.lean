import BasinRegister.Proofs.Paging.Tokens
import BasinRegister.Proofs.Storage.Children

/-!
# Offsets stay within the listing

An offset comes from the text of a client and may be as large as a word. It is added to only behind a page that holds
something, and such a page ends within its listing. So as long as the parents can be counted in 64 bits, no page is refused
because of its offset, and neither the next token nor whether the page is the last one needs an offset that does not fit
(`pages_within_listing`).
-/

namespace BasinRegister

/-- How the offset behind a page is found, in a listing of so many parents. -/
inductive Page.Within {α : Type} (p : Page α) (parents : Nat) : Prop where
  /-- Nothing is added on an empty page. It is the last one, and the next token is its own. -/
  | empty (hitems : p.items = []) (hlast : p.isLast = true) (hnext : p.next = p.current)
  /-- The items end within the listing, so there is a cursor behind them. It tells whether the page is the last one, and the
  next token is its own. -/
  | behind {behind : Cursor} (hitems : p.items ≠ []) (hend : p.cursor.offset.toNat + p.items.length ≤ parents)
      (hadvance : p.cursor.advance? p.items.length = some behind) (hlast : p.isLast = behind.isExhausted)
      (hnext : p.next = behind.encode)

/-- Other items of the same number end at the same place. -/
theorem Page.Within.map {α β : Type} (f : α → β) {p : Page α} {parents : Nat} (h : p.Within parents) :
    (p.map f).Within parents := by
  have hlength : (p.map f).items.length = p.items.length := List.length_map _
  cases h with
  | empty hitems hlast hnext =>
    refine .empty ?_ ((Page.isLast_map f p).trans hlast) hnext
    rw [Page.map, hitems, List.map_nil]
  | behind hitems hend hadvance hlast hnext =>
    refine .behind ?_ ?_ ?_ ((Page.isLast_map f p).trans hlast) hnext
    · rw [← List.length_pos_iff] at hitems ⊢
      rwa [hlength]
    · rwa [hlength]
    · rwa [hlength]

namespace RowSource

variable {φ π γ ε κ : Type} [GroupKey π κ] [DecidableEq κ] [DecidableEq γ] {source : RowSource φ π γ ε}
  {listing : φ → Listing π γ} {filter : φ} {request : PageRequest} {p : Page (Group π γ)}

/-- No page is refused because of its offset. -/
theorem Keeps.page_ne_overflow (h : source.Keeps listing) (hsmall : (listing filter).parents.length < UInt64.size) :
    source.page filter request ≠ .error .offsetOverflow := by
  rw [h.page_eq]
  cases (source.countTotal filter request (Cursor.decode request.token request.defaultPageSize)).1 with
  | error e => nofun
  | ok cursor => exact pageOf_window_ne_overflow hsmall cursor

/-- The offset behind a page is at most the number of parents. -/
theorem Keeps.page_within (h : source.Keeps listing) (hp : source.page filter request = .ok p) :
    p.Within (listing filter).parents.length := by
  obtain ⟨-, hitems, hpageOf⟩ := h.of_page hp
  by_cases hempty : p.items = []
  · refine .empty hempty ?_ ?_
    · rw [Page.isLast, hempty]
      rfl
    · rw [hempty] at hpageOf
      rw [← Except.ok.inj hpageOf]
  · obtain ⟨behind, hadvance, hnext, -, -⟩ := h.next_of_page hp hempty
    refine .behind hempty ?_ hadvance ?_ hnext
    · rw [hitems] at hempty ⊢
      exact (listing filter).offset_add_length_window_le hempty
    · rw [Page.isLast, hadvance, List.isEmpty_eq_false_iff.mpr hempty]
      rfl

/-- Where counting does not fail, there is a page for every request, and it ends within the listing. -/
theorem Keeps.exists_page_within {groups : φ → List (Group π γ)}
    {hdistinct : ∀ filter, ((groups filter).map fun g => GroupKey.key g.parent).Nodup}
    (h : source.Keeps fun filter => Listing.ofGroups (groups filter) (hdistinct filter))
    (filter : φ) (hcount : ∃ total, source.count filter = .ok total) (hsmall : (groups filter).length < UInt64.size)
    (request : PageRequest) : ∃ p, source.page filter request = .ok p ∧ p.Within (groups filter).length := by
  have hlength : (Listing.ofGroups (groups filter) (hdistinct filter)).parents.length = (groups filter).length :=
    List.length_map _
  have hexists : ∃ p, source.page filter request = .ok p := h.exists_page (by rwa [hlength]) fun _ => hcount
  obtain ⟨p, hp⟩ := hexists
  exact ⟨p, hp, hlength ▸ h.page_within hp⟩

end RowSource

namespace Memory

variable {m : Memory} {filter : Filter}

/-- There is a page of locations for every request, and it ends within those that the filter accepts. -/
theorem exists_locationsPage_within (h : m.Reachable) (hsmall : (m.matching filter).length < UInt64.size)
    (request : PageRequest) :
    ∃ p, Backend.locationsPage m filter request = .ok p ∧ p.Within (m.matching filter).length := by
  have hlength : (m.locationGroups filter).length = (m.matching filter).length := by
    rw [locationGroups, List.length_map, matching]
  obtain ⟨q, hq, hwithin⟩ := (keeps_locationRows h.wellFormed h.ordered).exists_page_within filter
    ⟨_, count_locationRows m filter⟩
    (hlength ▸ hsmall) request
  refine ⟨q.map Group.assemble, ?_, hlength ▸ hwithin.map _⟩
  rw [Backend.locationsPage, mapError_eq_ok, map_eq_ok]
  exact ⟨q, hq, rfl⟩

/-- There is a page of templates for every request, and it ends within those that the filter accepts. -/
theorem exists_templatesPage_within (h : m.Reachable) (hsmall : (m.matchingTemplates filter).length < UInt64.size)
    (request : PageRequest) :
    ∃ p, Backend.templatesPage m filter request = .ok p ∧ p.Within (m.matchingTemplates filter).length := by
  have hlength : (m.templateGroups filter).length = (m.matchingTemplates filter).length := by
    rw [templateGroups, List.length_map, matchingTemplates]
  obtain ⟨q, hq, hwithin⟩ := (keeps_templateRows h.wellFormed h.ordered).exists_page_within filter
    ⟨_, count_templateRows m filter⟩
    (hlength ▸ hsmall) request
  refine ⟨q.map Group.assemble, ?_, hlength ▸ hwithin.map _⟩
  rw [Backend.templatesPage, mapError_eq_ok, map_eq_ok]
  exact ⟨q, hq, rfl⟩

end Memory

/-- No offset leaves 64 bits in a listing whose parents can be counted in 64 bits, whatever token, page size and wish for a
count a request has: no page is refused because of its offset, and behind every page that holds something the offset is at most
the number of parents. A store in memory, behind any run of operations, has a page for every request. -/
theorem pages_within_listing :
    (∀ {φ π γ ε κ : Type} [GroupKey π κ] [DecidableEq κ] [DecidableEq γ] {source : RowSource φ π γ ε}
        {listing : φ → Listing π γ}, source.Keeps listing → ∀ filter, (listing filter).parents.length < UInt64.size →
      ∀ request, source.page filter request ≠ .error .offsetOverflow ∧
        ∀ p, source.page filter request = .ok p → p.Within (listing filter).parents.length) ∧
    ∀ m : Memory, m.Reachable → ∀ filter request,
      ((m.matching filter).length < UInt64.size →
        ∃ p, Backend.locationsPage m filter request = .ok p ∧ p.Within (m.matching filter).length) ∧
      ((m.matchingTemplates filter).length < UInt64.size →
        ∃ p, Backend.templatesPage m filter request = .ok p ∧ p.Within (m.matchingTemplates filter).length) := by
  constructor
  · intro φ π γ ε κ _ _ _ source listing h filter hsmall request
    exact ⟨h.page_ne_overflow hsmall, fun p hp => h.page_within hp⟩
  · intro m h filter request
    exact ⟨fun hsmall => Memory.exists_locationsPage_within h hsmall request,
      fun hsmall => Memory.exists_templatesPage_within h hsmall request⟩

/-- The greatest offset is past the end of three parents, and a page of the greatest size behind the first of them ends with
the last. Both are asked for with a count. -/
theorem pages_within_listing_greatest :
    RowSource.threeParents.parents.length < UInt64.size ∧
    (ListedRows.ofListing RowSource.threeParents : ListedRows String Nat String).source.page ()
        { token := some "18446744073709551615|null|4294967295", defaultPageSize := 0, includeTotal := true } ≠
      .error .offsetOverflow ∧
    (∃ p, (ListedRows.ofListing RowSource.threeParents : ListedRows String Nat String).source.page ()
        { token := some "1|null|4294967295", defaultPageSize := 0, includeTotal := true } = .ok p ∧
      p.items.length = 2 ∧ p.Within 3) ∧
    ∃ p, Backend.locationsPage Memory.empty .all
        { token := some "18446744073709551615|null|1", defaultPageSize := 0, includeTotal := true } = .ok p ∧
      p.Within 0 := by
  have hkeeps := ListedRows.keeps (ε := String) RowSource.threeParents
  have hsmall : RowSource.threeParents.parents.length < UInt64.size := by decide
  have hempty : Memory.empty.Reachable := ⟨[], rfl⟩
  have hpage : (ListedRows.ofListing RowSource.threeParents : ListedRows String Nat String).source.page ()
      { token := some "1|null|4294967295", defaultPageSize := 0, includeTotal := true } =
        .ok ⟨[⟨"b", [2, 3]⟩, ⟨"c", []⟩], { offset := 1, total := some 3, pageSize := 4294967295 }, "1|null|4294967295",
          ({ offset := 3, total := some 3, pageSize := 4294967295 } : Cursor).encode⟩ := by
    rfl
  refine ⟨hsmall, (pages_within_listing.1 hkeeps () hsmall _).1, ⟨_, hpage, rfl, ?_⟩, ?_⟩
  · exact (pages_within_listing.1 hkeeps () hsmall _).2 _ hpage
  · exact (pages_within_listing.2 Memory.empty hempty .all _).1 (by decide)

end BasinRegister
