import BasinRegister.Proofs.Outcome
import BasinRegister.Proofs.Paging.Walk

/-!
# Pages of a walk

Walks seen from outside of a store, where a request gives a page of records and nothing is known of rows. A walk from the start
through the pages of a source that keeps its contract has exactly one course, and its pages hold the whole listing
(`PageWalk.exists_of_keeps`). A page from any cursor on is the last one exactly if nothing is left behind its offset, or the number of
parents is known and all that is left is on the page (`RowSource.Keeps.exists_page_from`).
-/

namespace BasinRegister

/-- The pages of a walk from a token on, with a choice for each request. A request that fails ends no walk. -/
inductive PageWalk {α ε : Type} (page : PageRequest → Except ε (Page α)) :
    (Nat → PageChoice) → Option String → List (Page α) → Prop where
  /-- There is no next page. -/
  | last {choices : Nat → PageChoice} {token : Option String} {p : Page α} :
      page ((choices 0).request token) = .ok p → p.info.nextPage = none → PageWalk page choices token [p]
  /-- The walk goes on with the next page. -/
  | next {choices : Nat → PageChoice} {token : Option String} {p : Page α} {t : String} {pages : List (Page α)} :
      page ((choices 0).request token) = .ok p → p.info.nextPage = some t →
      PageWalk page (fun i => choices (i + 1)) (some t) pages → PageWalk page choices token (p :: pages)

theorem Page.isLast_map {α β : Type} (f : α → β) (p : Page α) : (p.map f).isLast = p.isLast := by
  simp only [Page.isLast, Page.map, List.isEmpty_map, List.length_map]

/-- Other items of the same number change nothing of what is said about a page. -/
theorem Page.info_map {α β : Type} (f : α → β) (p : Page α) : (p.map f).info = p.info := by
  rw [Page.info, Page.isLast_map]
  rfl

namespace PageWalk

variable {α ε : Type} {page : PageRequest → Except ε (Page α)} {choices : Nat → PageChoice} {token : Option String}

/-- A walk through pages has one course. -/
theorem unique {pages others : List (Page α)} (h : PageWalk page choices token pages)
    (h' : PageWalk page choices token others) : others = pages := by
  induction h generalizing others with
  | last hp hnone =>
    cases h' with
    | last hq _ => exact congrArg (fun p => [p]) (Except.ok.inj (hq.symm.trans hp))
    | next hq hsome _ =>
      obtain rfl := Except.ok.inj (hq.symm.trans hp)
      rw [hnone] at hsome
      cases hsome
  | next hp hsome _ ih =>
    cases h' with
    | last hq hnone =>
      obtain rfl := Except.ok.inj (hq.symm.trans hp)
      rw [hsome] at hnone
      cases hnone
    | next hq hsome' hrest =>
      obtain rfl := Except.ok.inj (hq.symm.trans hp)
      obtain rfl := Option.some.inj (hsome'.symm.trans hsome)
      rw [ih hrest]

/-- A walk through pages is one through the pages with other items. -/
theorem map {β : Type} {pages : List (Page α)} (h : PageWalk page choices token pages) (f : α → β) :
    PageWalk (fun request => (page request).map (·.map f)) choices token (pages.map (·.map f)) := by
  induction h with
  | last hp hnone => exact .last (map_eq_ok.mpr ⟨_, hp, rfl⟩) (by rw [Page.info_map]; exact hnone)
  | next hp hsome _ ih => exact .next (map_eq_ok.mpr ⟨_, hp, rfl⟩) (by rw [Page.info_map]; exact hsome) ih

theorem items_map {β : Type} (f : α → β) (pages : List (Page α)) :
    (pages.map (·.map f)).flatMap (·.items) = (pages.flatMap (·.items)).map f := by
  rw [List.flatMap_map, List.map_flatMap]
  rfl

variable {φ π γ κ : Type} [GroupKey π κ] [DecidableEq κ] [DecidableEq γ]

/-- A walk through the groups of a source is one through pages that are made of them. -/
theorem of_readings {source : RowSource φ π γ ε} {filter : φ} {page : PageRequest → Except ε (Page α)}
    {item : Group π γ → α} (hpage : ∀ request p, source.page filter request = .ok p → page request = .ok (p.map item))
    {readings : List (PageReading π γ ε)} (h : source.Walk filter choices token readings) :
    ∃ pages, PageWalk page choices token pages ∧
      pages.flatMap (·.items) = (readings.flatMap PageReading.items).map item := by
  induction h with
  | last hp hnone =>
    refine ⟨_, .last (hpage _ _ hp) (by rw [Page.info_map]; exact hnone), ?_⟩
    simp [PageReading.items, hp, Page.map]
  | next hp hsome _ ih =>
    obtain ⟨pages, hpages, hitems⟩ := ih
    refine ⟨_, .next (hpage _ _ hp) (by rw [Page.info_map]; exact hsome) hpages, ?_⟩
    rw [List.flatMap_cons, List.flatMap_cons, List.map_append, hitems]
    simp [PageReading.items, hp, Page.map]

/-- From the start a walk through a listing has one course, whatever is asked for on the way, and its pages hold all of the
listing. -/
theorem exists_of_keeps {source : RowSource φ π γ ε} {listing : φ → Listing π γ} (h : source.Keeps listing)
    {filter : φ} (hcount : source.count filter = .ok (UInt64.ofNat (listing filter).parents.length))
    (hsmall : (listing filter).parents.length < UInt64.size) {page : PageRequest → Except ε (Page α)}
    {item : Group π γ → α} (hpage : ∀ request p, source.page filter request = .ok p → page request = .ok (p.map item))
    (choices : Nat → PageChoice) :
    ∃ pages, PageWalk page choices none pages ∧ pages.flatMap (·.items) = (listing filter).groups.map item := by
  obtain ⟨readings, hcourse⟩ := RowSource.exists_course h hcount hsmall _
    (Cursor.decode none (choices 0).defaultPageSize) choices none (Cursor.decode_valid none _) rfl rfl
  obtain ⟨pages, hpages, hitems⟩ := of_readings hpage hcourse.walk
  refine ⟨pages, hpages, ?_⟩
  have hstart : (Cursor.decode none (choices 0).defaultPageSize).offset.toNat = 0 := rfl
  rw [hitems, hcourse.items_eq (fun total htotal => by cases htotal), hstart, List.drop_zero]

end PageWalk

/-! ## Pages from a cursor on -/

/-- A page that is read from a cursor on, with a count of the records or without. -/
structure Page.From {α : Type} (p : Page α) (records : List α) (start : Cursor) (isCounted : Bool) : Prop where
  /-- It holds as many of the records that are left as its size allows. -/
  items : p.items = (records.drop start.offset.toNat).take start.pageSize.toNat
  /-- No page follows exactly if nothing is left, or if the number of records is known and all that is left is on the page. -/
  last : p.info.nextPage = none ↔ records.drop start.offset.toNat = [] ∨
    (start.total.isSome = true ∨ isCounted = true) ∧ (records.drop start.offset.toNat).length ≤ start.pageSize.toNat

/-- Records of another kind are left in the same number. -/
theorem Page.From.map {α β : Type} {p : Page α} {records : List α} {start : Cursor} {isCounted : Bool}
    (h : p.From records start isCounted) (f : α → β) : (p.map f).From (records.map f) start isCounted := by
  refine ⟨?_, ?_⟩
  · rw [Page.map, h.items, List.map_take, List.map_drop]
  · rw [Page.info_map, h.last, ← List.map_drop, List.map_eq_nil_iff, List.length_map]

namespace RowSource

variable {φ π γ ε κ : Type} [GroupKey π κ] [DecidableEq κ] [DecidableEq γ] {source : RowSource φ π γ ε} {filter : φ}
  {request : PageRequest} {p : Page (Group π γ)}

omit [GroupKey π κ] [DecidableEq κ] [DecidableEq γ] in
/-- The total that is known once a page is asked for is the number of parents, if the token states none or the right one. -/
theorem knownTotal_eq {n : Nat} {cursor : Cursor} (hstated : ∀ total, cursor.total = some total → total.toNat = n)
    (hsmall : n < UInt64.size) (choice : PageChoice) :
    ((∃ total, knownTotal n choice cursor = some total) ↔ cursor.total.isSome = true ∨ choice.includeTotal = true) ∧
      ∀ total, knownTotal n choice cursor = some total → total.toNat = n := by
  constructor
  · unfold knownTotal
    cases cursor.total <;> cases choice.includeTotal <;> simp
  · intro total htotal
    rcases knownTotal_cases htotal with h | rfl
    · exact hstated total h
    · exact UInt64.toNat_ofNat_of_lt' hsmall

/-- A source that keeps its contract has a page from every cursor on, with the groups of its listing. -/
theorem Keeps.exists_page_from {listing : φ → Listing π γ} (h : source.Keeps listing)
    (hcount : source.count filter = .ok (UInt64.ofNat (listing filter).parents.length))
    (hsmall : (listing filter).parents.length < UInt64.size) (request : PageRequest) {start : Cursor}
    (hstart : Cursor.decode request.token request.defaultPageSize = start)
    (hstated : ∀ total, start.total = some total → total.toNat = (listing filter).parents.length) :
    ∃ p, source.page filter request = .ok p ∧ p.From (listing filter).groups start request.includeTotal := by
  let choice : PageChoice := { defaultPageSize := request.defaultPageSize, includeTotal := request.includeTotal }
  obtain ⟨p, hp, hitems, -, hnext⟩ := read_step h hcount hsmall choice request.token hstart
  refine ⟨p, hp, hitems, ?_⟩
  have hsize : 0 < start.pageSize.toNat := by
    rw [← hstart]
    exact UInt32.lt_iff_toNat_lt.mp (Cursor.decode_valid _ _).pageSize_pos
  have hwindow : (listing filter).window start = [] ↔ (listing filter).groups.drop start.offset.toNat = [] := by
    rw [Listing.window, List.take_eq_nil_iff]
    exact or_iff_right (by omega)
  rw [hnext, ite_eq_left_iff, imp_iff_not (by simp), not_not, hwindow]
  refine or_congr_right' fun hleft => ?_
  obtain ⟨hknown, htotal⟩ := knownTotal_eq hstated hsmall choice
  have hlength := (listing filter).length_window start
  have hrest : ((listing filter).groups.drop start.offset.toNat).length =
      (listing filter).parents.length - start.offset.toNat := by
    rw [List.length_drop, Listing.groups, List.length_map]
  have hpos : 0 < ((listing filter).groups.drop start.offset.toNat).length := List.length_pos_iff.mpr hleft
  rw [isExhausted_cursorBehind_iff _ _ _ hsmall (fun hnone => hleft (hwindow.mp hnone)), ← hknown]
  constructor
  · rintro ⟨total, hsome, hle⟩
    refine ⟨⟨total, hsome⟩, ?_⟩
    have hall := htotal total hsome
    omega
  · rintro ⟨⟨total, hsome⟩, hle⟩
    refine ⟨total, hsome, ?_⟩
    have hall := htotal total hsome
    omega

/-- So does a source of groups whose children are all different. -/
theorem Keeps.exists_page_from_groups {groups : φ → List (Group π γ)}
    {hdistinct : ∀ filter, ((groups filter).map fun g => GroupKey.key g.parent).Nodup}
    (h : source.Keeps fun filter => Listing.ofGroups (groups filter) (hdistinct filter))
    (hcount : source.count filter = .ok (UInt64.ofNat (groups filter).length))
    (hchildren : ∀ g ∈ groups filter, g.children.Nodup) (hsmall : (groups filter).length < UInt64.size)
    (request : PageRequest) {start : Cursor} (hstart : Cursor.decode request.token request.defaultPageSize = start)
    (hstated : ∀ total, start.total = some total → total.toNat = (groups filter).length) :
    ∃ p, source.page filter request = .ok p ∧ p.From (groups filter) start request.includeTotal := by
  have hlength : (Listing.ofGroups (groups filter) (hdistinct filter)).parents.length = (groups filter).length :=
    List.length_map _
  rw [← hlength] at hcount hsmall hstated
  have hexists := h.exists_page_from hcount hsmall request hstart hstated
  rwa [Listing.groups_ofGroups _ hchildren] at hexists

/-! ## The token of the next page -/

/-- The token of the next page is that of a cursor with the same page size further on. -/
theorem cursor_of_nextPage (h : source.page filter request = .ok p) {t : String} (hnext : p.info.nextPage = some t) :
    let start := Cursor.decode request.token request.defaultPageSize
    ∃ c : Cursor, t = c.encode ∧ c.Valid ∧ c.pageSize = start.pageSize ∧ start.offset < c.offset := by
  intro start
  obtain ⟨cursor, -, hcount, -, hpageOf⟩ := pageOf_of_page h
  obtain ⟨hoffset, hsize⟩ := countTotal_ok hcount
  obtain ⟨-, hcursor⟩ := pageOf_ok hpageOf
  rw [Page.info, Option.ite_none_left_eq_some, Option.some.injEq, Page.isLast, Bool.or_eq_true, not_or, hcursor] at hnext
  obtain ⟨⟨hne, hmore⟩, rfl⟩ := hnext
  have hpos : 0 < p.items.length := List.length_pos_iff.mpr fun hempty => hne (by rw [hempty]; rfl)
  rw [pageOf, if_neg hne] at hpageOf
  split at hpageOf
  · rename_i c hadvance
    have hencode : c.encode = p.next := congrArg Page.next (Except.ok.inj hpageOf)
    rw [hadvance, Option.map_some, Option.getD_some, Cursor.isExhausted_iff] at hmore
    have hvalid := Cursor.decode_valid request.token request.defaultPageSize
    obtain ⟨hend, -, hsame⟩ := Cursor.of_advance? hadvance
    rw [hsize] at hsame
    refine ⟨c, hencode.symm, ⟨hsame ▸ hvalid.pageSize_pos, ?_⟩, hsame, ?_⟩
    · intro total htotal
      by_contra hle
      exact hmore ⟨total, htotal, UInt64.le_of_lt (UInt64.not_le.mp hle)⟩
    · rw [UInt64.lt_iff_toNat_lt, ← hoffset, hend]
      omega
  · cases hpageOf

end RowSource

end BasinRegister
