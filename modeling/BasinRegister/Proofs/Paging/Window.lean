import BasinRegister.Proofs.Paging.Contract

/-!
# Pages are windows of the listing

The page that a source with a kept contract gives for a request holds exactly the parents that the cursor of its token
names, each with all its children. Where the source stops behind the wanted parents makes no difference: a row is taken only
if it opens no group too many (`RowSource.groups_fill`).
-/

namespace BasinRegister

namespace Listing

variable {π γ κ : Type} [GroupKey π κ] [DecidableEq γ]

/-- The groups that a cursor names. -/
def window (l : Listing π γ) (cursor : Cursor) : List (Group π γ) :=
  (l.groups.drop cursor.offset.toNat).take cursor.pageSize.toNat

/-- The keys of the groups are those of the parents. -/
theorem map_key_groups (l : Listing π γ) :
    l.groups.map (fun g => GroupKey.key g.parent) = l.parents.map ParentRows.key := by
  rw [groups, List.map_map]
  rfl

theorem length_window (l : Listing π γ) (cursor : Cursor) :
    (l.window cursor).length = min cursor.pageSize.toNat (l.parents.length - cursor.offset.toNat) := by
  simp [window, groups]

/-- A window that holds something ends within the listing. -/
theorem offset_add_length_window_le (l : Listing π γ) {cursor : Cursor} (h : l.window cursor ≠ []) :
    cursor.offset.toNat + (l.window cursor).length ≤ l.parents.length := by
  have hlength := l.length_window cursor
  have hpos : 0 < (l.window cursor).length := List.length_pos_iff.mpr h
  omega

omit [DecidableEq γ] in
/-- The first row of rows that are handed out first belongs to the first parent. -/
theorem head_parent {l : Listing π γ} {row : JoinRow π γ} {rows : List (JoinRow π γ)} (h : row :: rows <+: l.rows) :
    ∃ p ps, l.parents = p :: ps ∧ GroupKey.key row.parent = p.key := by
  cases hl : l.parents with
  | nil => simp [Listing.rows, hl] at h
  | cons p ps =>
    rw [Listing.rows, hl, List.flatMap_cons, ParentRows.rows, List.cons_append, List.cons_prefix_cons] at h
    exact ⟨p, ps, rfl, by rw [h.1, ParentRows.key]⟩

end Listing

namespace RowSource

variable {φ π γ ε κ : Type} [GroupKey π κ] [DecidableEq κ] [DecidableEq γ]

/-! ## Taking rows -/

/-- A row is taken when it and the rows behind it open no group too many. -/
theorem fits_of_size_pushAll {size : Nat} {g : RowGrouper π γ} {row : JoinRow π γ} {rows : List (JoinRow π γ)}
    (h : (g.pushAll (row :: rows)).size ≤ size) : (decide (size ≤ g.size) && !g.contains row.parent) = false := by
  have hle := RowGrouper.size_le_size_pushAll (g.push row) rows
  rw [RowGrouper.size_push] at hle
  cases hc : g.contains row.parent
  · rw [RowGrouper.pushAll_cons] at h
    simp only [hc, Bool.false_eq_true, if_false] at hle
    simp only [Bool.not_false, Bool.and_true, decide_eq_false_iff_not]
    omega
  · simp

/-- A row that is taken leaves no more groups than the page holds. -/
theorem size_push_le {size : Nat} {g : RowGrouper π γ} {row : JoinRow π γ} (hg : g.size ≤ size)
    (h : ¬(decide (size ≤ g.size) && !g.contains row.parent) = true) : (g.push row).size ≤ size := by
  rw [RowGrouper.size_push]
  cases hc : g.contains row.parent
  · simp only [hc, Bool.not_false, Bool.and_true, decide_eq_true_eq] at h
    simp only [Bool.false_eq_true, if_false]
    omega
  · exact hg

/-- Of the rows behind others a page takes the longest run that opens no group too many; the row behind that run is turned down,
and it is the last one that was asked for. -/
theorem fill_eq (size : Nat) (g : RowGrouper π γ) (rows : List (JoinRow π γ)) (hg : g.size ≤ size) :
    ∃ taken rest, rows = taken ++ rest ∧ (g.pushAll taken).size ≤ size ∧
      (∀ run, run <+: rows → (g.pushAll run).size ≤ size → run <+: taken) ∧
      fill size g rows = ⟨g.pushAll taken, taken.length + (rest.take 1).length, !rest.isEmpty⟩ := by
  induction rows generalizing g with
  | nil =>
    refine ⟨[], [], rfl, hg, ?_, rfl⟩
    intro run hrun _
    exact hrun
  | cons row rows ih =>
    by_cases hturned : (decide (size ≤ g.size) && !g.contains row.parent) = true
    · -- no run that has this row in it fits
      refine ⟨[], row :: rows, rfl, hg, ?_, ?_⟩
      · intro run hrun hfits
        cases run with
        | nil => exact List.nil_prefix
        | cons first run =>
          obtain ⟨rfl, -⟩ := List.cons_prefix_cons.mp hrun
          rw [fits_of_size_pushAll hfits] at hturned
          cases hturned
      · rw [fill, if_pos hturned]
        rfl
    · obtain ⟨taken, rest, hrows, hfits, hlongest, hfill⟩ := ih (g.push row) (size_push_le hg hturned)
      refine ⟨row :: taken, rest, by rw [hrows, List.cons_append], hfits, ?_, ?_⟩
      · intro run hrun hrunFits
        cases run with
        | nil => exact List.nil_prefix
        | cons first run =>
          obtain ⟨rfl, hbehind⟩ := List.cons_prefix_cons.mp hrun
          exact List.cons_prefix_cons.mpr ⟨rfl, hlongest run hbehind hrunFits⟩
      · rw [fill, if_neg hturned, hfill, List.length_cons, Nat.add_right_comm]
        rfl

/-- Rows that open no group too many are all taken. -/
theorem fill_append (size : Nat) (g : RowGrouper π γ) (xs ys : List (JoinRow π γ))
    (h : (g.pushAll xs).size ≤ size) :
    (fill size g (xs ++ ys)).grouper = (fill size (g.pushAll xs) ys).grouper := by
  induction xs generalizing g with
  | nil => rfl
  | cons row xs ih =>
    rw [List.cons_append, fill, if_neg (by simp [fits_of_size_pushAll h])]
    exact ih (g.push row) h

/-- None of such rows is turned down. -/
theorem stopped_fill (size : Nat) (g : RowGrouper π γ) (rows : List (JoinRow π γ)) (h : (g.pushAll rows).size ≤ size) :
    (fill size g rows).stopped = false := by
  induction rows generalizing g with
  | nil => rfl
  | cons row rows ih =>
    rw [fill, if_neg (by simp [fits_of_size_pushAll h])]
    exact ih (g.push row) h

/-- The rows of a full grouper end at the first row of a parent without a group. -/
theorem fill_full (size : Nat) (g : RowGrouper π γ) (row : JoinRow π γ) (rows : List (JoinRow π γ))
    (hfull : size ≤ g.size) (hnew : GroupKey.key row.parent ∉ g.keys) :
    (fill size g (row :: rows)).grouper = g := by
  have hc : g.contains row.parent = false := by
    rw [Bool.eq_false_iff, ne_eq, RowGrouper.contains_iff]
    exact hnew
  rw [fill, if_pos (by simp [hfull, hc])]

/-- Of rows that begin with the first parents of a listing and go on like it, exactly those parents are taken. -/
theorem groups_fill (l : Listing π γ) (size : Nat) (rows : List (JoinRow π γ)) (hwithin : rows <+: l.rows)
    (hcomplete : (l.take size).rows <+: rows) :
    (fill size RowGrouper.empty rows).grouper.groups = (l.take size).groups := by
  obtain ⟨more, rfl⟩ := hcomplete
  have hgroups : RowGrouper.empty.pushAll (l.take size).rows = ⟨(l.take size).groups⟩ := by
    rw [← (l.take size).groupRows_rows]
    rfl
  have hsize : (RowGrouper.empty.pushAll (l.take size).rows).size = min size l.parents.length := by
    rw [hgroups]
    simp [RowGrouper.size, Listing.groups, Listing.take]
  rw [fill_append _ _ _ _ (by omega), hgroups]
  have hmore : more <+: (l.drop size).rows := by
    rw [← l.rows_take_append_rows_drop size, List.prefix_append_right_inj] at hwithin
    exact hwithin
  cases more with
  | nil => rfl
  | cons row more =>
    -- a row behind the wanted parents belongs to one whose key none of them has, and the page is full
    obtain ⟨p, ps, hdrop, hkey⟩ := Listing.head_parent hmore
    have hlong : size < l.parents.length := by
      have hlen := congrArg List.length hdrop
      simp only [Listing.drop, List.length_drop, List.length_cons] at hlen
      omega
    rw [fill_full]
    · rw [hgroups] at hsize
      omega
    · rw [RowGrouper.keys, Listing.map_key_groups, hkey]
      have hnodup := l.distinct
      rw [← List.take_append_drop size l.parents, List.map_append] at hnodup
      intro hmem
      exact List.disjoint_of_nodup_append hnodup hmem (by simp only [Listing.drop] at hdrop; simp [hdrop])

/-! ## The page of a request -/

omit [GroupKey π κ] [DecidableEq κ] [DecidableEq γ] in
/-- A cursor stays as it is, unless it has no total and counting is asked for; then it gets the count for one. -/
theorem countTotal_cases {source : RowSource φ π γ ε} {filter : φ} {request : PageRequest} {c cursor : Cursor}
    (h : (source.countTotal filter request c).1 = .ok cursor) :
    cursor = c ∨ c.total = none ∧ request.includeTotal = true ∧
      ∃ total, source.count filter = .ok total ∧ cursor = { c with total := some total } := by
  unfold countTotal at h
  split at h
  · rename_i hasked
    rw [Bool.and_eq_true, Option.isNone_iff_eq_none] at hasked
    cases hcount : source.count filter with
    | error e =>
      rw [hcount] at h
      cases h
    | ok total =>
      rw [hcount] at h
      cases h
      exact .inr ⟨hasked.1, hasked.2, total, rfl, rfl⟩
  · cases h
    exact .inl rfl

omit [GroupKey π κ] [DecidableEq κ] [DecidableEq γ] in
/-- Counting changes nothing of a cursor but its total. -/
theorem countTotal_ok {source : RowSource φ π γ ε} {filter : φ} {request : PageRequest} {c cursor : Cursor}
    (h : (source.countTotal filter request c).1 = .ok cursor) :
    cursor.offset = c.offset ∧ cursor.pageSize = c.pageSize := by
  rcases countTotal_cases h with rfl | ⟨-, -, total, -, rfl⟩
  · exact ⟨rfl, rfl⟩
  · exact ⟨rfl, rfl⟩

omit [GroupKey π κ] [DecidableEq κ] [DecidableEq γ] in
/-- Counting fails only where it is asked for. -/
theorem countTotal_error {source : RowSource φ π γ ε} {filter : φ} {request : PageRequest} {c : Cursor} {e : ε}
    (h : (source.countTotal filter request c).1 = .error e) :
    c.total = none ∧ request.includeTotal = true ∧ source.count filter = .error e := by
  unfold countTotal at h
  split at h
  · rename_i hasked
    rw [Bool.and_eq_true, Option.isNone_iff_eq_none] at hasked
    cases hcount : source.count filter with
    | error e' =>
      rw [hcount] at h
      cases h
      exact ⟨hasked.1, hasked.2, rfl⟩
    | ok n =>
      rw [hcount] at h
      cases h
  · cases h

omit [GroupKey π κ] [DecidableEq κ] [DecidableEq γ] in
/-- What a page of groups holds. -/
theorem pageOf_ok {request : PageRequest} {cursor : Cursor} {items : List (Group π γ)} {p : Page (Group π γ)}
    (h : (pageOf request cursor items : Except (PageFailure ε) _) = .ok p) : p.items = items ∧ p.cursor = cursor := by
  unfold pageOf at h
  simp only at h
  split at h
  · cases h
    exact ⟨rfl, rfl⟩
  · split at h
    · cases h
      exact ⟨rfl, rfl⟩
    · cases h

/-- The page of a source that keeps its contract is made of the groups that the cursor names. -/
theorem Keeps.page_eq {source : RowSource φ π γ ε} {listing : φ → Listing π γ} (h : source.Keeps listing) (filter : φ)
    (request : PageRequest) :
    source.page filter request =
      match (source.countTotal filter request (Cursor.decode request.token request.defaultPageSize)).1 with
      | .error e => .error (.source e)
      | .ok cursor => pageOf request cursor ((listing filter).window cursor) := by
  unfold page read
  cases hcount : (source.countTotal filter request (Cursor.decode request.token request.defaultPageSize)).1 with
  | error e => simp only [hcount]
  | ok cursor =>
    have hfill := groups_fill ((listing filter).drop cursor.offset.toNat) cursor.pageSize.toNat _
      (h.within filter cursor.offset cursor.pageSize) (h.complete filter cursor.offset cursor.pageSize)
    rw [Listing.groups_take, Listing.groups_drop] at hfill
    simp only [hcount, h.unfailing, Listing.window, hfill]
    cases (fill cursor.pageSize.toNat RowGrouper.empty (source.scan filter cursor.offset cursor.pageSize).rows).stopped <;>
      rfl

/-- Where there is a page, it holds the groups that its cursor names. -/
theorem Keeps.of_page {source : RowSource φ π γ ε} {listing : φ → Listing π γ} (h : source.Keeps listing) {filter : φ}
    {request : PageRequest} {p : Page (Group π γ)} (hp : source.page filter request = .ok p) :
    (source.countTotal filter request (Cursor.decode request.token request.defaultPageSize)).1 = .ok p.cursor ∧
      p.items = (listing filter).window p.cursor ∧
      (pageOf request p.cursor p.items : Except (PageFailure ε) _) = .ok p := by
  rw [h.page_eq] at hp
  cases hcount : (source.countTotal filter request (Cursor.decode request.token request.defaultPageSize)).1 with
  | error e => simp only [hcount, reduceCtorEq] at hp
  | ok cursor =>
    simp only [hcount] at hp
    obtain ⟨hitems, rfl⟩ := pageOf_ok hp
    exact ⟨rfl, hitems, by rw [hitems]; exact hp⟩

/-- Where a source hands out the rows of no more groups than a page holds, the page is made of them, unless the source fails
behind them. -/
theorem page_of_scan {source : RowSource φ π γ ε} {filter : φ} {request : PageRequest} {cursor : Cursor}
    {groups : List (Group π γ)} {failure : Option ε} (hdistinct : (groups.map fun g => GroupKey.key g.parent).Nodup)
    (hcount : (source.countTotal filter request (Cursor.decode request.token request.defaultPageSize)).1 = .ok cursor)
    (hscan : source.scan filter cursor.offset cursor.pageSize = ⟨flattenGroups groups, failure⟩)
    (hsize : groups.length ≤ cursor.pageSize.toNat) :
    source.page filter request =
      match failure with
      | some e => .error (.source e)
      | none => pageOf request cursor (Listing.ofGroups groups hdistinct).groups := by
  have hrows : flattenGroups groups = (Listing.ofGroups groups hdistinct).rows := (flatMap_rows_ofGroup groups).symm
  have hgroups : RowGrouper.empty.pushAll (flattenGroups groups) = ⟨(Listing.ofGroups groups hdistinct).groups⟩ := by
    rw [hrows, ← Listing.groupRows_rows]
    rfl
  have hfits : (RowGrouper.empty.pushAll (flattenGroups groups)).size ≤ cursor.pageSize.toNat := by
    rw [hgroups]
    simpa [RowGrouper.size, Listing.groups, Listing.ofGroups] using hsize
  have hfill := fill_append _ _ _ [] hfits
  rw [List.append_nil, hgroups] at hfill
  unfold page read
  simp only [hcount, hscan, stopped_fill _ _ _ hfits, hfill]
  cases failure <;> rfl

/-- Two sources of the same listing that count the same give the same pages, wherever they stop. -/
theorem Keeps.page_congr {source source' : RowSource φ π γ ε} {listing : φ → Listing π γ} (h : source.Keeps listing)
    (h' : source'.Keeps listing) (filter : φ) (hcount : source.count filter = source'.count filter)
    (request : PageRequest) : source.page filter request = source'.page filter request := by
  rw [h.page_eq, h'.page_eq, countTotal, countTotal, hcount]

omit [GroupKey π κ] [DecidableEq κ] [DecidableEq γ] in
/-- The next token is that of the page where the page is empty, else that of the cursor behind its items. -/
theorem pageOf_next {request : PageRequest} {cursor : Cursor} {items : List (Group π γ)} {p : Page (Group π γ)}
    (h : (pageOf request cursor items : Except (PageFailure ε) _) = .ok p) :
    (p.items = [] ∧ p.next = (Cursor.statedToken request.token).getD cursor.encode) ∨
      ∃ behind, cursor.advance? p.items.length = some behind ∧ p.next = behind.encode := by
  unfold pageOf at h
  simp only at h
  split at h
  · rename_i hempty
    cases h
    exact .inl ⟨List.isEmpty_iff.mp hempty, rfl⟩
  · split at h
    · rename_i behind hbehind
      cases h
      exact .inr ⟨behind, hbehind, rfl⟩
    · cases h

/-- A page is put together from the groups that were filled in, behind the cursor that its request has once the total is
counted. -/
theorem pageOf_of_page {source : RowSource φ π γ ε} {filter : φ} {request : PageRequest} {p : Page (Group π γ)}
    (h : source.page filter request = .ok p) :
    ∃ cursor rows,
      (source.countTotal filter request (Cursor.decode request.token request.defaultPageSize)).1 = .ok cursor ∧
      p.items = (fill cursor.pageSize.toNat RowGrouper.empty rows).grouper.groups ∧
      (pageOf request cursor p.items : Except (PageFailure ε) _) = .ok p := by
  unfold page read at h
  cases hcount : (source.countTotal filter request (Cursor.decode request.token request.defaultPageSize)).1 with
  | error e => simp only [hcount, reduceCtorEq] at h
  | ok cursor =>
    simp only [hcount] at h
    split at h
    · cases h
    · have hitems := (pageOf_ok h).1
      refine ⟨cursor, _, rfl, hitems, ?_⟩
      rw [hitems]
      exact h

omit [GroupKey π κ] [DecidableEq κ] [DecidableEq γ] in
/-- A page is refused only when the offset behind it leaves 64 bits. -/
theorem pageOf_error {request : PageRequest} {cursor : Cursor} {items : List (Group π γ)} {e : PageFailure ε}
    (h : pageOf request cursor items = .error e) :
    e = .offsetOverflow ∧ UInt64.size ≤ cursor.offset.toNat + items.length := by
  unfold pageOf at h
  simp only at h
  split at h
  · cases h
  · split at h
    · cases h
    · rename_i hnone
      cases h
      simp only [Cursor.advance?, ite_eq_right_iff, reduceCtorEq, imp_false, Nat.not_lt] at hnone
      exact ⟨rfl, hnone⟩

omit [DecidableEq κ] in
/-- The window of a cursor is never so large that the offset behind it leaves 64 bits. -/
theorem pageOf_window_ne_overflow {l : Listing π γ} (hsmall : l.parents.length < UInt64.size) {request : PageRequest}
    (cursor : Cursor) : (pageOf request cursor (l.window cursor) : Except (PageFailure ε) _) ≠ .error .offsetOverflow := by
  intro h
  have hlarge := (pageOf_error h).2
  by_cases hempty : l.window cursor = []
  · rw [hempty, List.length_nil] at hlarge
    exact absurd cursor.offset.toNat_lt (Nat.not_lt.mpr hlarge)
  · have hend := l.offset_add_length_window_le hempty
    omega

/-- The items of a page are a window of the groups of the whole listing: behind as many groups as the cursor of the token
has for its offset, and as many as it has for its page size. So they are parents that follow each other in the listing, each
whole and none twice, with all their children in order and without repeats. There is no page only where counting was asked
for and failed, or where the offset behind the page leaves 64 bits. -/
theorem page_items {source : RowSource φ π γ ε} {listing : φ → Listing π γ} (h : source.Keeps listing) (filter : φ)
    (request : PageRequest) :
    let cursor := Cursor.decode request.token request.defaultPageSize
    let items := ((groupRows (listing filter).rows).drop cursor.offset.toNat).take cursor.pageSize.toNat
    (∀ p, source.page filter request = .ok p → p.items = items) ∧
    (∀ e, source.page filter request = .error (.source e) →
      cursor.total = none ∧ request.includeTotal = true ∧ source.count filter = .error e) ∧
    (source.page filter request = .error .offsetOverflow → UInt64.size ≤ cursor.offset.toNat + items.length) ∧
    items = (((listing filter).parents.drop cursor.offset.toNat).take cursor.pageSize.toNat).map ParentRows.group ∧
    (items.map fun g => GroupKey.key g.parent).Nodup ∧
    ∀ p ∈ (listing filter).parents, p.group.children.Nodup ∧
      ∀ c, c ∈ p.group.children ↔ ∃ row ∈ p.rows, row.child = some c := by
  intro cursor items
  have hitems : items = (listing filter).window cursor := by
    simp only [items, Listing.groupRows_rows, Listing.window]
  have hpage := h.page_eq filter request
  refine ⟨?_, ?_, ?_, ?_, ?_, fun p _ => ⟨p.nodup_children, fun c => ParentRows.mem_children⟩⟩
  · intro p hp
    rw [hpage] at hp
    split at hp
    · cases hp
    · rename_i c hc
      obtain ⟨hoffset, hsize⟩ := countTotal_ok hc
      rw [(pageOf_ok hp).1, hitems, Listing.window, Listing.window, hoffset, hsize]
  · intro e he
    rw [hpage] at he
    split at he
    · rename_i e' he'
      cases he
      exact countTotal_error he'
    · cases (pageOf_error he).1
  · intro ho
    rw [hpage] at ho
    split at ho
    · cases ho
    · rename_i c hc
      obtain ⟨hoffset, hsize⟩ := countTotal_ok hc
      have hle := (pageOf_error ho).2
      rwa [Listing.window, hoffset, hsize, ← Listing.window, ← hitems] at hle
  · rw [hitems, Listing.window, Listing.groups, List.map_take, List.map_drop]
  · rw [hitems, Listing.window, List.map_take, List.map_drop, Listing.map_key_groups]
    exact (listing filter).distinct.sublist ((List.take_sublist _ _).trans (List.drop_sublist _ _))

/-- Three parents: one with a child that is listed twice, one with two children and one without. -/
def threeParents : Listing String Nat :=
  { parents := [⟨⟨"a", some 1⟩, [⟨"a", some 1⟩], by decide⟩, ⟨⟨"b", some 2⟩, [⟨"b", some 3⟩, ⟨"b", some 2⟩], by decide⟩,
      ⟨⟨"c", none⟩, [], by decide⟩]
    distinct := by decide }

/-- The page of two parents behind the first. -/
theorem page_items_behind_first :
    (ListedRows.ofListing threeParents : ListedRows String Nat String).source.Keeps (fun _ => threeParents) ∧
    ∃ p, (ListedRows.ofListing threeParents : ListedRows String Nat String).source.page ()
        { token := some " 1|null|2", defaultPageSize := 7, includeTotal := true } = .ok p ∧
      p.items = [⟨"b", [2, 3]⟩, ⟨"c", []⟩] := by
  have hkeeps := ListedRows.keeps (ε := String) threeParents
  refine ⟨hkeeps, _, rfl, ?_⟩
  rw [(page_items hkeeps () { token := some " 1|null|2", defaultPageSize := 7, includeTotal := true }).1 _ rfl]
  decide

end RowSource

end BasinRegister
