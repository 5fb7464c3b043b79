import BasinRegister.Proofs.Record.SpecColumns
import BasinRegister.Proofs.Storage.Relational
import BasinRegister.Proofs.Storage.Runs

/-!
# Templates that are read back

A relational store takes every template that has specs, but keeps the specs as columns that not all specs come back out of. A
template that was put is found again exactly when columns keep its specs, and a page that its row is on can be read exactly
when all rows of the page can: one row that cannot be read takes the page with it (`Relational.template_readBack_iff`).
-/

namespace BasinRegister

/-! ## Rows -/

namespace TemplateRow

variable {row : TemplateRow} {t p : RatingTemplate}

/-- What is read of a row has the key of the row, the specs of its columns and no ratings. -/
theorem of_template (h : row.template = .ok p) :
    p.officeId = row.officeId ∧ p.id = row.id ∧ row.columns.specs = .ok p.specs ∧ p.withoutRatings = p := by
  unfold template at h
  split at h
  · cases h
  · rename_i specs hspecs
    cases h
    exact ⟨rfl, rfl, hspecs, rfl⟩

/-- A template comes back out of its row exactly when columns keep its specs. -/
theorem template_ofTemplate_iff (hne : t.specs ≠ []) :
    (ofTemplate t).template = .ok t.withoutRatings ↔ ∀ s ∈ t.specs, s.Columnar := by
  rw [← SpecColumns.specs_ofSpecs_iff hne]
  constructor
  · intro h
    exact (of_template h).2.2.1
  · intro h
    have hcolumns : (ofTemplate t).columns.specs = .ok t.specs := h
    rw [template, hcolumns]
    rfl

end TemplateRow

namespace Relational

variable {r r' : Relational} {t : RatingTemplate}

/-! ## Puts -/

/-- A put changes the templates only if it adds one with specs and with a key of its own. -/
theorem templates_of_put {record : Put} (h : r.put record = .ok r') :
    r'.templates = r.templates ∨ ∃ t, record = .ratingTemplate t ∧ r.putTemplate t = .ok r' := by
  cases record with
  | office o =>
    refine .inl ?_
    rw [put, putOffice] at h
    split at h <;> cases h
    rfl
  | location l =>
    refine .inl ?_
    rw [put, putLocation] at h
    split at h <;> cases h
    rfl
  | locationAlias a =>
    refine .inl ?_
    rw [put, putLocationAlias] at h
    split at h <;> cases h
    rfl
  | ratingTemplate t => exact .inr ⟨t, rfl, h⟩
  | ratingSpec s =>
    refine .inl ?_
    rw [put, putSpec] at h
    split at h
    · cases h
    · split at h <;> cases h
      rfl
  | waterUser u =>
    refine .inl ?_
    rw [put, putWaterUser] at h
    split at h <;> cases h
    rfl

/-- A template that is put has specs and a row of its own. -/
theorem putTemplate_ok (h : r.putTemplate t = .ok r') :
    t.specs ≠ [] ∧ (∀ row ∈ r.templates, templateKey row ≠ templateKey (TemplateRow.ofTemplate t)) ∧
      r'.templates = r.templates ++ [TemplateRow.ofTemplate t] := by
  unfold putTemplate at h
  split at h
  · cases h
  · rename_i hspecs
    split at h
    · cases h
    · rename_i hnew
      cases h
      refine ⟨by simpa using hspecs, ?_, rfl⟩
      intro row hrow hkey
      simp only [templateKey, TemplateRow.ofTemplate, List.cons.injEq, and_true] at hkey
      exact hnew (List.any_eq_true.mpr ⟨row, hrow, by simp [hkey]⟩)

/-- No key of a template stands twice. -/
def TemplatesOnce (r : Relational) : Prop := (r.templates.map templateKey).Nodup

/-- No put writes a second row of a template. -/
theorem TemplatesOnce.put {record : Put} (h : r.TemplatesOnce) (hput : r.put record = .ok r') : r'.TemplatesOnce := by
  rcases templates_of_put hput with hsame | ⟨t, rfl, hput⟩
  · rwa [TemplatesOnce, hsame]
  · obtain ⟨-, hnew, htemplates⟩ := putTemplate_ok hput
    rw [TemplatesOnce, htemplates, List.map_append, List.nodup_append]
    refine ⟨h, by simp, ?_⟩
    intro k hk j hj
    obtain ⟨row, hrow, rfl⟩ := List.mem_map.mp hk
    rw [List.map_singleton, List.mem_singleton] at hj
    exact hj ▸ hnew row hrow

/-- No run writes a second row of a template. -/
theorem templatesOnce_performAll (operations : List Operation) :
    (Backend.performAll (Backend.empty : Relational) operations).2.TemplatesOnce :=
  Backend.performAll_keeps (P := TemplatesOnce) (fun _ _ _ h hput => h.put hput) operations _ List.nodup_nil

/-- Rows of templates stay. -/
theorem templates_prefix_performAll (r : Relational) (operations : List Operation) :
    r.templates <+: (Backend.performAll r operations).2.templates := by
  refine Backend.performAll_keeps (P := fun s => r.templates <+: s.templates) ?_ operations r (List.prefix_refl _)
  intro s record s' h hput
  rcases templates_of_put hput with hsame | ⟨t, -, hput⟩
  · rwa [hsame]
  · rw [(putTemplate_ok hput).2.2]
    exact h.trans (List.prefix_append _ _)

/-- Rows are told by their keys. -/
theorem TemplatesOnce.eq_of_key {a b : TemplateRow} (h : r.TemplatesOnce) (ha : a ∈ r.templates) (hb : b ∈ r.templates)
    (hkey : templateKey a = templateKey b) : a = b :=
  List.inj_on_of_nodup_map h ha hb hkey

/-! ## Joins with rows that cannot be read -/

section

variable {α π : Type} {children : α → List String} {parent : α → Except StorageError π}

/-- A parent and its ordered children are read as a group. -/
def ReadsAs (parent : α → Except StorageError π) (children : α → List String) (row : α) (g : Group π String) : Prop :=
  parent row = .ok g.parent ∧ g.children = orderBy (fun c => [c]) (children row)

/-- Reading stops at a parent that cannot be read. -/
theorem readRows_join_error {row : α} {e : StorageError} (h : parent row = .error e) (rest : List (α × Option String)) :
    readRows parent (join children row ++ rest) = ⟨[], some e⟩ := by
  unfold join
  cases orderBy (fun c => [c]) (children row) with
  | nil => simp only [List.singleton_append, readRows, h]
  | cons c cs => simp only [List.map_cons, List.cons_append, readRows, h]

/-- Joined parents are read as groups up to the first parent that cannot be read. -/
theorem readRows_joins (parent : α → Except StorageError π) (children : α → List String) (rows : List α) :
    ∃ readable rest groups, rows = readable ++ rest ∧ List.Forall₂ (ReadsAs parent children) readable groups ∧
      ((rest = [] ∧ readRows parent (rows.flatMap (join children)) = ⟨flattenGroups groups, none⟩) ∨
        ∃ row ∈ rows, ∃ e, parent row = .error e ∧
          readRows parent (rows.flatMap (join children)) = ⟨flattenGroups groups, some e⟩) := by
  induction rows with
  | nil => exact ⟨[], [], [], rfl, .nil, .inl ⟨rfl, rfl⟩⟩
  | cons row rows ih =>
    rw [List.flatMap_cons]
    cases hrow : parent row with
    | error e =>
      exact ⟨[], row :: rows, [], rfl, .nil, .inr ⟨row, List.mem_cons_self, e, hrow, readRows_join_error hrow _⟩⟩
    | ok p =>
      obtain ⟨readable, rest, groups, hrows, hreads, hcase⟩ := ih
      refine ⟨row :: readable, rest, ⟨p, orderBy (fun c => [c]) (children row)⟩ :: groups, by rw [hrows]; rfl,
        .cons ⟨hrow, rfl⟩ hreads, ?_⟩
      rw [readRows_join_append hrow]
      rcases hcase with ⟨hrest, hread⟩ | ⟨bad, hbad, e, herror, hread⟩
      · exact .inl ⟨hrest, by rw [hread]; rfl⟩
      · exact .inr ⟨bad, List.mem_cons_of_mem row hbad, e, herror, by rw [hread]; rfl⟩

end

/-! ## Look-ups -/

/-- The rows of one group are looked up as that group. -/
theorem groupSingle_rows {π κ : Type} [GroupKey π κ] [DecidableEq κ] (what : String) (g : Group π String) :
    groupSingle what g.rows = .ok (some (ParentRows.ofGroup g).group) := by
  have hrows := (ParentRows.ofGroup g).pushAll_rows [] (by simp)
  rw [ParentRows.rows_ofGroup] at hrows
  rw [groupSingle, RowGrouper.empty, hrows]
  rfl

/-- A group as a parent keeps its parent. -/
theorem parent_group_ofGroup {π γ κ : Type} [GroupKey π κ] [DecidableEq γ] (g : Group π γ) :
    (ParentRows.ofGroup g).group.parent = g.parent := by
  obtain ⟨parent, children⟩ := g
  cases children <;> rfl

/-- The children of a template are no part of what it is without them. -/
theorem withoutRatings_assemble (g : Group RatingTemplate String) : g.assemble.withoutRatings = g.parent.withoutRatings := rfl

section

variable {office : Option String} {id : String} {row : TemplateRow}

/-- The join of a single row. -/
theorem join_orderBy_singleton (children : TemplateRow → List String) (row : TemplateRow) :
    (orderBy templateKey [row]).flatMap (join children) = join children row ++ [] := by
  rw [orderBy, List.mergeSort_singleton, List.flatMap_cons, List.flatMap_nil]

/-- A look-up of the only row of its kind fails as the row cannot be read. -/
theorem template?_error {e : StorageError}
    (honly : r.templates.filter (fun t => (office.all fun o => sameUpper t.officeId o) && sameUpper t.id id) = [row])
    (h : row.template = .error e) : r.template? office id = .error e := by
  unfold template?
  simp only [honly]
  rw [join_orderBy_singleton, readRows_join_error h]
  rfl

/-- A look-up of the only row of its kind finds what is read of the row, with its ratings. -/
theorem template?_ok {p : RatingTemplate}
    (honly : r.templates.filter (fun t => (office.all fun o => sameUpper t.officeId o) && sameUpper t.id id) = [row])
    (h : row.template = .ok p) : ∃ found, r.template? office id = .ok (some found) ∧ found.withoutRatings = p := by
  refine ⟨(ParentRows.ofGroup ⟨p, orderBy (fun c => [c]) (r.ratingsOf row)⟩).group.assemble, ?_, ?_⟩
  · unfold template?
    simp only [honly]
    rw [join_orderBy_singleton, readRows_join_append h]
    simp only [single, readRows, List.append_nil, groupSingle_rows]
    rfl
  · rw [withoutRatings_assemble, parent_group_ofGroup]
    exact (TemplateRow.of_template h).2.2.2

/-- A look-up of the only row of its kind finds a template exactly when the row is read as it. -/
theorem template?_of_only {p : RatingTemplate}
    (honly : r.templates.filter (fun t => (office.all fun o => sameUpper t.officeId o) && sameUpper t.id id) = [row]) :
    (∃ found, r.template? office id = .ok (some found) ∧ found.withoutRatings = p) ↔ row.template = .ok p := by
  constructor
  · rintro ⟨found, hfound, rfl⟩
    cases hrow : row.template with
    | error e =>
      rw [template?_error honly hrow] at hfound
      cases hfound
    | ok q =>
      obtain ⟨found', hfound', rfl⟩ := template?_ok honly hrow
      rw [hfound'] at hfound
      cases hfound
      rfl
  · exact template?_ok honly

end

/-- Where no other key is equal to that of a stored row up to case, the row is the only one that is looked up by it. -/
theorem filter_only {row : TemplateRow} (honce : r.TemplatesOnce) (hrow : row ∈ r.templates)
    (halone : ∀ other ∈ r.templates, Text.sameFolded other.officeId row.officeId = true →
      Text.sameFolded other.id row.id = true → templateKey other = templateKey row) :
    r.templates.filter (fun t => ((some row.officeId).all fun o => sameUpper t.officeId o) && sameUpper t.id row.id) =
      [row] := by
  rw [← List.perm_singleton, List.perm_ext_iff_of_nodup ((List.Nodup.of_map _ honce).filter _) (List.nodup_singleton row)]
  intro other
  simp only [List.mem_filter, List.mem_singleton, Option.all_some, Bool.and_eq_true, sameUpper_eq]
  constructor
  · rintro ⟨hother, hoffice, hid⟩
    exact honce.eq_of_key hother hrow (halone other hother hoffice hid)
  · rintro rfl
    exact ⟨hrow, Text.sameFolded_self _, Text.sameFolded_self _⟩

/-! ## Pages -/

/-- The rows of templates that a cursor names among those that a filter selects. -/
def templateWindow (r : Relational) (filter : Filter) (cursor : Cursor) : Except StorageError (List TemplateRow) :=
  (select (·.officeId) (·.id) filter r.templates).map fun selected =>
    window (orderBy templateKey selected) cursor.offset cursor.pageSize

/-- A selection leaves rows out and keeps their order. -/
theorem select_sublist {α : Type} {office id : α → String} {filter : Filter} {rows selected : List α}
    (h : select office id filter rows = .ok selected) : selected.Sublist rows := by
  unfold select at h
  simp only at h
  split at h
  · cases h
    exact List.filter_sublist
  · split at h
    · cases h
    · cases h
      exact List.filter_sublist.trans List.filter_sublist

/-- A window holds no more rows than are wanted, each once and all of them stored, and is no longer than the table leaves
behind its offset. -/
theorem of_templateWindow {filter : Filter} {cursor : Cursor} {rows : List TemplateRow}
    (h : r.templateWindow filter cursor = .ok rows) (honce : r.TemplatesOnce) :
    (∀ row ∈ rows, row ∈ r.templates) ∧ (rows.map templateKey).Nodup ∧ rows.length ≤ cursor.pageSize.toNat ∧
      rows.length ≤ r.templates.length - min cursor.offset.toNat greatestOffset := by
  obtain ⟨selected, hselect, rfl⟩ := map_eq_ok.mp h
  have hselected := select_sublist hselect
  have hperm : (orderBy templateKey selected).Perm selected := List.mergeSort_perm _ _
  have hsub : (window (orderBy templateKey selected) cursor.offset cursor.pageSize).Sublist
      (orderBy templateKey selected) := (List.take_sublist _ _).trans (List.drop_sublist _ _)
  refine ⟨fun row hrow => hselected.subset (hperm.subset (hsub.subset hrow)), ?_, List.length_take_le _ _, ?_⟩
  · refine List.Nodup.sublist (hsub.map _) ((hperm.map templateKey).nodup_iff.mpr ?_)
    exact honce.sublist (hselected.map _)
  · have hlength := hperm.length_eq
    have hle := hselected.length_le
    rw [window, List.length_take, List.length_drop]
    omega

/-- The parents of groups that rows are read as have the keys of the rows. -/
theorem nodup_parents {rows : List TemplateRow} {groups : List (Group RatingTemplate String)}
    {children : TemplateRow → List String} (hreads : List.Forall₂ (ReadsAs TemplateRow.template children) rows groups)
    (honce : (rows.map templateKey).Nodup) : (groups.map fun g => GroupKey.key g.parent).Nodup := by
  have hkeys : groups.map (fun g => [g.parent.officeId, g.parent.id]) = rows.map templateKey := by
    induction hreads with
    | nil => rfl
    | cons hread _ ih =>
      obtain ⟨hoffice, hid, -⟩ := TemplateRow.of_template hread.1
      rw [List.map_cons, List.map_cons, ih (List.nodup_cons.mp honce).2, hoffice, hid, templateKey]
  rw [← hkeys] at honce
  refine List.Nodup.of_map (fun k : RatingTemplateKey => [k.officeId, k.id]) ?_
  rw [List.map_map]
  exact honce

/-- A page of templates is made of what its rows are read as, or fails with the first of them that cannot be read. -/
theorem templateRows_page {filter : Filter} {request : PageRequest} {rows : List TemplateRow}
    (h : r.templateWindow filter (Cursor.decode request.token request.defaultPageSize) = .ok rows)
    (honce : r.TemplatesOnce) :
    (∃ groups cursor, List.Forall₂ (ReadsAs TemplateRow.template r.ratingsOf) rows groups ∧
      cursor.offset = (Cursor.decode request.token request.defaultPageSize).offset ∧
      ∃ hdistinct, r.templateRows.page filter request =
        RowSource.pageOf request cursor (Listing.ofGroups groups hdistinct).groups) ∨
    ∃ row ∈ rows, ∃ e, row.template = .error e ∧ r.templateRows.page filter request = .error (.source e) := by
  obtain ⟨-, hnodup, hsize, -⟩ := of_templateWindow h honce
  obtain ⟨selected, hselect, rfl⟩ := map_eq_ok.mp h
  obtain ⟨cursor, hcursor⟩ : ∃ cursor, (r.templateRows.countTotal filter request
      (Cursor.decode request.token request.defaultPageSize)).1 = .ok cursor := by
    cases hcount : (r.templateRows.countTotal filter request
        (Cursor.decode request.token request.defaultPageSize)).1 with
    | ok cursor => exact ⟨cursor, rfl⟩
    | error e =>
      have hfails := (RowSource.countTotal_error hcount).2.2
      have hcounts : r.templateRows.count filter = .ok (UInt64.ofNat selected.length) := count_source hselect
      rw [hcounts] at hfails
      cases hfails
  obtain ⟨hoffset, hpageSize⟩ := RowSource.countTotal_ok hcursor
  rw [← hoffset, ← hpageSize] at hnodup hsize ⊢
  have hscan : r.templateRows.scan filter cursor.offset cursor.pageSize = readRows TemplateRow.template
      ((window (orderBy templateKey selected) cursor.offset cursor.pageSize).flatMap (join r.ratingsOf)) := by
    simp only [templateRows, source, hselect]
  obtain ⟨readable, rest, groups, hrows, hreads, hcase⟩ := readRows_joins TemplateRow.template r.ratingsOf
    (window (orderBy templateKey selected) cursor.offset cursor.pageSize)
  have hdistinct : (groups.map fun g => GroupKey.key g.parent).Nodup := by
    refine nodup_parents hreads (hnodup.sublist (List.Sublist.map _ ?_))
    rw [hrows]
    exact List.sublist_append_left _ _
  have hlength : groups.length ≤ cursor.pageSize.toNat := by
    have hall := congrArg List.length hrows
    rw [List.length_append, hreads.length_eq] at hall
    omega
  rcases hcase with ⟨rfl, hread⟩ | ⟨row, hrow, e, herror, hread⟩
  · rw [List.append_nil] at hrows
    rw [hread] at hscan
    exact .inl ⟨groups, cursor, hrows ▸ hreads, rfl, hdistinct, RowSource.page_of_scan hdistinct hcursor hscan hlength⟩
  · rw [hread] at hscan
    exact .inr ⟨row, hrow, e, herror, RowSource.page_of_scan hdistinct hcursor hscan hlength⟩

/-- The items of a page of templates are what its rows are read as, up to the ratings. -/
theorem mem_items_page {groups : List (Group RatingTemplate String)} {request : PageRequest} {cursor : Cursor}
    {hdistinct : (groups.map fun g => GroupKey.key g.parent).Nodup} {q : Page (Group RatingTemplate String)}
    (h : (RowSource.pageOf request cursor (Listing.ofGroups groups hdistinct).groups :
      Except (PageFailure StorageError) _) = .ok q) {bare : RatingTemplate} :
    (∃ item ∈ (q.map Group.assemble).items, item.withoutRatings = bare) ↔
      ∃ g ∈ groups, g.parent.withoutRatings = bare := by
  rw [Page.map, (RowSource.pageOf_ok h).1]
  simp only [Listing.groups, Listing.ofGroups, List.map_map, List.mem_map, exists_exists_and_eq_and, Function.comp_apply,
    withoutRatings_assemble, parent_group_ofGroup]

/-- The page of a window that is not empty does not leave 64 bits, as a table has no more rows than a query can skip. -/
theorem pageOf_window_ne_error {filter : Filter} {request : PageRequest} {cursor : Cursor} {rows : List TemplateRow}
    {items : List (Group RatingTemplate String)} {e : PageFailure StorageError}
    (h : r.templateWindow filter (Cursor.decode request.token request.defaultPageSize) = .ok rows)
    (honce : r.TemplatesOnce) (hfit : r.templates.length ≤ greatestOffset) (hne : rows ≠ [])
    (hoffset : cursor.offset = (Cursor.decode request.token request.defaultPageSize).offset)
    (hlength : items.length = rows.length) : RowSource.pageOf request cursor items ≠ .error e := by
  intro herror
  have hlarge := (RowSource.pageOf_error herror).2
  have hwindow := (of_templateWindow h honce).2.2.2
  have hpos : 0 < rows.length := List.length_pos_iff.mpr hne
  rw [← hoffset] at hwindow
  simp only [greatestOffset, UInt64.size] at *
  omega

/-- A page of templates is a page of rows whose groups are put together. -/
theorem templatesPage_eq_ok {filter : Filter} {request : PageRequest} {p : Page RatingTemplate} :
    Backend.templatesPage r filter request = .ok p ↔
      ∃ q, r.templateRows.page filter request = .ok q ∧ q.map Group.assemble = p := by
  rw [Backend.templatesPage, mapError_eq_ok, map_eq_ok]
  rfl

/-! ## Stored templates -/

/-- Among rows that are read as groups, a template whose row is one of them is a group exactly when its row is read as it. -/
theorem exists_group_iff {rows : List TemplateRow} {groups : List (Group RatingTemplate String)}
    {children : TemplateRow → List String} (hreads : List.Forall₂ (ReadsAs TemplateRow.template children) rows groups)
    (honce : r.TemplatesOnce) (hrows : ∀ row ∈ rows, row ∈ r.templates) (hmem : TemplateRow.ofTemplate t ∈ rows) :
    (∃ g ∈ groups, g.parent.withoutRatings = t.withoutRatings) ↔
      (TemplateRow.ofTemplate t).template = .ok t.withoutRatings := by
  obtain ⟨hgroupOf, hrowOf⟩ := exists_of_forall₂ hreads
  constructor
  · rintro ⟨g, hg, heq⟩
    obtain ⟨row, hrow, hread⟩ := hrowOf g hg
    obtain ⟨hoffice, hid, -, hbare⟩ := TemplateRow.of_template hread.1
    rw [hbare] at heq
    -- what has the key of the template was read of the row of the template
    have hkey : templateKey row = templateKey (TemplateRow.ofTemplate t) := by
      rw [templateKey, ← hoffice, ← hid, heq]
      rfl
    rw [← honce.eq_of_key (hrows row hrow) (hrows _ hmem) hkey, hread.1, heq]
  · intro hread
    obtain ⟨g, hg, hparent, -⟩ := hgroupOf _ hmem
    rw [hread] at hparent
    exact ⟨g, hg, by rw [← Except.ok.inj hparent]; rfl⟩

/-- A stored template that no other key is equal to up to case is found as it was put exactly when columns keep its specs. -/
theorem template?_iff (honce : r.TemplatesOnce) (hspecs : t.specs ≠ []) (hstored : TemplateRow.ofTemplate t ∈ r.templates)
    (halone : ∀ row ∈ r.templates, Text.sameFolded row.officeId t.officeId = true → Text.sameFolded row.id t.id = true →
      row.officeId = t.officeId ∧ row.id = t.id) :
    (∃ found, r.template? (some t.officeId) t.id = .ok (some found) ∧ found.withoutRatings = t.withoutRatings) ↔
      ∀ spec ∈ t.specs, spec.Columnar := by
  rw [← TemplateRow.template_ofTemplate_iff hspecs]
  refine template?_of_only (@filter_only r (TemplateRow.ofTemplate t) honce hstored fun row hrow hoffice hid => ?_)
  obtain ⟨hoffice, hid⟩ := halone row hrow hoffice hid
  rw [templateKey, hoffice, hid]
  rfl

/-- A page whose window holds the row of a template holds the template as it was put exactly when columns keep its specs and
every row of the window can be read. -/
theorem templatesPage_iff {filter : Filter} {request : PageRequest} {rows : List TemplateRow} (honce : r.TemplatesOnce)
    (hfit : r.templates.length ≤ greatestOffset) (hspecs : t.specs ≠ [])
    (hwindow : r.templateWindow filter (Cursor.decode request.token request.defaultPageSize) = .ok rows)
    (hmem : TemplateRow.ofTemplate t ∈ rows) :
    (∃ p, Backend.templatesPage r filter request = .ok p ∧ ∃ item ∈ p.items, item.withoutRatings = t.withoutRatings) ↔
      (∀ spec ∈ t.specs, spec.Columnar) ∧ ∀ row ∈ rows, ∃ other, row.template = .ok other := by
  rw [← TemplateRow.template_ofTemplate_iff hspecs]
  rcases templateRows_page hwindow honce with ⟨groups, cursor, hreads, hoffset, hdistinct, hpage⟩ |
    ⟨row, hrow, e, herror, hpage⟩
  · have hreadable : ∀ row ∈ rows, ∃ other, row.template = .ok other := fun row hrow =>
      have ⟨g, _, hread⟩ := (exists_of_forall₂ hreads).1 row hrow
      ⟨g.parent, hread.1⟩
    have hlength : (Listing.ofGroups groups hdistinct).groups.length = rows.length := by
      rw [hreads.length_eq]
      simp [Listing.groups, Listing.ofGroups]
    cases hq : (RowSource.pageOf request cursor (Listing.ofGroups groups hdistinct).groups :
        Except (PageFailure StorageError) _) with
    | error e =>
      exact absurd hq (pageOf_window_ne_error hwindow honce hfit (List.ne_nil_of_mem hmem) hoffset hlength)
    | ok q =>
      rw [hq] at hpage
      rw [← exists_group_iff hreads honce (of_templateWindow hwindow honce).1 hmem, ← mem_items_page hq]
      constructor
      · rintro ⟨p, hp, hfound⟩
        obtain ⟨q', hq', rfl⟩ := templatesPage_eq_ok.mp hp
        obtain rfl := Except.ok.inj (hpage.symm.trans hq')
        exact ⟨hfound, hreadable⟩
      · rintro ⟨hfound, -⟩
        exact ⟨_, templatesPage_eq_ok.mpr ⟨q, hpage, rfl⟩, hfound⟩
  · constructor
    · rintro ⟨p, hp, -⟩
      obtain ⟨q, hq, -⟩ := templatesPage_eq_ok.mp hp
      rw [hpage] at hq
      cases hq
    · rintro ⟨-, hreadable⟩
      obtain ⟨other, hother⟩ := hreadable row hrow
      rw [herror] at hother
      cases hother

/-- For every template that a relational store takes, behind any operations and before any others: looking it up, where no
other key is equal to its own up to case, gives the template with the specs that were put exactly when columns keep them; and a
page whose window holds its row can be read, and holds the template with these specs, exactly when columns keep them and every
row of the window can be read. -/
theorem template_readBack_iff (before after : List Operation) {t : RatingTemplate}
    (hput : (Backend.performAll (Backend.empty : Relational) before).2.putTemplate t = .ok r) :
    let s := (Backend.performAll r after).2
    ((∀ row ∈ s.templates, Text.sameFolded row.officeId t.officeId = true → Text.sameFolded row.id t.id = true →
        row.officeId = t.officeId ∧ row.id = t.id) →
      ((∃ found, s.template? (some t.officeId) t.id = .ok (some found) ∧ found.withoutRatings = t.withoutRatings) ↔
        ∀ spec ∈ t.specs, spec.Columnar)) ∧
    ∀ filter request rows, s.templateWindow filter (Cursor.decode request.token request.defaultPageSize) = .ok rows →
      TemplateRow.ofTemplate t ∈ rows → s.templates.length ≤ greatestOffset →
      ((∃ p, Backend.templatesPage s filter request = .ok p ∧
          ∃ item ∈ p.items, item.withoutRatings = t.withoutRatings) ↔
        (∀ spec ∈ t.specs, spec.Columnar) ∧ ∀ row ∈ rows, ∃ other, row.template = .ok other) := by
  intro s
  obtain ⟨hspecs, -, htemplates⟩ := putTemplate_ok hput
  have honce : s.TemplatesOnce := by
    refine Backend.performAll_keeps (P := TemplatesOnce) (fun _ _ _ h hput => h.put hput) after r ?_
    have hstep : (Backend.performAll (Backend.empty : Relational) before).2.put (.ratingTemplate t) = .ok r := hput
    exact (templatesOnce_performAll before).put hstep
  have hstored : TemplateRow.ofTemplate t ∈ s.templates := by
    refine (templates_prefix_performAll r after).subset ?_
    rw [htemplates]
    exact List.mem_append_right _ (List.mem_singleton_self _)
  refine ⟨template?_iff honce hspecs hstored, ?_⟩
  intro filter request rows hwindow hmem hfit
  exact templatesPage_iff honce hfit hspecs hwindow hmem

/-! ## Templates with one parameter -/

/-- A template with one parameter. -/
def templateOf (parameter : String) : RatingTemplate :=
  { officeId := "SWT", id := "Elev;Area", version := "Linear", description := none, dependentParameter := "Area"
    specs := [⟨parameter, "LINEAR", "ERROR", "ERROR"⟩], ratingIds := [] }

/-- The store with that template only. -/
def storeOf (parameter : String) : Relational :=
  { empty with templates := [TemplateRow.ofTemplate (templateOf parameter)] }

/-- The request for the first page. -/
def firstTemplates : PageRequest := { token := none, defaultPageSize := 20, includeTotal := false }

/-- The listing of the store is its only template. -/
theorem templateWindow_storeOf (parameter : String) :
    (storeOf parameter).templateWindow { office := none, mask := none }
      (Cursor.decode firstTemplates.token firstTemplates.defaultPageSize) =
      .ok [TemplateRow.ofTemplate (templateOf parameter)] := by
  have horder : orderBy templateKey [TemplateRow.ofTemplate (templateOf parameter)] =
      [TemplateRow.ofTemplate (templateOf parameter)] := by
    rw [orderBy, List.mergeSort_singleton]
  exact congrArg (fun rows => Except.ok (window rows 0 20)) horder

/-- A template with a plain parameter is found again, by name and on the first page. -/
theorem template_readBack_iff_elev :
    (empty.putTemplate (templateOf "Elev") = .ok (storeOf "Elev") ∧ (∀ s ∈ (templateOf "Elev").specs, s.Columnar)) ∧
    (∃ found, (storeOf "Elev").template? (some "SWT") "Elev;Area" = .ok (some found) ∧
      found.withoutRatings = (templateOf "Elev").withoutRatings) ∧
    ∃ p, Backend.templatesPage (storeOf "Elev") { office := none, mask := none } firstTemplates = .ok p ∧
      ∃ item ∈ p.items, item.withoutRatings = (templateOf "Elev").withoutRatings := by
  have hput : empty.putTemplate (templateOf "Elev") = .ok (storeOf "Elev") := rfl
  have hcolumnar : ∀ s ∈ (templateOf "Elev").specs, s.Columnar := by
    intro s hs
    rw [List.mem_singleton.mp hs]
    exact ⟨by decide, by decide⟩
  obtain ⟨hfound, hpage⟩ := template_readBack_iff [] [] hput
  refine ⟨⟨hput, hcolumnar⟩, (hfound fun row hrow _ _ => ?_).mpr hcolumnar, ?_⟩
  · rw [List.mem_singleton.mp hrow]
    exact ⟨rfl, rfl⟩
  refine (hpage _ firstTemplates _ (templateWindow_storeOf "Elev") (List.mem_singleton_self _) (by decide)).mpr
    ⟨hcolumnar, ?_⟩
  intro row hrow
  rw [List.mem_singleton.mp hrow]
  exact ⟨_, (TemplateRow.template_ofTemplate_iff (by decide)).mpr hcolumnar⟩

/-- Why the specs of one parameter with a comma are not read back. -/
def commaError : StorageError :=
  .internal ("rating template Elev;Area: " ++ (SpecError.countMismatch ⟨"Elev,Stor", "ERROR,LINEAR,ERROR"⟩).message)

/-- A template with a comma in its parameter is taken and is the only one, but is neither found again by name nor on the first
page, whose window holds its row. -/
theorem not_readBack_of_comma :
    empty.putTemplate (templateOf "Elev,Stor") = .ok (storeOf "Elev,Stor") ∧
      (storeOf "Elev,Stor").templates = [TemplateRow.ofTemplate (templateOf "Elev,Stor")] ∧
      (storeOf "Elev,Stor").templateWindow { office := none, mask := none }
        (Cursor.decode firstTemplates.token firstTemplates.defaultPageSize) =
        .ok [TemplateRow.ofTemplate (templateOf "Elev,Stor")] ∧
      (storeOf "Elev,Stor").template? (some "SWT") "Elev;Area" = .error commaError ∧
      Backend.templatesPage (storeOf "Elev,Stor") { office := none, mask := none } firstTemplates = .error commaError := by
  have hcolumns : (TemplateRow.ofTemplate (templateOf "Elev,Stor")).columns.specs =
      .error (.countMismatch ⟨"Elev,Stor", "ERROR,LINEAR,ERROR"⟩) := by decide
  have hrow : (TemplateRow.ofTemplate (templateOf "Elev,Stor")).template = .error commaError := by
    rw [TemplateRow.template, hcolumns]
    rfl
  have honce : (storeOf "Elev,Stor").TemplatesOnce := List.nodup_singleton _
  have hstored : TemplateRow.ofTemplate (templateOf "Elev,Stor") ∈ (storeOf "Elev,Stor").templates :=
    List.mem_singleton_self _
  have honly := filter_only honce hstored fun row hother _ _ => by rw [List.mem_singleton.mp hother]
  refine ⟨rfl, rfl, templateWindow_storeOf _, template?_error honly hrow, ?_⟩
  rcases templateRows_page (templateWindow_storeOf "Elev,Stor") honce with ⟨groups, cursor, hreads, -⟩ |
    ⟨row, hmem, e, herror, hpage⟩
  · obtain ⟨g, -, hread, -⟩ := (exists_of_forall₂ hreads).1 _ (List.mem_singleton_self _)
    rw [hrow] at hread
    cases hread
  · rw [List.mem_singleton.mp hmem, hrow] at herror
    obtain rfl := Except.error.inj herror
    have hrows : (Backend.templateRows (storeOf "Elev,Stor")).page { office := none, mask := none } firstTemplates =
        .error (.source commaError) := hpage
    rw [Backend.templatesPage, hrows]
    rfl

end Relational

end BasinRegister
