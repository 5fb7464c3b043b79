import BasinRegister.Proofs.Grouping
import BasinRegister.Record.Location
import BasinRegister.Record.RatingTemplate

/-!
# Grouping rows that come in any order

Rows of different parents may be mixed. After every row a grouper holds exactly what the rows so far say: one group for every
key, in the order in which the keys first came, with the parent of the first row of the key and with the children of all its rows
(`RowGrouper.Holds`). One more row keeps it so (`RowGrouper.Holds.push`), hence any run of rows does
(`RowGrouper.holds_pushAll`). All answers of a grouper follow from that (`grouping_sound`).
-/

namespace BasinRegister

section

variable {π γ κ : Type} [GroupKey π κ]

/-- The keys of rows, with repeats. -/
def keysOf (rows : List (JoinRow π γ)) : List κ := rows.map fun row => GroupKey.key row.parent

/-- One more row has one more key. -/
theorem keysOf_concat (rows : List (JoinRow π γ)) (row : JoinRow π γ) :
    keysOf (rows ++ [row]) = keysOf rows ++ [GroupKey.key row.parent] :=
  List.map_append

variable [DecidableEq κ]

/-- The rows of a key, in order. -/
def rowsOf (rows : List (JoinRow π γ)) (k : κ) : List (JoinRow π γ) :=
  rows.filter fun row => GroupKey.key row.parent = k

/-- A row with a key is one more of its rows. -/
theorem rowsOf_concat_of_eq {row : JoinRow π γ} {k : κ} (h : GroupKey.key row.parent = k) (rows : List (JoinRow π γ)) :
    rowsOf (rows ++ [row]) k = rowsOf rows k ++ [row] := by
  simp [rowsOf, h]

/-- A row with another key is not. -/
theorem rowsOf_concat_of_ne {row : JoinRow π γ} {k : κ} (h : GroupKey.key row.parent ≠ k) (rows : List (JoinRow π γ)) :
    rowsOf (rows ++ [row]) k = rowsOf rows k := by
  simp [rowsOf, h]

/-- A key that no row has is one without rows. -/
theorem rowsOf_eq_nil {rows : List (JoinRow π γ)} {k : κ} (h : k ∉ keysOf rows) : rowsOf rows k = [] := by
  rw [rowsOf, List.filter_eq_nil_iff]
  intro row hrow hk
  exact h (List.mem_map.mpr ⟨row, hrow, of_decide_eq_true hk⟩)

variable [DecidableEq γ]

/-! ## What one group collects -/

/-- A group with a row: one of its key adds its child, unless the group has it. -/
def Group.withRow (group : Group π γ) (row : JoinRow π γ) : Group π γ :=
  if GroupKey.key group.parent = GroupKey.key row.parent then
    { group with children := RowGrouper.addChild group.children row.child }
  else group

/-- A group collects the rows of its key. -/
structure Group.Collects (group : Group π γ) (rows : List (JoinRow π γ)) : Prop where
  /-- Its parent is the one of the first of them. -/
  parent : (rowsOf rows (GroupKey.key group.parent)).head?.map JoinRow.parent = some group.parent
  /-- Its children are theirs in order, with later repeats left out. -/
  children : group.children = ((rowsOf rows (GroupKey.key group.parent)).filterMap JoinRow.child).eraseDups

namespace Group.Collects

variable {group : Group π γ} {rows : List (JoinRow π γ)} {row : JoinRow π γ}

/-- A row of another key is not collected. -/
theorem concat_of_ne (h : group.Collects rows) (hrow : GroupKey.key row.parent ≠ GroupKey.key group.parent) :
    group.Collects (rows ++ [row]) := by
  refine ⟨?_, ?_⟩
  · rw [rowsOf_concat_of_ne hrow, h.parent]
  · rw [rowsOf_concat_of_ne hrow, ← h.children]

/-- With a row the group collects it too. -/
theorem withRow (h : group.Collects rows) (row : JoinRow π γ) : (group.withRow row).Collects (rows ++ [row]) := by
  rw [Group.withRow]
  by_cases hrow : GroupKey.key group.parent = GroupKey.key row.parent
  · rw [if_pos hrow]
    refine ⟨?_, ?_⟩
    · rw [rowsOf_concat_of_eq hrow.symm, List.head?_append, Option.map_or, h.parent, Option.some_or]
    · show RowGrouper.addChild group.children row.child = _
      rw [rowsOf_concat_of_eq hrow.symm, h.children, RowGrouper.addChild_eraseDups, List.filterMap_append]
      cases hchild : row.child <;> simp [hchild]
  · rw [if_neg hrow]
    exact h.concat_of_ne (Ne.symm hrow)

/-- The first row of a key opens a group that collects it. -/
theorem of_new (hrow : GroupKey.key row.parent ∉ keysOf rows) :
    Collects ⟨row.parent, RowGrouper.addChild [] row.child⟩ (rows ++ [row]) := by
  have hrows : rowsOf (rows ++ [row]) (GroupKey.key row.parent) = [row] := by
    rw [rowsOf_concat_of_eq rfl, rowsOf_eq_nil hrow, List.nil_append]
  refine ⟨?_, ?_⟩
  · rw [hrows]
    rfl
  · rw [hrows]
    cases hchild : row.child <;> simp [hchild, RowGrouper.addChild, List.eraseDups_cons]

end Group.Collects

/-! ## What a grouper holds -/

namespace RowGrouper

/-- A grouper holds exactly what rows say. -/
structure Holds (g : RowGrouper π γ) (rows : List (JoinRow π γ)) : Prop where
  /-- There is one group for every key, in the order in which the keys first come. -/
  keys : g.keys = (keysOf rows).eraseDups
  /-- Each group collects the rows of its key. -/
  collects : ∀ group ∈ g.groups, group.Collects rows

variable {g : RowGrouper π γ} {rows : List (JoinRow π γ)}

/-- A grouper has the keys of its rows. -/
theorem Holds.mem_keys (h : g.Holds rows) {k : κ} : k ∈ g.keys ↔ k ∈ keysOf rows := by
  rw [h.keys, List.mem_eraseDups]

/-- It has none of them twice. -/
theorem Holds.nodup_keys (h : g.Holds rows) : g.keys.Nodup := by
  rw [h.keys]
  exact nodup_eraseDups _

/-- A row of a key that has a group goes to every group, and changes the one of its key. -/
theorem insertRow_old (row : JoinRow π γ) (gs : List (Group π γ))
    (h : GroupKey.key row.parent ∈ gs.map fun group => GroupKey.key group.parent)
    (honce : (gs.map fun group => GroupKey.key group.parent).Nodup) :
    insertRow row gs = gs.map fun group => group.withRow row := by
  induction gs with
  | nil => cases h
  | cons group gs ih =>
    rw [List.map_cons, List.nodup_cons] at honce
    by_cases hgroup : GroupKey.key group.parent = GroupKey.key row.parent
    · have hrest : ∀ other ∈ gs, other.withRow row = other := by
        intro other hother
        refine if_neg fun hsame => honce.1 ?_
        exact List.mem_map.mpr ⟨other, hother, hsame.trans hgroup.symm⟩
      rw [insertRow, if_pos hgroup, List.map_cons, Group.withRow, if_pos hgroup, List.map_congr_left hrest, List.map_id']
    · have hlater : GroupKey.key row.parent ∈ gs.map fun group => GroupKey.key group.parent := by
        simpa [Ne.symm hgroup] using h
      rw [insertRow, if_neg hgroup, List.map_cons, Group.withRow, if_neg hgroup, ih hlater honce.2]

/-- With one more row a grouper holds what the rows and this one say. -/
theorem Holds.push (h : g.Holds rows) (row : JoinRow π γ) : (g.push row).Holds (rows ++ [row]) := by
  by_cases hrow : GroupKey.key row.parent ∈ keysOf rows
  · -- the key has a group: the keys stay, and only that group changes
    have hmem : GroupKey.key row.parent ∈ g.keys := h.mem_keys.mpr hrow
    refine ⟨?_, ?_⟩
    · rw [keys_push, if_pos hmem, h.keys, keysOf_concat, List.eraseDups_append]
      simp [List.cons_removeAll, hrow]
    · intro group hgroup
      rw [RowGrouper.push, insertRow_old row g.groups hmem h.nodup_keys] at hgroup
      obtain ⟨old, hold, rfl⟩ := List.mem_map.mp hgroup
      exact (h.collects old hold).withRow row
  · -- the key is new: the other groups have no part in the row
    have hnew : GroupKey.key row.parent ∉ g.keys := mt h.mem_keys.mp hrow
    refine ⟨?_, ?_⟩
    · rw [keys_push, if_neg hnew, h.keys, keysOf_concat, List.eraseDups_append]
      simp [List.cons_removeAll, hrow, List.eraseDups_cons]
    · intro group hgroup
      rw [RowGrouper.push, insertRow_new row g.groups hnew, List.mem_append, List.mem_singleton] at hgroup
      rcases hgroup with hgroup | rfl
      · refine (h.collects group hgroup).concat_of_ne fun hsame => hnew ?_
        exact List.mem_map.mpr ⟨group, hgroup, hsame.symm⟩
      · exact Group.Collects.of_new hrow

/-- A grouper that was given rows holds what they say. -/
theorem holds_pushAll (rows : List (JoinRow π γ)) : (empty.pushAll rows).Holds rows := by
  induction rows using List.reverseRecOn with
  | nil => exact ⟨rfl, by simp [empty]⟩
  | append_singleton rows row ih =>
    rw [pushAll_append]
    exact ih.push row

/-! ## What a grouper answers -/

omit [DecidableEq γ] in
/-- A row opens a group when no group has its key. -/
theorem opensGroup_iff (row : JoinRow π γ) (gs : List (Group π γ)) :
    opensGroup row gs = true ↔ GroupKey.key row.parent ∉ gs.map fun group => GroupKey.key group.parent := by
  induction gs with
  | nil => simp [opensGroup]
  | cons group gs ih =>
    rw [opensGroup]
    by_cases hgroup : GroupKey.key group.parent = GroupKey.key row.parent
    · simp [hgroup]
    · rw [if_neg hgroup, ih, List.map_cons, List.mem_cons, not_or]
      exact ⟨fun hlater => ⟨Ne.symm hgroup, hlater⟩, And.right⟩

omit [GroupKey π κ] [DecidableEq κ] [DecidableEq γ] in
/-- The only group is there unless there are several, and then their number is told. -/
theorem finishSingle_cases (g : RowGrouper π γ) (what : String) :
    (∀ v, g.finishSingle what = .error v ↔ 1 < g.size ∧ v = ⟨what, g.size⟩) ∧
      ∀ group, g.finishSingle what = .ok group ↔ group.toList = g.groups := by
  obtain ⟨gs⟩ := g
  match gs with
  | [] =>
    refine ⟨?_, ?_⟩
    · simp [finishSingle, size]
    · intro group
      cases group <;> simp [finishSingle]
  | [only] =>
    refine ⟨?_, ?_⟩
    · simp [finishSingle, size]
    · intro group
      cases group <;> simp [finishSingle, eq_comm]
  | first :: second :: others =>
    refine ⟨?_, ?_⟩
    · intro v
      simp [finishSingle, size, eq_comm]
    · intro group
      cases group <;> simp [finishSingle]

end RowGrouper

/-- Each of the rows has one group. -/
theorem existsUnique_group {rows : List (JoinRow π γ)} {row : JoinRow π γ} (h : row ∈ rows) :
    ∃! group, group ∈ groupRows rows ∧ GroupKey.key group.parent = GroupKey.key row.parent := by
  have hholds := RowGrouper.holds_pushAll rows
  have hmem : GroupKey.key row.parent ∈ (RowGrouper.empty.pushAll rows).keys :=
    hholds.mem_keys.mpr (List.mem_map.mpr ⟨row, h, rfl⟩)
  obtain ⟨group, hgroup, hkey⟩ := List.mem_map.mp hmem
  refine ⟨group, ⟨hgroup, hkey⟩, ?_⟩
  rintro other ⟨hother, hsame⟩
  exact List.inj_on_of_nodup_map hholds.nodup_keys hother hgroup (hsame.trans hkey.symm)

end

/-- Locations have the same key exactly if they are the same but for their aliases. -/
theorem Location.key_eq_iff {a b : Location} :
    GroupKey.key a = GroupKey.key b ↔ a = { b with aliases := a.aliases } := by
  constructor
  · intro h
    simp only [GroupKey.key, LocationKey.mk.injEq] at h
    obtain ⟨hoffice, hname, hlatitude, hlongitude, hdatum, hzone, hkind, hpublic, hactive⟩ := h
    -- the bits of a coordinate decide it, the other fields stand in the key themselves
    rw [Option.map_inj_right fun _ _ => Number.Double.bits_inj.mp] at hlatitude hlongitude
    cases a
    cases b
    simp_all
  · intro h
    rw [h]
    rfl

/-- Rating templates have the same key exactly if they are the same but for their ratings. -/
theorem RatingTemplate.key_eq_iff {a b : RatingTemplate} :
    GroupKey.key a = GroupKey.key b ↔ a = { b with ratingIds := a.ratingIds } := by
  constructor
  · intro h
    simp only [GroupKey.key, RatingTemplateKey.mk.injEq] at h
    cases a
    cases b
    simp_all
  · intro h
    rw [h]
    rfl

/-- Whatever rows a grouper was given and in whatever order: a row opens a group exactly when no row before had its key; a parent
has a group exactly when its key has come; there are as many groups as keys that differ; the groups are those that the rows say;
the only one of them is told unless there are several, and then their number is. Each row of locations or of rating templates has
one group, and its parent is that of the group in every field but the children, where coordinates are the same when their bits
are. -/
theorem grouping_sound :
    (∀ {π γ κ : Type} [GroupKey π κ] [DecidableEq κ] [DecidableEq γ] (rows : List (JoinRow π γ)),
      let g := RowGrouper.empty.pushAll rows
      let distinct := (keysOf rows).eraseDups.length
      (∀ row : JoinRow π γ,
        g.enter row = (decide (GroupKey.key row.parent ∉ keysOf rows), RowGrouper.empty.pushAll (rows ++ [row]))) ∧
      (∀ parent : π, g.contains parent = true ↔ GroupKey.key parent ∈ keysOf rows) ∧
      g.size = distinct ∧
      g.Holds rows ∧
      ∀ what, (∀ v, g.finishSingle what = .error v ↔ 1 < distinct ∧ v = ⟨what, distinct⟩) ∧
        ∀ group, g.finishSingle what = .ok group ↔ group.toList = g.groups) ∧
    (∀ rows : List (JoinRow Location String), ∀ row ∈ rows,
      (∃! group, group ∈ groupRows rows ∧ GroupKey.key group.parent = GroupKey.key row.parent) ∧
      ∀ group ∈ groupRows rows, GroupKey.key group.parent = GroupKey.key row.parent →
        row.parent = { group.parent with aliases := row.parent.aliases }) ∧
    ∀ rows : List (JoinRow RatingTemplate String), ∀ row ∈ rows,
      (∃! group, group ∈ groupRows rows ∧ GroupKey.key group.parent = GroupKey.key row.parent) ∧
      ∀ group ∈ groupRows rows, GroupKey.key group.parent = GroupKey.key row.parent →
        row.parent = { group.parent with ratingIds := row.parent.ratingIds } := by
  refine ⟨?_, ?_, ?_⟩
  · intro π γ κ _ _ _ rows g distinct
    have hholds : g.Holds rows := RowGrouper.holds_pushAll rows
    have hsize : g.size = distinct := by rw [← g.length_keys, hholds.keys]
    refine ⟨?_, ?_, hsize, hholds, ?_⟩
    · intro row
      have hopens : RowGrouper.opensGroup row g.groups = decide (GroupKey.key row.parent ∉ keysOf rows) := by
        rw [Bool.eq_iff_iff, RowGrouper.opensGroup_iff, decide_eq_true_eq, ← hholds.mem_keys, RowGrouper.keys]
      rw [RowGrouper.enter, hopens, RowGrouper.pushAll_append]
      rfl
    · intro parent
      rw [g.contains_iff, hholds.mem_keys]
    · intro what
      rw [← hsize]
      exact g.finishSingle_cases what
  · intro rows row hrow
    exact ⟨existsUnique_group hrow, fun group _ hkey => Location.key_eq_iff.mp hkey.symm⟩
  · intro rows row hrow
    exact ⟨existsUnique_group hrow, fun group _ hkey => RatingTemplate.key_eq_iff.mp hkey.symm⟩

/-- A site on the equator, whose zero may have either sign. -/
def equatorSite (latitude : Number.Double) (aliases : List String) : Location :=
  { officeId := "SWT"
    name := "KEYS"
    latitude := some latitude
    longitude := none
    horizontalDatum := none
    timezoneName := none
    locationKind := none
    publicName := none
    active := true
    aliases }

/-- Rows of two locations in turn; the last row brings an alias again, and its parent lists aliases of its own. -/
def equatorRows : List (JoinRow Location String) :=
  [⟨equatorSite .zero [], some "A"⟩, ⟨equatorSite Number.Double.zero.neg [], none⟩, ⟨equatorSite .zero [], some "B"⟩,
    ⟨equatorSite .zero ["C"], some "A"⟩]

/-- The last of them goes to the group of the first, which has each alias once and is the only one that agrees with it. -/
theorem grouping_sound_equator :
    (⟨equatorSite .zero ["C"], some "A"⟩ : JoinRow Location String) ∈ equatorRows ∧
    groupRows equatorRows = [⟨equatorSite .zero [], ["A", "B"]⟩, ⟨equatorSite Number.Double.zero.neg [], []⟩] ∧
    equatorSite .zero ["C"] = { equatorSite .zero [] with aliases := ["C"] } ∧
    (∃! group, group ∈ groupRows equatorRows ∧ GroupKey.key group.parent = GroupKey.key (equatorSite .zero ["C"])) ∧
    (RowGrouper.empty.pushAll equatorRows).finishSingle "site" = .error ⟨"site", 2⟩ := by
  have hrow : (⟨equatorSite .zero ["C"], some "A"⟩ : JoinRow Location String) ∈ equatorRows := by decide
  have hgroups : groupRows equatorRows =
      [⟨equatorSite .zero [], ["A", "B"]⟩, ⟨equatorSite Number.Double.zero.neg [], []⟩] := by
    decide
  obtain ⟨hgrouper, hlocations, -⟩ := grouping_sound
  obtain ⟨honce, hagrees⟩ := hlocations equatorRows _ hrow
  obtain ⟨-, -, -, -, hsingle⟩ := hgrouper equatorRows
  refine ⟨hrow, hgroups, ?_, honce, ?_⟩
  · exact hagrees ⟨equatorSite .zero [], ["A", "B"]⟩ (by rw [hgroups]; exact List.mem_cons_self) rfl
  · exact ((hsingle "site").1 _).mpr (by decide)

end BasinRegister
