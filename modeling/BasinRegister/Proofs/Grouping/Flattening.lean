import BasinRegister.Paging.Listed
import BasinRegister.Proofs.Grouping.AnyOrder

/-!
# Grouping undoes the join

A join lists a parent once for every child, and once without a child when it has none; grouping these rows gives the parents with
their children again. Rows that bring nothing new may stand anywhere behind the first row of their parent: a grouper that has what
they bring does not change (`RowGrouper.Holds.push_spare`), so the groups stay the same (`grouping_undoes_join`).
-/

namespace BasinRegister

variable {π γ κ : Type} [GroupKey π κ]

/-- A row brings nothing new behind others: its parent has a row there, and so does its child with this parent, if it has one. -/
structure JoinRow.Spare (row : JoinRow π γ) (seen : List (JoinRow π γ)) : Prop where
  /-- The parent has a row. -/
  parent : ∃ earlier ∈ seen, GroupKey.key earlier.parent = GroupKey.key row.parent
  /-- The child has come with the parent. -/
  child : ∀ c, row.child = some c →
    ∃ earlier ∈ seen, GroupKey.key earlier.parent = GroupKey.key row.parent ∧ earlier.child = some c

/-- Rows with spare ones put in between, one after the other. -/
inductive Padded (rows : List (JoinRow π γ)) : List (JoinRow π γ) → Prop where
  /-- None is put in. -/
  | none : Padded rows rows
  /-- One is put in behind rows that have what it brings. -/
  | insert {seen later : List (JoinRow π γ)} {row : JoinRow π γ} (hrest : Padded rows (seen ++ later))
    (hspare : row.Spare seen) : Padded rows (seen ++ row :: later)

variable [DecidableEq κ] [DecidableEq γ]

/-- A group that collects rows has whatever a spare one brings. -/
theorem Group.Collects.withRow_spare {group : Group π γ} {seen : List (JoinRow π γ)} (h : group.Collects seen)
    {row : JoinRow π γ} (hspare : row.Spare seen) : group.withRow row = group := by
  rw [Group.withRow]
  split
  · rename_i hown
    have hheld : RowGrouper.addChild group.children row.child = group.children := by
      cases hchild : row.child with
      | none => rfl
      | some c =>
        obtain ⟨earlier, hearlier, hparent, hc⟩ := hspare.child c hchild
        have hmem : c ∈ group.children := by
          rw [h.children, List.mem_eraseDups, List.mem_filterMap]
          refine ⟨earlier, ?_, hc⟩
          rw [rowsOf, List.mem_filter, decide_eq_true_eq, hparent, hown]
          exact ⟨hearlier, rfl⟩
        exact if_pos hmem
    rw [hheld]
  · rfl

namespace RowGrouper

theorem Holds.nodup_children {g : RowGrouper π γ} {rows : List (JoinRow π γ)} (h : g.Holds rows) :
    ∀ group ∈ g.groups, group.children.Nodup := by
  intro group hgroup
  rw [(h.collects group hgroup).children]
  exact nodup_eraseDups _

/-- A grouper does not change with a spare row. -/
theorem Holds.push_spare {g : RowGrouper π γ} {seen : List (JoinRow π γ)} (h : g.Holds seen) {row : JoinRow π γ}
    (hspare : row.Spare seen) : g.push row = g := by
  obtain ⟨earlier, hearlier, hkey⟩ := hspare.parent
  have hmem : GroupKey.key row.parent ∈ g.keys := h.mem_keys.mpr (List.mem_map.mpr ⟨earlier, hearlier, hkey⟩)
  have hsame : ∀ group ∈ g.groups, group.withRow row = group := fun group hgroup =>
    (h.collects group hgroup).withRow_spare hspare
  rw [RowGrouper.push, insertRow_old row g.groups hmem h.nodup_keys, List.map_congr_left hsame, List.map_id']

end RowGrouper

theorem groupRows_insert {seen : List (JoinRow π γ)} {row : JoinRow π γ} (hspare : row.Spare seen)
    (later : List (JoinRow π γ)) : groupRows (seen ++ row :: later) = groupRows (seen ++ later) := by
  rw [groupRows, groupRows, RowGrouper.pushAll_append, RowGrouper.pushAll_cons, RowGrouper.pushAll_append,
    (RowGrouper.holds_pushAll seen).push_spare hspare]

/-- Groups with parents that are told apart and with children that do not repeat come back from their rows, so the groups of any
rows do. Rows with spare ones in between have the same groups. -/
theorem grouping_undoes_join :
    (∀ gs : List (Group π γ), (gs.map fun g => GroupKey.key g.parent).Nodup → (∀ g ∈ gs, g.children.Nodup) →
      groupRows (flattenGroups gs) = gs) ∧
    (∀ rows : List (JoinRow π γ), groupRows (flattenGroups (groupRows rows)) = groupRows rows) ∧
    ∀ rows rows' : List (JoinRow π γ), Padded rows rows' → groupRows rows' = groupRows rows := by
  refine ⟨fun gs => groupRows_flattenGroups, ?_, ?_⟩
  · intro rows
    have hholds := RowGrouper.holds_pushAll rows
    exact groupRows_flattenGroups hholds.nodup_keys hholds.nodup_children
  · intro rows rows' h
    induction h with
    | none => rfl
    | insert _ hspare ih => rw [groupRows_insert hspare, ih]

/-- Two named parents, of which the second has no children. -/
def namedGroups : List (Group String Nat) := [⟨"a", [1, 2]⟩, ⟨"b", []⟩]

/-- Between their rows may stand the first one again, and behind them one of the first parent without a child. -/
theorem grouping_undoes_join_named :
    (namedGroups.map fun g => GroupKey.key g.parent).Nodup ∧ (∀ g ∈ namedGroups, g.children.Nodup) ∧
    groupRows (flattenGroups namedGroups) = namedGroups ∧
    Padded (flattenGroups namedGroups) [⟨"a", some 1⟩, ⟨"a", some 1⟩, ⟨"a", some 2⟩, ⟨"b", none⟩, ⟨"a", none⟩] ∧
    groupRows [⟨"a", some 1⟩, ⟨"a", some 1⟩, ⟨"a", some 2⟩, ⟨"b", none⟩, ⟨"a", none⟩] = namedGroups := by
  have hparents : (namedGroups.map fun g => GroupKey.key g.parent).Nodup := by decide
  have hchildren : ∀ g ∈ namedGroups, g.children.Nodup := by decide
  have hpadded : Padded (flattenGroups namedGroups)
      [⟨"a", some 1⟩, ⟨"a", some 1⟩, ⟨"a", some 2⟩, ⟨"b", none⟩, ⟨"a", none⟩] := by
    have hagain : JoinRow.Spare ⟨"a", some 1⟩ [⟨"a", some 1⟩] := ⟨by decide, fun c hc => by cases hc; decide⟩
    have hchildless : JoinRow.Spare ⟨"a", none⟩ [⟨"a", some 1⟩, ⟨"a", some 1⟩, ⟨"a", some 2⟩, ⟨"b", none⟩] :=
      ⟨by decide, fun c hc => by cases hc⟩
    have hbetween : Padded (flattenGroups namedGroups)
        ([⟨"a", some 1⟩] ++ ⟨"a", some 1⟩ :: [⟨"a", some 2⟩, ⟨"b", none⟩]) := .insert .none hagain
    have hbehind : Padded (flattenGroups namedGroups)
        ([⟨"a", some 1⟩, ⟨"a", some 1⟩, ⟨"a", some 2⟩, ⟨"b", none⟩] ++ []) := hbetween
    exact .insert hbehind hchildless
  obtain ⟨hgroups, -, hspare⟩ := @grouping_undoes_join String Nat String _ _ _
  have hback := hgroups namedGroups hparents hchildren
  exact ⟨hparents, hchildren, hback, hpadded, (hspare _ _ hpadded).trans hback⟩

end BasinRegister
