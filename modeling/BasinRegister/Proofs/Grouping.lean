import BasinRegister.Grouping
import Mathlib.Data.List.Induction
import Mathlib.Data.List.Nodup

/-!
# Grouping rows that come parent by parent

A grouper has one group for every key, in the order in which the keys first came (`RowGrouper.keys_push`). When all rows
of a parent stand together and no two parents share a key, its groups are the parents, each with all its children
(`Listing.groupRows_rows`).
-/

namespace BasinRegister

/-- What is left when repeats are taken out has none. -/
theorem nodup_eraseDups {α : Type} [DecidableEq α] (xs : List α) : xs.eraseDups.Nodup := by
  induction xs using List.reverseRecOn with
  | nil => simp
  | append_singleton xs x ih =>
    rw [List.eraseDups_append]
    by_cases hx : x ∈ xs
    · simpa [List.cons_removeAll, hx] using ih
    · have hnew : ([x].removeAll xs).eraseDups = [x] := by simp [List.cons_removeAll, List.eraseDups_cons, hx]
      rw [hnew, List.nodup_append_comm, List.singleton_append, List.nodup_cons, List.mem_eraseDups]
      exact ⟨hx, ih⟩

/-- The rows of one parent: at least one, and all with the same key. -/
structure ParentRows (π γ : Type) {κ : Type} [GroupKey π κ] where
  /-- The row that opens the group of the parent. -/
  first : JoinRow π γ
  /-- The rows behind it. -/
  others : List (JoinRow π γ)
  /-- They belong to the same parent. -/
  sameKey : ∀ row ∈ others, GroupKey.key row.parent = GroupKey.key first.parent

/-- The key of the parent. -/
def ParentRows.key {π γ κ : Type} [GroupKey π κ] (p : ParentRows π γ) : κ := GroupKey.key p.first.parent

/-- The rows of parents, where all rows of a parent stand together and no two parents share a key. -/
structure Listing (π γ : Type) {κ : Type} [GroupKey π κ] where
  /-- The parents in their order. -/
  parents : List (ParentRows π γ)
  /-- No two of them share a key. -/
  distinct : (parents.map ParentRows.key).Nodup

namespace RowGrouper

variable {π γ κ : Type} [GroupKey π κ]

/-- The keys of the groups. -/
def keys (g : RowGrouper π γ) : List κ := g.groups.map fun group => GroupKey.key group.parent

/-- There is one key for each group. -/
theorem length_keys (g : RowGrouper π γ) : g.keys.length = g.size := by
  simp [keys, size]

variable [DecidableEq κ]

/-- A parent has a group when its key is the key of one. -/
theorem contains_iff (g : RowGrouper π γ) (parent : π) : g.contains parent = true ↔ GroupKey.key parent ∈ g.keys := by
  simp only [contains, List.any_eq_true, decide_eq_true_eq, keys, List.mem_map]

variable [DecidableEq γ]

/-- A row of a new key opens a group behind the others. -/
theorem insertRow_new (row : JoinRow π γ) (gs : List (Group π γ))
    (h : GroupKey.key row.parent ∉ gs.map fun group => GroupKey.key group.parent) :
    insertRow row gs = gs ++ [⟨row.parent, addChild [] row.child⟩] := by
  induction gs with
  | nil => rfl
  | cons g gs ih =>
    simp only [List.map_cons, List.mem_cons, not_or] at h
    rw [insertRow, if_neg (Ne.symm h.1), ih h.2]
    rfl

/-- A row of the last group adds its child there, unless an earlier group has its key. -/
theorem insertRow_last (row : JoinRow π γ) (gs : List (Group π γ)) (g : Group π γ)
    (h : GroupKey.key row.parent ∉ gs.map fun group => GroupKey.key group.parent)
    (hg : GroupKey.key row.parent = GroupKey.key g.parent) :
    insertRow row (gs ++ [g]) = gs ++ [{ g with children := addChild g.children row.child }] := by
  induction gs with
  | nil => simp [insertRow, hg]
  | cons g' gs ih =>
    simp only [List.map_cons, List.mem_cons, not_or] at h
    rw [List.cons_append, insertRow, if_neg (Ne.symm h.1), ih h.2]
    rfl

/-- A row adds its key behind the others, unless it is among them. -/
theorem map_key_insertRow (row : JoinRow π γ) (gs : List (Group π γ)) :
    (insertRow row gs).map (fun group => GroupKey.key group.parent) =
      if GroupKey.key row.parent ∈ gs.map (fun group => GroupKey.key group.parent) then
        gs.map fun group => GroupKey.key group.parent
      else gs.map (fun group => GroupKey.key group.parent) ++ [GroupKey.key row.parent] := by
  induction gs with
  | nil => rfl
  | cons g gs ih =>
    by_cases hg : GroupKey.key g.parent = GroupKey.key row.parent
    · simp [insertRow, hg]
    · rw [insertRow, if_neg hg, List.map_cons, ih]
      simp only [List.map_cons, List.mem_cons, Ne.symm hg, false_or]
      split <;> rfl

/-- A row adds its key behind the others, unless it has a group. -/
theorem keys_push (g : RowGrouper π γ) (row : JoinRow π γ) :
    (g.push row).keys =
      if GroupKey.key row.parent ∈ g.keys then g.keys else g.keys ++ [GroupKey.key row.parent] :=
  map_key_insertRow row g.groups

/-- A row opens one group or none. -/
theorem size_push (g : RowGrouper π γ) (row : JoinRow π γ) :
    (g.push row).size = if g.contains row.parent then g.size else g.size + 1 := by
  rw [← length_keys, keys_push, ← length_keys]
  by_cases h : GroupKey.key row.parent ∈ g.keys
  · simp [h, (g.contains_iff row.parent).mpr h]
  · simp [h, mt (g.contains_iff row.parent).mp h]

@[simp] theorem pushAll_nil (g : RowGrouper π γ) : g.pushAll [] = g := rfl

@[simp] theorem pushAll_cons (g : RowGrouper π γ) (row : JoinRow π γ) (rows : List (JoinRow π γ)) :
    g.pushAll (row :: rows) = (g.push row).pushAll rows := rfl

/-- Rows are pushed in two goes as in one. -/
theorem pushAll_append (g : RowGrouper π γ) (xs ys : List (JoinRow π γ)) :
    g.pushAll (xs ++ ys) = (g.pushAll xs).pushAll ys :=
  List.foldl_append

/-- Groups are never closed again. -/
theorem size_le_size_pushAll (g : RowGrouper π γ) (rows : List (JoinRow π γ)) : g.size ≤ (g.pushAll rows).size := by
  induction rows generalizing g with
  | nil => exact Nat.le_refl _
  | cons row rows ih =>
    have hrow : g.size ≤ (g.push row).size := by
      rw [size_push]
      split <;> omega
    exact Nat.le_trans hrow (ih (g.push row))

/-- The children of rows with one more row, repeats left out. -/
theorem addChild_eraseDups (children : List γ) (child : Option γ) :
    addChild children.eraseDups child = (children ++ child.toList).eraseDups := by
  cases child with
  | none => simp [addChild]
  | some c =>
    rw [Option.toList_some, List.eraseDups_append]
    by_cases hc : c ∈ children <;> simp [addChild, List.cons_removeAll, List.eraseDups_cons, hc]

end RowGrouper

namespace ParentRows

variable {π γ κ : Type} [GroupKey π κ]

/-- All rows of the parent. -/
def rows (p : ParentRows π γ) : List (JoinRow π γ) := p.first :: p.others

/-- Every row of a parent has the key of the parent. -/
theorem key_of_mem_rows {p : ParentRows π γ} {row : JoinRow π γ} (h : row ∈ p.rows) :
    GroupKey.key row.parent = p.key := by
  rcases List.mem_cons.mp h with rfl | h
  · rfl
  · exact p.sameKey row h

/-- The children of the parent in the order in which they first occur, without repeats. -/
def children [DecidableEq γ] (p : ParentRows π γ) : List γ := (p.rows.filterMap JoinRow.child).eraseDups

/-- The parent as its first row gives it, with its children. -/
def group [DecidableEq γ] (p : ParentRows π γ) : Group π γ := ⟨p.first.parent, p.children⟩

variable [DecidableEq γ]

/-- The children of a parent are those of its rows. -/
theorem mem_children {p : ParentRows π γ} {c : γ} : c ∈ p.children ↔ ∃ row ∈ p.rows, row.child = some c := by
  rw [children, List.mem_eraseDups, List.mem_filterMap]

/-- No child of a parent is repeated. -/
theorem nodup_children (p : ParentRows π γ) : p.children.Nodup := nodup_eraseDups _

variable [DecidableEq κ]

/-- The rows of the last group all go into it. -/
theorem pushAll_last (gs : List (Group π γ)) (parent : π) (children : List γ) (rows : List (JoinRow π γ))
    (hnew : GroupKey.key parent ∉ gs.map fun group => GroupKey.key group.parent)
    (hrows : ∀ row ∈ rows, GroupKey.key row.parent = GroupKey.key parent) :
    (RowGrouper.mk (gs ++ [⟨parent, children.eraseDups⟩])).pushAll rows =
      ⟨gs ++ [⟨parent, (children ++ rows.filterMap JoinRow.child).eraseDups⟩]⟩ := by
  induction rows generalizing children with
  | nil => simp
  | cons row rows ih =>
    have hrow : GroupKey.key row.parent = GroupKey.key parent := hrows row (by simp)
    rw [RowGrouper.pushAll_cons, RowGrouper.push]
    simp only
    rw [RowGrouper.insertRow_last row gs _ (hrow ▸ hnew) hrow, RowGrouper.addChild_eraseDups,
      ih _ (fun r hr => hrows r (List.mem_cons_of_mem row hr))]
    cases hc : row.child <;> simp [hc]

/-- The rows of a new parent open one group, which holds all its children. -/
theorem pushAll_rows (p : ParentRows π γ) (gs : List (Group π γ))
    (hnew : p.key ∉ gs.map fun group => GroupKey.key group.parent) :
    (RowGrouper.mk gs).pushAll p.rows = ⟨gs ++ [p.group]⟩ := by
  rw [rows, RowGrouper.pushAll_cons, RowGrouper.push]
  simp only
  rw [RowGrouper.insertRow_new _ _ hnew]
  have hfirst : RowGrouper.addChild [] p.first.child = p.first.child.toList.eraseDups := by
    simpa using RowGrouper.addChild_eraseDups [] p.first.child
  rw [hfirst, pushAll_last gs _ _ _ hnew p.sameKey, group, children, rows]
  cases hc : p.first.child <;> simp [hc]

end ParentRows

namespace Listing

variable {π γ κ : Type} [GroupKey π κ]

/-- The rows of all parents, one parent after the other. -/
def rows (l : Listing π γ) : List (JoinRow π γ) := l.parents.flatMap ParentRows.rows

/-- The parents from one on. -/
def drop (l : Listing π γ) (n : Nat) : Listing π γ :=
  ⟨l.parents.drop n, by rw [List.map_drop]; exact l.distinct.sublist (List.drop_sublist _ _)⟩

/-- So many parents from the first one on. -/
def take (l : Listing π γ) (n : Nat) : Listing π γ :=
  ⟨l.parents.take n, by rw [List.map_take]; exact l.distinct.sublist (List.take_sublist _ _)⟩

/-- The rows of a listing are those of its first parents and of the others. -/
theorem rows_take_append_rows_drop (l : Listing π γ) (n : Nat) : (l.take n).rows ++ (l.drop n).rows = l.rows := by
  simp only [rows, take, drop, ← List.flatMap_append, List.take_append_drop]

variable [DecidableEq γ]

/-- The parents with their children. -/
def groups (l : Listing π γ) : List (Group π γ) := l.parents.map ParentRows.group

/-- The groups without the first parents are the others. -/
theorem groups_drop (l : Listing π γ) (n : Nat) : (l.drop n).groups = l.groups.drop n :=
  List.map_drop

/-- The groups of the first parents are the first ones. -/
theorem groups_take (l : Listing π γ) (n : Nat) : (l.take n).groups = l.groups.take n :=
  List.map_take

variable [DecidableEq κ]

/-- Parents with new keys add their groups behind the others. -/
theorem pushAll_flatMap (ps : List (ParentRows π γ)) (gs : List (Group π γ))
    (h : (gs.map (fun group => GroupKey.key group.parent) ++ ps.map ParentRows.key).Nodup) :
    (RowGrouper.mk gs).pushAll (ps.flatMap ParentRows.rows) = ⟨gs ++ ps.map ParentRows.group⟩ := by
  induction ps generalizing gs with
  | nil => simp
  | cons p ps ih =>
    have hnew : p.key ∉ gs.map fun group => GroupKey.key group.parent := by
      intro hmem
      exact (List.disjoint_of_nodup_append h) hmem (by simp)
    rw [List.flatMap_cons, RowGrouper.pushAll_append, p.pushAll_rows gs hnew, ih]
    · simp
    · simpa [ParentRows.group, ParentRows.key] using h

/-- The groups of the rows are the parents with their children. -/
theorem groupRows_rows (l : Listing π γ) : groupRows l.rows = l.groups := by
  have h := pushAll_flatMap l.parents [] (by simpa using l.distinct)
  rw [groupRows, RowGrouper.empty, rows, h]
  rfl

end Listing

/-! ## Groups as parents -/

section

variable {π γ κ : Type} [GroupKey π κ]

/-- A group as a parent: its rows are those of the group. -/
def ParentRows.ofGroup (g : Group π γ) : ParentRows π γ :=
  match g.children with
  | [] => ⟨⟨g.parent, none⟩, [], by simp⟩
  | c :: cs => ⟨⟨g.parent, some c⟩, cs.map fun c => ⟨g.parent, some c⟩, by simp⟩

/-- A group as a parent has its own rows. -/
theorem ParentRows.rows_ofGroup (g : Group π γ) : (ParentRows.ofGroup g).rows = g.rows := by
  obtain ⟨parent, children⟩ := g
  cases children <;> rfl

/-- A group as a parent has the key of its own. -/
theorem ParentRows.key_ofGroup (g : Group π γ) : (ParentRows.ofGroup g).key = GroupKey.key g.parent := by
  obtain ⟨parent, children⟩ := g
  cases children <;> rfl

/-- The rows of groups are those of their parents. -/
theorem flatMap_rows_ofGroup (gs : List (Group π γ)) :
    (gs.map ParentRows.ofGroup).flatMap ParentRows.rows = flattenGroups gs := by
  simp only [List.flatMap_map, ParentRows.rows_ofGroup, flattenGroups]

omit [GroupKey π κ] in
theorem Group.parent_of_mem_rows {g : Group π γ} {row : JoinRow π γ} (h : row ∈ g.rows) : row.parent = g.parent := by
  unfold Group.rows at h
  split at h
  · rw [List.mem_singleton.mp h]
  · obtain ⟨c, -, rfl⟩ := List.mem_map.mp h
    rfl

omit [GroupKey π κ] in
/-- The rows whose parents pass a test are those of the groups whose parents do. -/
theorem filter_flattenGroups (test : π → Bool) (gs : List (Group π γ)) :
    (flattenGroups gs).filter (fun row => test row.parent) = flattenGroups (gs.filter fun g => test g.parent) := by
  rw [flattenGroups, flattenGroups]
  induction gs with
  | nil => rfl
  | cons g gs ih =>
    rw [List.flatMap_cons, List.filter_append, ih]
    cases hg : test g.parent with
    | true =>
      have hall : g.rows.filter (fun row => test row.parent) = g.rows :=
        List.filter_eq_self.mpr fun row hrow => by rw [Group.parent_of_mem_rows hrow, hg]
      rw [hall, List.filter_cons_of_pos (by simpa using hg), List.flatMap_cons]
    | false =>
      have hnone : g.rows.filter (fun row => test row.parent) = [] :=
        List.filter_eq_nil_iff.mpr fun row hrow => by simp [Group.parent_of_mem_rows hrow, hg]
      rw [hnone, List.filter_cons_of_neg (by simp [hg]), List.nil_append]

/-- The listing of groups with parents that are told apart. -/
def Listing.ofGroups (gs : List (Group π γ)) (h : (gs.map fun g => GroupKey.key g.parent).Nodup) : Listing π γ :=
  ⟨gs.map ParentRows.ofGroup, by simpa [Function.comp_def, ParentRows.key_ofGroup] using h⟩

/-- The rows behind the first groups are those of the others. -/
theorem Listing.rows_drop_ofGroups {gs : List (Group π γ)} (h : (gs.map fun g => GroupKey.key g.parent).Nodup) (n : Nat) :
    ((Listing.ofGroups gs h).drop n).rows = flattenGroups (gs.drop n) := by
  rw [← flatMap_rows_ofGroup, List.map_drop]
  rfl

/-- The rows of a window of groups are those of its groups. -/
theorem Listing.rows_take_drop_ofGroups {gs : List (Group π γ)} (h : (gs.map fun g => GroupKey.key g.parent).Nodup)
    (n k : Nat) : (((Listing.ofGroups gs h).drop n).take k).rows = flattenGroups ((gs.drop n).take k) := by
  rw [← flatMap_rows_ofGroup, List.map_take, List.map_drop]
  rfl

/-- A group whose children do not repeat is the group of its own rows. -/
theorem ParentRows.group_ofGroup [DecidableEq γ] {g : Group π γ} (h : g.children.Nodup) :
    (ParentRows.ofGroup g).group = g := by
  have hsame (cs : List γ) (hcs : cs.Nodup) : cs.eraseDups = cs := by
    induction cs with
    | nil => rfl
    | cons c cs ih =>
      obtain ⟨hc, hcs⟩ := List.nodup_cons.mp hcs
      have hkept : cs.filter (fun d => !d == c) = cs :=
        List.filter_eq_self.mpr fun d hd => by simpa using fun heq : d = c => hc (heq ▸ hd)
      rw [List.eraseDups_cons, hkept, ih hcs]
  obtain ⟨parent, children⟩ := g
  cases children with
  | nil => rfl
  | cons c cs =>
    have hchildren : (ParentRows.ofGroup ⟨parent, c :: cs⟩).children = c :: cs := by
      rw [ParentRows.children, ParentRows.rows_ofGroup]
      simpa [Group.rows, Function.comp_def] using hsame (c :: cs) h
    rw [ParentRows.group, hchildren]
    rfl

/-- Groups whose children do not repeat are those of their listing. -/
theorem Listing.groups_ofGroups [DecidableEq γ] {gs : List (Group π γ)}
    (h : (gs.map fun g => GroupKey.key g.parent).Nodup) (hchildren : ∀ g ∈ gs, g.children.Nodup) :
    (Listing.ofGroups gs h).groups = gs := by
  rw [Listing.groups, Listing.ofGroups, List.map_map]
  exact (List.map_congr_left fun g hg => ParentRows.group_ofGroup (hchildren g hg)).trans (List.map_id gs)

variable [DecidableEq κ] [DecidableEq γ]

/-- Grouping the rows of groups gives the groups, where their parents are told apart and no children repeat. -/
theorem groupRows_flattenGroups {gs : List (Group π γ)} (h : (gs.map fun g => GroupKey.key g.parent).Nodup)
    (hchildren : ∀ g ∈ gs, g.children.Nodup) : groupRows (flattenGroups gs) = gs := by
  rw [← flatMap_rows_ofGroup]
  exact (Listing.groupRows_rows (Listing.ofGroups gs h)).trans (Listing.groups_ofGroups h hchildren)

/-- Looked up as one thing, the rows of groups with parents that are told apart are as many as the groups, whatever their
children. -/
theorem groupSingle_flattenGroups {gs : List (Group π γ)} (h : (gs.map fun g => GroupKey.key g.parent).Nodup)
    (hchildren : ∀ g ∈ gs, g.children.Nodup) (what : String) :
    groupSingle what (flattenGroups gs) = (RowGrouper.mk gs).finishSingle what := by
  have hgroups : (RowGrouper.empty.pushAll (flattenGroups gs)).groups = gs := groupRows_flattenGroups h hchildren
  rw [groupSingle, RowGrouper.finishSingle, RowGrouper.finishSingle, hgroups]

end

end BasinRegister
