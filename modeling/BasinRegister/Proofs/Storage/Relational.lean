import BasinRegister.Storage.Relational
import BasinRegister.Proofs.Glob.Agreement
import BasinRegister.Proofs.Paging.Window
import BasinRegister.Proofs.Storage.Keyed

/-!
# What queries give

Queries over rows, said as lists: rows ordered by a key that tells them apart are the only ascending list of the same rows
(`Relational.orderBy_eq`), a selection keeps the rows that the filter accepts (`Relational.select_ok`), and what is read of a
join are the rows of groups (`Relational.readRows_join`). So a listing keeps the contract of a source
(`Relational.keeps_source`), and its pages are those of every other source of the same groups (`Relational.page_source`).
-/

namespace BasinRegister

open Number (Double)

namespace Relational

theorem sameUpper_eq (a b : String) : sameUpper a b = Text.sameFolded a b := by
  rw [Bool.eq_iff_iff, Text.sameFolded_iff, Text.map_toLower_eq_iff, sameUpper, beq_iff_eq]

/-! ## Rows that are put -/

/-- A coordinate that is a number and not the negative zero is kept as it is. -/
theorem keptCoordinate_eq {x : Option Double} (h : ∀ d ∈ x, d.isNaN = false ∧ d ≠ Double.zero.neg) :
    keptCoordinate x = x := by
  cases x with
  | none => rfl
  | some d =>
    obtain ⟨hnumber, hsign⟩ := h d rfl
    have hzero : d.isZero = true → Double.zero = d := by
      intro hz
      obtain ⟨bits⟩ := d
      simp only [Double.isZero, Double.magnitude, beq_iff_eq] at hz
      have hlt := bits.toNat_lt
      have hne : bits.toNat ≠ 0x8000000000000000 := by
        intro hbits
        exact hsign (congrArg Double.mk (UInt64.toNat_inj.mp hbits))
      exact congrArg Double.mk (UInt64.toNat_inj.mp (show 0 = bits.toNat by omega))
    simp only [keptCoordinate, Option.filter_some, hnumber, Bool.not_false, if_pos, Option.map_some]
    split
    · rw [hzero ‹_›]
    · rfl

/-- A location with such coordinates is kept as it is, without its aliases. -/
theorem keptLocation_eq {l : Location}
    (h : ∀ x, x ∈ l.latitude ∨ x ∈ l.longitude → x.isNaN = false ∧ x ≠ Double.zero.neg) :
    keptLocation l = l.withoutAliases := by
  rw [keptLocation, keptCoordinate_eq fun d hd => h d (Or.inl hd), keptCoordinate_eq fun d hd => h d (Or.inr hd)]
  rfl

theorem mem_foldl_addAlias {rows added : List LocationAlias} {a : LocationAlias} :
    a ∈ added.foldl addAlias rows ↔ a ∈ rows ∨ a ∈ added := by
  induction added generalizing rows with
  | nil => simp
  | cons b added ih =>
    have hstep : a ∈ addAlias rows b ↔ a ∈ rows ∨ a = b := by
      unfold addAlias
      split
      · rename_i hb
        constructor
        · exact Or.inl
        · rintro (ha | rfl)
          · exact ha
          · exact hb
      · simp
    rw [List.foldl_cons, ih, hstep, List.mem_cons, or_assoc]

/-- Adding aliases gives none a second row. -/
theorem nodup_foldl_addAlias {rows : List LocationAlias} (h : rows.Nodup) (added : List LocationAlias) :
    (added.foldl addAlias rows).Nodup := by
  induction added generalizing rows with
  | nil => exact h
  | cons b added ih =>
    apply ih
    unfold addAlias
    split
    · exact h
    · rename_i hb
      rw [List.nodup_append]
      refine ⟨h, by simp, ?_⟩
      rintro a ha c hc rfl
      exact hb (List.mem_singleton.mp hc ▸ ha)

/-! ## Order -/

/-- Rows ordered by a key are the ascending list of these rows. -/
theorem orderBy_eq {α : Type} {key : α → Key} {ascending rows : List α}
    (hascending : ascending.Pairwise fun a b => key a < key b) (h : ascending.Perm rows) :
    orderBy key rows = ascending := by
  have hsorted : (orderBy key rows).Pairwise fun a b => (!decide (key b < key a)) = true := by
    refine List.pairwise_mergeSort ?_ ?_ rows
    · intro a b c hab hbc
      simp only [Bool.not_eq_true', decide_eq_false_iff_not, List.not_lt] at hab hbc ⊢
      exact List.le_trans hab hbc
    · intro a b
      simp only [Bool.or_eq_true, Bool.not_eq_true', decide_eq_false_iff_not, List.not_lt]
      exact List.le_total _ _
  refine ((List.mergeSort_perm _ _).trans h.symm).eq_of_pairwise ?_ hsorted (hascending.imp ?_)
  · -- of two rows that do not come before each other the keys are the same, and no key stands twice
    intro a b ha hb hab hba
    have ha' : a ∈ ascending := h.mem_iff.mpr (List.mem_mergeSort.mp ha)
    simp only [Bool.not_eq_true', decide_eq_false_iff_not] at hab hba
    exact Keyed.eq_of_key_eq hascending ha' hb (List.le_antisymm hab hba)
  · intro a b hab
    simp only [Bool.not_eq_true', decide_eq_false_iff_not]
    exact fun hba => List.lt_irrefl _ (List.lt_trans hab hba)

/-- Texts ordered by themselves are the ascending list of these texts. -/
theorem orderBy_texts {ascending texts : List String} (hascending : OrderedTexts ascending)
    (h : ascending.Perm texts) : orderBy (fun c => [c]) texts = ascending := by
  refine orderBy_eq (hascending.imp ?_) h
  intro a b hab
  exact List.Lex.rel hab

/-! ## Selection -/

/-- What is selected are the rows that the filter accepts, as long as its pattern is not too large and reads the identifiers
as its mask does. -/
theorem select_ok {α : Type} {office id : α → String} {filter : Filter} {rows : List α}
    (hsize : ∀ mask ∈ filter.mask, Glob.Like.isTooLarge mask.toLike = false)
    (hmask : ∀ mask ∈ filter.mask, ∀ row ∈ rows, Glob.Like.selects mask.toLike (id row) = mask.selects (id row)) :
    select office id filter rows = .ok (rows.filter fun row => filter.accepts (office row) (id row)) := by
  have hoffice : ∀ row, (filter.office.all fun wanted => sameUpper (office row) wanted) =
      filter.acceptsOffice (office row) := by
    intro row
    rw [Filter.acceptsOffice]
    congr 1
    funext wanted
    rw [sameUpper_eq, Text.sameFolded_comm]
  unfold select Filter.accepts
  simp only [hoffice]
  cases hfilter : filter.mask with
  | none => simp
  | some mask =>
    have hselected : (rows.filter fun row => filter.acceptsOffice (office row)).filter
        (fun row => Glob.Like.selects mask.toLike (id row)) =
        rows.filter fun row => filter.acceptsOffice (office row) && mask.selects (id row) := by
      rw [List.filter_filter]
      refine List.filter_congr ?_
      intro row hrow
      rw [hmask mask hfilter row hrow, Bool.and_comm]
    simp only [Option.map_some, hsize mask hfilter, Bool.false_and, Bool.false_eq_true, if_false, hselected,
      Option.all_some]

/-! ## Joins -/

section

variable {α π : Type} {children : α → List String} {parent : α → Except StorageError π}

/-- Rows of one parent are read in front of the others. -/
theorem readRows_children {row : α} {p : π} (h : parent row = .ok p) (cs : List (Option String))
    (rest : List (α × Option String)) :
    readRows parent (cs.map (fun c => (row, c)) ++ rest) =
      { readRows parent rest with rows := cs.map (fun c => ⟨p, c⟩) ++ (readRows parent rest).rows } := by
  induction cs with
  | nil => rfl
  | cons c cs ih =>
    rw [List.map_cons, List.cons_append, readRows, h]
    simp only [ih]
    rfl

/-- A parent joined with its children is read as the rows of its group. -/
theorem readRows_join_append {row : α} {p : π} (h : parent row = .ok p) (rest : List (α × Option String)) :
    readRows parent (join children row ++ rest) =
      { readRows parent rest with
        rows := Group.rows ⟨p, orderBy (fun c => [c]) (children row)⟩ ++ (readRows parent rest).rows } := by
  unfold join Group.rows
  cases orderBy (fun c => [c]) (children row) with
  | nil => exact readRows_children h [none] rest
  | cons c cs =>
    have hread := readRows_children h ((c :: cs).map some) rest
    rw [List.map_map, List.map_map] at hread
    exact hread

/-- Parents joined with their children are read as the rows of their groups. -/
theorem readRows_join {row : π → α} {ps : List π} (h : ∀ p ∈ ps, parent (row p) = .ok p) :
    readRows parent ((ps.map row).flatMap (join children)) =
      ⟨flattenGroups (ps.map fun p => ⟨p, orderBy (fun c => [c]) (children (row p))⟩), none⟩ := by
  induction ps with
  | nil => rfl
  | cons p ps ih =>
    rw [List.map_cons, List.flatMap_cons, readRows_join_append (h p List.mem_cons_self),
      ih fun q hq => h q (List.mem_cons_of_mem p hq)]
    rfl

/-- A listing hands out the rows of its groups, as long as there are no more parents than a query can skip. -/
theorem keeps_source {κ : Type} [GroupKey π κ] {office id : α → String} {key : α → List String} {rows : List α}
    {filter : Filter} {selected : List α} {row : π → α} {ps : List π} {groups : List (Group π String)}
    (hselect : select office id filter rows = .ok selected) (horder : orderBy key selected = ps.map row)
    (hread : ∀ p ∈ ps, parent (row p) = .ok p)
    (hgroups : groups = ps.map fun p => ⟨p, orderBy (fun c => [c]) (children (row p))⟩)
    (hfit : ps.length ≤ greatestOffset) (hdistinct : (groups.map fun g => GroupKey.key g.parent).Nodup) :
    ((source office id key children parent rows).only filter).Keeps fun _ => Listing.ofGroups groups hdistinct := by
  refine RowSource.keeps_of_groups (fun _ => hdistinct) ?_
  intro _ skip wanted
  refine ⟨wanted.toNat, Nat.le_refl _, ?_⟩
  -- an offset that a query cuts off is behind all parents, and so is what is left of it
  have hdrop : (ps.map row).drop (min skip.toNat greatestOffset) = (ps.map row).drop skip.toNat := by
    by_cases hskip : skip.toNat ≤ greatestOffset
    · rw [Nat.min_eq_left hskip]
    · rw [List.drop_of_length_le, List.drop_of_length_le] <;> rw [List.length_map] <;> omega
  have hwindow : window (orderBy key selected) skip wanted = ((ps.drop skip.toNat).take wanted.toNat).map row := by
    rw [window, horder, hdrop, List.map_take, List.map_drop]
  simp only [RowSource.only, source, hselect, hwindow]
  rw [readRows_join fun p hp => hread p (List.mem_of_mem_drop (List.mem_of_mem_take hp)), hgroups, ← List.map_drop,
    ← List.map_take]

/-- A listing counts the parents that are selected. -/
theorem count_source {office id : α → String} {key : α → List String} {rows : List α} {filter : Filter}
    {selected : List α} (hselect : select office id filter rows = .ok selected) :
    (source office id key children parent rows).count filter = .ok (UInt64.ofNat selected.length) := by
  simp only [source, hselect]
  rfl

/-- A listing has the pages of every other source that keeps the contract for the same groups and counts them. -/
theorem page_source {κ : Type} [GroupKey π κ] [DecidableEq κ] {office id : α → String} {key : α → List String}
    {rows : List α} {filter : Filter} {selected : List α} {row : π → α} {ps : List π} {groups : List (Group π String)}
    {hdistinct : (groups.map fun g => GroupKey.key g.parent).Nodup} {other : RowSource Filter π String StorageError}
    (hother : (other.only filter).Keeps fun _ => Listing.ofGroups groups hdistinct)
    (hcount : other.count filter = .ok (UInt64.ofNat groups.length))
    (hselect : select office id filter rows = .ok selected) (horder : orderBy key selected = ps.map row)
    (hread : ∀ p ∈ ps, parent (row p) = .ok p)
    (hgroups : groups = ps.map fun p => ⟨p, orderBy (fun c => [c]) (children (row p))⟩)
    (hfit : ps.length ≤ greatestOffset) (request : PageRequest) :
    other.page filter request = (source office id key children parent rows).page filter request := by
  have hlength : selected.length = groups.length := by
    have hordered := congrArg List.length horder
    rw [orderBy, List.length_mergeSort, List.length_map] at hordered
    rw [hordered, hgroups, List.length_map]
  have hsame : (other.only filter).count () = ((source office id key children parent rows).only filter).count () := by
    rw [RowSource.only, RowSource.only, hcount, count_source hselect, hlength]
  exact hother.page_congr (keeps_source hselect horder hread hgroups hfit hdistinct) () hsame request

end

end Relational

end BasinRegister
