import BasinRegister.Paging.Listed
import BasinRegister.Proofs.Grouping
import Mathlib.Data.List.Infix
import Mathlib.Data.List.SplitBy

/-!
# The contract of a source

A source keeps its contract when what it hands out are the rows of a listing from the parent asked for on, and when it
stops early only behind the parents that were wanted. Rows that are simply listed keep it (`ListedRows.keeps`).
-/

namespace BasinRegister

/-- The contract of a source, given the listing of each filter. It hands out the rows of the listing from the parent asked
for on, at least those of the wanted parents, and does not fail. Behind the wanted parents it may stop anywhere. -/
structure RowSource.Keeps {φ π γ ε κ : Type} [GroupKey π κ] (source : RowSource φ π γ ε)
    (listing : φ → Listing π γ) : Prop where
  /-- Scanning does not fail. -/
  unfailing : ∀ filter skip wanted, (source.scan filter skip wanted).failure = none
  /-- Nothing else is handed out, and nothing is left out on the way. -/
  within : ∀ filter skip wanted, (source.scan filter skip wanted).rows <+: ((listing filter).drop skip.toNat).rows
  /-- The wanted parents are handed out, as far as there are so many. -/
  complete : ∀ filter skip wanted,
    (((listing filter).drop skip.toNat).take wanted.toNat).rows <+: (source.scan filter skip wanted).rows

/-- A source for one of its filters only. -/
def RowSource.only {φ π γ ε : Type} (source : RowSource φ π γ ε) (filter : φ) : RowSource Unit π γ ε :=
  { scan := fun _ => source.scan filter
    count := fun _ => source.count filter }

/-- A contract that is kept for all filters is kept for each. -/
theorem RowSource.Keeps.only {φ π γ ε κ : Type} [GroupKey π κ] {source : RowSource φ π γ ε} {listing : φ → Listing π γ}
    (h : source.Keeps listing) (filter : φ) : (source.only filter).Keeps fun _ => listing filter :=
  ⟨fun _ => h.unfailing filter, fun _ => h.within filter, fun _ => h.complete filter⟩

/-- Rows of groups keep the contract, wherever they end behind the wanted ones. -/
theorem RowSource.keeps_of_groups {φ π γ ε κ : Type} [GroupKey π κ] {source : RowSource φ π γ ε}
    {groups : φ → List (Group π γ)} (hdistinct : ∀ filter, ((groups filter).map fun g => GroupKey.key g.parent).Nodup)
    (hscan : ∀ filter skip wanted, ∃ n, wanted.toNat ≤ n ∧
      source.scan filter skip wanted = ⟨flattenGroups (((groups filter).drop skip.toNat).take n), none⟩) :
    source.Keeps fun filter => Listing.ofGroups (groups filter) (hdistinct filter) := by
  refine ⟨?_, ?_, ?_⟩ <;> intro filter skip wanted <;> obtain ⟨n, hn, h⟩ := hscan filter skip wanted <;> rw [h]
  · rw [Listing.rows_drop_ofGroups, flattenGroups, flattenGroups]
    exact List.IsPrefix.flatMap (List.take_prefix _ _) _
  · rw [Listing.rows_take_drop_ofGroups, flattenGroups, flattenGroups]
    exact List.IsPrefix.flatMap (List.take_prefix_take_left hn) _

namespace ListedRows

variable {π γ ε κ : Type} [GroupKey π κ]

/-- The rows of a listing, without failures to come. -/
def ofListing (l : Listing π γ) : ListedRows π γ ε := { rows := l.rows, scanFailure := none, countFailure := none }

variable [DecidableEq κ]

/-- The runs of the rows of a listing are its parents. -/
theorem runs_ofListing (l : Listing π γ) :
    (ofListing l : ListedRows π γ ε).runs = l.parents.map ParentRows.rows := by
  rw [runs, List.splitBy_eq_iff]
  refine ⟨by simp [ofListing, Listing.rows, List.flatMap], by simp [ParentRows.rows], ?_, ?_⟩
  · intro rows hrows
    obtain ⟨p, -, rfl⟩ := List.mem_map.mp hrows
    apply List.Pairwise.isChain
    rw [List.pairwise_iff_forall_sublist]
    intro a b hab
    have ha := ParentRows.key_of_mem_rows (hab.subset (List.mem_cons_self))
    have hb := ParentRows.key_of_mem_rows (hab.subset (by simp : b ∈ [a, b]))
    simp [ha, hb]
  · rw [List.isChain_map]
    apply List.Pairwise.isChain
    refine (List.pairwise_map.mp l.distinct).imp ?_
    intro p q hpq
    refine ⟨by simp [ParentRows.rows], by simp [ParentRows.rows], ?_⟩
    have hp := ParentRows.key_of_mem_rows (List.getLast_mem (by simp [ParentRows.rows] : p.rows ≠ []))
    have hq := ParentRows.key_of_mem_rows (List.head_mem (by simp [ParentRows.rows] : q.rows ≠ []))
    simpa [hp, hq] using hpq

/-- The rows of a listing keep the contract. -/
theorem keeps (l : Listing π γ) : (ofListing l : ListedRows π γ ε).source.Keeps fun _ => l := by
  have hrows : ∀ filter skip wanted, ((ofListing l : ListedRows π γ ε).source.scan filter skip wanted) =
      ⟨(l.drop skip.toNat).rows, none⟩ := by
    intro filter skip wanted
    simp only [source, runs_ofListing]
    simp [cutOff, ofListing, Listing.rows, Listing.drop, List.flatMap, List.map_drop]
  refine ⟨?_, ?_, ?_⟩ <;> intro filter skip wanted
  · rw [hrows]
  · rw [hrows]
  · rw [hrows, ← (l.drop skip.toNat).rows_take_append_rows_drop wanted.toNat]
    exact List.prefix_append _ _

/-- There are as many parents as the listing has. -/
theorem count_ofListing (l : Listing π γ) :
    (ofListing l : ListedRows π γ ε).source.count () = .ok (UInt64.ofNat l.parents.length) := by
  simp only [source, runs_ofListing, List.length_map]
  rfl

end ListedRows

end BasinRegister
