import BasinRegister.Media.Accept
import BasinRegister.Proofs.Media.Quality
import BasinRegister.Proofs.Text.Split

/-!
# The most wanted candidate

The candidates of an accept value stand in the order in which they are tried. The first of them that will do is the most wanted
of those that will do and, where several are wanted as much, the one that was stated first (`Accept.findSome?_parse`).
-/

namespace BasinRegister

/-- A stable sort puts nothing in front of what it belongs behind, and leaves what is level as it stood. -/
theorem pairwise_mergeSort_of_pairwise {α : Type} {le : α → α → Bool} {before : α → α → Prop} {xs : List α}
    (htrans : ∀ a b c, le a b = true → le b c = true → le a c = true) (htotal : ∀ a b, (le a b || le b a) = true)
    (h : xs.Pairwise before) :
    (xs.mergeSort le).Pairwise fun a b => le a b = true ∧ (le b a = true → before a b) := by
  have hsorted := List.pairwise_mergeSort (List.zipIdxLE_trans htrans) (List.zipIdxLE_total htotal) xs.zipIdx
  have hplaces : ((xs.zipIdx.mergeSort (List.zipIdxLE le)).map Prod.snd).Nodup := by
    rw [((List.mergeSort_perm _ _).map Prod.snd).nodup_iff, List.zipIdx_map_snd]
    exact List.nodup_range'
  rw [← List.mergeSort_zipIdx, List.pairwise_map]
  refine (hsorted.and (List.pairwise_map.mp hplaces)).imp_of_mem ?_
  rintro ⟨a, i⟩ ⟨b, j⟩ ha hb ⟨hle, hne⟩
  rw [List.mem_mergeSort, List.mem_zipIdx_iff_getElem?] at ha hb
  rw [List.zipIdxLE] at hle
  obtain ⟨hab, hle⟩ : le a b = true ∧ (if le b a = true then decide (i ≤ j) else true) = true := by
    split at hle
    · exact ⟨‹_›, hle⟩
    · cases hle
  refine ⟨hab, fun hba => ?_⟩
  rw [if_pos hba, decide_eq_true_eq] at hle
  obtain ⟨hi, hai⟩ := List.getElem?_eq_some_iff.mp ha
  obtain ⟨hj, hbj⟩ := List.getElem?_eq_some_iff.mp hb
  have hbefore := List.pairwise_iff_getElem.mp h i j hi hj (Nat.lt_of_le_of_ne hle hne)
  rwa [hai, hbj] at hbefore

namespace Accept

variable {entries : List Candidate} {P : Candidate → Prop} {raw : String}

/-- An entry that will do; any other that will do is wanted less, or is wanted as much and not stated before it. -/
structure Best (entries : List Candidate) (P : Candidate → Prop) (i : Nat) (c : Candidate) : Prop where
  /-- Where the entry stands. -/
  stands : entries[i]? = some c
  /-- It will do. -/
  holds : P c
  /-- No other comes first. -/
  first : ∀ j d, entries[j]? = some d → P d →
    Quality.compare? d.quality c.quality = some .lt ∨ (Quality.compare? d.quality c.quality = some .eq ∧ i ≤ j)

/-! ## Single entries -/

/-- A blank text is no entry. -/
theorem isEmpty_trim_of_candidate? {c : Candidate} (h : candidate? raw = some c) : (Text.trim raw).isEmpty = false := by
  rw [Bool.eq_false_iff]
  intro hblank
  rw [candidate?, ContentType.read?, String.isEmpty_iff.mp hblank] at h
  cases h

/-- A text without a comma states the one entry that it is, if it is wanted at all. -/
theorem stated_of_single {c : Candidate} (hcomma : ',' ∉ raw.toList) (h : candidate? raw = some c)
    (hpositive : c.quality.isPositive = true) : stated raw = [c] := by
  rw [stated, Text.splitAll, Text.pieces_of_not_mem hcomma, List.map_singleton, String.ofList_toList]
  simp only [List.filterMap_cons, h, List.filterMap_nil]
  simp only [List.filter_cons, hpositive, if_true, List.filter_nil]

/-! ## Order -/

/-- Whether one candidate is wanted at least as much as another, by the ranks of their qualities. -/
def ranked (a b : Candidate) : Bool := decide (b.quality.rank ≤ a.quality.rank)

theorem ranked_total (a b : Candidate) : (ranked a b || ranked b a) = true := by
  simp only [ranked, Bool.or_eq_true, decide_eq_true_eq]
  omega

theorem ranked_trans (a b c : Candidate) (hab : ranked a b = true) (hbc : ranked b c = true) : ranked a c = true := by
  simp only [ranked, decide_eq_true_eq] at hab hbc ⊢
  omega

theorem mayPrecede_eq_ranked {a b : Candidate} (ha : a.quality.isPositive = true) (hb : b.quality.isPositive = true) :
    mayPrecede a b = ranked a b := by
  rw [mayPrecede, Quality.compare?_of_isPositive hb ha, Option.getD_some, ranked, Bool.eq_iff_iff, bne_iff_ne, ne_eq,
    Int.compare_eq_gt, decide_eq_true_eq]
  omega

theorem isPositive_of_mem_stated {c : Candidate} (h : c ∈ stated raw) : c.quality.isPositive = true :=
  (List.mem_filter.mp h).2

/-- Among the stated candidates the order is total, as their qualities are numbers. -/
theorem parse_eq_mergeSort_ranked : parse raw = (stated raw).mergeSort ranked := by
  have hsort := List.map_mergeSort (r := mayPrecede) (s := ranked) (f := id) (l := stated raw) fun a ha b hb =>
    mayPrecede_eq_ranked (isPositive_of_mem_stated ha) (isPositive_of_mem_stated hb)
  simpa [parse] using hsort

theorem mem_parse {c : Candidate} : c ∈ parse raw ↔ c ∈ stated raw := List.mem_mergeSort

/-! ## Ranking -/

/-- What to try before another: it is wanted more, or as much and stated before it. Both stand with their places. -/
def Outranks (a b : Candidate × Nat) : Prop :=
  Quality.compare? b.1.quality a.1.quality = some .lt ∨ (Quality.compare? b.1.quality a.1.quality = some .eq ∧ a.2 < b.2)

/-- Candidates in the order of their places are sorted so that each outranks those behind it. -/
theorem exists_ranking {placed : List (Candidate × Nat)} (hpositive : ∀ e ∈ placed, e.1.quality.isPositive = true)
    (hplaces : placed.Pairwise fun a b => a.2 < b.2) :
    ∃ ranking : List (Candidate × Nat), (placed.map Prod.fst).mergeSort ranked = ranking.map Prod.fst ∧ ranking.Perm placed ∧
      ranking.Pairwise Outranks := by
  let le (a b : Candidate × Nat) : Bool := ranked a.1 b.1
  have hsorted : (placed.mergeSort le).Pairwise fun a b => le a b = true ∧ (le b a = true → a.2 < b.2) :=
    pairwise_mergeSort_of_pairwise (fun _ _ _ => ranked_trans _ _ _) (fun _ _ => ranked_total _ _) hplaces
  have hmap := List.map_mergeSort (r := le) (s := ranked) (f := Prod.fst) (l := placed) fun _ _ _ _ => rfl
  refine ⟨placed.mergeSort le, hmap.symm, List.mergeSort_perm _ _, ?_⟩
  refine hsorted.imp_of_mem ?_
  rintro a b ha hb ⟨hle, hlevel⟩
  have hcompare := Quality.compare?_of_isPositive (hpositive b (List.mem_mergeSort.mp hb))
    (hpositive a (List.mem_mergeSort.mp ha))
  simp only [le, ranked, decide_eq_true_eq] at hle hlevel
  rw [Outranks, hcompare]
  by_cases heq : a.1.quality.rank ≤ b.1.quality.rank
  · exact .inr ⟨congrArg some (Int.compare_eq_eq.mpr (by omega)), hlevel heq⟩
  · exact .inl (congrArg some (Int.compare_eq_lt.mpr (by omega)))

/-! ## Choice -/

/-- The first of ranked candidates that will do is the best of them. -/
theorem best_of_append {before after : List (Candidate × Nat)} {c : Candidate} {i : Nat}
    (hmem : ∀ e, e ∈ before ++ (c, i) :: after ↔ entries[e.2]? = some e.1)
    (hranking : (before ++ (c, i) :: after).Pairwise Outranks) (hpositive : c.quality.isPositive = true) (hc : P c)
    (hbefore : ∀ e ∈ before, ¬P e.1) : Best entries P i c := by
  refine ⟨(hmem (c, i)).mp (by simp), hc, fun j d hd hP => ?_⟩
  rcases List.mem_append.mp ((hmem (d, j)).mpr hd) with hmem | hmem
  · exact absurd hP (hbefore _ hmem)
  · rcases List.mem_cons.mp hmem with heq | hmem
    · obtain ⟨rfl, rfl⟩ := Prod.mk.inj heq
      rw [Quality.compare?_of_isPositive hpositive hpositive]
      exact .inr ⟨by simp, Nat.le_refl j⟩
    · rw [List.pairwise_append, List.pairwise_cons] at hranking
      exact (hranking.2.1.1 (d, j) hmem).imp_right (And.imp_right Nat.le_of_lt)

/-- The first candidate for which there is a result is the best of those for which there is one. -/
theorem findSome?_parse {β : Type} {f : Candidate → Option β} {x : β} (h : (parse raw).findSome? f = some x) :
    ∃ i c, Best (stated raw) (fun c => (f c).isSome) i c ∧ f c = some x := by
  have hplaces : (stated raw).zipIdx.Pairwise fun a b => a.2 < b.2 := by
    rw [← List.pairwise_map (f := Prod.snd), List.zipIdx_map_snd]
    exact List.pairwise_lt_range'
  obtain ⟨ranking, hparse, hperm, hranking⟩ :=
    exists_ranking (fun e he => isPositive_of_mem_stated (List.fst_mem_of_mem_zipIdx he)) hplaces
  rw [List.zipIdx_map_fst, ← parse_eq_mergeSort_ranked] at hparse
  rw [hparse, List.findSome?_map, List.findSome?_eq_some_iff] at h
  obtain ⟨before, ⟨c, i⟩, after, rfl, hc, hbefore⟩ := h
  have hc : f c = some x := hc
  have hmem (e : Candidate × Nat) : e ∈ before ++ (c, i) :: after ↔ (stated raw)[e.2]? = some e.1 := by
    rw [hperm.mem_iff, List.mem_zipIdx_iff_getElem?]
  have hpositive := isPositive_of_mem_stated (List.mem_of_getElem? ((hmem (c, i)).mp (by simp)))
  refine ⟨i, c, best_of_append hmem hranking hpositive (by simp [hc]) ?_, hc⟩
  intro e he
  have hnone : f e.1 = none := hbefore e he
  simp [hnone]

end Accept

end BasinRegister
