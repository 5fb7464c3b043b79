import Mathlib.Data.List.Sort
import BasinRegister.Proofs.Media.Accept

/-!
# Accept values in order

The candidates of an accept value are its entries with qualities greater than zero, the most wanted first and entries that are
wanted as much in the order in which they stand (`Accept.parse_ranked`). Sorting never meets two qualities that do not compare,
whatever the entries write for them.
-/

namespace BasinRegister.Accept

open Number (Literal)

variable {raw : String}

/-- The number literal that a media range states as its quality. -/
def statedLiteral (range : Option MediaRange) : Option Literal :=
  (range.bind (·.parameter? "q")).bind Literal.read

/-- The entry at a place is a candidate that is wanted. -/
def WantedAt (raw : String) (i : Nat) (c : Candidate) : Prop :=
  ∃ entry, (Text.splitAll ',' raw)[i]? = some entry ∧ candidate? entry = some c ∧ c.quality.isPositive = true

/-- All candidates of an accept value that are wanted, with the places of their entries and in the order to try them. -/
structure Ranks (raw : String) (ranking : List (Candidate × Nat)) : Prop where
  /-- They are the entries that are wanted. -/
  wanted : ∀ e, e ∈ ranking ↔ WantedAt raw e.2 e.1
  /-- Each is to be tried before those behind it. -/
  ordered : ranking.Pairwise Outranks

/-! ## Candidates with their places -/

/-- The entry of a place as a candidate, if it is one that is wanted. -/
def placedCandidate? (e : String × Nat) : Option (Candidate × Nat) :=
  ((candidate? e.1).filter (·.quality.isPositive)).map (·, e.2)

/-- The candidates of an accept value with the places of their entries, in the order of the entries. -/
def placed (raw : String) : List (Candidate × Nat) :=
  (Text.splitAll ',' raw).zipIdx.filterMap placedCandidate?

theorem placedCandidate?_eq_some {e : String × Nat} {p : Candidate × Nat} :
    placedCandidate? e = some p ↔ (candidate? e.1 = some p.1 ∧ p.1.quality.isPositive = true) ∧ e.2 = p.2 := by
  obtain ⟨c, i⟩ := p
  rw [placedCandidate?, Option.map_eq_some_iff]
  simp only [Option.filter_eq_some_iff, Prod.mk.injEq]
  constructor
  · rintro ⟨_, hc, rfl, hi⟩
    exact ⟨hc, hi⟩
  · rintro ⟨hc, hi⟩
    exact ⟨c, hc, rfl, hi⟩

theorem mem_placed {p : Candidate × Nat} : p ∈ placed raw ↔ WantedAt raw p.2 p.1 := by
  rw [placed, List.mem_filterMap, WantedAt]
  constructor
  · rintro ⟨⟨entry, i⟩, hmem, hp⟩
    obtain ⟨⟨hcandidate, hpositive⟩, rfl⟩ := placedCandidate?_eq_some.mp hp
    exact ⟨entry, List.mem_zipIdx_iff_getElem?.mp hmem, hcandidate, hpositive⟩
  · rintro ⟨entry, hentry, hc⟩
    exact ⟨(entry, p.2), List.mem_zipIdx_iff_getElem?.mpr hentry, placedCandidate?_eq_some.mpr ⟨hc, rfl⟩⟩

/-- Without their places they are the stated candidates. -/
theorem map_fst_placed (raw : String) : (placed raw).map Prod.fst = stated raw := by
  have hfst : (fun e => (placedCandidate? e).map Prod.fst) =
      (fun entry => (candidate? entry).filter (·.quality.isPositive)) ∘ Prod.fst := by
    funext e
    have hid : Prod.fst ∘ (fun c : Candidate => (c, e.2)) = id := rfl
    rw [placedCandidate?, Option.map_map, hid, Option.map_id, id, Function.comp_apply]
  rw [placed, List.map_filterMap, hfst, ← List.filterMap_map, List.zipIdx_map_fst, stated, List.filter_filterMap]

theorem pairwise_placed (raw : String) : (placed raw).Pairwise fun a b => a.2 < b.2 := by
  have hplaces : (Text.splitAll ',' raw).zipIdx.Pairwise fun a b => a.2 < b.2 := by
    rw [← List.pairwise_map (f := Prod.snd), List.zipIdx_map_snd]
    exact List.pairwise_lt_range'
  refine hplaces.filterMap _ ?_
  intro a b hab p hp q hq
  rwa [← (placedCandidate?_eq_some.mp hp).2, ← (placedCandidate?_eq_some.mp hq).2]

/-! ## The one ranking -/

/-- Of two candidates only one is to be tried before the other. -/
theorem Outranks.asymm {a b : Candidate × Nat} (hab : Outranks a b) : ¬Outranks b a := by
  intro hba
  simp only [Outranks, Quality.compare?_eq_some, Int.compare_eq_lt, Int.compare_eq_eq] at hab hba
  omega

instance irrefl_outranks : Std.Irrefl Outranks := ⟨fun _ h => h.asymm h⟩

instance antisymm_outranks : Std.Antisymm Outranks := ⟨fun _ _ hab hba => absurd hba hab.asymm⟩

/-- There is no more than one order in which to try candidates. -/
theorem Ranks.unique {ranking other : List (Candidate × Nat)} (h : Ranks raw ranking) (ho : Ranks raw other) :
    ranking = other :=
  List.Pairwise.eq_of_mem_iff h.ordered ho.ordered fun e => (h.wanted e).trans (ho.wanted e).symm

/-- The candidates of an accept value stand in the order in which to try them. -/
theorem parse_eq_iff {candidates : List Candidate} :
    parse raw = candidates ↔ ∃ ranking, Ranks raw ranking ∧ ranking.map Prod.fst = candidates := by
  have hpositive : ∀ e ∈ placed raw, e.1.quality.isPositive = true := by
    intro e he
    obtain ⟨_, _, _, hpositive⟩ := mem_placed.mp he
    exact hpositive
  obtain ⟨ranking, hparse, hperm, hordered⟩ := exists_ranking hpositive (pairwise_placed raw)
  rw [map_fst_placed, ← parse_eq_mergeSort_ranked] at hparse
  have hranks : Ranks raw ranking := ⟨fun e => hperm.mem_iff.trans mem_placed, hordered⟩
  rw [hparse]
  constructor
  · exact fun h => ⟨ranking, hranks, h⟩
  · rintro ⟨other, hother, h⟩
    rwa [hranks.unique hother]

/-! ## What is wanted -/

/-- A candidate is wanted unless the number that its entry states is not greater than zero. -/
theorem isPositive_qualityOf (range : Option MediaRange) :
    (qualityOf range).isPositive = true ↔ ∀ l, statedLiteral range = some l → Quality.Exceeds l := by
  have hquality : qualityOf range = ((statedLiteral range).map Quality.ofLiteral).getD Quality.one := by
    rw [qualityOf, statedLiteral, Option.map_bind]
    rfl
  rw [hquality]
  cases statedLiteral range with
  | none => simp [show Quality.one.isPositive = true by decide]
  | some l => simp [Quality.isPositive_ofLiteral]

/-- The candidates of an accept value are its entries that are content types and state no quality, or none that is a number, or
one that is greater than zero: each of them once, by falling quality, and level ones as they stand. There is no other list of
which this holds. All their qualities are numbers, so any two of them compare. -/
theorem parse_ranked (raw : String) :
    (∀ candidates, parse raw = candidates ↔ ∃ ranking, Ranks raw ranking ∧ ranking.map Prod.fst = candidates) ∧
    (∀ entry contentType range, ContentType.read? entry = some (contentType, range) →
      ∃ c, candidate? entry = some c ∧ c.contentType = contentType ∧
        (c.quality.isPositive = true ↔ ∀ l, statedLiteral range = some l → Quality.Exceeds l)) ∧
    ∀ a ∈ stated raw, ∀ b ∈ stated raw,
      a.quality.isNaN = false ∧ ∃ ordering, Quality.compare? b.quality a.quality = some ordering := by
  refine ⟨fun candidates => parse_eq_iff, ?_, ?_⟩
  · intro entry contentType range hread
    refine ⟨⟨contentType, qualityOf range⟩, ?_, rfl, isPositive_qualityOf range⟩
    rw [candidate?, hread]
    rfl
  · intro a ha b hb
    have hpositive := isPositive_of_mem_stated ha
    refine ⟨?_, _, Quality.compare?_of_isPositive (isPositive_of_mem_stated hb) hpositive⟩
    rw [Quality.isPositive, Bool.and_eq_true, Bool.not_eq_true'] at hpositive
    exact hpositive.1

/-- Infinity compares with one, and what is no number does not come up. -/
theorem parse_ranked_odd :
    stated "text/a;q=NaN,text/b;q=-1,text/c;q=inf,text/d;q=x" =
      [⟨⟨"text/c", none⟩, ⟨0x7F800000⟩⟩, ⟨⟨"text/d", none⟩, Quality.one⟩] ∧
    (∃ ordering, Quality.compare? Quality.one ⟨0x7F800000⟩ = some ordering) ∧
    ∃ c, candidate? "text/a;q=NaN" = some c ∧ c.contentType = ⟨"text/a", none⟩ ∧ ¬c.quality.isPositive = true := by
  have hstated : stated "text/a;q=NaN,text/b;q=-1,text/c;q=inf,text/d;q=x" =
      [⟨⟨"text/c", none⟩, ⟨0x7F800000⟩⟩, ⟨⟨"text/d", none⟩, Quality.one⟩] := by decide +kernel
  obtain ⟨-, hentries, hcompare⟩ := parse_ranked "text/a;q=NaN,text/b;q=-1,text/c;q=inf,text/d;q=x"
  have hlevel := (hcompare ⟨⟨"text/c", none⟩, ⟨0x7F800000⟩⟩ (by simp [hstated])
    ⟨⟨"text/d", none⟩, Quality.one⟩ (by simp [hstated])).2
  refine ⟨hstated, hlevel, ?_⟩
  have hread : ContentType.read? "text/a;q=NaN" =
      some (⟨"text/a", none⟩, some ⟨"text/a", [("q", "NaN")]⟩) := by decide +kernel
  obtain ⟨c, hc, htype, hpositive⟩ := hentries _ _ _ hread
  refine ⟨c, hc, htype, fun hwanted => ?_⟩
  have hexceeds := hpositive.mp hwanted ⟨false, .undefined⟩ (by decide +kernel)
  simp [Quality.Exceeds] at hexceeds

end BasinRegister.Accept
