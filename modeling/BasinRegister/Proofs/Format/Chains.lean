import BasinRegister.Format.Registry

/-!
# Chains of aliases

Two ways to follow aliases end alike: one that remembers where it was (`Descriptor.trace`), and one that goes a step more than
there are descriptors (`Descriptor.chainEnd`). The one is how a registry is checked, the other how it is asked, so what was
checked never runs out of steps (`Descriptor.trace_eq_chainEnd`).
-/

namespace BasinRegister.Descriptor

variable {ds : List Descriptor} {contentType target : ContentType}

theorem contentType_of_find? {d : Descriptor} (h : find? ds contentType = some d) :
    d ∈ ds ∧ d.contentType = contentType :=
  ⟨List.mem_of_find?_eq_some h, by simpa using List.find?_some h⟩

/-! ## One step -/

theorem follow_none (steps : Nat) (h : find? ds contentType = none) :
    follow ds (steps + 1) contentType = .dangles contentType := by
  rw [follow, h]

theorem follow_format (steps : Nat) {d : Descriptor} (h : find? ds contentType = some d) (hend : d.aliasOf = none) :
    follow ds (steps + 1) contentType = .reaches contentType := by
  rw [follow, h]
  simp only [hend]

theorem follow_alias (steps : Nat) {d : Descriptor} (h : find? ds contentType = some d)
    (hnext : d.aliasOf = some target) : follow ds (steps + 1) contentType = follow ds steps target := by
  rw [follow, h]
  simp only [hnext]

/-! ## Enough steps -/

/-- A further step changes no end that was reached. -/
theorem follow_succ {steps : Nat} (h : follow ds steps contentType ≠ .circles) :
    follow ds (steps + 1) contentType = follow ds steps contentType := by
  induction steps generalizing contentType with
  | zero => exact absurd rfl h
  | succ steps ih =>
    cases hfound : find? ds contentType with
    | none => rw [follow_none _ hfound, follow_none _ hfound]
    | some d =>
      cases hnext : d.aliasOf with
      | none => rw [follow_format _ hfound hnext, follow_format _ hfound hnext]
      | some target =>
        rw [follow_alias _ hfound hnext] at h ⊢
        rw [follow_alias steps hfound hnext, ih h]

/-- What is reached without coming round is reached in no more steps than there are descriptors left to visit. -/
theorem follow_eq_trace {visited : List ContentType} {steps : Nat} (h : trace ds visited contentType ≠ .circles)
    (hsteps : (unvisited ds visited).length < steps) : follow ds steps contentType = trace ds visited contentType := by
  obtain ⟨steps, rfl⟩ : ∃ n, steps = n + 1 := ⟨steps - 1, by omega⟩
  fun_induction trace ds visited contentType generalizing steps with
  | case1 => exact absurd rfl h
  | case2 visited contentType hnew hfound => exact follow_none steps hfound
  | case3 visited contentType hnew d hfound hend => exact follow_format steps hfound hend
  | case4 visited contentType hnew d hfound target hnext ih =>
    have hfewer := length_unvisited_cons hnew hfound
    obtain ⟨steps, rfl⟩ : ∃ n, steps = n + 1 := ⟨steps - 1, by omega⟩
    rw [follow_alias _ hfound hnext]
    exact ih h steps (by omega)

/-- What is reached in some steps is reached without coming round, as long as nothing that was visited gets there in so
few steps. -/
theorem trace_eq_follow {visited : List ContentType} {steps : Nat} (h : follow ds steps contentType ≠ .circles)
    (hvisited : ∀ v ∈ visited, follow ds steps v = .circles) :
    trace ds visited contentType = follow ds steps contentType := by
  induction steps generalizing visited contentType with
  | zero => exact absurd rfl h
  | succ steps ih =>
    have hearlier : ∀ v ∈ visited, follow ds steps v = .circles := by
      intro v hv
      refine Decidable.byContradiction fun hne => hne ?_
      exact (follow_succ hne).symm.trans (hvisited v hv)
    by_cases hlate : follow ds steps contentType = .circles
    · -- the end is `steps + 1` steps away, so the step taken now leads to a place that is nearer to it
      have hnew : contentType ∉ visited := fun hmem => h (hvisited contentType hmem)
      rw [trace, if_neg hnew]
      split
      · rename_i hfound
        rw [follow_none steps hfound]
      · rename_i d hfound
        split
        · rename_i hend
          rw [follow_format steps hfound hend]
        · rename_i target hnext
          rw [follow_alias steps hfound hnext] at h ⊢
          refine ih h ?_
          intro v hv
          rcases List.mem_cons.mp hv with rfl | hv
          · exact hlate
          · exact hearlier v hv
    · rw [follow_succ hlate]
      exact ih hlate hearlier

/-- Following aliases with a memory of what was visited ends where following them for one step more than there are descriptors
ends. -/
theorem trace_eq_chainEnd (ds : List Descriptor) (contentType : ContentType) :
    trace ds [] contentType = chainEnd ds contentType := by
  have hall : (unvisited ds []).length < ds.length + 1 := Nat.lt_succ_of_le (List.length_filter_le _ _)
  by_cases h : trace ds [] contentType = .circles
  · by_cases hend : chainEnd ds contentType = .circles
    · rw [h, hend]
    · exact trace_eq_follow hend (by simp)
  · exact (follow_eq_trace h hall).symm

/-- An end that is reached within any number of steps is the end of the chain. -/
theorem chainEnd_of_follow {steps : Nat} {e : ChainEnd} (h : follow ds steps contentType = e) (hne : e ≠ .circles) :
    chainEnd ds contentType = e := by
  rw [← trace_eq_chainEnd, trace_eq_follow (by rwa [h]) (by simp), h]

/-! ## Ends -/

/-- A chain ends at a content type that is registered and no alias, and that content type is its own end. -/
theorem find?_of_chainEnd (h : chainEnd ds contentType = .reaches target) :
    (∃ d, find? ds target = some d ∧ d.aliasOf = none) ∧ chainEnd ds target = .reaches target := by
  have hend : ∃ d, find? ds target = some d ∧ d.aliasOf = none := by
    rw [chainEnd] at h
    generalize ds.length + 1 = steps at h
    induction steps generalizing contentType with
    | zero => cases h
    | succ steps ih =>
      cases hfound : find? ds contentType with
      | none =>
        rw [follow_none steps hfound] at h
        cases h
      | some d =>
        cases hnext : d.aliasOf with
        | none =>
          rw [follow_format steps hfound hnext] at h
          cases h
          exact ⟨d, hfound, hnext⟩
        | some next =>
          rw [follow_alias steps hfound hnext] at h
          exact ih h
  obtain ⟨d, hfound, halias⟩ := hend
  exact ⟨⟨d, hfound, halias⟩, follow_format _ hfound halias⟩

end BasinRegister.Descriptor
