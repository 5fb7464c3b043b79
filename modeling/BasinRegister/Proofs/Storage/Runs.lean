import BasinRegister.Storage.Backend

/-!
# Runs of operations

Only a put that succeeds changes a store, so what every such put keeps holds behind any run of operations
(`Backend.performAll_keeps`), and what those of one run keep holds behind it (`Backend.performAll_keeps_of`).
-/

namespace BasinRegister.Backend

variable {σ : Type} [Backend σ]

/-- The store behind an operation: the one that a put gives, or the one that was there. -/
theorem perform_snd (s : σ) (operation : Operation) :
    (perform s operation).2 = s ∨ ∃ record s', operation = .put record ∧ put s record = .ok s' ∧
      (perform s operation).2 = s' := by
  cases operation with
  | put record =>
    rw [perform]
    cases hput : put s record with
    | ok s' => exact Or.inr ⟨record, s', rfl, hput, rfl⟩
    | error e => exact Or.inl rfl
  | _ => exact Or.inl rfl

@[simp] theorem performAll_cons (s : σ) (operation : Operation) (operations : List Operation) :
    performAll s (operation :: operations) =
      ((perform s operation).1 :: (performAll (perform s operation).2 operations).1,
        (performAll (perform s operation).2 operations).2) := rfl

/-- What every successful put of a run keeps holds behind the run. -/
theorem performAll_keeps_of {P : σ → Prop} (operations : List Operation)
    (hput : ∀ s record s', .put record ∈ operations → P s → put s record = .ok s' → P s') :
    ∀ s, P s → P (performAll s operations).2 := by
  induction operations with
  | nil => exact fun s hs => hs
  | cons operation operations ih =>
    intro s hs
    rw [performAll_cons]
    refine ih (fun s record s' hmem => hput s record s' (List.mem_cons_of_mem _ hmem)) _ ?_
    rcases perform_snd s operation with h | ⟨record, s', rfl, hok, h⟩
    · rw [h]
      exact hs
    · rw [h]
      exact hput s record s' List.mem_cons_self hs hok

/-- What every successful put keeps holds behind any run of operations. -/
theorem performAll_keeps {P : σ → Prop} (hput : ∀ s record s', P s → put s record = .ok s' → P s')
    (operations : List Operation) : ∀ s, P s → P (performAll s operations).2 :=
  performAll_keeps_of operations fun s record s' _ => hput s record s'

end BasinRegister.Backend
