import BasinRegister.Storage.Script

/-!
# Puts are whole

The steps of a put come to what the put comes to, as long as nothing fails for a reason of its own (`Memory.run_script`,
`Relational.run_script`). Where a step fails, the store is as it was: either the steps before it changed nothing
(`Step.Whole`), or they are undone.
-/

namespace BasinRegister

variable {σ : Type}

/-! ## Steps -/

namespace Step

/-- A step that leaves every store as it is. -/
def Quiet (step : Step σ) : Prop := ∀ fault s s', step.run fault s = .ok s' → s' = s

/-- A question changes nothing. -/
theorem quiet_ask : (ask : Step σ).Quiet := by
  intro fault s s' h
  cases fault <;> cases h
  rfl

/-- A check changes nothing. -/
theorem quiet_check (refusal : σ → Option StorageError) : (check refusal).Quiet := by
  intro fault s s' h
  cases fault <;> simp only [run] at h <;> split at h <;> cases h <;> rfl

/-- A refusal changes nothing. -/
theorem quiet_refuse (condition : σ → Bool) (e : StorageError) : (refuse condition e).Quiet := quiet_check _

/-- Steps of which none can fail behind a change. -/
inductive Whole : List (Step σ) → Prop where
  /-- Steps that change nothing may come first. -/
  | quiet {step : Step σ} {steps : List (Step σ)} (hstep : step.Quiet) (hsteps : Whole steps) : Whole (step :: steps)
  /-- One call does its work as a whole. -/
  | call (work : σ → Except StorageError σ) : Whole [.call work]
  /-- Changes do not fail. -/
  | changes (works : List (σ → σ)) : Whole (works.map .change)

/-- Changes alone never fail. -/
theorem runAll_changes (faults : Faults) (works : List (σ → σ)) (s : σ) :
    (runAll faults (works.map .change) s).1 = none := by
  induction works generalizing faults s with
  | nil => rfl
  | cons work works ih =>
    have hrun : (Step.change work).run (faults 0) s = .ok (work s) := by cases faults 0 <;> rfl
    rw [List.map_cons, runAll, hrun]
    exact ih _ _

/-- Steps that fail leave the store as it was, if none can fail behind a change. -/
theorem Whole.unchanged {steps : List (Step σ)} (h : Whole steps) {faults : Faults} {s left : σ} {e : StorageError}
    (hrun : runAll faults steps s = (some e, left)) : left = s := by
  induction h generalizing faults with
  | quiet hstep _ ih =>
    rw [runAll] at hrun
    split at hrun
    · cases hrun
      rfl
    · rename_i s' hs'
      rw [hstep _ _ _ hs'] at hrun
      exact ih hrun
  | call work =>
    rw [runAll] at hrun
    split at hrun
    · cases hrun
      rfl
    · cases hrun
  | changes works =>
    have hnone := runAll_changes faults works s
    rw [hrun] at hnone
    cases hnone

/-- Faults either make steps fail or make no difference. -/
theorem runAll_cases (faults : Faults) (steps : List (Step σ)) (s : σ) :
    runAll faults steps s = runAll Faults.absent steps s ∨
      ∃ e left, runAll faults steps s = (some e, left) ∧ ∃ i, faults i = some e := by
  induction steps generalizing faults s with
  | nil => exact .inl rfl
  | cons step steps ih =>
    have hcases : step.run (faults 0) s = step.run none s ∨
        ∃ e, faults 0 = some e ∧ step.run (faults 0) s = .error e := by
      cases step <;> cases faults 0 <;> simp [run]
    rcases hcases with hsame | ⟨e, hfault, hrun⟩
    · rw [runAll, runAll, hsame]
      have habsent : step.run (Faults.absent 0) s = step.run none s := rfl
      rw [habsent]
      cases step.run none s with
      | error e => exact .inl rfl
      | ok s' =>
        rcases ih (fun i => faults (i + 1)) s' with hrest | ⟨e, left, hrest, i, hi⟩
        · exact .inl hrest
        · exact .inr ⟨e, left, hrest, i + 1, hi⟩
    · refine .inr ⟨e, s, ?_, 0, hfault⟩
      rw [runAll, hrun]

/-! ## Steps without faults -/

@[simp] theorem runAll_nil (s : σ) : runAll Faults.absent [] s = (none, s) := rfl

@[simp] theorem runAll_ask (steps : List (Step σ)) (s : σ) :
    runAll Faults.absent (ask :: steps) s = runAll Faults.absent steps s := rfl

@[simp] theorem runAll_refuse (condition : σ → Bool) (e : StorageError) (steps : List (Step σ)) (s : σ) :
    runAll Faults.absent (refuse condition e :: steps) s =
      if condition s then (some e, s) else runAll Faults.absent steps s := by
  simp only [runAll, refuse, Faults.absent, run]
  cases condition s <;> rfl

@[simp] theorem runAll_change (work : σ → σ) (steps : List (Step σ)) (s : σ) :
    runAll Faults.absent (.change work :: steps) s = runAll Faults.absent steps (work s) := rfl

end Step

/-! ## Scripts -/

namespace Script

/-- A script that leaves the store as it was where it fails. -/
def Whole (script : Script σ) : Prop := script.isTransaction = true ∨ Step.Whole script.steps

/-- A script that changes all or nothing leaves the store as it was where it fails. -/
theorem Whole.unchanged {script : Script σ} (h : script.Whole) {faults : Faults} {s left : σ} {e : StorageError}
    (hrun : script.run faults s = (some e, left)) : left = s := by
  unfold run at hrun
  split at hrun
  · rename_i e' left' hsteps
    rw [Prod.mk.injEq] at hrun
    obtain ⟨-, rfl⟩ := hrun
    rcases h with htransaction | hwhole
    · rw [if_pos htransaction]
    · split
      · rfl
      · exact hwhole.unchanged hsteps
  · cases hrun

/-- Faults either make a script fail or make no difference. -/
theorem run_cases (script : Script σ) (faults : Faults) (s : σ) :
    script.run faults s = script.run Faults.absent s ∨
      ∃ e left, script.run faults s = (some e, left) ∧ ∃ i, faults i = some e := by
  rcases Step.runAll_cases faults script.steps s with hsame | ⟨e, left, hsteps, hfault⟩
  · rw [run, run, hsame]
    exact .inl rfl
  · refine .inr ⟨e, if script.isTransaction then s else left, ?_, hfault⟩
    rw [run, hsteps]

end Script

/-- What a put comes to, as a script says it: the error, if there is one, and the store that is left. -/
def outcome (s : σ) : Except StorageError σ → Option StorageError × σ
  | .ok s' => (none, s')
  | .error e => (some e, s)

/-! ## The store in memory -/

namespace Memory

open Step

/-- The steps of a put in memory come to what the put comes to. -/
theorem run_script (m : Memory) (record : Put) : (script record).run Faults.absent m = outcome m (m.put record) := by
  cases record with
  | office o =>
    simp only [script, Script.run, runAll_ask, runAll_refuse, runAll_change, runAll_nil, put, putOffice]
    cases m.offices.contains (officeKey o) <;> rfl
  | location l =>
    simp only [script, Script.run, runAll_ask, runAll_refuse, runAll_change, runAll_nil, put, putLocation]
    cases m.locations.contains (locationKey l) <;> rfl
  | locationAlias a =>
    simp only [script, Script.run, runAll_ask, runAll_refuse, runAll_change, runAll_nil, put, putLocationAlias]
    cases m.locations.contains (aliasKey a) <;> rfl
  | ratingTemplate t =>
    simp only [script, Script.run, runAll_ask, runAll_refuse, runAll_change, runAll_nil, put, putTemplate]
    cases t.specs.isEmpty <;> cases m.templates.contains (templateKey t) <;> rfl
  | ratingSpec r =>
    simp only [script, Script.run, runAll_ask, runAll_refuse, runAll_change, runAll_nil, put, putSpec]
    cases m.templates.contains (specTemplateKey r) <;> cases m.specs.contains (specKey r) <;> rfl
  | waterUser u =>
    simp only [script, Script.run, runAll_ask, runAll_refuse, runAll_change, runAll_nil, put, putWaterUser]
    cases m.waterUsers.contains (waterUserKey u) <;> rfl

/-- No step of a put in memory can fail behind a change: the checks come first. -/
theorem whole_script (record : Put) : (script record).Whole := by
  refine .inr ?_
  cases record with
  | office o => exact .quiet quiet_ask (.quiet (quiet_refuse _ _) (.changes [_]))
  | location l => exact .quiet quiet_ask (.quiet (quiet_refuse _ _) (.changes [_, _]))
  | locationAlias a => exact .quiet quiet_ask (.quiet (quiet_refuse _ _) (.changes [_]))
  | ratingTemplate t =>
    exact .quiet (quiet_refuse _ _) (.quiet quiet_ask (.quiet (quiet_refuse _ _) (.changes [_])))
  | ratingSpec r =>
    exact .quiet quiet_ask (.quiet (quiet_refuse _ _) (.quiet (quiet_refuse _ _) (.changes [_])))
  | waterUser u => exact .quiet quiet_ask (.quiet (quiet_refuse _ _) (.changes [_]))

end Memory

/-! ## The relational store -/

namespace Relational

open Step

/-- An insertion without faults fails where the key is taken. -/
theorem runAll_insertUnless (taken : Relational → Bool) (e : StorageError) (work : Relational → Relational)
    (steps : List (Step Relational)) (r : Relational) :
    runAll Faults.absent (insertUnless taken e work :: steps) r =
      if taken r then (some e, r) else runAll Faults.absent steps (work r) := by
  simp only [runAll, insertUnless, Faults.absent, run]
  cases taken r <;> rfl

/-- Statements that add aliases add them all. -/
theorem runAll_insertAliases (added : List LocationAlias) (steps : List (Step Relational)) (r : Relational) :
    runAll Faults.absent (added.map insertAlias ++ steps) r =
      runAll Faults.absent steps { r with aliases := added.foldl addAlias r.aliases } := by
  induction added generalizing r with
  | nil => rfl
  | cons a added ih => exact ih { r with aliases := addAlias r.aliases a }

/-- The steps of a put into tables come to what the put comes to. -/
theorem run_script (r : Relational) (record : Put) : (script record).run Faults.absent r = outcome r (r.put record) := by
  cases record with
  | office o =>
    simp only [script, Script.run, runAll_ask, runAll_insertUnless, runAll_nil, put, putOffice]
    cases r.offices.any fun p => p.name = o.name <;> rfl
  | location l =>
    have haliases : (l.aliases.map fun aliasId => insertAlias ⟨l.officeId, l.name, aliasId⟩) =
        (l.aliases.map fun aliasId => (⟨l.officeId, l.name, aliasId⟩ : LocationAlias)).map insertAlias := by
      rw [List.map_map]
      rfl
    simp only [script, Script.run, haliases, List.cons_append, List.nil_append, runAll_ask, runAll_insertUnless,
      runAll_insertAliases, runAll_nil, put, putLocation]
    cases r.locations.any fun p => p.officeId = l.officeId && p.name = l.name <;> rfl
  | locationAlias a =>
    simp only [script, Script.run, runAll_ask, runAll_refuse, put, putLocationAlias]
    cases r.locations.any fun p => p.officeId = a.officeId && p.name = a.locationId <;> rfl
  | ratingTemplate t =>
    simp only [script, Script.run, runAll_ask, runAll_refuse, runAll_insertUnless, runAll_nil, put, putTemplate]
    cases t.specs.isEmpty <;> cases (r.templates.any fun p => p.officeId = t.officeId && p.id = t.id) <;> rfl
  | ratingSpec s =>
    simp only [script, Script.run, runAll_ask, runAll_refuse, runAll_insertUnless, runAll_nil, put, putSpec]
    cases (r.templates.any fun p => p.officeId = s.officeId && p.id = s.templateId) <;>
      cases (r.specs.any fun p => p.officeId = s.officeId && p.ratingId = s.ratingId) <;> rfl
  | waterUser u =>
    simp only [script, Script.run, runAll_ask, runAll_insertUnless, runAll_nil, put, putWaterUser]
    cases r.waterUsers.any fun p => p.projectId = u.projectId && p.entityName = u.entityName <;> rfl

/-- A put into tables ends with its only statement, or it is a transaction. -/
theorem whole_script (record : Put) : (script record).Whole := by
  cases record with
  | office o => exact .inr (.quiet quiet_ask (.call _))
  | location l => exact .inl rfl
  | locationAlias a => exact .inr (.quiet quiet_ask (.quiet quiet_ask (.quiet (quiet_refuse _ _) (.call _))))
  | ratingTemplate t => exact .inr (.quiet (quiet_refuse _ _) (.quiet quiet_ask (.call _)))
  | ratingSpec s => exact .inr (.quiet quiet_ask (.quiet quiet_ask (.quiet (quiet_refuse _ _) (.call _))))
  | waterUser u => exact .inr (.quiet quiet_ask (.call _))

end Relational

end BasinRegister
