import BasinRegister.Storage.Memory
import BasinRegister.Storage.Relational

/-!
# Puts step by step

A put as the steps it takes: locks, statements, checks and changes, one after the other. What is called from outside a
store, such as a lock or a statement, may also fail for reasons of its own, and then has no effect. What the steps before
a failure did stays done, unless the steps make a transaction.
-/

namespace BasinRegister

/-- A step of a put. -/
inductive Step (σ : Type) where
  /-- Something is called that does its work as a whole or fails without effect. -/
  | call (work : σ → Except StorageError σ)
  /-- The store is looked at, and the put may be refused. -/
  | check (refusal : σ → Option StorageError)
  /-- The store is changed in place, which cannot fail. -/
  | change (work : σ → σ)

/-- Which calls fail for reasons of their own, by the number of the step. -/
abbrev Faults := Nat → Option StorageError

/-- No call fails for a reason of its own. -/
def Faults.absent : Faults := fun _ => none

namespace Step

variable {σ : Type}

/-- Something is called that leaves the store as it is: a lock is taken, or a query is run. -/
def ask : Step σ := .call .ok

/-- The put is refused where a condition holds. -/
def refuse (condition : σ → Bool) (e : StorageError) : Step σ :=
  .check fun s => if condition s then some e else none

/-- The store behind a step, which a fault makes fail if it is a call. -/
def run : Option StorageError → Step σ → σ → Except StorageError σ
  | some e, .call _, _ => .error e
  | none, .call work, s => work s
  | _, .check refusal, s =>
    match refusal s with
    | some e => .error e
    | none => .ok s
  | _, .change work, s => .ok (work s)

/-- What goes wrong on the way through steps, if anything does, and the store that is left. -/
def runAll (faults : Faults) : List (Step σ) → σ → Option StorageError × σ
  | [], s => (none, s)
  | step :: steps, s =>
    match step.run (faults 0) s with
    | .error e => (some e, s)
    | .ok s' => runAll (fun i => faults (i + 1)) steps s'

end Step

/-- The steps of a put. -/
structure Script (σ : Type) where
  /-- The steps. -/
  steps : List (Step σ)
  /-- Whether all of them are undone where one fails. -/
  isTransaction : Bool

/-- What goes wrong in a put, if anything does, and the store that is left. -/
def Script.run {σ : Type} (script : Script σ) (faults : Faults) (s : σ) : Option StorageError × σ :=
  match Step.runAll faults script.steps s with
  | (some e, left) => (some e, if script.isTransaction then s else left)
  | (none, left) => (none, left)

namespace Memory

open Step

/-- The steps of a put in memory: checks behind a lock, and then changes. -/
def script : Put → Script Memory
  | .office o =>
    { steps := [ask, refuse (·.offices.contains (officeKey o)) (.officeExists o),
        .change fun m => { m with offices := m.offices.insert (officeKey o) o }]
      isTransaction := false }
  | .location l =>
    { steps := [ask, refuse (·.locations.contains (locationKey l)) (.locationExists l),
        .change fun m => { m with locations := m.locations.insert (locationKey l) l.withoutAliases },
        .change fun m => m.addAliases (locationKey l) l.aliases]
      isTransaction := false }
  | .locationAlias a =>
    { steps := [ask, refuse (fun m => !m.locations.contains (aliasKey a)) .notFound,
        .change fun m => m.addAliases (aliasKey a) [a.aliasId]]
      isTransaction := false }
  | .ratingTemplate t =>
    { steps := [refuse (fun _ => t.specs.isEmpty) (.noParameters t), ask,
        refuse (·.templates.contains (templateKey t))
          (.conflict s!"rating template {t.id} already exists in office {t.officeId}"),
        .change fun m => { m with templates := m.templates.insert (templateKey t) t.withoutRatings }]
      isTransaction := false }
  | .ratingSpec r =>
    { steps := [ask, refuse (fun m => !m.templates.contains (specTemplateKey r)) .notFound,
        refuse (·.specs.contains (specKey r))
          (.conflict s!"rating spec {r.ratingId} already exists in office {r.officeId}"),
        .change fun m => { m with specs := m.specs.insert (specKey r) r }]
      isTransaction := false }
  | .waterUser u =>
    { steps := [ask, refuse (·.waterUsers.contains (waterUserKey u))
          (.conflict s!"water user {u.entityName} already exists at project {u.projectId.name}"),
        .change fun m => { m with waterUsers := m.waterUsers.insert (waterUserKey u) u }]
      isTransaction := false }

end Memory

namespace Relational

open Step

/-- A statement that adds a row to a table, unless the key of the row stands there. -/
def insertUnless (taken : Relational → Bool) (e : StorageError) (work : Relational → Relational) : Step Relational :=
  .call fun r => if taken r then .error e else .ok (work r)

/-- A statement that adds an alias, unless it is there. -/
def insertAlias (a : LocationAlias) : Step Relational :=
  .call fun r => .ok { r with aliases := addAlias r.aliases a }

/-- The steps of a put into tables: what it builds on is looked up by queries, and rows are added by statements. The
statements for a location and its aliases stand between the start and the end of a transaction. -/
def script : Put → Script Relational
  | .office o =>
    { steps := [ask, insertUnless (fun r => r.offices.any fun p => p.name = o.name) (.officeExists o)
        fun r => { r with offices := r.offices ++ [o] }]
      isTransaction := false }
  | .location l =>
    { steps := [ask, ask,
        insertUnless (fun r => r.locations.any fun p => p.officeId = l.officeId && p.name = l.name) (.locationExists l)
          fun r => { r with locations := r.locations ++ [keptLocation l] }] ++
        (l.aliases.map fun aliasId => insertAlias { officeId := l.officeId, locationId := l.name, aliasId }) ++ [ask]
      isTransaction := true }
  | .locationAlias a =>
    { steps := [ask, ask, refuse
          (fun r => !r.locations.any fun p => p.officeId = a.officeId && p.name = a.locationId) .notFound,
        insertAlias a]
      isTransaction := false }
  | .ratingTemplate t =>
    { steps := [refuse (fun _ => t.specs.isEmpty) (.noParameters t), ask,
        insertUnless (fun r => r.templates.any fun p => p.officeId = t.officeId && p.id = t.id)
          (.conflict s!"rating template {t.id} in office {t.officeId} already exists")
          fun r => { r with templates := r.templates ++ [TemplateRow.ofTemplate t] }]
      isTransaction := false }
  | .ratingSpec s =>
    { steps := [ask, ask,
        refuse (fun r => !r.templates.any fun p => p.officeId = s.officeId && p.id = s.templateId) .notFound,
        insertUnless (fun r => r.specs.any fun p => p.officeId = s.officeId && p.ratingId = s.ratingId)
          (.conflict s!"rating spec {s.ratingId} in office {s.officeId} already exists")
          fun r => { r with specs := r.specs ++ [s] }]
      isTransaction := false }
  | .waterUser u =>
    { steps := [ask, insertUnless
          (fun r => r.waterUsers.any fun p => p.projectId = u.projectId && p.entityName = u.entityName)
          (.conflict s!"water user {u.entityName} at project {u.projectId.name} already exists")
          fun r => { r with waterUsers := r.waterUsers ++ [u] }]
      isTransaction := false }

end Relational

end BasinRegister
