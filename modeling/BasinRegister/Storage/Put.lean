import BasinRegister.Record.Entity
import BasinRegister.Storage.Error

/-!
# Puts

A put adds one record to a store. Nothing is ever changed or taken away.
-/

namespace BasinRegister

/-- A record to be added to a store. -/
inductive Put where
  /-- An office. -/
  | office (record : Office)
  /-- A location together with its aliases. -/
  | location (record : Location)
  /-- Another name of a location that is there. -/
  | locationAlias (record : LocationAlias)
  /-- A rating template; its ratings are not added. -/
  | ratingTemplate (record : RatingTemplate)
  /-- A rating built on a template that is there. -/
  | ratingSpec (record : RatingSpec)
  /-- A water user. -/
  | waterUser (record : WaterUser)
  deriving DecidableEq, Repr

namespace Put

/-- How a failed put is named while seeding. -/
def subject : Put → String
  | .office o => s!"office {o.name}"
  | .location l => s!"location {l.officeId}/{l.name}"
  | .locationAlias a => s!"alias {a.aliasId} of {a.officeId}/{a.locationId}"
  | .ratingTemplate t => s!"rating template {t.officeId}/{t.id}"
  | .ratingSpec r => s!"rating spec {r.officeId}/{r.ratingId}"
  | .waterUser u => s!"water user {u.entityName} at {u.projectId.officeId}/{u.projectId.name}"

end Put

/-! ## Wordings that every store uses -/
namespace StorageError

/-- A template without specs is refused. -/
def noParameters (t : RatingTemplate) : StorageError :=
  .invalid s!"rating template {t.id} has no independent parameters"

/-- An office that is there already. -/
def officeExists (o : Office) : StorageError := .conflict s!"office {o.name} already exists"

/-- A location that is there already. -/
def locationExists (l : Location) : StorageError := .conflict s!"location {l.officeId}/{l.name} already exists"

/-- How a location is named when several are found. -/
def locationSubject (office name : String) : String := s!"location {office}/{name}"

/-- How a template is named when several are found. -/
def templateSubject : Option String → String → String
  | some office, id => s!"rating template {id} in office {office}"
  | none, id => s!"rating template {id}"

end StorageError

end BasinRegister
