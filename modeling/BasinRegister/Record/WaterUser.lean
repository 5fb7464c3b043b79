import BasinRegister.Json.Fields

/-!
# Water users

Those who hold a water-supply contract at a project of an office.
-/

namespace BasinRegister

/-- A project, named within its office. -/
structure ProjectId where
  /-- The office. -/
  officeId : String
  /-- The name of the project. -/
  name : String
  deriving DecidableEq, Repr, Inhabited

/-- A holder of a contract at a project. -/
structure WaterUser where
  /-- The name of the holder. -/
  entityName : String
  /-- The project. -/
  projectId : ProjectId
  /-- The water right behind the contract. -/
  waterRight : Option String
  deriving DecidableEq, Repr, Inhabited

open Json Json.Slot

namespace ProjectId

/-- The project as a JSON object. -/
def toJson (p : ProjectId) : Json :=
  .object [("name", .text p.name), ("office-id", .text p.officeId)]

/-- The project that a JSON value describes. -/
def ofJson (v : Json) : Option ProjectId := do
  match ← v.slots? ["office-id", "name"] with
  | [officeId, name] => some { officeId := ← officeId.required readText, name := ← name.required readText }
  | _ => none

end ProjectId

namespace WaterUser

/-- The water user as a JSON object. -/
def toJson (u : WaterUser) : Json :=
  .object <|
    [("entity-name", .text u.entityName), ("project-id", u.projectId.toJson)] ++
      member? "water-right" (u.waterRight.map .text)

/-- The water user that a JSON value describes. -/
def ofJson (v : Json) : Option WaterUser := do
  match ← v.slots? ["entity-name", "project-id", "water-right"] with
  | [entityName, projectId, waterRight] =>
    some {
      entityName := ← entityName.required readText
      projectId := ← projectId.required ProjectId.ofJson
      waterRight := ← waterRight.optional readText }
  | _ => none

end WaterUser

end BasinRegister
