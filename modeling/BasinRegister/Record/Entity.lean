import BasinRegister.Kind
import BasinRegister.Record.Office
import BasinRegister.Record.Location
import BasinRegister.Record.RatingTemplate
import BasinRegister.Record.WaterUser

/-!
# Entities

A record of any of the four kinds, as documents hold it.
-/

namespace BasinRegister

/-- A record of one of the four kinds. -/
inductive Entity where
  /-- An office. -/
  | office (record : Office)
  /-- A location. -/
  | location (record : Location)
  /-- A rating template. -/
  | ratingTemplate (record : RatingTemplate)
  /-- A water user. -/
  | waterUser (record : WaterUser)
  deriving DecidableEq, Repr

namespace Entity

/-- The kind of the record. -/
def kind : Entity → Kind
  | .office _ => .office
  | .location _ => .location
  | .ratingTemplate _ => .ratingTemplate
  | .waterUser _ => .waterUser

/-- The record as a JSON object with its members in the order of their names. -/
def toJson : Entity → Json
  | .office o => o.toJson
  | .location l => l.toJson
  | .ratingTemplate t => t.toJson
  | .waterUser u => u.toJson

/-- The record of a kind that a JSON value describes. -/
def ofJson : Kind → Json → Option Entity
  | .office, v => (Office.ofJson v).map .office
  | .location, v => (Location.ofJson v).map .location
  | .ratingTemplate, v => (RatingTemplate.ofJson v).map .ratingTemplate
  | .waterUser, v => (WaterUser.ofJson v).map .waterUser

end Entity

end BasinRegister
