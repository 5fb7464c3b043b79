import BasinRegister.Json.Fields
import BasinRegister.Grouping

/-!
# Locations

Named sites of an office, with a position if it is known and with the other names they go by. An alias is also a
record of its own, which names the location it belongs to.
-/

namespace BasinRegister

open Number (Double)

/-- A location. -/
structure Location where
  /-- The office that owns it. -/
  officeId : String
  /-- The name within the office. -/
  name : String
  /-- Degrees north. -/
  latitude : Option Double
  /-- Degrees east. -/
  longitude : Option Double
  /-- The datum of the position. -/
  horizontalDatum : Option String
  /-- The time zone. -/
  timezoneName : Option String
  /-- What sort of site it is. -/
  locationKind : Option String
  /-- The name shown to the public. -/
  publicName : Option String
  /-- Whether the site is in use. -/
  active : Bool
  /-- The other names. -/
  aliases : List String
  deriving DecidableEq, Repr, Inhabited

/-- What tells a location apart from others: everything but its aliases, and of a position the bits. -/
structure LocationKey where
  /-- The office that owns it. -/
  officeId : String
  /-- The name within the office. -/
  name : String
  /-- The word of the degrees north. -/
  latitude : Option UInt64
  /-- The word of the degrees east. -/
  longitude : Option UInt64
  /-- The datum of the position. -/
  horizontalDatum : Option String
  /-- The time zone. -/
  timezoneName : Option String
  /-- What sort of site it is. -/
  locationKind : Option String
  /-- The name shown to the public. -/
  publicName : Option String
  /-- Whether the site is in use. -/
  active : Bool
  deriving DecidableEq, Repr

namespace Location

open Json Json.Slot

/-- The location without its aliases. -/
def withoutAliases (l : Location) : Location := { l with aliases := [] }

instance : GroupKey Location LocationKey where
  key l :=
    { officeId := l.officeId
      name := l.name
      latitude := l.latitude.map Double.bits
      longitude := l.longitude.map Double.bits
      horizontalDatum := l.horizontalDatum
      timezoneName := l.timezoneName
      locationKind := l.locationKind
      publicName := l.publicName
      active := l.active }

instance : Assemble Location String := ⟨fun l aliases => { l with aliases }⟩

/-- The location as a JSON object. -/
def toJson (l : Location) : Json :=
  .object <|
    [("active", .bool l.active), ("aliases", ofTexts l.aliases)] ++
      member? "horizontal-datum" (l.horizontalDatum.map .text) ++
      member? "latitude" (l.latitude.map ofDouble) ++
      member? "location-kind" (l.locationKind.map .text) ++
      member? "longitude" (l.longitude.map ofDouble) ++
      [("name", .text l.name), ("office-id", .text l.officeId)] ++
      member? "public-name" (l.publicName.map .text) ++
      member? "timezone-name" (l.timezoneName.map .text)

/-- The location that a JSON value describes, where `readDegrees` reads a coordinate. -/
def ofJsonWith (readDegrees : Json → Option Double) (v : Json) : Option Location := do
  match ← v.slots? ["office-id", "name", "latitude", "longitude", "horizontal-datum", "timezone-name", "location-kind",
      "public-name", "active", "aliases"] with
  | [officeId, name, latitude, longitude, horizontalDatum, timezoneName, locationKind, publicName, active, aliases] =>
    some {
      officeId := ← officeId.required readText
      name := ← name.required readText
      latitude := ← latitude.optional readDegrees
      longitude := ← longitude.optional readDegrees
      horizontalDatum := ← horizontalDatum.optional readText
      timezoneName := ← timezoneName.optional readText
      locationKind := ← locationKind.optional readText
      publicName := ← publicName.optional readText
      active := ← active.defaulted true readBool
      aliases := ← aliases.defaulted [] (readList readText) }
  | _ => none

/-- The location that a JSON value describes. -/
def ofJson (v : Json) : Option Location := ofJsonWith readDouble v

end Location

/-- Another name of a location. -/
structure LocationAlias where
  /-- The office of the location. -/
  officeId : String
  /-- The name of the location. -/
  locationId : String
  /-- The other name. -/
  aliasId : String
  deriving DecidableEq, Repr, Inhabited

namespace LocationAlias

open Json Json.Slot

/-- The alias as a JSON object. -/
def toJson (a : LocationAlias) : Json :=
  .object [("alias-id", .text a.aliasId), ("location-id", .text a.locationId), ("office-id", .text a.officeId)]

/-- The alias that a JSON value describes. -/
def ofJson (v : Json) : Option LocationAlias := do
  match ← v.slots? ["office-id", "location-id", "alias-id"] with
  | [officeId, locationId, aliasId] =>
    some {
      officeId := ← officeId.required readText
      locationId := ← locationId.required readText
      aliasId := ← aliasId.required readText }
  | _ => none

end LocationAlias

end BasinRegister
