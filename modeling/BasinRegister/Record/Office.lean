import BasinRegister.Json.Fields

/-!
# Offices

The offices that own data. An office may report to another one, which it names without the register checking it.
-/

namespace BasinRegister

/-- An office. -/
structure Office where
  /-- The short name, by which it is known everywhere. -/
  name : String
  /-- The full name. -/
  longName : String
  /-- The classification, such as a district or a division. -/
  officeType : String
  /-- The name of the office it reports to. -/
  reportsTo : Option String
  deriving DecidableEq, Repr, Inhabited

namespace Office

open Json Json.Slot

/-- The office as a JSON object. -/
def toJson (o : Office) : Json :=
  .object <|
    [("long-name", .text o.longName), ("name", .text o.name)] ++ member? "reports-to" (o.reportsTo.map .text) ++
      [("type", .text o.officeType)]

/-- The office that a JSON value describes. -/
def ofJson (v : Json) : Option Office := do
  match ← v.slots? ["name", "long-name", "type", "reports-to"] with
  | [name, longName, officeType, reportsTo] =>
    some {
      name := ← name.required readText
      longName := ← longName.required readText
      officeType := ← officeType.required readText
      reportsTo := ← reportsTo.optional readText }
  | _ => none

end Office

end BasinRegister
