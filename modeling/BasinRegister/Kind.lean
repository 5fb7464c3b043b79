import BasinRegister.Json.Basic

/-!
# Kinds of records

The four kinds of records that documents hold, with their names in documents and messages.
-/

namespace BasinRegister

/-- A kind of record. -/
inductive Kind where
  /-- Offices. -/
  | office
  /-- Locations. -/
  | location
  /-- Rating templates. -/
  | ratingTemplate
  /-- Water users. -/
  | waterUser
  deriving DecidableEq, Repr, Inhabited

namespace Kind

/-- All kinds in their order. -/
def all : List Kind := [.office, .location, .ratingTemplate, .waterUser]

/-- The place of a kind in the order. -/
def index : Kind → Nat
  | .office => 0
  | .location => 1
  | .ratingTemplate => 2
  | .waterUser => 3

/-- Kinds with the same place are the same. -/
theorem index_inj {a b : Kind} (h : a.index = b.index) : a = b := by
  cases a <;> cases b <;> first | rfl | cases h

/-- The name of a kind. -/
def name : Kind → String
  | .office => "Office"
  | .location => "Location"
  | .ratingTemplate => "RatingTemplate"
  | .waterUser => "WaterUser"

/-- The name of the element that holds one record. -/
def element : Kind → String
  | .office => "office"
  | .location => "location"
  | .ratingTemplate => "rating-template"
  | .waterUser => "water-user"

/-- The name of a collection. -/
def plural : Kind → String
  | .office => "offices"
  | .location => "locations"
  | .ratingTemplate => "rating-templates"
  | .waterUser => "water-users"

/-- The kind of a name. -/
def ofName? (s : String) : Option Kind :=
  all.find? (·.name = s)

/-- A kind as a JSON value: its name. -/
def toJson (k : Kind) : Json := .text k.name

/-- The kind of a JSON value: its name, or an object whose only member has that name and the value `null`. -/
def ofJson : Json → Option Kind
  | .text s => ofName? s
  | .object [(s, .null)] => ofName? s
  | _ => none

end Kind

end BasinRegister
