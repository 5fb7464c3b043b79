import BasinRegister.Json.Basic

/-!
# Reading records from JSON

A record is an object with named fields, of which unknown ones are ignored, or an array of its fields in their declared
order. A known name that stands twice is refused, and so is an array with more items than there are fields.
-/

namespace BasinRegister.Json

/-- What a document has for one field of a record. -/
inductive Slot where
  /-- A value. -/
  | given (value : Json)
  /-- Nothing: the object has no such member. -/
  | missing
  /-- Nothing: the array ends before it. -/
  | cut
  deriving Repr

/-- What the members of an object have for a name; nothing if the name stands twice. -/
def slotOf (members : List (String × Json)) (name : String) : Option Slot :=
  match members.filter (·.1 = name) with
  | [] => some .missing
  | [(_, v)] => some (.given v)
  | _ => none

/-- What an array has for each of the fields, in order. -/
def slotsOfItems : List String → List Json → List Slot
  | [], _ => []
  | _ :: names, [] => .cut :: slotsOfItems names []
  | _ :: names, v :: vs => .given v :: slotsOfItems names vs

/-- What a value has for each of the named fields. -/
def slots? (names : List String) : Json → Option (List Slot)
  | .object members => names.mapM (slotOf members)
  | .array items => if items.length ≤ names.length then some (slotsOfItems names items) else none
  | _ => none

namespace Slot

/-- A field that has to be there. -/
def required (read : Json → Option α) : Slot → Option α
  | .given v => read v
  | _ => none

/-- A field that may be left out or be `null`. -/
def optional (read : Json → Option α) : Slot → Option (Option α)
  | .given .null => some none
  | .given v => (read v).map some
  | _ => some none

/-- A field of an object that may be left out or be `null`, and that an array may not leave out. -/
def nullable (read : Json → Option α) : Slot → Option (Option α)
  | .given .null => some none
  | .given v => (read v).map some
  | .missing => some none
  | .cut => none

/-- A field with a value of its own when it is left out. -/
def defaulted (value : α) (read : Json → Option α) : Slot → Option α
  | .given v => read v
  | _ => some value

end Slot

/-- A string. -/
def readText : Json → Option String
  | .text s => some s
  | _ => none

/-- A truth value. -/
def readBool : Json → Option Bool
  | .bool b => some b
  | _ => none

/-- A number; an integer becomes the nearest double. -/
def readDouble : Json → Option Number.Double
  | .whole n => some (Number.Double.ofInt n)
  | .real x => some x
  | _ => none

/-- A whole number that fits 32 bits. -/
def readWord32 : Json → Option UInt32
  | .whole n => if 0 ≤ n && n < UInt32.size then some (UInt32.ofNat n.toNat) else none
  | _ => none

/-- An array of values of one kind. -/
def readList (read : Json → Option α) : Json → Option (List α)
  | .array items => items.mapM read
  | _ => none

end BasinRegister.Json
