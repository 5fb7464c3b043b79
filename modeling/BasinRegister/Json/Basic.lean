import BasinRegister.Number.Double

/-!
# JSON values

The values of JSON documents. An object is the list of its members as they stand, repeated names included, so that a
reader can refuse a repetition. A whole number is kept as an integer, any other number as a double.

`unreadable` stands for a value that is well-formed but that nothing can hold: a number beyond the range of a double, a
string with half a surrogate pair, an object with such a name. No reader accepts it, and whoever skips a value never
looks at it.
-/

namespace BasinRegister

open Number (Double)

/-- A JSON value. -/
inductive Json where
  /-- The literal `null`. -/
  | null
  /-- A truth value. -/
  | bool (value : Bool)
  /-- A number without fraction and exponent that fits a 64-bit word. -/
  | whole (value : Int)
  /-- Any other number. -/
  | real (value : Double)
  /-- A string. -/
  | text (value : String)
  /-- A list of values. -/
  | array (items : List Json)
  /-- Named values in the order in which they stand. -/
  | object (members : List (String × Json))
  /-- A well-formed value that nothing can hold. -/
  | unreadable
  deriving Repr, Inhabited

namespace Json

/-- A double as a value: what is not finite has no number and becomes `null`. -/
def ofDouble (x : Double) : Json :=
  if x.isFinite then .real x else .null

/-- A natural number as a value. -/
def ofNat (n : Nat) : Json := .whole n

/-- A string that may be missing. -/
def ofText? : Option String → Json
  | some s => .text s
  | none => .null

/-- Strings as an array. -/
def ofTexts (xs : List String) : Json := .array (xs.map .text)

/-- A member that is there only if its value is. -/
def member? (name : String) : Option Json → List (String × Json)
  | some value => [(name, value)]
  | none => []

/-- The first member of a name. -/
def get? (name : String) : Json → Option Json
  | .object members => members.lookup name
  | _ => none

/-- The last member of a name. -/
def last? (name : String) : Json → Option Json
  | .object members => members.reverse.lookup name
  | _ => none

/-- The string of a string value. -/
def asText? : Json → Option String
  | .text s => some s
  | _ => none

/-- The items of an array. -/
def asArray? : Json → Option (List Json)
  | .array items => some items
  | _ => none

end Json

end BasinRegister
