import BasinRegister.Json.Fields
import BasinRegister.Text.Basic
import BasinRegister.Text.Quoted
import BasinRegister.Text.Split

/-!
# Parameter specs

How each independent parameter of a rating is looked up. A list of specs also has a form in two columns: the parameters
with commas between them, and the methods as one `low,in-range,high` triple for every parameter with slashes between the
triples. Reading the columns takes the blanks off every piece.
-/

namespace BasinRegister

/-- How one independent parameter is looked up. -/
structure ParameterSpec where
  /-- The parameter. -/
  parameter : String
  /-- The method within the table. -/
  inRangeMethod : String
  /-- The method below the table. -/
  outRangeLowMethod : String
  /-- The method above the table. -/
  outRangeHighMethod : String
  deriving DecidableEq, Repr, Inhabited

/-- Specs in their column form. -/
structure SpecColumns where
  /-- The parameters with commas between them. -/
  parameters : String
  /-- The triples of methods with slashes between them. -/
  methods : String
  deriving DecidableEq, Repr, Inhabited

/-- Why columns are not those of any specs. -/
inductive SpecError where
  /-- There are not as many triples as parameters. -/
  | countMismatch (columns : SpecColumns)
  /-- A piece of the methods does not have three parts. -/
  | incompleteMethods (triple : String)
  deriving DecidableEq, Repr

/-- The wording of the error. -/
def SpecError.message : SpecError → String
  | .countMismatch columns =>
    "number of independent parameters does not match number of rating methods. independent parameters: " ++
      Text.quoted columns.parameters ++ " rating methods: " ++ Text.quoted columns.methods
  | .incompleteMethods triple => "rating methods " ++ Text.quoted triple ++ " must be a low,in-range,high triple"

namespace ParameterSpec

open Json Json.Slot

/-- The spec as a JSON object. -/
def toJson (s : ParameterSpec) : Json :=
  .object [("in-range-method", .text s.inRangeMethod), ("out-range-high-method", .text s.outRangeHighMethod),
    ("out-range-low-method", .text s.outRangeLowMethod), ("parameter", .text s.parameter)]

/-- The spec that a JSON value describes. -/
def ofJson (v : Json) : Option ParameterSpec := do
  match ← v.slots? ["parameter", "in-range-method", "out-range-low-method", "out-range-high-method"] with
  | [parameter, inRangeMethod, outRangeLowMethod, outRangeHighMethod] =>
    some {
      parameter := ← parameter.required readText
      inRangeMethod := ← inRangeMethod.required readText
      outRangeLowMethod := ← outRangeLowMethod.required readText
      outRangeHighMethod := ← outRangeHighMethod.required readText }
  | _ => none

/-- The spec of a parameter and its triple of methods. -/
def ofTriple (parameter triple : String) : Except SpecError ParameterSpec :=
  match Text.splitAll ',' triple with
  | [low, inRange, high] =>
    .ok {
      parameter := Text.trim parameter
      inRangeMethod := Text.trim inRange
      outRangeLowMethod := Text.trim low
      outRangeHighMethod := Text.trim high }
  | _ => .error (.incompleteMethods triple)

/-- The triple of methods of a spec. -/
def triple (s : ParameterSpec) : String :=
  s.outRangeLowMethod ++ "," ++ s.inRangeMethod ++ "," ++ s.outRangeHighMethod

end ParameterSpec

namespace SpecColumns

/-- The specs of the columns. -/
def specs (columns : SpecColumns) : Except SpecError (List ParameterSpec) :=
  let parameters := Text.splitAll ',' columns.parameters
  let triples := Text.splitAll '/' columns.methods
  if parameters.length = triples.length then
    (parameters.zip triples).mapM fun (parameter, triple) => ParameterSpec.ofTriple parameter triple
  else .error (.countMismatch columns)

/-- The columns of specs. -/
def ofSpecs (specs : List ParameterSpec) : SpecColumns :=
  { parameters := ",".intercalate (specs.map (·.parameter))
    methods := "/".intercalate (specs.map ParameterSpec.triple) }

end SpecColumns

end BasinRegister
