import BasinRegister.Text.Percent

/-!
# Routes

The paths of the service, and where a target states its path. A path is matched as it is written; the segments that
name something are decoded afterwards, and the last one of a path may not be empty.
-/

namespace BasinRegister

/-- What a path names. -/
inductive Route where
  /-- All offices. -/
  | offices
  /-- An office. -/
  | office (name : String)
  /-- The locations. -/
  | locations
  /-- A location. -/
  | location (office name : String)
  /-- The rating templates. -/
  | templates
  /-- A rating template. -/
  | template (id : String)
  /-- A water user. -/
  | waterUser (office project name : String)
  /-- The catalog of formats. -/
  | formats
  deriving DecidableEq, Repr

namespace Route

/-- The route of a path as it is written. -/
def ofPath? (path : String) : Option Route :=
  let segments := Text.splitAll '/' path
  if segments.getLast? = some "" then none
  else
    match segments with
    | ["", "offices"] => some .offices
    | ["", "offices", name] => some (.office name)
    | ["", "locations"] => some .locations
    | ["", "locations", officeName, name] => some (.location officeName name)
    | ["", "ratings", "template"] => some .templates
    | ["", "ratings", "template", id] => some (.template id)
    | ["", "projects", officeName, project, "water-user", name] => some (.waterUser officeName project name)
    | ["", "formats"] => some .formats
    | _ => none

/-- The route with its segments decoded; nothing if one of them is not UTF-8. -/
def decode : Route → Option Route
  | .office name => (Text.decodeSegment name).map .office
  | .location officeName name => do
    some (.location (← Text.decodeSegment officeName) (← Text.decodeSegment name))
  | .template id => (Text.decodeSegment id).map .template
  | .waterUser officeName project name => do
    some (.waterUser (← Text.decodeSegment officeName) (← Text.decodeSegment project) (← Text.decodeSegment name))
  | route => some route

/-- Whether a character may stand in the scheme of a target. -/
def isSchemeChar (c : Char) : Bool :=
  c.isAlphanum || c == '+' || c == '-' || c == '.' || c == '~'

/-- A target from its path on. A target may state a scheme and an authority before its path. -/
def dropAuthority (cs : List Char) : List Char :=
  match cs.dropWhile isSchemeChar with
  | ':' :: '/' :: '/' :: rest => rest.dropWhile fun c => c != '/' && c != '?'
  | _ => cs

/-- The path and the query of a target. What stands behind a `#` is no part of either. -/
def splitTarget (target : String) : String × String :=
  let cs := dropAuthority (target.toList.takeWhile (· != '#'))
  match Text.cutAt '?' cs with
  | some (path, query) => (String.ofList path, String.ofList query)
  | none => (String.ofList cs, "")

end Route

end BasinRegister
