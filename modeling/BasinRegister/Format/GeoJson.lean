import BasinRegister.Format.JsonDocument

/-!
# GeoJSON documents

A location is a feature: a point with longitude and latitude where both are known, and the other fields as properties. A
list or a page is a collection of features, a page with the paging fields.
-/

namespace BasinRegister.GeoJson

open Number (Double)

/-- The point of a location; `null` unless both coordinates are known. -/
def geometry (longitude latitude : Option Double) : Json :=
  match longitude, latitude with
  | some lon, some lat =>
    .object [("coordinates", .array [.ofDouble lon, .ofDouble lat]), ("type", .text "Point")]
  | _, _ => .null

/-- The members of a location without its coordinates. -/
def properties (l : Location) : Json :=
  Location.toJson { l with latitude := none, longitude := none }

/-- The feature of a location. -/
def feature (l : Location) : Json :=
  .object [("geometry", geometry l.longitude l.latitude), ("id", .text (l.officeId ++ "/" ++ l.name)),
    ("properties", properties l), ("type", .text "Feature")]

/-- The document of a payload whose features are given. -/
def document (features : List Json) : Payload → Json
  | .one _ => features.headD .null
  | .many _ _ => .object [("features", .array features), ("type", .text "FeatureCollection")]
  | .page _ _ info =>
    JsonDocument.envelope info [("features", .array features), ("type", .text "FeatureCollection")]

/-- The locations of a payload; the kind of the first record that is none. -/
def locations : List Entity → Except Kind (List Location)
  | [] => .ok []
  | .location l :: items => (locations items).map (l :: ·)
  | item :: _ => .error item.kind

/-- What tells the formatter apart. -/
def tag : FormatterTag :=
  { name := "GeoJsonV1", contentType := .versioned "application/geo+json" "1", kinds := [.location] }

/-- The formatter. -/
def formatter : Formatter :=
  tag.formatter fun payload =>
    match locations payload.items with
    | .ok locations => .ok (document (locations.map feature) payload).render
    | .error kind => .error (tag.undeclared kind)

end BasinRegister.GeoJson
