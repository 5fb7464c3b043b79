import BasinRegister.Format.Registry

/-!
# The catalog and the error body

Two records that the service sends besides documents: the formats that it knows, and what went wrong with a request.
-/

namespace BasinRegister

open Json Json.Slot

/-- A format that the service knows. -/
structure FormatInfo where
  /-- The content type. -/
  contentType : String
  /-- The content type that it stands for, if it is another name. -/
  aliasOf : Option String
  /-- The kinds that can be had in it. -/
  kinds : List Kind
  deriving DecidableEq, Repr

namespace FormatInfo

/-- The format of an entry of the registry. -/
def ofEntry (e : FormatEntry) : FormatInfo :=
  { contentType := e.contentType.text, aliasOf := e.aliasOf.map ContentType.text, kinds := e.kinds }

/-- The format as a JSON object. -/
def toJson (f : FormatInfo) : Json :=
  .object <|
    [("content-type", .text f.contentType)] ++ member? "alias-of" (f.aliasOf.map .text) ++
      [("kinds", .array (f.kinds.map Kind.toJson))]

/-- The format that a JSON value describes. -/
def ofJson (v : Json) : Option FormatInfo := do
  match ← v.slots? ["content-type", "alias-of", "kinds"] with
  | [contentType, aliasOf, kinds] =>
    some {
      contentType := ← contentType.required readText
      aliasOf := ← aliasOf.optional readText
      kinds := ← kinds.required (readList Kind.ofJson) }
  | _ => none

end FormatInfo

/-- The formats that the service knows. -/
structure FormatCatalog where
  /-- The formats. -/
  formats : List FormatInfo
  deriving DecidableEq, Repr

namespace FormatCatalog

/-- The catalog of a registry. -/
def ofRegistry (r : Registry) : FormatCatalog := ⟨r.catalog.map FormatInfo.ofEntry⟩

/-- The first format of a content type. -/
def find? (c : FormatCatalog) (contentType : String) : Option FormatInfo :=
  c.formats.find? (·.contentType = contentType)

/-- The catalog as a JSON object. -/
def toJson (c : FormatCatalog) : Json :=
  .object [("formats", .array (c.formats.map FormatInfo.toJson))]

/-- The catalog that a JSON value describes. -/
def ofJson (v : Json) : Option FormatCatalog := do
  match ← v.slots? ["formats"] with
  | [formats] => some { formats := ← formats.required (readList FormatInfo.ofJson) }
  | _ => none

end FormatCatalog

/-- The body of an answer that is an error. -/
structure ErrorBody where
  /-- What went wrong, for a reader. -/
  error : String
  /-- What went wrong, for a program. -/
  code : String
  deriving DecidableEq, Repr

namespace ErrorBody

/-- The body as a JSON object. -/
def toJson (e : ErrorBody) : Json :=
  .object [("error", .text e.error), ("code", .text e.code)]

/-- The body that a JSON value describes. -/
def ofJson (v : Json) : Option ErrorBody := do
  match ← v.slots? ["error", "code"] with
  | [error, code] => some { error := ← error.required readText, code := ← code.required readText }
  | _ => none

end ErrorBody

end BasinRegister
