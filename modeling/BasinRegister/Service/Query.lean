import BasinRegister.Json.Fields
import BasinRegister.Text.Numeral

/-!
# Queries

The parameters of the requests, each of which may be left out. A query comes as the pairs of a form, where a parameter
may not be given twice and unknown ones are ignored, or as a JSON record.
-/

namespace BasinRegister

open Json Json.Slot

/-- The value of a parameter of a form, if it is given; nothing if it is given twice or cannot be read. -/
def formValue {α : Type} (read : String → Option α) (pairs : List (String × String)) (name : String) :
    Option (Option α) :=
  match pairs.filter (·.1 = name) with
  | [] => some none
  | [(_, value)] => (read value).map some
  | _ => none

/-- A text parameter of a form. -/
def formText (pairs : List (String × String)) (name : String) : Option (Option String) :=
  formValue some pairs name

/-- A truth value in a form. -/
def readFormBool (s : String) : Option Bool :=
  if s = "true" then some true else if s = "false" then some false else none

/-- What a request for offices or for a single record may state. -/
structure FormatQuery where
  /-- The wanted format. -/
  format : Option String
  deriving DecidableEq, Repr

/-- What a request for locations may state. -/
structure LocationQuery where
  /-- The office. -/
  office : Option String
  /-- A mask for the names. -/
  names : Option String
  /-- The token of the page. -/
  page : Option String
  /-- The number of locations on a page. -/
  pageSize : Option UInt32
  /-- Whether to count the locations. -/
  includeTotal : Option Bool
  /-- The wanted format. -/
  format : Option String
  deriving DecidableEq, Repr

/-- What a request for rating templates may state. -/
structure TemplateQuery where
  /-- The office. -/
  office : Option String
  /-- A mask for the identifiers. -/
  idMask : Option String
  /-- The token of the page. -/
  page : Option String
  /-- The number of templates on a page. -/
  pageSize : Option UInt32
  /-- Whether to count the templates. -/
  includeTotal : Option Bool
  /-- The wanted format. -/
  format : Option String
  deriving DecidableEq, Repr

/-- What a request for a single rating template may state. -/
structure TemplateLookupQuery where
  /-- The office. -/
  office : Option String
  /-- The wanted format. -/
  format : Option String
  deriving DecidableEq, Repr

/-- A page size that may be missing as a JSON value. -/
def pageSizeJson (size : Option UInt32) : Json :=
  (size.map fun n => Json.ofNat n.toNat).getD .null

/-- A truth value that may be missing as a JSON value. -/
def flagJson (flag : Option Bool) : Json :=
  (flag.map Json.bool).getD .null

namespace FormatQuery

/-- The query of a form. -/
def ofForm (pairs : List (String × String)) : Option FormatQuery := do
  some { format := ← formText pairs "format" }

/-- The query of a JSON record. -/
def ofJson (v : Json) : Option FormatQuery := do
  match ← v.slots? ["format"] with
  | [format] => some { format := ← format.nullable readText }
  | _ => none

/-- The query as a JSON object. -/
def toJson (q : FormatQuery) : Json :=
  .object [("format", ofText? q.format)]

end FormatQuery

namespace LocationQuery

/-- The query of a form. -/
def ofForm (pairs : List (String × String)) : Option LocationQuery := do
  some {
    office := ← formText pairs "office"
    names := ← formText pairs "names"
    page := ← formText pairs "page"
    pageSize := ← formValue Text.readUInt32 pairs "page-size"
    includeTotal := ← formValue readFormBool pairs "include-total"
    format := ← formText pairs "format" }

/-- The query of a JSON record. -/
def ofJson (v : Json) : Option LocationQuery := do
  match ← v.slots? ["office", "names", "page", "page-size", "include-total", "format"] with
  | [office, names, page, pageSize, includeTotal, format] =>
    some {
      office := ← office.nullable readText
      names := ← names.nullable readText
      page := ← page.nullable readText
      pageSize := ← pageSize.nullable readWord32
      includeTotal := ← includeTotal.nullable readBool
      format := ← format.nullable readText }
  | _ => none

/-- The query as a JSON object. -/
def toJson (q : LocationQuery) : Json :=
  .object [("office", ofText? q.office), ("names", ofText? q.names), ("page", ofText? q.page),
    ("page-size", pageSizeJson q.pageSize), ("include-total", flagJson q.includeTotal), ("format", ofText? q.format)]

end LocationQuery

namespace TemplateQuery

/-- The query of a form. -/
def ofForm (pairs : List (String × String)) : Option TemplateQuery := do
  some {
    office := ← formText pairs "office"
    idMask := ← formText pairs "template-id-mask"
    page := ← formText pairs "page"
    pageSize := ← formValue Text.readUInt32 pairs "page-size"
    includeTotal := ← formValue readFormBool pairs "include-total"
    format := ← formText pairs "format" }

/-- The query of a JSON record. -/
def ofJson (v : Json) : Option TemplateQuery := do
  match ← v.slots? ["office", "template-id-mask", "page", "page-size", "include-total", "format"] with
  | [office, idMask, page, pageSize, includeTotal, format] =>
    some {
      office := ← office.nullable readText
      idMask := ← idMask.nullable readText
      page := ← page.nullable readText
      pageSize := ← pageSize.nullable readWord32
      includeTotal := ← includeTotal.nullable readBool
      format := ← format.nullable readText }
  | _ => none

/-- The query as a JSON object. -/
def toJson (q : TemplateQuery) : Json :=
  .object [("office", ofText? q.office), ("template-id-mask", ofText? q.idMask), ("page", ofText? q.page),
    ("page-size", pageSizeJson q.pageSize), ("include-total", flagJson q.includeTotal), ("format", ofText? q.format)]

end TemplateQuery

namespace TemplateLookupQuery

/-- The query of a form. -/
def ofForm (pairs : List (String × String)) : Option TemplateLookupQuery := do
  some { office := ← formText pairs "office", format := ← formText pairs "format" }

/-- The query of a JSON record. -/
def ofJson (v : Json) : Option TemplateLookupQuery := do
  match ← v.slots? ["office", "format"] with
  | [office, format] => some { office := ← office.nullable readText, format := ← format.nullable readText }
  | _ => none

/-- The query as a JSON object. -/
def toJson (q : TemplateLookupQuery) : Json :=
  .object [("office", ofText? q.office), ("format", ofText? q.format)]

end TemplateLookupQuery

/-- The number of parents on a page: what is asked for, or else the default, between one and the greatest allowed. -/
def effectivePageSize (requested : Option UInt32) (default greatest : UInt32) : UInt32 :=
  max 1 (min (requested.getD default) (max greatest 1))

end BasinRegister
