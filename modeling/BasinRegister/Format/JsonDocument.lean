import BasinRegister.Format.Formatter
import BasinRegister.Json.Printer

/-!
# JSON documents

Version 2 writes a record as an object, a list as an array and a page as an envelope: an object with the paging fields
and the records under the plural of their kind. Version 1 has no paging fields and always wraps offices twice. The
members of every object stand in the order of their names.
-/

namespace BasinRegister.JsonDocument

/-- Members with one more in its place by name. -/
def insertMember (m : String × Json) : List (String × Json) → List (String × Json)
  | [] => [m]
  | n :: ns => if n.1 ≤ m.1 then n :: insertMember m ns else m :: n :: ns

/-- The paging fields of an envelope, in the order of their names. -/
def pageMembers (info : PageInfo) : List (String × Json) :=
  Json.member? "next-page" (info.nextPage.map .text) ++
    [("page", .text info.page), ("page-size", .ofNat info.pageSize.toNat)] ++
    Json.member? "total" (info.total.map fun total => .ofNat total.toNat)

/-- An object with the paging fields and more members. -/
def envelope (info : PageInfo) (members : List (String × Json)) : Json :=
  .object (members.foldr insertMember (pageMembers info))

/-- The records of a payload. -/
def values (payload : Payload) : List Json := payload.items.map Entity.toJson

/-- The document of version 1. -/
def version1 (payload : Payload) : Json :=
  match payload.kind, payload with
  | .office, _ => .object [("offices", .object [("offices", .array (values payload))])]
  | _, .one item => item.toJson
  | _, _ => .array (values payload)

/-- The document of version 2. -/
def version2 (payload : Payload) : Json :=
  match payload with
  | .one item => item.toJson
  | .many _ _ => .array (values payload)
  | .page kind _ info => envelope info [(kind.plural, .array (values payload))]

/-- The formatter of version 1, for offices and locations. -/
def formatter1 : Formatter :=
  FormatterTag.formatter
    { name := "JsonV1", contentType := .versioned "application/json" "1", kinds := [.office, .location] }
    fun payload => .ok (version1 payload).render

/-- The formatter of version 2, for every kind. -/
def formatter2 : Formatter :=
  FormatterTag.formatter
    { name := "JsonV2", contentType := .versioned "application/json" "2", kinds := Kind.all }
    fun payload => .ok (version2 payload).render

end BasinRegister.JsonDocument
