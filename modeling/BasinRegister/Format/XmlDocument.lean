import BasinRegister.Format.Formatter
import BasinRegister.Format.Xml

/-!
# XML documents

Version 2 writes a record as an element, and a list or a page as an element of elements; a page has the paging fields as
attributes. Version 1 has no paging fields and always writes offices as a collection.
-/

namespace BasinRegister.XmlDocument

/-- The paging fields as attributes. -/
def pageAttributes (info : PageInfo) : List (String × String) :=
  [("page", info.page)] ++ info.nextPage.toList.map (("next-page", ·)) ++ info.totalText.toList.map (("total", ·)) ++
    [("page-size", info.pageSizeText)]

/-- The element of a record. -/
def record (kind : Kind) (item : Entity) : List Xml :=
  Xml.ofJson kind.element item.toJson

/-- The element of a collection, a single tag where it has no records. -/
def collection (kind : Kind) (items : List Entity) (attributes : List (String × String)) : Xml :=
  if items.isEmpty then .empty kind.plural attributes
  else .node kind.plural attributes (items.flatMap (record kind))

/-- The root elements of version 1. -/
def version1 (payload : Payload) : List Xml :=
  match payload.kind, payload with
  | .office, _ => [collection .office payload.items []]
  | kind, .one item => record kind item
  | kind, _ => [collection kind payload.items []]

/-- The root elements of version 2. -/
def version2 : Payload → List Xml
  | .one item => record item.kind item
  | .many kind items => [collection kind items []]
  | .page kind items info => [collection kind items (pageAttributes info)]

/-- The document of its root elements, of which there is one. -/
def text (roots : List Xml) : String :=
  Xml.declaration ++ String.ofList (Xml.renderAll 0 roots)

/-- The kinds that XML documents hold. -/
def kinds : List Kind := [.office, .location]

/-- The formatter of version 1. -/
def formatter1 : Formatter :=
  FormatterTag.formatter { name := "XmlV1", contentType := .versioned "application/xml" "1", kinds }
    fun payload => .ok (text (version1 payload))

/-- The formatter of version 2. -/
def formatter2 : Formatter :=
  FormatterTag.formatter { name := "XmlV2", contentType := .versioned "application/xml" "2", kinds }
    fun payload => .ok (text (version2 payload))

end BasinRegister.XmlDocument
