import BasinRegister.Paging
import BasinRegister.Record.Entity

/-!
# Payloads

What a document is made of: one record, a list of records, or a page of a listing. A list states its kind, so that an
empty one has a kind too.
-/

namespace BasinRegister

/-- What a document is made of. -/
inductive Payload where
  /-- A single record. -/
  | one (item : Entity)
  /-- All records of a list. -/
  | many (kind : Kind) (items : List Entity)
  /-- The records of a page. -/
  | page (kind : Kind) (items : List Entity) (info : PageInfo)
  deriving DecidableEq, Repr

namespace Payload

/-- The kind of a payload. -/
def kind : Payload → Kind
  | .one item => item.kind
  | .many kind _ => kind
  | .page kind _ _ => kind

/-- The records of a payload. -/
def items : Payload → List Entity
  | .one item => [item]
  | .many _ items => items
  | .page _ items _ => items

/-- The payload of a page of records. -/
def ofPage {α : Type} (kind : Kind) (entity : α → Entity) (page : Page α) : Payload :=
  .page kind (page.items.map entity) page.info

end Payload

namespace PageInfo

/-- The text of a total. -/
def totalText (info : PageInfo) : Option String :=
  info.total.map fun total => Text.numeral total.toNat

/-- The text of the page size. -/
def pageSizeText (info : PageInfo) : String :=
  Text.numeral info.pageSize.toNat

end PageInfo

end BasinRegister
