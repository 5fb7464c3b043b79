import BasinRegister.Cursor
import BasinRegister.Grouping

/-!
# Paging through grouped rows

A page holds a number of parents, never a number of rows: a parent at the edge of a page keeps all its children. The
rows come from a source in the order of their parents, and reading stops at the first row of a parent that no longer
fits, so at most one row behind the page is ever asked for.
-/

namespace BasinRegister

/-- The rows that a source hands out, and the failure that comes behind them, if one does. -/
structure RowStream (π γ ε : Type) where
  /-- The rows in order. -/
  rows : List (JoinRow π γ)
  /-- What goes wrong when a row behind them is asked for. -/
  failure : Option ε

/-- A source of join rows: all rows of one parent stand together, and the order of parents never changes. -/
structure RowSource (φ π γ ε : Type) where
  /-- The rows from a parent on, when so many parents are skipped. The last argument is the number of parents that the
  reader wants; a source may stop behind so many. -/
  scan : φ → UInt64 → UInt32 → RowStream π γ ε
  /-- The number of parents. -/
  count : φ → Except ε UInt64

/-- What a reader asks for. -/
structure PageRequest where
  /-- The token of the page, if one is given. -/
  token : Option String
  /-- The page size where the token states none. -/
  defaultPageSize : UInt32
  /-- Whether to count the parents unless the token states their number. -/
  includeTotal : Bool
  deriving DecidableEq, Repr

/-- What documents and headers say about a page. -/
structure PageInfo where
  /-- The token of the page. -/
  page : String
  /-- The token of the next page, unless the listing is known to end here. -/
  nextPage : Option String
  /-- The number of parents in the listing, if it was counted. -/
  total : Option UInt64
  /-- The number of parents a page holds. -/
  pageSize : UInt32
  deriving DecidableEq, Repr

/-- A page of a listing. -/
structure Page (α : Type) where
  /-- What the page holds. -/
  items : List α
  /-- Where the page starts. -/
  cursor : Cursor
  /-- The token of the page. -/
  current : String
  /-- The token of the next page; on an empty page it is the token of the page. -/
  next : String
  deriving DecidableEq, Repr

namespace Page

variable {α β : Type}

/-- Whether no later page can hold anything. -/
def isLast (p : Page α) : Bool :=
  p.items.isEmpty || ((p.cursor.advance? p.items.length).map Cursor.isExhausted).getD true

/-- The page with its items replaced. -/
def map (f : α → β) (p : Page α) : Page β :=
  { items := p.items.map f, cursor := p.cursor, current := p.current, next := p.next }

/-- What is said about the page. -/
def info (p : Page α) : PageInfo :=
  { page := p.current
    nextPage := if p.isLast then none else some p.next
    total := p.cursor.total
    pageSize := p.cursor.pageSize }

end Page

/-- Why a page cannot be read. -/
inductive PageFailure (ε : Type) where
  /-- The source failed. -/
  | source (cause : ε)
  /-- The offset of the next page does not fit 64 bits. -/
  | offsetOverflow
  deriving DecidableEq, Repr

/-- What came of reading a page, with what was asked of the source on the way. -/
structure PageReading (π γ ε : Type) where
  /-- The page, or why there is none. -/
  outcome : Except (PageFailure ε) (Page (Group π γ))
  /-- How many rows were handed out. -/
  pulled : Nat
  /-- How often the parents were counted. -/
  counted : Nat
  /-- How many parents were skipped and how many were wanted, if rows were asked for. -/
  scanned : Option (UInt64 × UInt32)

/-- The groups of the rows that a page takes. -/
structure PageFill (π γ : Type) where
  /-- The groups. -/
  grouper : RowGrouper π γ
  /-- How many rows were handed out, the one that was turned down included. -/
  pulled : Nat
  /-- Whether a row was turned down. -/
  stopped : Bool

namespace RowSource

variable {φ π γ ε κ : Type} [GroupKey π κ] [DecidableEq κ] [DecidableEq γ]

/-- Takes rows until one opens a group that no longer fits. -/
def fill (size : Nat) (g : RowGrouper π γ) : List (JoinRow π γ) → PageFill π γ
  | [] => ⟨g, 0, false⟩
  | row :: rows =>
    if size ≤ g.size && !g.contains row.parent then ⟨g, 1, true⟩
    else
      let rest := fill size (g.push row) rows
      { rest with pulled := rest.pulled + 1 }

omit [GroupKey π κ] [DecidableEq κ] [DecidableEq γ] in
/-- The cursor of a request with its total counted if that is asked for and not known, and how often it was counted. -/
def countTotal (source : RowSource φ π γ ε) (filter : φ) (request : PageRequest) (cursor : Cursor) :
    Except ε Cursor × Nat :=
  if cursor.total.isNone && request.includeTotal then
    ((source.count filter).map fun total => { cursor with total := some total }, 1)
  else (.ok cursor, 0)

omit [GroupKey π κ] [DecidableEq κ] [DecidableEq γ] in
/-- The page of groups that start at a cursor. A stated token is the token of its page. -/
def pageOf (request : PageRequest) (cursor : Cursor) (items : List (Group π γ)) :
    Except (PageFailure ε) (Page (Group π γ)) :=
  let current := (Cursor.statedToken request.token).getD cursor.encode
  if items.isEmpty then .ok { items, cursor, current, next := current }
  else
    match cursor.advance? items.length with
    | some next => .ok { items, cursor, current, next := next.encode }
    | none => .error .offsetOverflow

/-- Reads the page of a request and says what was asked of the source. -/
def read (source : RowSource φ π γ ε) (filter : φ) (request : PageRequest) : PageReading π γ ε :=
  let (cursor, counted) := source.countTotal filter request (Cursor.decode request.token request.defaultPageSize)
  match cursor with
  | .error e => { outcome := .error (.source e), pulled := 0, counted, scanned := none }
  | .ok cursor =>
    let stream := source.scan filter cursor.offset cursor.pageSize
    let filled := fill cursor.pageSize.toNat RowGrouper.empty stream.rows
    let outcome :=
      match filled.stopped, stream.failure with
      | false, some e => .error (.source e)
      | _, _ => pageOf request cursor filled.grouper.groups
    { outcome, pulled := filled.pulled, counted, scanned := some (cursor.offset, cursor.pageSize) }

/-- The page of a request. -/
def page (source : RowSource φ π γ ε) (filter : φ) (request : PageRequest) :
    Except (PageFailure ε) (Page (Group π γ)) :=
  (source.read filter request).outcome

end RowSource

end BasinRegister
