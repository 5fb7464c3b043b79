import BasinRegister.Text.Basic
import BasinRegister.Text.Split
import BasinRegister.Text.Numeral

/-!
# Cursors

A cursor is a position in a listing: how many parents earlier pages returned, how many there are if they were counted,
and how many a page holds. Clients carry it as a token `offset|total|page size`, where an uncounted total is written
`null`. Every text decodes: an unusable field is repaired on its own, and a text with fewer than three fields is the
first page.
-/

namespace BasinRegister

/-- A position in a paged listing. -/
structure Cursor where
  /-- The number of parents that earlier pages returned. -/
  offset : UInt64
  /-- The number of parents in the whole listing, once it was counted. -/
  total : Option UInt64
  /-- The number of parents a page holds. -/
  pageSize : UInt32
  deriving DecidableEq, Repr, Inhabited

namespace Cursor

/-- The character between the fields of a token. -/
def delimiter : Char := '|'

/-- The spelling of an uncounted total. -/
def unknownTotal : String := "null"

/-- The start of a listing; a page holds at least one parent. -/
def first (pageSize : UInt32) : Cursor :=
  { offset := 0, total := none, pageSize := max pageSize 1 }

/-- The offset a field states; zero when it states none. -/
def readOffset (field : String) : UInt64 :=
  (Text.readUInt64 (Text.trim field)).getD 0

/-- The total a field states, if it states one. -/
def readTotal (field : String) : Option UInt64 :=
  let text := Text.trim field
  if text = unknownTotal then none else Text.readUInt64 text

/-- The positive page size a field states, or the one of the fallback. -/
def readPageSize (default : UInt32) (field : String) : UInt32 :=
  match Text.readUInt32 (Text.trim field) with
  | some size => if size > 0 then size else max default 1
  | none => max default 1

/-- The cursor of three fields. A total below the offset is out of date and counts as unknown. -/
def ofFields (default : UInt32) (offset total pageSize : String) : Cursor :=
  let start := readOffset offset
  { offset := start
    total := (readTotal total).filter (start ≤ ·)
    pageSize := readPageSize default pageSize }

/-- The token a request carries, without outer blanks; a blank one counts as absent. -/
def statedToken (token : Option String) : Option String :=
  (token.map Text.trim).filter (!·.isEmpty)

/-- The cursor of a token. Fields after the third have no effect. -/
def decode (token : Option String) (default : UInt32) : Cursor :=
  match statedToken token with
  | none => first default
  | some text =>
    match Text.splitAll delimiter text with
    | offset :: total :: pageSize :: _ => ofFields default offset total pageSize
    | _ => first default

/-- The spelling of a total in a token. -/
def totalText : Option UInt64 → String
  | none => unknownTotal
  | some total => Text.numeral total.toNat

/-- The token of a cursor. -/
def encode (c : Cursor) : String :=
  "|".intercalate [Text.numeral c.offset.toNat, totalText c.total, Text.numeral c.pageSize.toNat]

/-- The cursor behind a page that returned so many parents; none when the offset would leave 64 bits. -/
def advance? (c : Cursor) (returned : Nat) : Option Cursor :=
  let offset := c.offset.toNat + returned
  if offset < UInt64.size then some { c with offset := UInt64.ofNat offset } else none

/-- Whether the counted total has been reached. -/
def isExhausted (c : Cursor) : Bool :=
  c.total.any (· ≤ c.offset)

end Cursor

end BasinRegister
