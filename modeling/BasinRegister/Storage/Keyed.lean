/-!
# Keyed collections

Records in the order of their keys, with no key twice, and sets of texts in their order.
-/

namespace BasinRegister

/-- A key: texts that are compared one after the other. -/
abbrev Key := List String

/-- Records in the order of their keys. -/
structure Keyed (α : Type) where
  /-- The keys with their records. -/
  entries : List (Key × α)
  deriving DecidableEq, Repr

namespace Keyed

variable {α : Type}

/-- The collection without records. -/
def empty : Keyed α := ⟨[]⟩

instance : Inhabited (Keyed α) := ⟨empty⟩

/-- The record of a key. -/
def get? (m : Keyed α) (k : Key) : Option α :=
  (m.entries.find? (·.1 = k)).map (·.2)

/-- Whether a key has a record. -/
def contains (m : Keyed α) (k : Key) : Bool := (m.get? k).isSome

/-- The records in the order of their keys. -/
def values (m : Keyed α) : List α := m.entries.map (·.2)

/-- Entries with a record put in its place, where it replaces one of the same key. -/
def insertEntry (k : Key) (v : α) : List (Key × α) → List (Key × α)
  | [] => [(k, v)]
  | (l, w) :: rest =>
    if k < l then (k, v) :: (l, w) :: rest
    else if k = l then (k, v) :: rest
    else (l, w) :: insertEntry k v rest

/-- The collection with a record under a key. -/
def insert (m : Keyed α) (k : Key) (v : α) : Keyed α := ⟨insertEntry k v m.entries⟩

end Keyed

/-- A text put in its place among ordered texts, unless it is there. -/
def insertText (x : String) : List String → List String
  | [] => [x]
  | y :: ys => if x < y then x :: y :: ys else if x = y then y :: ys else y :: insertText x ys

/-- Texts put in their places among ordered texts. -/
def insertTexts (xs ordered : List String) : List String :=
  xs.foldl (fun ys x => insertText x ys) ordered

end BasinRegister
