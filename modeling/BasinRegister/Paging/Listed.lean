import BasinRegister.Paging

/-!
# Listed rows

A source over rows that are simply listed. Adjacent rows of parents with the same key belong to one parent. The source
may be told to fail behind a number of rows, and to fail at counting.
-/

namespace BasinRegister

/-- A name is told apart by itself. -/
instance : GroupKey String String := ⟨id⟩

/-- Rows that are listed, and the failures to come. -/
structure ListedRows (π γ ε : Type) where
  /-- The rows. -/
  rows : List (JoinRow π γ)
  /-- After how many rows the next one fails, and how. -/
  scanFailure : Option (Nat × ε)
  /-- How counting fails. -/
  countFailure : Option ε

namespace ListedRows

variable {π γ ε κ : Type} [GroupKey π κ] [DecidableEq κ]

/-- The rows of each parent: the longest runs of adjacent rows with the same key. -/
def runs (listed : ListedRows π γ ε) : List (List (JoinRow π γ)) :=
  listed.rows.splitBy fun a b => GroupKey.key a.parent = GroupKey.key b.parent

omit [GroupKey π κ] [DecidableEq κ] in
/-- The rows up to the failure, if one comes before their end. -/
def cutOff (listed : ListedRows π γ ε) (rows : List (JoinRow π γ)) : RowStream π γ ε :=
  match listed.scanFailure with
  | some (k, e) => if k < rows.length then ⟨rows.take k, some e⟩ else ⟨rows, none⟩
  | none => ⟨rows, none⟩

/-- The source of the rows. -/
def source (listed : ListedRows π γ ε) : RowSource Unit π γ ε :=
  { scan := fun _ skip _ => listed.cutOff (listed.runs.drop skip.toNat).flatten
    count := fun _ =>
      match listed.countFailure with
      | some e => .error e
      | none => .ok (UInt64.ofNat listed.runs.length) }

end ListedRows

end BasinRegister
