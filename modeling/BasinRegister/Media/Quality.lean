import BasinRegister.Number.Literal

/-!
# Qualities

How much a client wants a content type: a single precision number, which may be anything that a number literal states.
-/

namespace BasinRegister

open Number (BinaryFormat Literal Magnitude)

/-- A quality as the word of a single precision number. -/
structure Quality where
  /-- Sign, exponent field and fraction field. -/
  bits : UInt32
  deriving DecidableEq, Repr, Inhabited

namespace Quality

/-- The quality of an entry that states none. -/
def one : Quality := ⟨0x3F800000⟩

/-- The word of a magnitude. -/
def magnitudeWord : Magnitude → Nat
  | .decimal digits exponent => Magnitude.nearest .single digits exponent
  | .infinite => BinaryFormat.single.infinity
  | .undefined => 0x7FC00000

/-- The quality nearest to a literal. -/
def ofLiteral (l : Literal) : Quality :=
  ⟨UInt32.ofNat (magnitudeWord l.magnitude + if l.negative then 0x80000000 else 0)⟩

/-- The quality that a text states, if it states one. -/
def read? (s : String) : Option Quality := (Literal.read s).map ofLiteral

/-- The word without its sign. -/
def magnitude (q : Quality) : Nat := q.bits.toNat % 0x80000000

/-- Whether the quality is not a number. -/
def isNaN (q : Quality) : Bool := BinaryFormat.single.infinity < q.magnitude

/-- A number that grows with the quality; both zeros have the same. -/
def rank (q : Quality) : Int :=
  if q.bits.toNat < 0x80000000 then q.magnitude else -(q.magnitude : Int)

/-- How two qualities compare; not at all if one is not a number. -/
def compare? (a b : Quality) : Option Ordering :=
  if a.isNaN || b.isNaN then none else some (compare a.rank b.rank)

/-- Whether the quality is greater than zero. -/
def isPositive (q : Quality) : Bool := !q.isNaN && 0 < q.rank

end Quality

end BasinRegister
