import BasinRegister.Number.Binary

/-!
# Double precision numbers

A double is its 64-bit word, so that two of them are equal when they have the same bits: the two zeros differ, and a
number that is not a number equals itself. The arithmetic rounds the exact result to the nearest double.
-/

namespace BasinRegister.Number

/-- A double precision number as its word. -/
structure Double where
  /-- Sign, exponent field and fraction field. -/
  bits : UInt64
  deriving DecidableEq, Repr, Inhabited

namespace Double

/-- Doubles of the same bits are the same. -/
theorem bits_inj {x y : Double} : x.bits = y.bits ↔ x = y := by
  cases x
  cases y
  simp

/-- The double of a magnitude word. -/
def ofMagnitude (word : Nat) : Double := ⟨UInt64.ofNat word⟩

/-- Zero with the positive sign. -/
def zero : Double := ⟨0⟩

/-- The positive infinity. -/
def infinity : Double := ofMagnitude BinaryFormat.double.infinity

/-- A number that is not a number. -/
def notANumber : Double := ⟨0x7FF8000000000000⟩

/-- Whether the sign is the negative one. -/
def isNegative (x : Double) : Bool := 0x8000000000000000 ≤ x.bits.toNat

/-- The word without its sign. -/
def magnitude (x : Double) : Nat := x.bits.toNat % 0x8000000000000000

/-- The number of the other sign. -/
def neg (x : Double) : Double := ⟨x.bits ^^^ 0x8000000000000000⟩

/-- The magnitude `m · 2 ^ q` of a finite number. -/
def parts? (x : Double) : Option (Nat × Int) := BinaryFormat.double.parts? x.magnitude

/-- Whether the number is neither infinite nor not a number. -/
def isFinite (x : Double) : Bool := x.magnitude < BinaryFormat.double.infinity

/-- Whether the number is not a number. -/
def isNaN (x : Double) : Bool := BinaryFormat.double.infinity < x.magnitude

/-- Whether the number is a zero of either sign. -/
def isZero (x : Double) : Bool := x.magnitude == 0

/-- The magnitude of a finite number as a fraction; zero for the others. -/
def toFraction (x : Double) : Fraction :=
  match x.parts? with
  | some (m, q) => (Fraction.mk m 1).scaleTwo q
  | none => ⟨0, 1⟩

/-- The double nearest to a fraction. -/
def ofFraction (x : Fraction) : Double := ofMagnitude (BinaryFormat.double.nearest x)

/-- The double nearest to a natural number. -/
def ofNat (n : Nat) : Double := ofFraction ⟨n, 1⟩

/-- The double nearest to an integer. -/
def ofInt (n : Int) : Double :=
  if n < 0 then (ofNat n.natAbs).neg else ofNat n.natAbs

/-- The double nearest to a power of ten. -/
def powerOfTen (k : Nat) : Double := ofNat (Nat.pow 10 k)

/-- The product of two magnitudes, rounded. -/
def mulMagnitude (x y : Double) : Double := ofFraction (x.toFraction.mul y.toFraction)

/-- The quotient of two magnitudes, rounded. -/
def divMagnitude (x y : Double) : Double := ofFraction (x.toFraction.div y.toFraction)

end Double

end BasinRegister.Number
