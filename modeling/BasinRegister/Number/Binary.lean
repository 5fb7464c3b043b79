/-!
# Binary number formats

A binary format holds the numbers `m · 2 ^ q` with `m` below a power of two and `q` at least some exponent. A fraction
is rounded to the nearest of them, a tie to the one whose `m` is even, and is written as the magnitude of the word of
the format: the exponent field above the fraction field. What is too large becomes the infinity of the format.
-/

namespace BasinRegister.Number

/-- A fraction of natural numbers. -/
structure Fraction where
  /-- The numerator. -/
  num : Nat
  /-- The denominator, meant to be positive. -/
  den : Nat

namespace Fraction

/-- The fraction times a power of two. -/
def scaleTwo (x : Fraction) (k : Int) : Fraction :=
  ⟨x.num * Nat.pow 2 k.toNat, x.den * Nat.pow 2 (-k).toNat⟩

/-- The fraction times a power of ten. -/
def scaleTen (x : Fraction) (k : Int) : Fraction :=
  ⟨x.num * Nat.pow 10 k.toNat, x.den * Nat.pow 10 (-k).toNat⟩

/-- The product of two fractions. -/
def mul (x y : Fraction) : Fraction :=
  ⟨x.num * y.num, x.den * y.den⟩

/-- The quotient of two fractions. -/
def div (x y : Fraction) : Fraction :=
  ⟨x.num * y.den, x.den * y.num⟩

/-- The whole number nearest to the fraction; a tie goes to the even one. -/
def roundEven (x : Fraction) : Nat :=
  let low := x.num / x.den
  let rest := 2 * (x.num % x.den)
  if rest < x.den then low
  else if x.den < rest then low + 1
  else low + low % 2

/-- The exponent of the greatest power of two that is not above a positive fraction. -/
def log2 (x : Fraction) : Int :=
  let guess : Int := (Nat.log2 x.num : Int) - (Nat.log2 x.den : Int)
  let one := (x.scaleTwo (-guess))
  if one.num < one.den then guess - 1 else guess

end Fraction

/-- A binary format: how many bits `m` has and the least `q`. -/
structure BinaryFormat where
  /-- The number of bits of `m`, the leading one included. -/
  precision : Nat
  /-- The exponent of the last place of the smallest numbers. -/
  leastExponent : Int
  /-- The word of infinity. -/
  infinity : Nat

namespace BinaryFormat

/-- The format of 32-bit words. -/
def single : BinaryFormat := ⟨24, -149, 0x7F800000⟩

/-- The format of 64-bit words. -/
def double : BinaryFormat := ⟨53, -1074, 0x7FF0000000000000⟩

/-- The leading bit of `m`, which a word implies and does not hold. -/
def implied (f : BinaryFormat) : Nat := Nat.pow 2 (f.precision - 1)

/-- The word of the number nearest to a fraction. A rounding that carries out of `m` moves on to the next exponent,
because the fields of the word are adjacent. -/
def nearest (f : BinaryFormat) (x : Fraction) : Nat :=
  if x.num = 0 then 0
  else
    let q := max f.leastExponent (x.log2 - (f.precision - 1 : Nat))
    let m := (x.scaleTwo (-q)).roundEven
    min f.infinity ((q - f.leastExponent).toNat * f.implied + m)

/-- The `m` and `q` of a magnitude word; nothing for infinity and for what is no number. -/
def parts? (f : BinaryFormat) (word : Nat) : Option (Nat × Int) :=
  if f.infinity ≤ word then none
  else
    let field := word / f.implied
    let fraction := word % f.implied
    if field = 0 then some (fraction, f.leastExponent)
    else some (fraction + f.implied, f.leastExponent + (field - 1 : Nat))

end BinaryFormat

end BasinRegister.Number
