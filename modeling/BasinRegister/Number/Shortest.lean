import BasinRegister.Number.Double
import BasinRegister.Text.Numeral

/-!
# Shortest decimal digits

The fewest decimal digits that read back as a given double, and among those the nearest to it. The reals that round to
`m · 2 ^ q` form an interval around it, which holds its ends exactly when `m` is even. For one digit, two digits and so
on the two neighbours of the number on the decimal grid of that many digits are tried; seventeen digits always suffice.
-/

namespace BasinRegister.Number

/-- A positive decimal `digits · 10 ^ exponent`. -/
structure Decimal where
  /-- The digits as a whole number. -/
  digits : Nat
  /-- The power of ten of the last digit. -/
  exponent : Int
  deriving DecidableEq, Repr

namespace Decimal

/-- The decimal without zeros at its end. -/
def strip (digits : Nat) (exponent : Int) : Nat → Decimal
  | 0 => ⟨digits, exponent⟩
  | fuel + 1 => if digits % 10 = 0 then strip (digits / 10) (exponent + 1) fuel else ⟨digits, exponent⟩

end Decimal

/-- The reals that round to one double, as four times its `m` with the two ends, all in units of a quarter of its last
place. -/
structure RoundingInterval where
  /-- The lower end. -/
  low : Nat
  /-- The number itself. -/
  mid : Nat
  /-- The upper end. -/
  high : Nat
  /-- Whether the ends round to the number. -/
  closed : Bool
  /-- The exponent of two of the unit. -/
  unit : Int

namespace RoundingInterval

/-- The interval of `m · 2 ^ q`. Below the least normal of an exponent the neighbour is half as far away. -/
def ofParts (m : Nat) (q : Int) : RoundingInterval :=
  let narrow := m = BinaryFormat.double.implied && BinaryFormat.double.leastExponent < q
  { low := if narrow then 4 * m - 1 else 4 * m - 2
    mid := 4 * m
    high := 4 * m + 2
    closed := m % 2 == 0
    unit := q - 2 }

/-- One unit as a fraction of the grid step `10 ^ k`. -/
def step (i : RoundingInterval) (k : Int) : Fraction :=
  ((Fraction.mk 1 1).scaleTwo i.unit).scaleTen (-k)

/-- Whether `c` steps of the grid `s` lie in the interval. -/
def holds (i : RoundingInterval) (s : Fraction) (c : Nat) : Bool :=
  let x := c * s.den
  if i.closed then i.low * s.num ≤ x && x ≤ i.high * s.num else i.low * s.num < x && x < i.high * s.num

/-- The neighbour of the number on the grid `10 ^ k` that lies in the interval: the nearer one if both do, and the even
one of two that are equally near. -/
def onGrid (i : RoundingInterval) (k : Int) : Option Nat :=
  let s := i.step k
  let x := i.mid * s.num
  let below := x / s.den
  let rest := 2 * (x % s.den)
  let nearer := if rest < s.den then below else if s.den < rest then below + 1 else below + below % 2
  let farther := if nearer = below then below + 1 else below
  if 0 < nearer && i.holds s nearer then some nearer
  else if 0 < farther && i.holds s farther then some farther
  else none

/-- The exponent of the greatest power of ten that is not above the number. -/
def leadingExponent (i : RoundingInterval) : Int :=
  let guess := Int.fdiv (((Nat.log2 i.mid : Int) + i.unit) * 30103) 100000
  let above (e : Int) : Bool := let s := i.step e; s.den ≤ i.mid * s.num
  if !above guess then guess - 1 else if above (guess + 1) then guess + 1 else guess

/-- The first grid of `n`, `n + 1`, … digits with a neighbour in the interval. -/
def search (i : RoundingInterval) (leading : Int) (n : Nat) : Nat → Option Decimal
  | 0 => none
  | fuel + 1 =>
    let k := leading - (n : Int) + 1
    match i.onGrid k with
    | some digits => some (Decimal.strip digits k n)
    | none => search i leading (n + 1) fuel

end RoundingInterval

/-- The shortest digits of a finite number other than zero. -/
def Double.shortest? (x : Double) : Option Decimal := do
  let (m, q) ← x.parts?
  if m = 0 then none
  else
    let i := RoundingInterval.ofParts m q
    i.search i.leadingExponent 1 17

end BasinRegister.Number
