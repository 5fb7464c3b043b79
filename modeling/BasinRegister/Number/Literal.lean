import BasinRegister.Number.Binary
import BasinRegister.Text.Numeral

/-!
# Number literals

The texts that stand for a real number: an optional sign, digits with an optional point and an optional exponent, or one
of the words for infinity and for what is no number, in either case. There is a digit before or behind the point.
-/

namespace BasinRegister.Number

/-- The magnitude that a literal states. -/
inductive Magnitude where
  /-- The number `digits · 10 ^ exponent`. -/
  | decimal (digits : Nat) (exponent : Int)
  /-- Infinity. -/
  | infinite
  /-- No number. -/
  | undefined
  deriving DecidableEq, Repr

/-- A literal: a sign and a magnitude. -/
structure Literal where
  /-- Whether a minus sign stands in front. -/
  negative : Bool
  /-- What stands behind the sign. -/
  magnitude : Magnitude
  deriving DecidableEq, Repr

namespace Literal

/-- The sign in front of a literal and what follows it. -/
def takeSign : List Char → Bool × List Char
  | '-' :: cs => (true, cs)
  | '+' :: cs => (false, cs)
  | cs => (false, cs)

/-- The exponent at the end of a literal; nothing where it is malformed. -/
def readExponent : List Char → Option Int
  | [] => some 0
  | e :: cs =>
    if e = 'e' || e = 'E' then
      let (negative, digits) := takeSign cs
      if digits.isEmpty then none
      else (Text.readDigits 0 digits).map fun n => if negative then -(n : Int) else n
    else none

/-- The digits behind the point, if there is a point, and what follows them. -/
def takeFraction : List Char → List Char × List Char
  | '.' :: cs => (cs.takeWhile Char.isDigit, cs.dropWhile Char.isDigit)
  | cs => ([], cs)

/-- A magnitude written in digits. -/
def readDecimal (cs : List Char) : Option Magnitude := do
  let whole := cs.takeWhile Char.isDigit
  let (fraction, rest) := takeFraction (cs.dropWhile Char.isDigit)
  if whole.isEmpty && fraction.isEmpty then none
  else
    let digits ← Text.readDigits 0 (whole ++ fraction)
    let exponent ← readExponent rest
    some (.decimal digits (exponent - (fraction.length : Int)))

/-- A magnitude in digits or as a word. -/
def readMagnitude (cs : List Char) : Option Magnitude :=
  match String.ofList (cs.map Char.toLower) with
  | "inf" => some .infinite
  | "infinity" => some .infinite
  | "nan" => some .undefined
  | _ => readDecimal cs

/-- The literal of a text. -/
def read (s : String) : Option Literal :=
  let (negative, cs) := takeSign s.toList
  (readMagnitude cs).map (Literal.mk negative)

end Literal

namespace Magnitude

/-- Exponents of the first digit beyond this leave every format at hand. -/
def reach : Int := 400

/-- The magnitude word of the number of a format nearest to a decimal. Far outside the range of the format it is zero or
infinity at once, so that no huge power of ten is formed. -/
def nearest (f : BinaryFormat) (digits : Nat) (exponent : Int) : Nat :=
  let leading := exponent + ((Text.decimal digits).length : Int)
  if digits = 0 || leading < -reach then 0
  else if reach < leading then f.infinity
  else f.nearest ((Fraction.mk digits 1).scaleTen exponent)

end Magnitude

end BasinRegister.Number
