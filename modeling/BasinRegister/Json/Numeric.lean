import BasinRegister.Json.Basic
import BasinRegister.Text.Numeral

/-!
# Numbers in JSON documents

The grammar of a number and the value it gets. A number without point and exponent that fits a signed or unsigned
64-bit word is that integer. For any other number the digits are collected in an unsigned 64-bit word; digits that no
longer fit only move the exponent. The word becomes a double and is then multiplied or divided by a power of ten that
is itself a double, each step rounded, so the last place may differ from the double nearest to the text. A number
beyond the largest double is unreadable.
-/

namespace BasinRegister.Json

open Number (Double)

/-- The parts of a number as it is written. -/
structure NumberText where
  /-- Whether a minus sign stands in front. -/
  negative : Bool
  /-- The digits before the point. -/
  wholePart : List Char
  /-- The digits behind the point. -/
  fraction : List Char
  /-- Whether the exponent is negative, and its digits. -/
  exponent : Option (Bool × List Char)
  deriving Repr

namespace NumberText

/-- One or more digits and what follows them. -/
def takeDigits (cs : List Char) : Option (List Char × List Char) :=
  let digits := cs.takeWhile Char.isDigit
  if digits.isEmpty then none else some (digits, cs.dropWhile Char.isDigit)

/-- The digits before the point: a zero stands alone. -/
def takeWhole : List Char → Option (List Char × List Char)
  | '0' :: cs => if cs.head?.any Char.isDigit then none else some (['0'], cs)
  | cs => takeDigits cs

/-- The digits behind a point, if there is one. -/
def takeFraction : List Char → Option (List Char × List Char)
  | '.' :: cs => takeDigits cs
  | cs => some ([], cs)

/-- The digits of an exponent with its sign. -/
def takeExponentDigits : List Char → Option ((Bool × List Char) × List Char)
  | '-' :: cs => (takeDigits cs).map fun (ds, rest) => ((true, ds), rest)
  | '+' :: cs => (takeDigits cs).map fun (ds, rest) => ((false, ds), rest)
  | cs => (takeDigits cs).map fun (ds, rest) => ((false, ds), rest)

/-- An exponent, if there is one. -/
def takeExponent : List Char → Option (Option (Bool × List Char) × List Char)
  | 'e' :: cs => (takeExponentDigits cs).map fun (e, rest) => (some e, rest)
  | 'E' :: cs => (takeExponentDigits cs).map fun (e, rest) => (some e, rest)
  | cs => some (none, cs)

/-- A number at the front of a text and what follows it. -/
def take (cs : List Char) : Option (NumberText × List Char) := do
  let (negative, cs) := match cs with
    | '-' :: cs => (true, cs)
    | cs => (false, cs)
  let (wholePart, cs) ← takeWhole cs
  let (fraction, cs) ← takeFraction cs
  let (exponent, cs) ← takeExponent cs
  some ({ negative, wholePart, fraction, exponent }, cs)

/-- The word that digits make behind `word`, and the digits from the first one on that does not fit. -/
def collect (word : Nat) : List Char → Nat × List Char
  | [] => (word, [])
  | c :: cs =>
    let next := word * 10 + Text.digitValue c
    if next < UInt64.size then collect next cs else (word, c :: cs)

/-- Powers of ten up to this one are doubles that a number is scaled by in one step. -/
def greatestPower : Nat := 308

/-- A magnitude divided by a power of ten, in steps of the greatest power. -/
def scaleDown (x : Double) (k : Nat) : Double :=
  if k ≤ greatestPower then x.divMagnitude (Double.powerOfTen k)
  else if x.isZero then x
  else scaleDown (x.divMagnitude (Double.powerOfTen greatestPower)) (k - greatestPower)
termination_by k
decreasing_by simp only [greatestPower] at *; omega

/-- A magnitude multiplied by a power of ten; nothing if that leaves the range. -/
def scaleUp? (x : Double) (k : Nat) : Option Double :=
  if k ≤ greatestPower then
    let y := x.mulMagnitude (Double.powerOfTen k)
    if y.isFinite then some y else none
  else if x.isZero then some x
  else none

/-- The magnitude of a collected word times a power of ten. -/
def scale? (word : Nat) (exponent : Int) : Option Double :=
  if exponent < 0 then some (scaleDown (Double.ofNat word) exponent.natAbs)
  else scaleUp? (Double.ofNat word) exponent.natAbs

/-- The greatest exponent that is read as a number. -/
def exponentLimit : Nat := 2147483647

/-- A signed 32-bit value nearest to an integer. -/
def saturate (n : Int) : Int :=
  max (-2147483648) (min 2147483647 n)

/-- The magnitude of a word whose digits are followed by an exponent. An exponent out of range means zero or is itself
out of range, by its sign. -/
def applyExponent (word : Nat) (shift : Int) (exponent : Bool × List Char) : Option Double :=
  match Text.readDigits 0 exponent.2 with
  | none => none
  | some e =>
    if exponentLimit < e then
      if word ≠ 0 && !exponent.1 then none else some Double.zero
    else scale? word (saturate (if exponent.1 then shift - e else shift + e))

/-- The value of an integer: it stays one while a 64-bit word holds it. A negative zero is no integer. -/
def integerValue (negative : Bool) (word : Nat) : Json :=
  if !negative then .whole word
  else if word = 0 || 9223372036854775808 < word then .real (Double.ofNat word).neg
  else .whole (-(word : Int))

/-- The value of a number. -/
def value (n : NumberText) : Json :=
  let (word, rest) := collect 0 n.wholePart
  if rest.isEmpty && n.fraction.isEmpty && n.exponent.isNone then integerValue n.negative word
  else
    let (word, dropped) := collect word n.fraction
    let shift := (rest.length : Int) - ((n.fraction.length : Int) - (dropped.length : Int))
    let magnitude := match n.exponent with
      | none => scale? word shift
      | some e => applyExponent word shift e
    match magnitude with
    | none => .unreadable
    | some x => .real (if n.negative then x.neg else x)

end NumberText

end BasinRegister.Json
