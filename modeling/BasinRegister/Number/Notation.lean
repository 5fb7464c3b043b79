import BasinRegister.Number.Shortest

/-!
# Notation of decimals

How a decimal is laid out as a text: positional while the exponent of its first digit lies in a window, and otherwise
with one digit before the point and a signed exponent.
-/

namespace BasinRegister.Number

/-- The choices of a layout. -/
structure DecimalLayout where
  /-- The least exponent of the first digit that is written positionally. -/
  leastPositional : Int
  /-- The greatest one. -/
  greatestPositional : Int

namespace DecimalLayout

/-- Documents write numbers positionally from `10 ^ -5` to below `10 ^ 16`. -/
def document : DecimalLayout := ⟨-5, 15⟩

/-- The positional form, with at least one digit on both sides of the point. -/
def positional (d : Decimal) : List Char :=
  let digits := Text.decimal d.digits
  if 0 ≤ d.exponent then digits ++ List.replicate d.exponent.toNat '0' ++ ['.', '0']
  else
    let places := (-d.exponent).toNat
    if places < digits.length then
      digits.take (digits.length - places) ++ '.' :: digits.drop (digits.length - places)
    else ['0', '.'] ++ List.replicate (places - digits.length) '0' ++ digits

/-- The form with an exponent, which always shows its sign. -/
def scientific (digits : List Char) (leading : Int) : List Char :=
  let mantissa :=
    match digits with
    | [] => []
    | [d] => [d]
    | d :: ds => d :: '.' :: ds
  mantissa ++ ['e', if leading < 0 then '-' else '+'] ++ Text.decimal leading.natAbs

/-- A decimal in the chosen layout. -/
def write (l : DecimalLayout) (d : Decimal) : List Char :=
  let digits := Text.decimal d.digits
  let leading := d.exponent + (digits.length : Int) - 1
  if l.leastPositional ≤ leading && leading ≤ l.greatestPositional then positional d
  else scientific digits leading

end DecimalLayout

/-- The text of a finite number in a layout; nothing for the others. -/
def Double.text? (l : DecimalLayout) (x : Double) : Option (List Char) :=
  if !x.isFinite then none
  else
    let sign := if x.isNegative then ['-'] else []
    match x.shortest? with
    | some d => some (sign ++ l.write d)
    | none => some (sign ++ ['0', '.', '0'])

end BasinRegister.Number
