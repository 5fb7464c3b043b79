import BasinRegister.Text.Split
import BasinRegister.Text.Utf8

/-!
# Percent coding and forms

A byte may be written as `%` and two digits of base sixteen; a `%` without them stands for itself. A form is a list of
names with values: `&` between the pairs, `=` behind the name, `+` for a space, and everything else that is not plain as
percent-coded UTF-8.
-/

namespace BasinRegister.Text

/-- The value of a byte that is a digit of base sixteen. -/
def hexByte? (b : UInt8) : Option UInt8 :=
  if 48 ≤ b && b ≤ 57 then some (b - 48)
  else if 97 ≤ b && b ≤ 102 then some (b - 87)
  else if 65 ≤ b && b ≤ 70 then some (b - 55)
  else none

/-- Bytes with their percent codes replaced. -/
def percentDecode : List UInt8 → List UInt8
  | [] => []
  | b :: bs =>
    match b, bs with
    | 37, h :: l :: rest =>
      match hexByte? h, hexByte? l with
      | some h, some l => (h * 16 + l) :: percentDecode rest
      | _, _ => 37 :: percentDecode (h :: l :: rest)
    | b, bs => b :: percentDecode bs

/-- A segment of a path with its percent codes replaced; nothing if that is not UTF-8. -/
def decodeSegment (s : String) : Option String :=
  utf8Strict (percentDecode (utf8Bytes s))

/-- A name or a value of a form. -/
def formDecode (cs : List Char) : String :=
  let spaced := cs.map fun c => if c = '+' then ' ' else c
  utf8Lenient (percentDecode (utf8Bytes (String.ofList spaced)))

/-- A pair of a form; without `=` the value is empty. -/
def formPair (cs : List Char) : String × String :=
  match cutAt '=' cs with
  | some (name, value) => (formDecode name, formDecode value)
  | none => (formDecode cs, "")

/-- The pairs of a form. -/
def formDecodePairs (s : String) : List (String × String) :=
  ((pieces '&' s.toList).filter (!·.isEmpty)).map formPair

/-- A digit of base sixteen in upper case. -/
def upperHexDigit (n : Nat) : Char :=
  if n < 10 then Char.ofNat (48 + n) else Char.ofNat (55 + n)

/-- The percent code of a byte. -/
def percentCode (b : UInt8) : List Char :=
  ['%', upperHexDigit (b.toNat / 16), upperHexDigit (b.toNat % 16)]

/-- A text with everything but its plain ASCII characters as percent codes. -/
def percentEncode (isPlain : Char → Bool) (cs : List Char) : List Char :=
  cs.flatMap fun c => if c.toNat < 0x80 && isPlain c then [c] else (String.utf8EncodeChar c).flatMap percentCode

/-- How a byte stands in a form. -/
def formEncodeByte (b : UInt8) : List Char :=
  let c := Char.ofNat b.toNat
  if c.isAlphanum || c == '*' || c == '-' || c == '.' || c == '_' then [c]
  else if c = ' ' then ['+']
  else percentCode b

/-- A name or a value as it stands in a form. -/
def formEncode (s : String) : String :=
  String.ofList ((utf8Bytes s).flatMap formEncodeByte)

/-- Pairs as a form. -/
def formEncodePairs (pairs : List (String × String)) : String :=
  "&".intercalate (pairs.map fun (name, value) => formEncode name ++ "=" ++ formEncode value)

end BasinRegister.Text
