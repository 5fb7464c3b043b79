/-!
# Unsigned numerals

Whole numbers in ten ASCII digits. A reader takes an optional plus sign and then at least one digit, with any number
of leading zeros; a writer uses no sign and no leading zero.
-/

namespace BasinRegister.Text

/-- The character of a digit below ten. -/
def digitChar (d : Nat) : Char :=
  Char.ofNat (48 + d % 10)

/-- The value of an ASCII digit. -/
def digitValue (c : Char) : Nat :=
  c.toNat - 48

/-- A number in decimal digits without leading zeros. -/
def decimal (n : Nat) : List Char :=
  if n < 10 then [digitChar n] else decimal (n / 10) ++ [digitChar (n % 10)]
termination_by n

/-- A number as a text of decimal digits. -/
def numeral (n : Nat) : String :=
  String.ofList (decimal n)

/-- The number that `acc` becomes when the digits are written behind it; nothing if some character is no digit. -/
def readDigits (acc : Nat) : List Char → Option Nat
  | [] => some acc
  | c :: cs => if c.isDigit then readDigits (acc * 10 + digitValue c) cs else none

/-- The value of an unsigned numeral: an optional plus sign and one or more digits. -/
def readNumeral : List Char → Option Nat
  | [] => none
  | '+' :: [] => none
  | '+' :: cs => readDigits 0 cs
  | cs => readDigits 0 cs

/-- The value of an unsigned numeral below a limit. -/
def readBelow (limit : Nat) (s : String) : Option Nat :=
  (readNumeral s.toList).filter (· < limit)

/-- A numeral read as a 64-bit word; one that does not fit is refused. -/
def readUInt64 (s : String) : Option UInt64 :=
  (readBelow UInt64.size s).map UInt64.ofNat

/-- A numeral read as a 32-bit word; one that does not fit is refused. -/
def readUInt32 (s : String) : Option UInt32 :=
  (readBelow UInt32.size s).map UInt32.ofNat

end BasinRegister.Text
