import BasinRegister.Text.Shapeless

/-!
# Quoted texts

A text between double quotes as messages show it: quotes and backslashes behind a backslash, four controls as letters,
and every character without a shape of its own as its code point in base sixteen between braces.
-/

namespace BasinRegister.Text

/-- A number in lower-case digits of base sixteen. -/
def hexDigits (n : Nat) : List Char :=
  Nat.toDigits 16 n

/-- How a character stands in a quoted text. -/
def quoteChar (c : Char) : List Char :=
  match c with
  | '\x00' => ['\\', '0']
  | '\t' => ['\\', 't']
  | '\r' => ['\\', 'r']
  | '\n' => ['\\', 'n']
  | '\x22' => ['\\', '\x22']
  | '\\' => ['\\', '\\']
  | c => if isShapeless c then ['\\', 'u', '\x7b'] ++ hexDigits c.toNat ++ ['\x7d'] else [c]

/-- A text between double quotes. -/
def quoted (s : String) : String :=
  String.ofList ('\x22' :: s.toList.flatMap quoteChar ++ ['\x22'])

end BasinRegister.Text
