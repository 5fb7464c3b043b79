import BasinRegister.Json.Basic
import BasinRegister.Number.Notation

/-!
# Writing JSON

The compact form has no blanks. The indented form puts each item and each member on a line of its own, two spaces
deeper than what holds it, and leaves empty arrays and objects on one line.
-/

namespace BasinRegister.Json

open Number (DecimalLayout Double)

/-- A digit of base sixteen in lower case. -/
def hexDigit (n : Nat) : Char :=
  if n < 10 then Char.ofNat (48 + n) else Char.ofNat (87 + n)

/-- How a character stands between quotes: quotes, backslashes and control characters are escaped. -/
def escape (c : Char) : List Char :=
  match c with
  | '\x22' => ['\\', '\x22']
  | '\\' => ['\\', '\\']
  | '\x08' => ['\\', 'b']
  | '\t' => ['\\', 't']
  | '\n' => ['\\', 'n']
  | '\x0c' => ['\\', 'f']
  | '\r' => ['\\', 'r']
  | c =>
    if c.toNat < 32 then ['\\', 'u', '0', '0', hexDigit (c.toNat / 16), hexDigit (c.toNat % 16)] else [c]

/-- A text between quotes. -/
def quote (s : String) : String :=
  String.ofList ('\x22' :: s.toList.flatMap escape ++ ['\x22'])

/-- An integer in decimal digits. -/
def integerText (n : Int) : String :=
  if n < 0 then "-" ++ Text.numeral n.natAbs else Text.numeral n.natAbs

/-- A double in the layout of documents; `null` when it is not finite. -/
def doubleText (x : Double) : String :=
  match x.text? DecimalLayout.document with
  | some cs => String.ofList cs
  | none => "null"

mutual

/-- The compact form of a value. -/
def render : Json → String
  | .null => "null"
  | .bool b => if b then "true" else "false"
  | .whole n => integerText n
  | .real x => doubleText x
  | .text s => quote s
  | .array items => "[" ++ renderItems items ++ "]"
  | .object members => "\x7b" ++ renderMembers members ++ "\x7d"
  | .unreadable => "null"

/-- The items of an array with commas between them. -/
def renderItems : List Json → String
  | [] => ""
  | [v] => render v
  | v :: w :: vs => render v ++ "," ++ renderItems (w :: vs)

/-- The members of an object with commas between them. -/
def renderMembers : List (String × Json) → String
  | [] => ""
  | [(name, v)] => quote name ++ ":" ++ render v
  | (name, v) :: w :: vs => quote name ++ ":" ++ render v ++ "," ++ renderMembers (w :: vs)

end

/-- A line break and the indentation of a depth. -/
def newLine (depth : Nat) : String :=
  String.ofList ('\n' :: List.replicate (2 * depth) ' ')

mutual

/-- The indented form of a value that stands at a depth. -/
def renderIndented (depth : Nat) : Json → String
  | .array [] => "[]"
  | .array (v :: vs) => "[" ++ indentItems (depth + 1) (v :: vs) ++ newLine depth ++ "]"
  | .object [] => "\x7b\x7d"
  | .object (m :: ms) => "\x7b" ++ indentMembers (depth + 1) (m :: ms) ++ newLine depth ++ "\x7d"
  | .null => "null"
  | .bool b => if b then "true" else "false"
  | .whole n => integerText n
  | .real x => doubleText x
  | .text s => quote s
  | .unreadable => "null"

/-- The items of an array, each on its own line. -/
def indentItems (depth : Nat) : List Json → String
  | [] => ""
  | [v] => newLine depth ++ renderIndented depth v
  | v :: w :: vs => newLine depth ++ renderIndented depth v ++ "," ++ indentItems depth (w :: vs)

/-- The members of an object, each on its own line. -/
def indentMembers (depth : Nat) : List (String × Json) → String
  | [] => ""
  | [(name, v)] => newLine depth ++ quote name ++ ": " ++ renderIndented depth v
  | (name, v) :: w :: vs =>
    newLine depth ++ quote name ++ ": " ++ renderIndented depth v ++ "," ++ indentMembers depth (w :: vs)

end

end BasinRegister.Json
