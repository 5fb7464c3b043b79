import BasinRegister.Text.Split

/-!
# Ranges of code points

Sets of characters as closed ranges of code points. A long set is written as text: its ranges stand between blanks, in
base sixteen with capital digits, and a range of more than one code point has a hyphen between its ends.
-/

namespace BasinRegister.Text

/-- Whether one of the ranges holds a code point. -/
def inRanges (n : Nat) (ranges : List (Nat × Nat)) : Bool :=
  ranges.any fun (first, last) => first ≤ n && n ≤ last

/-- The number that is written with digits in base sixteen. -/
def readHex (digits : List Char) : Nat :=
  digits.foldl (fun n c => 16 * n + (if c.isDigit then c.toNat - 48 else c.toNat - 55)) 0

/-- The range that is written as its ends or as its only code point. -/
def readRange (cs : List Char) : Nat × Nat :=
  match cutAt '-' cs with
  | some (first, last) => (readHex first, readHex last)
  | none => (readHex cs, readHex cs)

/-- The words of a text, between blanks. -/
def words (s : String) : List (List Char) :=
  pieces ' ' s.toList

/-- The ranges that are written in some lines. -/
def readRanges (lines : List String) : List (Nat × Nat) :=
  lines.flatMap fun line => (words line).map readRange

end BasinRegister.Text
