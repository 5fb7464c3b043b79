/-!
# Blanks and case

The blank characters of a text and the text without its outer blanks, and texts compared without regard to the case of ASCII
letters. A character is blank when Unicode gives it the property White_Space; all characters but the ASCII letters are equal
only to themselves.
-/

namespace BasinRegister.Text

/-- The characters with the Unicode property White_Space. -/
def isBlank (c : Char) : Bool :=
  let n := c.toNat
  (9 ≤ n && n ≤ 13) || n == 0x20 || n == 0x85 || n == 0xA0 || n == 0x1680 || (0x2000 ≤ n && n ≤ 0x200A) ||
    n == 0x2028 || n == 0x2029 || n == 0x202F || n == 0x205F || n == 0x3000

/-- What is left of the characters when the blanks at both ends are taken off. -/
def trimChars (cs : List Char) : List Char :=
  ((cs.dropWhile isBlank).reverse.dropWhile isBlank).reverse

/-- A text without the blanks at its two ends. -/
def trim (s : String) : String :=
  String.ofList (trimChars s.toList)

/-- A text with its ASCII letters in lower case. -/
def fold (s : String) : String :=
  String.ofList (s.toList.map Char.toLower)

/-- Whether two texts are equal up to the case of ASCII letters. -/
def sameFolded (a b : String) : Bool :=
  fold a == fold b

end BasinRegister.Text
