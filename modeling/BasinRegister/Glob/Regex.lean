/-!
# Regular expressions

Expressions that read a whole text: between `^` and `$` stand items, each an atom that takes one character or, with a
`*` behind it, a run of them. An atom is a point, two letters between brackets, a character behind a backslash, or one
that means nothing but itself.
-/

namespace BasinRegister.Glob.Regex

/-- The characters that mean something else than themselves. -/
def special : List Char := ['\\', '.', '+', '*', '?', '(', ')', '|', '[', ']', '\x7b', '\x7d', '^', '$']

/-- Whether a backslash makes a character stand for itself. In front of letters and digits it does something else. -/
def isEscapable (c : Char) : Bool :=
  c.toNat < 128 && !c.isAlphanum && c != '<' && c != '>'

/-- Whether a character is written with a backslash. Some of them are special between brackets only, or where blanks are
left out. -/
def isEscaped (c : Char) : Bool := (special ++ ['#', '&', '-', '~']).contains c

/-- How a character is written to stand for itself. -/
def escape (c : Char) : List Char :=
  if isEscaped c then ['\\', c] else [c]

/-- What takes one character. -/
inductive Atom where
  /-- Any character but the line feed. -/
  | point
  /-- One of two characters. -/
  | either (a b : Char)
  /-- A character behind a backslash. -/
  | escaped (c : Char)
  /-- A character that stands for itself. -/
  | same (c : Char)

namespace Atom

/-- The text of an atom. -/
def written : Atom → List Char
  | .point => ['.']
  | .either a b => ['[', a, b, ']']
  | .escaped c => ['\\', c]
  | .same c => [c]

/-- What has to hold of the characters of an atom. -/
def Legal : Atom → Prop
  | .point => True
  | .either a b => a.isAlpha = true ∧ b.isAlpha = true
  | .escaped c => isEscapable c = true
  | .same c => c ∉ special

/-- Whether an atom takes a character. -/
def Holds : Atom → Char → Prop
  | .point, x => x ≠ '\n'
  | .either a b, x => x = a ∨ x = b
  | .escaped c, x => x = c
  | .same c, x => x = c

end Atom

/-- A part of an expression. -/
inductive Item where
  /-- One character. -/
  | one (atom : Atom)
  /-- Any number of characters. -/
  | run (atom : Atom)

namespace Item

/-- The atom of an item. -/
def atom : Item → Atom
  | .one a => a
  | .run a => a

/-- The text of an item. -/
def written : Item → List Char
  | .one a => a.written
  | .run a => a.written ++ ['*']

/-- The pieces of a text that an item takes. -/
inductive Takes : Item → List Char → Prop where
  /-- One character. -/
  | one {a : Atom} {x : Char} : a.Holds x → Takes (.one a) [x]
  /-- A run of characters. -/
  | run {a : Atom} {piece : List Char} : (∀ x ∈ piece, a.Holds x) → Takes (.run a) piece

end Item

/-- What follows `^` in an expression with these items. -/
def body (items : List Item) : List Char := items.flatMap Item.written ++ ['$']

/-- An expression has these items. -/
structure Reads (regex : String) (items : List Item) : Prop where
  /-- The items are expressions. -/
  legal : ∀ item ∈ items, item.atom.Legal
  /-- They are the text between the two ends. -/
  written : regex.toList = '^' :: body items

/-- The items take a text piece by piece. -/
inductive Cut : List Item → List Char → Prop where
  /-- Nothing is left on either side. -/
  | nil : Cut [] []
  /-- An item takes the next piece. -/
  | cons {item : Item} {items : List Item} {piece text : List Char} :
      item.Takes piece → Cut items text → Cut (item :: items) (piece ++ text)

/-- A whole text is taken by the items of an expression. -/
def Accepts (regex text : String) : Prop := ∃ items, Reads regex items ∧ Cut items text.toList

end BasinRegister.Glob.Regex
