import BasinRegister.Glob.Pattern

/-!
# The `LIKE` operator

Patterns with `%` for any run of characters and `_` for exactly one, in which `\` makes the next character stand for
itself. ASCII letters are compared without regard to case, and wildcards take every character. Both the pattern and the
text end at their first NUL, and the noncharacters U+FFFE and U+FFFF are read as the replacement character.
-/

namespace BasinRegister.Glob.Like

/-- The steps of a pattern text; nothing if it ends in the escape. -/
def steps : List Char → Option Pattern
  | [] => some []
  | '\\' :: [] => none
  | '\\' :: c :: cs => (steps cs).map (.one (.folded c) :: ·)
  | '%' :: cs => (steps cs).map (.run .any :: ·)
  | '_' :: cs => (steps cs).map (.one .any :: ·)
  | c :: cs => (steps cs).map (.one (.folded c) :: ·)

/-- A character as the operator reads it. -/
def readChar (c : Char) : Char :=
  if c = '\uFFFE' || c = '\uFFFF' then '\uFFFD' else c

/-- The characters before the first NUL, as the operator reads them. -/
def readText (s : String) : List Char :=
  (s.toList.takeWhile (· != '\x00')).map readChar

/-- The greatest size of a pattern in bytes. -/
def sizeLimit : Nat := 50000

/-- Whether a pattern is too large to be matched. -/
def isTooLarge (pattern : String) : Bool := sizeLimit < pattern.utf8ByteSize

/-- Whether a text is like a pattern. -/
def selects (pattern text : String) : Bool :=
  match steps (readText pattern) with
  | some p => p.accepts (readText text)
  | none => false

end BasinRegister.Glob.Like
