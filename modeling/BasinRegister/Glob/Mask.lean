import BasinRegister.Glob.Pattern
import BasinRegister.Glob.Regex
import BasinRegister.Text.Quoted

/-!
# Identifier masks

A mask selects identifiers: `*` stands for any run of characters, `?` for exactly one, and every other character for
itself, where ASCII letters stand for both cases. Neither wildcard takes a line feed. The same mask can be written as a
regular expression, and as a pattern of the `LIKE` operator with `\` as escape. A mask whose automaton is too large is
refused.
-/

namespace BasinRegister

open Glob (CharSet Step Pattern)

/-- A mask that was refused. -/
structure MaskError where
  /-- The text of the mask. -/
  mask : String
  deriving DecidableEq, Repr

/-- The wording of the refusal. -/
def MaskError.message (e : MaskError) : String :=
  "invalid id mask " ++ Text.quoted e.mask ++ ": Compiled regex exceeds size limit of 10485760 bytes."

/-- A mask that was accepted. -/
structure Mask where
  /-- The text of the mask. -/
  text : String
  deriving DecidableEq, Repr, Inhabited

namespace Mask

/-- The sizes of what a mask adds to an automaton that reads the bytes of an identifier. -/
structure Sizes where
  /-- What every automaton has. -/
  base : Nat
  /-- The size of a `*`. -/
  run : Nat
  /-- The size of a `?`. -/
  one : Nat
  /-- The size of an ASCII letter. -/
  letter : Nat
  /-- The size of a byte of another character. -/
  byte : Nat

namespace Sizes

/-- The sizes for the automaton that reads from the start. -/
def forwards : Sizes := ⟨192, 464, 424, 80, 32⟩

/-- The sizes for the automaton that reads from the end. Wildcards are larger there: the bytes that begin a character
tell how many follow, and are read last. -/
def backwards : Sizes := ⟨128, 1040, 1000, 80, 32⟩

/-- The size of a character of a mask. -/
def ofChar (sizes : Sizes) (c : Char) : Nat :=
  if c = '*' then sizes.run
  else if c = '?' then sizes.one
  else if c.isAlpha then sizes.letter
  else sizes.byte * c.utf8Size

/-- The size of the automaton of a mask. -/
def ofMask (sizes : Sizes) (text : String) : Nat :=
  text.toList.foldl (fun size c => size + sizes.ofChar c) sizes.base

end Sizes

/-- The greatest size of an automaton in bytes. -/
def sizeLimit : Nat := 10485760

/-- The mask of a text. -/
def compile (text : String) : Except MaskError Mask :=
  if Sizes.forwards.ofMask text ≤ sizeLimit && Sizes.backwards.ofMask text ≤ sizeLimit then .ok ⟨text⟩
  else .error ⟨text⟩

/-- The step that a character of a mask stands for. -/
def stepOf (c : Char) : Step :=
  if c = '*' then .run .exceptLineFeed
  else if c = '?' then .one .exceptLineFeed
  else if c.isAlpha then .one (.folded c)
  else .one (.exactly c)

/-- The pattern of a mask. -/
def pattern (m : Mask) : Pattern := m.text.toList.map stepOf

/-- Whether a mask selects an identifier. -/
def selects (m : Mask) (id : String) : Bool := m.pattern.accepts id.toList

/-- How a character of a mask stands in a regular expression. -/
def regexChar (c : Char) : List Char :=
  if c = '*' then ['.', '*']
  else if c = '?' then ['.']
  else if c.isAlpha then ['[', c.toLower, c.toUpper, ']']
  else Glob.Regex.escape c

/-- The regular expression of a mask. -/
def toRegex (m : Mask) : String := String.ofList ('^' :: (m.text.toList.flatMap regexChar ++ ['$']))

/-- How a character of a mask stands in a `LIKE` pattern. -/
def likeChar (c : Char) : List Char :=
  if c = '*' then ['%']
  else if c = '?' then ['_']
  else if c = '%' || c = '_' || c = '\\' then ['\\', c]
  else [c]

/-- The `LIKE` pattern of a mask. -/
def toLike (m : Mask) : String := String.ofList (m.text.toList.flatMap likeChar)

end Mask

end BasinRegister
