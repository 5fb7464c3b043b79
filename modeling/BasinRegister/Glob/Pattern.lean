/-!
# Glob patterns

A pattern is a sequence of steps, each of which takes one character or a run of characters out of a set. A text matches
when the steps can be cut out of it in order with nothing left over (`Pattern.Matches`); `Pattern.accepts` decides this
from the end of the text backwards, with one row of answers for every step, so its work is the product of the two
lengths.
-/

namespace BasinRegister.Glob

/-- A set of characters. -/
inductive CharSet where
  /-- Every character. -/
  | any
  /-- Every character but the line feed. -/
  | exceptLineFeed
  /-- The characters equal to one up to ASCII case. -/
  | folded (c : Char)
  /-- A single character. -/
  | exactly (c : Char)
  deriving DecidableEq, Repr

/-- Whether a set holds a character. -/
def CharSet.holds : CharSet → Char → Bool
  | .any, _ => true
  | .exceptLineFeed, x => x != '\n'
  | .folded c, x => x.toLower == c.toLower
  | .exactly c, x => x == c

/-- A step of a pattern. -/
inductive Step where
  /-- One character of a set. -/
  | one (set : CharSet)
  /-- Any number of characters of a set. -/
  | run (set : CharSet)
  deriving DecidableEq, Repr

/-- A pattern. -/
abbrev Pattern := List Step

namespace Pattern

/-- What a pattern means: each step takes its part off the front of the text. -/
inductive Matches : Pattern → List Char → Prop where
  /-- No steps match the empty text. -/
  | nil : Matches [] []
  /-- A step takes one character. -/
  | one {set : CharSet} {p : Pattern} {c : Char} {cs : List Char} :
      set.holds c = true → Matches p cs → Matches (.one set :: p) (c :: cs)
  /-- A run takes characters of its set and leaves the rest to what follows. -/
  | run {set : CharSet} {p : Pattern} {taken cs : List Char} :
      (∀ c ∈ taken, set.holds c = true) → Matches p cs → Matches (.run set :: p) (taken ++ cs)

/-- The row of a pattern that starts with one character, from the row of what follows. A row has an answer for the text
and for each of its ends. -/
def oneRow (set : CharSet) : List Char → List Bool → List Bool
  | [], _ => [false]
  | c :: cs, row => (set.holds c && row.tail.headD false) :: oneRow set cs row.tail

/-- The row of a pattern that starts with a run, from the row of what follows. -/
def runRow (set : CharSet) : List Char → List Bool → List Bool
  | [], row => row
  | c :: cs, row =>
    let rest := runRow set cs row.tail
    (row.headD false || (set.holds c && rest.headD false)) :: rest

/-- The row of the pattern without steps: only the empty end matches. -/
def lastRow (text : List Char) : List Bool :=
  List.replicate text.length false ++ [true]

/-- Whether each end of a text matches. -/
def row (text : List Char) : Pattern → List Bool
  | [] => lastRow text
  | .one set :: p => oneRow set text (row text p)
  | .run set :: p => runRow set text (row text p)

/-- Whether a text matches. -/
def accepts (p : Pattern) (text : List Char) : Bool :=
  (row text p).headD false

end Pattern

end BasinRegister.Glob
