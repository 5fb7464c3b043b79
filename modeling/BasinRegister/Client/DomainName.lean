import BasinRegister.Client.DomainName.Composition
import BasinRegister.Client.DomainName.Direction
import BasinRegister.Client.DomainName.Joining
import BasinRegister.Client.DomainName.Replacement
import BasinRegister.Text.Punycode
import BasinRegister.Text.Shapeless

/-!
# Domain names

The ASCII form of a domain name. Its characters are replaced by the ones they stand for and composed; points then divide
the labels. A label that is not ASCII stands as `xn--` with its Punycode, and a label that begins so has to be the
Punycode of a label that is not ASCII and could not be written in any plainer way.
-/

namespace BasinRegister.DomainName

/-! ## Characters -/

/-- Characters with a shape that are refused all the same: those that would bring a point into a label, those that
describe how others are drawn, and those that stand for a lost object or character. -/
def refused : List (Nat × Nat) := Text.readRanges [
  "2024-2026 2488-249B 2FF0-2FFF 31EF 33C2 33C7 33D8 FE12 FE19 FE30 FE52 FFFC-FFFD 1F100"]

/-- Whether a character that is not ASCII may not stand in a name. -/
def isRefused (c : Char) : Bool :=
  (Text.isShapeless c && !isMark c && c != separator && c != joiner) || Text.inRanges c.toNat refused

/-- The characters that a character stands for, itself among them; nothing if it may not stand in a name. -/
def readChar? (c : Char) : Option (List Char) :=
  if Text.Punycode.isBasic c then some [c.toLower]
  else
    match replacement? c with
    | some replacement => some replacement
    | none => if isRefused c then none else some [c]

/-- Whether a character stands for itself. -/
def isPlain (c : Char) : Bool :=
  readChar? c == some [c]

/-- Whether an ASCII character may stand in a name. -/
def isPermitted (c : Char) : Bool :=
  0x20 < c.toNat && c.toNat < 0x7F &&
    !(['#', '%', '/', ':', '<', '>', '?', '@', '[', '\\', ']', '^', '|'].contains c)

/-! ## Labels -/

/-- The greatest number of characters of a label that is not ASCII. -/
def labelLimit : Nat := 1000

/-- The greatest number of characters of a Punycode that is read. -/
def codeLimit : Nat := 2000

/-- The characters that a label shows: those of its Punycode, if it begins so. -/
def shown? : List Char → Option (List Char)
  | 'x' :: 'n' :: '-' :: '-' :: code =>
    if codeLimit < code.length || !code.all Text.Punycode.isBasic then none
    else do
      let shown ← Text.Punycode.decode? code
      if shown.all Text.Punycode.isBasic || !shown.all isPlain || compose shown != shown then none else some shown
  | label => some label

/-- Whether a label may be shown: it is ASCII, or it does not begin with a mark, its joiners have an effect, and it is
not too long. -/
def isWellFormed (shown : List Char) : Bool :=
  shown.all Text.Punycode.isBasic ||
    (!shown.head?.any isMark && haveEffect [] shown && shown.length ≤ labelLimit)

/-- The ASCII form of a label. -/
def encode (label : List Char) : List Char :=
  if label.all Text.Punycode.isBasic then label else "xn--".toList ++ Text.Punycode.encode label

/-! ## Names -/

/-- The ASCII form of a name. -/
def ascii? (name : List Char) : Option (List Char) := do
  let plain ← name.mapM readChar?
  let labels := Text.pieces '.' (compose plain.flatten)
  let shown ← labels.mapM shown?
  let ascii := ['.'].intercalate (labels.map encode)
  if shown.all isWellFormed && (!shown.any isTwoWay || shown.all keepsPlaces) && ascii.all isPermitted then some ascii
  else none

end BasinRegister.DomainName
