/-!
# Punycode

A text in ASCII for any text: its ASCII characters, a `-`, and then where and which the other characters are. These are
told in the order of their code points, each by how far it is from the one before, counted in places where a character
could have been added. Such a distance is a number whose least digit comes first and whose digits are letters and then
figures. What a digit may hold at a place without being the last one depends on the distances so far.
-/

namespace BasinRegister.Text.Punycode

/-- The digit of a value below 36. -/
def digitOf (n : Nat) : Char :=
  if n < 26 then Char.ofNat (97 + n) else Char.ofNat (22 + n)

/-- The value of a digit. -/
def valueOf? (c : Char) : Option Nat :=
  if c.isLower then some (c.toNat - 97)
  else if c.isUpper then some (c.toNat - 65)
  else if c.isDigit then some (c.toNat - 22)
  else none

/-- A digit below this is the last one of its number. Places count from 36 in steps of 36. -/
def threshold (bias place : Nat) : Nat :=
  max 1 (min 26 (place - bias))

theorem threshold_pos (bias place : Nat) : 1 ≤ threshold bias place := by
  unfold threshold
  omega

/-- The bias that a scaled distance gives, with what larger scales have added to it. -/
def settledBias (delta added : Nat) : Nat :=
  if 455 < delta then settledBias (delta / 35) (added + 36) else added + 36 * delta / (delta + 38)
termination_by delta
decreasing_by omega

/-- The bias behind a distance, given how many characters there are then. -/
def nextBias (delta count : Nat) (isFirst : Bool) : Nat :=
  let delta := if isFirst then delta / 700 else delta / 2
  settledBias (delta + delta / count) 0

/-- The digits of a number from a place on. -/
def digits (bias place n : Nat) : List Char :=
  let t := threshold bias place
  if n < t then [digitOf n] else digitOf (t + (n - t) % (36 - t)) :: digits bias (place + 36) ((n - t) / (36 - t))
termination_by n
decreasing_by
  have := threshold_pos bias place
  have := Nat.div_le_self (n - threshold bias place) (36 - threshold bias place)
  omega

/-! ## Writing -/

/-- What is written of a text. -/
structure Written where
  /-- The digits so far. -/
  text : List Char
  /-- The distance from the last character told. -/
  delta : Nat
  /-- The bias. -/
  bias : Nat
  /-- How many characters are told, the ASCII ones among them. -/
  count : Nat

/-- Passes a character of the text while the characters of one code point are told. -/
def Written.pass (basic point : Nat) (w : Written) (c : Char) : Written :=
  if c.toNat < point then { w with delta := w.delta + 1 }
  else if c.toNat = point then
    { text := w.text ++ digits w.bias 36 w.delta
      delta := 0
      bias := nextBias w.delta (w.count + 1) (w.count == basic)
      count := w.count + 1 }
  else w

/-- Tells the characters of each code point in turn, from a code point on. -/
def Written.tell (cs : List Char) (basic : Nat) (w : Written) (start : Nat) : List Nat → Written
  | [] => w
  | point :: points =>
    let w := cs.foldl (pass basic point) { w with delta := w.delta + (point - start) * (w.count + 1) }
    tell cs basic { w with delta := w.delta + 1 } (point + 1) points

/-- Whether a character is ASCII. -/
def isBasic (c : Char) : Bool := c.toNat < 0x80

/-- The ASCII form of a text. -/
def encode (cs : List Char) : List Char :=
  let basic := cs.filter isBasic
  let points := ((cs.filter (!isBasic ·)).map Char.toNat).mergeSort.eraseDups
  let written := Written.tell cs basic.length ⟨[], 0, 72, basic.length⟩ 0x80 points
  (if basic.isEmpty then [] else basic ++ ['-']) ++ written.text

/-! ## Reading -/

/-- What is read of a text. -/
structure Taken where
  /-- The characters so far. -/
  text : List Char
  /-- The code point that was last added. -/
  point : Nat
  /-- Where the next character of that code point could be added. -/
  index : Nat
  /-- The bias. -/
  bias : Nat
  /-- The number that is being read. -/
  delta : Nat
  /-- What the next digit of it counts. -/
  weight : Nat
  /-- The place of the next digit. -/
  place : Nat

/-- Reads a digit. -/
def Taken.step? (s : Taken) (c : Char) : Option Taken := do
  let digit ← valueOf? c
  let t := threshold s.bias s.place
  let delta := s.delta + digit * s.weight
  if t ≤ digit then some { s with delta, weight := s.weight * (36 - t), place := s.place + 36 }
  else
    let count := s.text.length + 1
    let point := s.point + (s.index + delta) / count
    let index := (s.index + delta) % count
    if point.isValidChar then
      some {
        text := s.text.take index ++ Char.ofNat point :: s.text.drop index
        point
        index := index + 1
        bias := nextBias delta count (s.index == 0)
        delta := 0
        weight := 1
        place := 36 }
    else none

/-- The text of an ASCII form. A `-` with nothing before it is no divider. -/
def decode? (cs : List Char) : Option (List Char) := do
  let tail := (cs.reverse.takeWhile (· != '-')).reverse
  let basic := cs.take (cs.length - tail.length - 1)
  let taken ← (if basic.isEmpty then cs else tail).foldlM Taken.step? ⟨basic, 0x80, 0, 72, 0, 1, 36⟩
  if basic.all isBasic && taken.place = 36 then some taken.text else none

end BasinRegister.Text.Punycode
