import BasinRegister.Json.Numeric

/-!
# Reading JSON

A text is read as one JSON value with blanks around it, or refused. Values that are well-formed but cannot be held
become `Json.unreadable`, so that a reader that skips them never fails because of them. A reader that keeps the whole
document fails because of them, and because of values that stand too deep within each other.
-/

namespace BasinRegister.Json

/-- The characters that may stand between the parts of a document. -/
def isSpace (c : Char) : Bool :=
  c == ' ' || c == '\t' || c == '\n' || c == '\r'

/-- The text behind the blanks at its front. -/
def skipSpace (cs : List Char) : List Char := cs.dropWhile isSpace

/-- A piece of a string: a character, or a 16-bit unit written in base sixteen. -/
inductive StringPiece where
  /-- A character. -/
  | char (c : Char)
  /-- A 16-bit unit. -/
  | codeUnit (n : Nat)
  deriving Repr

/-- The value of a digit of base sixteen. -/
def hexValue? (c : Char) : Option Nat :=
  if c.isDigit then some (c.toNat - 48)
  else if 'a' ≤ c && c ≤ 'f' then some (c.toNat - 87)
  else if 'A' ≤ c && c ≤ 'F' then some (c.toNat - 55)
  else none

/-- The number of four digits of base sixteen. -/
def hexUnit? (a b c d : Char) : Option Nat := do
  let a ← hexValue? a
  let b ← hexValue? b
  let c ← hexValue? c
  let d ← hexValue? d
  some (((a * 16 + b) * 16 + c) * 16 + d)

/-- The character of a one-letter escape. -/
def unescape? : Char → Option Char
  | '\x22' => some '\x22'
  | '\\' => some '\\'
  | '/' => some '/'
  | 'b' => some '\x08'
  | 'f' => some '\x0c'
  | 'n' => some '\n'
  | 'r' => some '\r'
  | 't' => some '\t'
  | _ => none

/-- The pieces of a string up to its closing quote, and what follows it. -/
def takePieces : List Char → Option (List StringPiece × List Char)
  | [] => none
  | '\x22' :: cs => some ([], cs)
  | '\\' :: 'u' :: a :: b :: c :: d :: cs =>
    match hexUnit? a b c d, takePieces cs with
    | some n, some (ps, rest) => some (.codeUnit n :: ps, rest)
    | _, _ => none
  | '\\' :: e :: cs =>
    match unescape? e, takePieces cs with
    | some c, some (ps, rest) => some (.char c :: ps, rest)
    | _, _ => none
  | c :: cs =>
    if c.toNat < 32 || c = '\\' then none
    else
      match takePieces cs with
      | some (ps, rest) => some (.char c :: ps, rest)
      | none => none

/-- Whether a 16-bit unit is the first half of a pair. -/
def isHighHalf (n : Nat) : Bool := 0xD800 ≤ n && n ≤ 0xDBFF

/-- Whether a 16-bit unit is the second half of a pair. -/
def isLowHalf (n : Nat) : Bool := 0xDC00 ≤ n && n ≤ 0xDFFF

/-- The characters of the pieces; nothing if half a pair stands alone. -/
def joinPieces : List StringPiece → Option (List Char)
  | [] => some []
  | .char c :: ps => (joinPieces ps).map (c :: ·)
  | .codeUnit n :: ps =>
    if isLowHalf n then none
    else if isHighHalf n then
      match ps with
      | .codeUnit m :: ps =>
        if isLowHalf m then
          (joinPieces ps).map (Char.ofNat (0x10000 + (n - 0xD800) * 0x400 + (m - 0xDC00)) :: ·)
        else none
      | _ => none
    else (joinPieces ps).map (Char.ofNat n :: ·)

/-- A string behind its opening quote: its text, if it can be held, and what follows it. -/
def takeString (cs : List Char) : Option (Option String × List Char) :=
  (takePieces cs).map fun (ps, rest) => ((joinPieces ps).map String.ofList, rest)

/-- The object of members of which some names may be unreadable. -/
def ofMembers (members : List (Option String × Json)) : Json :=
  match members.mapM fun (name, v) => name.map (·, v) with
  | some members => .object members
  | none => .unreadable

/-- The text behind a word that it starts with. -/
def dropWord (word : String) (cs : List Char) : Option (List Char) :=
  if word.toList.isPrefixOf cs then some (cs.drop word.length) else none

mutual

/-- A value at the front of a text, and what follows it. -/
def takeValue : Nat → List Char → Option (Json × List Char)
  | 0, _ => none
  | fuel + 1, cs =>
    match skipSpace cs with
    | '\x22' :: cs => (takeString cs).map fun (s, rest) => ((s.map Json.text).getD .unreadable, rest)
    | '[' :: cs =>
      match skipSpace cs with
      | ']' :: rest => some (.array [], rest)
      | cs => (takeItems fuel cs).map fun (items, rest) => (.array items, rest)
    | '\x7b' :: cs =>
      match skipSpace cs with
      | '\x7d' :: rest => some (.object [], rest)
      | cs => (takeMembers fuel cs).map fun (members, rest) => (ofMembers members, rest)
    | 'n' :: cs => (dropWord "ull" cs).map (Json.null, ·)
    | 't' :: cs => (dropWord "rue" cs).map (Json.bool true, ·)
    | 'f' :: cs => (dropWord "alse" cs).map (Json.bool false, ·)
    | cs => (NumberText.take cs).map fun (n, rest) => (n.value, rest)

/-- One or more items up to the closing bracket. -/
def takeItems : Nat → List Char → Option (List Json × List Char)
  | 0, _ => none
  | fuel + 1, cs => do
    let (v, cs) ← takeValue fuel cs
    match skipSpace cs with
    | ',' :: cs =>
      let (vs, rest) ← takeItems fuel cs
      some (v :: vs, rest)
    | ']' :: rest => some ([v], rest)
    | _ => none

/-- One or more members up to the closing brace. -/
def takeMembers : Nat → List Char → Option (List (Option String × Json) × List Char)
  | 0, _ => none
  | fuel + 1, cs => do
    match skipSpace cs with
    | '\x22' :: cs =>
      let (name, cs) ← takeString cs
      match skipSpace cs with
      | ':' :: cs =>
        let (v, cs) ← takeValue fuel cs
        match skipSpace cs with
        | ',' :: cs =>
          let (ms, rest) ← takeMembers fuel cs
          some ((name, v) :: ms, rest)
        | '\x7d' :: rest => some ([(name, v)], rest)
        | _ => none
      | _ => none
    | _ => none

end

/-- The value of a document. Every step down takes at least half a character, so twice the length bounds the depth. -/
def read? (s : String) : Option Json :=
  let cs := s.toList
  match takeValue (2 * cs.length + 2) cs with
  | some (v, rest) => if (skipSpace rest).isEmpty then some v else none
  | none => none

mutual

/-- Whether all of a value can be kept: nothing in it is unreadable, and at most so many arrays and objects stand within
each other. -/
def isKept (levels : Nat) : Json → Bool
  | .unreadable => false
  | .array items => 0 < levels && areItemsKept (levels - 1) items
  | .object members => 0 < levels && areMembersKept (levels - 1) members
  | _ => true

/-- Whether all of some items can be kept. -/
def areItemsKept (levels : Nat) : List Json → Bool
  | [] => true
  | v :: vs => isKept levels v && areItemsKept levels vs

/-- Whether all of some members can be kept. -/
def areMembersKept (levels : Nat) : List (String × Json) → Bool
  | [] => true
  | (_, v) :: ms => isKept levels v && areMembersKept levels ms

end

/-- The value of a document that is kept as a whole, down to 127 arrays and objects within each other. -/
def readWhole? (s : String) : Option Json := (read? s).filter (isKept 127)

end BasinRegister.Json
