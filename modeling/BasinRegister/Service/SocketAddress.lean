import BasinRegister.Text.Numeral

/-!
# Socket addresses

An internet address with a port. An address of version 4 is four octets, as in `127.0.0.1:80`. One of version 6 is
eight groups of four hexadecimal digits in brackets, of which one run of zeros may be left out and the last two may be
written as an address of version 4, as in `[::1]:80`. A number may follow a `%` inside the brackets to tell interfaces
apart.
-/

namespace BasinRegister

/-- An internet address with a port. -/
inductive SocketAddress where
  /-- Four octets and a port. -/
  | v4 (octets : List Nat) (port : Nat)
  /-- Eight groups, the number of the interface, and a port. -/
  | v6 (groups : List Nat) (scope port : Nat)
  deriving DecidableEq, Repr

namespace SocketAddress

/-- The value of a digit of base ten or sixteen. -/
def digit? (base : Nat) (c : Char) : Option Nat :=
  let n :=
    if c.isDigit then some (c.toNat - 48)
    else if 'a' ≤ c.toLower && c.toLower ≤ 'f' then some (c.toLower.toNat - 87)
    else none
  n.filter (· < base)

/-- What a number may look like. -/
structure NumberRule where
  /-- The base. -/
  base : Nat
  /-- The greatest number of digits, if there is one. -/
  mostDigits : Option Nat
  /-- Numbers stay below this. -/
  limit : Nat
  /-- Whether there may be zeros in front. -/
  leadingZeros : Bool

/-- An octet of an address of version 4. -/
def octetRule : NumberRule := ⟨10, some 3, 256, false⟩

/-- A group of an address of version 6. -/
def groupRule : NumberRule := ⟨16, some 4, 65536, true⟩

/-- A port. -/
def portRule : NumberRule := ⟨10, none, 65536, true⟩

/-- The number of an interface. -/
def scopeRule : NumberRule := ⟨10, none, UInt32.size, true⟩

/-- A number at the front of a text, and what follows it. -/
def takeNumber (rule : NumberRule) (cs : List Char) : Option (Nat × List Char) :=
  let isDigit (c : Char) : Bool := (digit? rule.base c).isSome
  let digits := cs.takeWhile isDigit
  let value := digits.foldl (fun n c => n * rule.base + (digit? rule.base c).getD 0) 0
  if digits.isEmpty || rule.mostDigits.any (· < digits.length) then none
  else if !rule.leadingZeros && digits.head? == some '0' && 1 < digits.length then none
  else if value < rule.limit then some (value, cs.dropWhile isDigit)
  else none

/-- The text behind a character that it starts with. -/
def dropChar (c : Char) : List Char → Option (List Char)
  | [] => none
  | x :: cs => if x = c then some cs else none

/-- An address of version 4 at the front of a text. -/
def takeOctets (cs : List Char) : Option (List Nat × List Char) := do
  let (a, cs) ← takeNumber octetRule cs
  let (b, cs) ← takeNumber octetRule (← dropChar '.' cs)
  let (c, cs) ← takeNumber octetRule (← dropChar '.' cs)
  let (d, cs) ← takeNumber octetRule (← dropChar '.' cs)
  some ([a, b, c, d], cs)

/-- Two groups in the form of an address of version 4. -/
def takeOctetGroups (cs : List Char) : Option (List Nat × List Char) :=
  match takeOctets cs with
  | some ([a, b, c, d], rest) => some ([a * 256 + b, c * 256 + d], rest)
  | _ => none

/-- Groups that were read from a text. -/
structure TakenGroups where
  /-- The groups. -/
  groups : List Nat
  /-- Whether the last two were written as an address of version 4. -/
  endsInOctets : Bool
  /-- What follows them. -/
  rest : List Char

/-- Groups with colons between them at the front of a text, at most so many. -/
def takeGroups : Nat → Bool → List Char → TakenGroups
  | 0, _, cs => ⟨[], false, cs⟩
  | room + 1, isFirst, cs =>
    let start := if isFirst then some cs else dropChar ':' cs
    match if 1 ≤ room then start.bind takeOctetGroups else none with
    | some (groups, rest) => ⟨groups, true, rest⟩
    | none =>
      match start.bind (takeNumber groupRule) with
      | none => ⟨[], false, cs⟩
      | some (group, rest) =>
        let more := takeGroups room false rest
        { more with groups := group :: more.groups }

/-- The eight groups of an address of version 6 at the front of a text. The zeros left out are at least one group. -/
def takeAddress6 (cs : List Char) : Option (List Nat × List Char) :=
  let front := takeGroups 8 true cs
  if front.groups.length = 8 then some (front.groups, front.rest)
  else if front.endsInOctets then none
  else
    match front.rest with
    | ':' :: ':' :: cs =>
      let back := takeGroups (7 - front.groups.length) true cs
      let zeros := List.replicate (8 - front.groups.length - back.groups.length) 0
      some (front.groups ++ zeros ++ back.groups, back.rest)
    | _ => none

/-- The port at the end of a text. -/
def readPort (cs : List Char) : Option Nat := do
  match ← takeNumber portRule (← dropChar ':' cs) with
  | (port, []) => some port
  | _ => none

/-- The number of an interface, if there is one. -/
def takeScope (cs : List Char) : Nat × List Char :=
  ((dropChar '%' cs).bind (takeNumber scopeRule)).getD (0, cs)

/-- An address of version 4 with its port. -/
def read4 (cs : List Char) : Option SocketAddress := do
  let (octets, cs) ← takeOctets cs
  some (.v4 octets (← readPort cs))

/-- An address of version 6 with its port. -/
def read6 (cs : List Char) : Option SocketAddress := do
  let (groups, cs) ← takeAddress6 (← dropChar '[' cs)
  let (scope, cs) := takeScope cs
  some (.v6 groups scope (← readPort (← dropChar ']' cs)))

/-- The address of a text. -/
def read? (s : String) : Option SocketAddress :=
  (read4 s.toList).orElse fun _ => read6 s.toList

/-- A run of groups that are zero. -/
structure ZeroRun where
  /-- Where it starts. -/
  start : Nat
  /-- How long it is. -/
  length : Nat

/-- The first of the longest runs of zeros. -/
def longestZeros (groups : List Nat) : ZeroRun :=
  let step (state : ZeroRun × ZeroRun) (entry : Nat × Nat) : ZeroRun × ZeroRun :=
    let (longest, current) := state
    let (group, place) := entry
    if group = 0 then
      let current := ⟨if current.length = 0 then place else current.start, current.length + 1⟩
      (if longest.length < current.length then current else longest, current)
    else (longest, ⟨0, 0⟩)
  (groups.zipIdx.foldl step (⟨0, 0⟩, ⟨0, 0⟩)).1

/-- Groups with colons between them. -/
def groupsText (groups : List Nat) : String :=
  ":".intercalate (groups.map fun g => String.ofList (Nat.toDigits 16 g))

/-- Octets with points between them. -/
def octetsText (octets : List Nat) : String :=
  ".".intercalate (octets.map Text.numeral)

/-- Eight groups, of which the longest run of two or more zeros is left out. -/
def shortGroupsText (groups : List Nat) : String :=
  let zeros := longestZeros groups
  if 1 < zeros.length then
    groupsText (groups.take zeros.start) ++ "::" ++ groupsText (groups.drop (zeros.start + zeros.length))
  else groupsText groups

/-- An address of version 6 without brackets. An address of version 4 in disguise shows its octets. -/
def address6Text (groups : List Nat) : String :=
  match groups with
  | [0, 0, 0, 0, 0, 0xFFFF, a, b] => "::ffff:" ++ octetsText [a / 256, a % 256, b / 256, b % 256]
  | _ => shortGroupsText groups

/-- The text of an address. -/
def text : SocketAddress → String
  | .v4 octets port => octetsText octets ++ ":" ++ Text.numeral port
  | .v6 groups scope port =>
    let interface := if scope = 0 then "" else "%" ++ Text.numeral scope
    "[" ++ address6Text groups ++ interface ++ "]:" ++ Text.numeral port

end SocketAddress

end BasinRegister
