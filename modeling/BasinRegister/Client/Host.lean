import BasinRegister.Client.DomainName
import BasinRegister.Service.SocketAddress
import BasinRegister.Text.Percent

/-!
# Hosts

The host of an address in the form in which it is sent. Brackets hold an address of version 6. Where the scheme is one
of the web, a name whose last label is a number is an address of version 4, and any other is a domain name. Elsewhere a
host is only a text without dividers.
-/

namespace BasinRegister.Host

/-! ## Addresses of version 4 -/

/-- The base of a number that may begin with `0x` or `0`, and its digits. -/
def splitBase : List Char → Nat × List Char
  | '0' :: 'x' :: digits => (16, digits)
  | '0' :: c :: digits => (8, c :: digits)
  | digits => (10, digits)

/-- A number in base ten, sixteen or eight. No digits behind `0x` are zero. -/
def readNumber? (cs : List Char) : Option Nat :=
  let (base, digits) := splitBase cs
  if cs.isEmpty then none
  else digits.foldlM (fun n c => (SocketAddress.digit? base c).map (n * base + ·)) 0

/-- The labels of a name, without the empty one behind a point at its end. -/
def labels (name : List Char) : List (List Char) :=
  let labels := Text.pieces '.' name
  if labels.getLast? = some [] then labels.dropLast else labels

/-- Whether the last label of a name is a number, or could only be meant as one. -/
def endsInNumber (name : List Char) : Bool :=
  match (labels name).getLast? with
  | some last => (!last.isEmpty && last.all Char.isDigit) || (readNumber? last).isSome
  | none => false

/-- The value of an address below a limit from its numbers: the last one takes all octets that the others leave. -/
def joinNumbers? : Nat → List Nat → Option Nat
  | _, [] => none
  | limit, [n] => if n < limit then some n else none
  | limit, n :: ns => if 255 < n then none else (joinNumbers? (limit / 256) ns).map (n * (limit / 256) + ·)

/-- The text of an address of version 4 that is written with one to four numbers. -/
def readAddress4? (name : List Char) : Option String := do
  let numbers ← (labels name).mapM readNumber?
  if 4 < numbers.length then none
  else
    let n ← joinNumbers? UInt32.size numbers
    some (SocketAddress.octetsText [n / 16777216, n / 65536 % 256, n / 256 % 256, n % 256])

/-! ## Hosts -/

/-- The text of a host in brackets, given what stands behind the first of them. -/
def readBracketed? (cs : List Char) : Option String :=
  match SocketAddress.takeAddress6 cs with
  | some (groups, [']']) => some ("[" ++ SocketAddress.shortGroupsText groups ++ "]")
  | _ => none

/-- The text of a host of the web. It may be written with percent codes. -/
def readWeb? : List Char → Option String
  | '[' :: cs => readBracketed? cs
  | cs => do
    let name ← DomainName.ascii? (← Text.decodeSegment (String.ofList cs)).toList
    if name.isEmpty then none
    else if endsInNumber name then readAddress4? name
    else some (String.ofList name)

/-- Whether a character divides the parts of an address. -/
def isDivider (c : Char) : Bool :=
  ['\x00', '\t', '\n', '\r', ' ', '#', '/', ':', '<', '>', '?', '@', '[', '\\', ']', '^', '|'].contains c

/-- Whether a character is no control character. -/
def isNoControl (c : Char) : Bool :=
  0x20 ≤ c.toNat && c.toNat < 0x7F

/-- The text of a host elsewhere. -/
def readOther? : List Char → Option String
  | '[' :: cs => readBracketed? cs
  | cs => if cs.any isDivider then none else some (String.ofList (Text.percentEncode isNoControl cs))

end BasinRegister.Host
