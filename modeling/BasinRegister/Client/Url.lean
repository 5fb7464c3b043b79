import BasinRegister.Client.Host
import BasinRegister.Text.Basic

/-!
# Addresses

The address of a request in its parts, in the form in which it is sent: the scheme in lower case, the host in its ASCII
form, no port that the scheme implies, a path without dot segments, and percent codes for what may not stand for itself.
The web has a few schemes with rules of their own: both slashes divide, and there is always a host. The scheme of files
has a host at most. Any other scheme has an authority only behind two slashes, and without any slash its path is opaque.
-/

namespace BasinRegister

/-- The address of a request. -/
structure Url where
  /-- The scheme. -/
  scheme : String
  /-- The host, with the port if the scheme does not imply it; empty if it is left out. -/
  authority : Option String
  /-- The path. -/
  path : String
  /-- The part behind the `?`. -/
  query : Option String
  /-- The part behind the `#`, which is never sent. -/
  fragment : Option String
  deriving DecidableEq, Repr

namespace Url

/-! ## Characters -/

/-- The characters before the first `d` and, if it occurs, the ones after it. -/
def split (d : Char) (cs : List Char) : List Char × Option (List Char) :=
  match Text.cutAt d cs with
  | some (before, after) => (before, some after)
  | none => (cs, none)

/-- Whether a character is ASCII and visible. -/
def isVisible (c : Char) : Bool :=
  0x20 < c.toNat && c.toNat < 0x7F

/-- Whether a character stands for itself behind the `#`. -/
def isFragmentChar (c : Char) : Bool :=
  isVisible c && !(['\x22', '<', '>', Char.ofNat 0x60].contains c)

/-- Whether a character stands for itself in a path. -/
def isPathChar (c : Char) : Bool :=
  isFragmentChar c && !(['#', '?', '\x7b', '\x7d'].contains c)

/-- Whether a character stands for itself in the name or the password of a user. -/
def isUserChar (c : Char) : Bool :=
  isPathChar c && !(['/', ':', ';', '=', '@', '[', '\\', ']', '^', '|'].contains c)

/-- Whether a character stands for itself in a query. -/
def isQueryChar (c : Char) : Bool :=
  isVisible c && !(['\x22', '#', '<', '>'].contains c)

/-! ## Schemes -/

/-- How the addresses of a scheme are read. -/
inductive SchemeRule where
  /-- As addresses of the web, with the port that the scheme implies. -/
  | web (port : Nat)
  /-- As addresses of files. -/
  | file
  /-- As any other addresses. -/
  | other
  deriving DecidableEq, Repr

namespace SchemeRule

/-- The rule of a scheme. -/
def of (scheme : String) : SchemeRule :=
  match scheme with
  | "http" | "ws" => .web 80
  | "https" | "wss" => .web 443
  | "ftp" => .web 21
  | "file" => .file
  | _ => .other

/-- Whether a character divides segments. -/
def isSlash (rule : SchemeRule) (c : Char) : Bool :=
  c == '/' || (c == '\\' && rule != .other)

/-- Whether a character stands for itself in a query. -/
def isQueryChar (rule : SchemeRule) (c : Char) : Bool :=
  Url.isQueryChar c && (c != '\x27' || rule == .other)

/-- The port that is implied. -/
def impliedPort? : SchemeRule → Option Nat
  | .web port => some port
  | _ => none

end SchemeRule

/-- The scheme of a text and what stands behind the colon. -/
def takeScheme? (cs : List Char) : Option (String × List Char) := do
  let (scheme, rest) ← Text.cutAt ':' cs
  let isSchemeChar (c : Char) := c.isAlphanum || c == '+' || c == '-' || c == '.'
  if (scheme.head?.any Char.isAlpha) && scheme.all isSchemeChar then
    some (Text.fold (String.ofList scheme), rest)
  else none

/-! ## Authorities -/

/-- The user and the password before a host, as they stay in the address. They are taken out of it and sent on their
own, unless they are no text. -/
def keptUser (cs : List Char) : String :=
  let (name, password) := split ':' cs
  let name := String.ofList (Text.percentEncode isUserChar name)
  let password := String.ofList (Text.percentEncode isUserChar (password.getD []))
  let isText (s : String) := (Text.decodeSegment s).isSome
  if isText name && (!name.isEmpty || isText password) then ""
  else if password.isEmpty then name ++ "@"
  else name ++ ":" ++ password ++ "@"

/-- The port behind a host, and the path that follows at once. -/
def readPort? (implied : Option Nat) (cs : List Char) : Option (String × List Char) :=
  let digits := cs.takeWhile Char.isDigit
  let rest := cs.dropWhile Char.isDigit
  let port := (Text.readDigits 0 digits).getD 0
  if 65535 < port || !(rest.isEmpty || rest.head? = some '\\') then none
  else if digits.isEmpty || some port = implied then some ("", rest)
  else some (":" ++ Text.numeral port, rest)

/-- The characters of a host, up to a colon outside brackets, and what follows them. -/
def splitHost (isInside : Bool) : List Char → List Char × Option (List Char)
  | [] => ([], none)
  | c :: cs =>
    if c = ':' && !isInside then ([], some cs)
    else
      let (host, rest) := splitHost (c == '[' || (isInside && c != ']')) cs
      (c :: host, rest)

/-- The text of a host and the port behind it, and the path that follows at once. -/
def readHostAndPort? (rule : SchemeRule) (cs : List Char) : Option (String × List Char) := do
  let (host, port) := splitHost false cs
  let isWeb := rule != .other
  if host.isEmpty && (isWeb || port.isSome) then none
  else
    let host ← if isWeb then Host.readWeb? host else Host.readOther? host
    let (port, rest) ← (port.map (readPort? rule.impliedPort?)).getD (some ("", []))
    some (host ++ port, rest)

/-- The authority of the characters up to a slash, and the path that follows at once. A user needs a host. -/
def readAuthority? (rule : SchemeRule) (cs : List Char) : Option (String × List Char) := do
  let pieces := Text.pieces '@' cs
  let user := ['@'].intercalate pieces.dropLast
  let (host, rest) ← readHostAndPort? rule (pieces.getLast?.getD [])
  let kept := if pieces.length < 2 then "" else keptUser user
  if host.isEmpty && 1 < pieces.length && user != [':'] then none else some (kept ++ host, rest)

/-! ## Paths -/

/-- The characters of a segment with the percent codes of dots written as dots. -/
def plainDots : List Char → List Char
  | [] => []
  | '%' :: '2' :: c :: rest =>
    if c.toLower = 'e' then '.' :: plainDots rest else '%' :: plainDots ('2' :: c :: rest)
  | c :: rest => c :: plainDots rest

/-- Whether a segment is the letter of a drive. -/
def isDrive : List Char → Bool
  | [letter, mark] => letter.isAlpha && (mark == ':' || mark == '|')
  | _ => false

/-- The kept segments without the last one, which stays if it is a drive. -/
def dropLast : List (List Char) → List (List Char)
  | [] => []
  | segment :: kept => if isDrive segment then segment :: kept else kept

/-- The segments of a path without dot segments, given the kept ones before them in reverse. Behind a dot segment at the
end the path still ends with a slash. -/
def dropDots (kept : List (List Char)) : List (List Char) → List (List Char)
  | [] => kept.reverse
  | segment :: rest =>
    let dots := plainDots segment
    let kept := if dots = ['.', '.'] then dropLast kept else if dots = ['.'] then kept else segment :: kept
    match rest with
    | [] => (if dots = ['.'] || dots = ['.', '.'] then [] :: kept else kept).reverse
    | _ => dropDots kept rest

/-- The segments between slashes, without dot segments. -/
def readSegments (rule : SchemeRule) (cs : List Char) : List (List Char) :=
  let segments := Text.pieces '/' (cs.map fun c => if rule.isSlash c then '/' else c)
  dropDots [] (segments.map (Text.percentEncode isPathChar))

/-- The path of segments. -/
def joinSegments (segments : List (List Char)) : String :=
  String.ofList ('/' :: ['/'].intercalate segments)

/-- The path of the characters behind a slash. -/
def readPath (rule : SchemeRule) (cs : List Char) : String :=
  joinSegments (readSegments rule cs)

/-! ## Reading -/

/-- Segments with a drive at the start marked with a colon, and whether there is one. -/
def markDrive : List (List Char) → List (List Char) × Bool
  | [letter, mark] :: rest =>
    if isDrive [letter, mark] then ([letter, ':'] :: rest, true) else ([letter, mark] :: rest, false)
  | segments => (segments, false)

/-- The path of a file, and whether a drive begins it. Nothing may stand before the drive, not even an empty segment;
empty segments at the start are then left out. -/
def readFilePath (cs : List Char) : String × Bool :=
  let (segments, hasDrive) := markDrive (readSegments .file cs)
  match segments.dropWhile List.isEmpty with
  | [] => ("/", hasDrive)
  | segments => (joinSegments segments, hasDrive)

/-- Authority and path of a file behind two slashes. A drive in the place of the host begins the path. The slash behind
the name of another machine divides only, and a drive behind it is on this machine. -/
def readFileHost? (cs : List Char) : Option (String × String) := do
  let isSlash := SchemeRule.file.isSlash
  let host := cs.takeWhile (!isSlash ·)
  let rest := cs.dropWhile (!isSlash ·)
  if isDrive host then some ("", (readFilePath cs).1)
  else
    let host ← if host.isEmpty then some "" else Host.readWeb? host
    if host.isEmpty || host == "localhost" then some ("", (readFilePath rest).1)
    else
      let (path, hasDrive) := readFilePath (rest.drop 1)
      some (if hasDrive then "" else host, path)

/-- Authority and path of a file. -/
def readFile? (cs : List Char) : Option (String × String) :=
  let isSlash := SchemeRule.file.isSlash
  match cs with
  | a :: b :: rest =>
    if isSlash a && isSlash b then readFileHost? rest
    else some ("", (readFilePath (if isSlash a then b :: rest else cs)).1)
  | _ => some ("", (readFilePath cs).1)

/-- Authority and path of an address whose scheme has no rules of its own. -/
def readOther? : List Char → Option (Option String × String)
  | '/' :: '/' :: rest => do
    let (authority, gap) ← readAuthority? .other (rest.takeWhile (· != '/'))
    match gap ++ rest.dropWhile (· != '/') with
    | [] => some (some authority, "")
    | '/' :: path => some (some authority, readPath .other path)
    | path => some (some authority, readPath .other path)
  | '/' :: rest => some (none, readPath .other rest)
  | path => some (none, String.ofList (Text.percentEncode Host.isNoControl path))

/-- Authority and path of the characters between the scheme and the query. -/
def readPlace? (rule : SchemeRule) (cs : List Char) : Option (Option String × String) :=
  match rule with
  | .file => (readFile? cs).map fun (authority, path) => (some authority, path)
  | .other => readOther? cs
  | .web _ => do
    let rest := cs.dropWhile rule.isSlash
    let (authority, _) ← readAuthority? rule (rest.takeWhile (!rule.isSlash ·))
    some (some authority, readPath rule ((rest.dropWhile (!rule.isSlash ·)).drop 1))

/-- The address that a text gives. -/
def ofText? (s : String) : Option Url := do
  let isOuter (c : Char) := c.toNat ≤ 0x20
  let cs := ((s.toList.dropWhile isOuter).reverse.dropWhile isOuter).reverse
  let (scheme, rest) ← takeScheme? (cs.filter fun c => c != '\t' && c != '\n' && c != '\r')
  let rule := SchemeRule.of scheme
  let (rest, fragment) := split '#' rest
  let (rest, query) := split '?' rest
  let (authority, path) ← readPlace? rule rest
  return {
    scheme
    authority
    path
    query := query.map fun cs => String.ofList (Text.percentEncode rule.isQueryChar cs)
    fragment := fragment.map fun cs => String.ofList (Text.percentEncode isFragmentChar cs) }

/-! ## Use -/

/-- Whether the address names a host. -/
def hasHost (url : Url) : Bool :=
  url.authority.any (!·.isEmpty)

/-- The address with pairs added to its query, which is left out if it then is empty. -/
def withPairs (url : Url) (pairs : List (String × String)) : Url :=
  let query := "&".intercalate ([url.query.getD "", Text.formEncodePairs pairs].filter (!·.isEmpty))
  { url with query := if query.isEmpty then none else some query }

/-- Path and query, as a request states them. -/
def target (url : Url) : String :=
  url.path ++ (url.query.map ("?" ++ ·)).getD ""

/-- The address as a text. Without an authority, a path may not look as if it began with one. -/
def text (url : Url) : String :=
  let place :=
    match url.authority with
    | some authority => "//" ++ authority
    | none => if url.path.toList.take 2 = ['/', '/'] then "/." else ""
  url.scheme ++ ":" ++ place ++ url.target ++ (url.fragment.map ("#" ++ ·)).getD ""

/-- The greatest size of the address of a request in bytes. -/
def sizeLimit : Nat := 65534

/-- Whether a request can be sent to the address: it is one of the web, it is not too long, and nothing in its host has
to stand in a percent code. -/
def isSendable (url : Url) : Bool :=
  (url.scheme == "http" || url.scheme == "https") && url.text.utf8ByteSize ≤ sizeLimit &&
    (url.authority.getD "").toList.all isPathChar

end Url

end BasinRegister
