import BasinRegister.Media.Range
import BasinRegister.Text.Basic
import BasinRegister.Text.Quoted

/-!
# Content types

What the choice of a format looks at: the lower-case base of a media range and its version. A bare word such as `json`
is a base as well and has no version.
-/

namespace BasinRegister

/-- A content type. -/
structure ContentType where
  /-- The base in lower case. -/
  base : String
  /-- The version, if one is stated. -/
  version : Option String
  deriving DecidableEq, Repr, Inhabited

namespace ContentType

/-- A content type without a version. -/
def unversioned (base : String) : ContentType :=
  { base := Text.fold (Text.trim base), version := none }

/-- A content type with a version. -/
def versioned (base version : String) : ContentType :=
  { base := Text.fold (Text.trim base), version := some (Text.trim version) }

/-- Whether a character may stand in a bare word. -/
def isWordChar (c : Char) : Bool :=
  c.isAlphanum || c == '-' || c == '+' || c == '.' || c == '_'

/-- The bare word in front of the first semicolon. -/
def ofWord (text : String) : Option ContentType :=
  let word := Text.trimChars (text.toList.takeWhile (· != ';'))
  if !word.isEmpty && word.all isWordChar then some (unversioned (String.ofList word)) else none

/-- The content type of a media range. Double quotes around the version are no part of it. -/
def ofRange (range : MediaRange) : ContentType :=
  { base := range.essence
    version := (range.parameter? "version").map MediaRange.withoutQuotes }

/-- The content type of a text, with the media range if it is one. A text without a slash is a bare word. -/
def read? (raw : String) : Option (ContentType × Option MediaRange) :=
  let text := Text.trim raw
  if text.toList.contains '/' then (MediaRange.parse? text).map fun range => (ofRange range, some range)
  else (ofWord text).map (·, none)

/-- The content type of a text. -/
def parse? (raw : String) : Option ContentType := (read? raw).map (·.1)

/-- Whether it stands for every content type. -/
def isAny (c : ContentType) : Bool := c.base = "*/*"

/-- A content type as a text. -/
def text (c : ContentType) : String :=
  match c.version with
  | some version => c.base ++ ";version=" ++ version
  | none => c.base

/-- Whether one content type is not behind another in the order by base and then by version, where no version comes
first. -/
def le (a b : ContentType) : Bool :=
  if a.base = b.base then
    match a.version, b.version with
    | none, _ => true
    | some _, none => false
    | some v, some w => v ≤ w
  else a.base ≤ b.base

/-- A content type with the names of its fields. -/
def described (c : ContentType) : String :=
  let version := match c.version with
    | some v => "Some(" ++ Text.quoted v ++ ")"
    | none => "None"
  "ContentType \x7b base: " ++ Text.quoted c.base ++ ", version: " ++ version ++ " \x7d"

end ContentType

end BasinRegister
