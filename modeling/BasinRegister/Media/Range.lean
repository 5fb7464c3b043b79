import BasinRegister.Text.Basic

/-!
# Media ranges

A media range is `type/subtype` followed by parameters, as in `application/json; version=2`. Type, subtype and the names
of parameters are made of token characters; a value is a token or stands between double quotes. Spaces may stand before
a name and behind a quoted value, and nowhere else.
-/

namespace BasinRegister

/-- A media range. -/
structure MediaRange where
  /-- Type and subtype with the slash between them, in lower case. -/
  essence : String
  /-- The parameters as they stand. -/
  parameters : List (String × String)
  deriving DecidableEq, Repr

namespace MediaRange

/-- The characters that tokens are made of. -/
def isTokenChar (c : Char) : Bool :=
  c.isAlphanum || "!#$%&'*+-.^_|~".toList.contains c || c == Char.ofNat 0x60

/-- The characters that may stand between quotes. -/
def isQuotable (c : Char) : Bool := 31 < c.toNat && c.toNat ≠ 127

/-- How far the parameters have been read. Characters read so far are held in reverse. -/
inductive Place where
  /-- Before the name of a parameter. -/
  | before
  /-- In a name. -/
  | name (seen : List Char)
  /-- In a value without quotes. -/
  | value (name : String) (seen : List Char)
  /-- In a value between quotes. -/
  | quoted (name : String) (seen : List Char)
  /-- Behind the closing quote. -/
  | behind
  deriving Repr

/-- The parameters read so far and the place after them. -/
abbrev Progress := List (String × String) × Place

/-- One more character of the parameters. The first character behind an opening quote belongs to the value even if it is
a quote. -/
def step : Progress → Char → Option Progress
  | (ps, .before), c =>
    if c = ' ' then some (ps, .before) else if isTokenChar c then some (ps, .name [c]) else none
  | (ps, .name seen), c =>
    if c = '=' then some (ps, .value (String.ofList seen.reverse) [])
    else if isTokenChar c then some (ps, .name (c :: seen))
    else none
  | (ps, .value n seen), c =>
    if c = '\x22' && seen.isEmpty then some (ps, .quoted n [])
    else if c = ';' && !seen.isEmpty then some (ps ++ [(n, String.ofList seen.reverse)], .before)
    else if isTokenChar c then some (ps, .value n (c :: seen))
    else none
  | (ps, .quoted n seen), c =>
    if c = '\x22' && !seen.isEmpty then some (ps ++ [(n, String.ofList seen.reverse)], .behind)
    else if isQuotable c then some (ps, .quoted n (c :: seen))
    else none
  | (ps, .behind), c =>
    if c = ';' then some (ps, .before) else if c = ' ' then some (ps, .behind) else none

/-- The parameters at the end of the text. A value without quotes may be empty here. -/
def finish : Progress → Option (List (String × String))
  | (ps, .before) => some ps
  | (ps, .behind) => some ps
  | (ps, .value n seen) => some (ps ++ [(n, String.ofList seen.reverse)])
  | (_, .name _) => none
  | (_, .quoted _ _) => none

/-- The parameters of a text. -/
def parseParameters (cs : List Char) : Option (List (String × String)) := do
  finish (← cs.foldlM step ([], .before))

/-- The media range of a text. Only at the end of the text may the subtype be empty. -/
def parse? (s : String) : Option MediaRange :=
  let cs := s.toList
  let type := cs.takeWhile isTokenChar
  match cs.dropWhile isTokenChar with
  | '/' :: rest =>
    let subtype := rest.takeWhile isTokenChar
    let essence := String.ofList ((type ++ '/' :: subtype).map Char.toLower)
    if type.isEmpty then none
    else
      match rest.dropWhile isTokenChar with
      | [] => some { essence, parameters := [] }
      | ';' :: rest =>
        if subtype.isEmpty then none
        else (parseParameters rest).map fun parameters => { essence, parameters }
      | _ => none
  | _ => none

/-- The value of the first parameter of a name; names are compared without regard to case. -/
def parameter? (range : MediaRange) (name : String) : Option String :=
  (range.parameters.find? fun p => Text.sameFolded p.1 name).map (·.2)

/-- A value without the double quotes at its ends. -/
def withoutQuotes (value : String) : String :=
  let cs := value.toList.dropWhile (· == '\x22')
  String.ofList (cs.reverse.dropWhile (· == '\x22')).reverse

end MediaRange

end BasinRegister
