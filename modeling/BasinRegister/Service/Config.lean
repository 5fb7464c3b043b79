import BasinRegister.Service.SocketAddress
import BasinRegister.Text.Basic
import BasinRegister.Text.Quoted

/-!
# Configuration

What the service is told by variables: where to listen, where the data is, and how large pages are. A variable that is
not set has a default, and an empty path counts as not set.
-/

namespace BasinRegister

/-- A variable that has an unusable value. -/
structure ConfigError where
  /-- The name of the variable. -/
  name : String
  /-- Its value. -/
  value : String
  /-- What it should be. -/
  expected : String
  deriving DecidableEq, Repr

/-- The wording of the error. -/
def ConfigError.message (e : ConfigError) : String :=
  e.name ++ " must be " ++ e.expected ++ ", got " ++ Text.quoted e.value

/-- The configuration of the service. -/
structure Config where
  /-- Where to listen. -/
  bind : SocketAddress
  /-- The database file; without one the data is kept in memory. -/
  database : Option String
  /-- The page size of requests that state none. -/
  defaultPageSize : UInt32
  /-- The greatest page size. -/
  maxPageSize : UInt32
  /-- The file of the seed document. -/
  seed : Option String
  deriving DecidableEq, Repr

namespace Config

/-- The configuration unless variables state another one. -/
def defaults : Config :=
  { bind := .v4 [0, 0, 0, 0] 7000, database := none, defaultPageSize := 500, maxPageSize := 5000, seed := none }

/-- A variable read from its value without outer blanks, or its default. -/
def readVariable {α : Type} (lookup : String → Option String) (name expected : String)
    (read : String → Option α) (default : α) : Except ConfigError α :=
  match lookup name with
  | none => .ok default
  | some value =>
    match read (Text.trim value) with
    | some x => .ok x
    | none => .error { name, value, expected }

/-- A positive 32-bit number. -/
def readPositive (s : String) : Option UInt32 := (Text.readUInt32 s).filter (0 < ·)

/-- A path that is not empty. -/
def readPath (lookup : String → Option String) (name : String) : Option String :=
  (lookup name).filter (!·.isEmpty)

/-- The configuration that variables state. -/
def ofLookup (lookup : String → Option String) : Except ConfigError Config := do
  let bind ← readVariable lookup "RIVERDATA_BIND" "a valid socket address (e.g. 0.0.0.0:7000)" SocketAddress.read?
    defaults.bind
  let size ← readVariable lookup "RIVERDATA_DEFAULT_PAGE_SIZE" "a positive integer" readPositive
    defaults.defaultPageSize
  let most ← readVariable lookup "RIVERDATA_MAX_PAGE_SIZE" "a positive integer" readPositive defaults.maxPageSize
  return {
    bind
    database := readPath lookup "RIVERDATA_DB"
    defaultPageSize := min size most
    maxPageSize := most
    seed := readPath lookup "RIVERDATA_SEED" }

end Config

end BasinRegister
