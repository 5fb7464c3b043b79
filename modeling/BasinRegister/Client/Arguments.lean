import BasinRegister.Client.Help
import BasinRegister.Text.Numeral
import BasinRegister.Text.Split

/-!
# Arguments of the client

Arguments are read from left to right. An argument with a leading `-` is an option, a lone `-` and everything behind
`--` is not. An option is a flag or takes a value, in the same argument behind `=` or else in the next one, which may
then not be an option. Only some options may be repeated. The first argument that does not fit ends the reading, and
so does a request for help.
-/

namespace BasinRegister.Client

/-- What the client is asked to do. -/
inductive Command where
  /-- Prints the pages of a listing. -/
  | list (base path accept : String) (pageSize : Option UInt32) (isComplete : Bool) (queries : List String)
  /-- Shows what a token says. -/
  | decode (token : String) (defaultPageSize : UInt32)
  /-- Prints the token of a cursor. -/
  | encode (offset : UInt64) (pageSize : UInt32) (total : Option UInt64)
  deriving DecidableEq, Repr

/-- Why arguments give no command. -/
inductive Halt where
  /-- They do not fit. -/
  | misused
  /-- They ask for help on a topic, in full or not. -/
  | help (topic : Topic) (isFull : Bool)
  /-- They ask for the version. -/
  | version
  deriving DecidableEq, Repr

/-- What an option takes. -/
inductive OptionShape where
  /-- Nothing. -/
  | flag
  /-- A value, once. -/
  | single (accepts : String → Bool)
  /-- A value, any number of times. -/
  | repeated

/-- The options of a command and the number of its other arguments. -/
structure Shape where
  /-- The command as a topic of help. -/
  topic : Topic
  /-- The options by name. -/
  options : List (String × OptionShape)
  /-- How many other arguments there are. -/
  operands : Nat

/-- The arguments of a command by their meaning. -/
structure Given where
  /-- The options with their values in the order in which they were given; a flag has an empty value. -/
  options : List (String × String)
  /-- The other arguments. -/
  operands : List String

namespace Given

/-- No arguments. -/
def empty : Given := { options := [], operands := [] }

/-- All values of an option. -/
def all (g : Given) (name : String) : List String :=
  (g.options.filter (·.1 = name)).map (·.2)

/-- The value of an option. -/
def value? (g : Given) (name : String) : Option String := g.options.lookup name

/-- Whether an option was given. -/
def has (g : Given) (name : String) : Bool := (g.value? name).isSome

end Given

namespace Shape

/-- Adds an operand. -/
def addOperand (shape : Shape) (g : Given) (operand : String) : Except Halt Given :=
  if g.operands.length < shape.operands then .ok { g with operands := g.operands ++ [operand] } else .error .misused

/-- Adds an option that is known to take a value. -/
def addOption (option : OptionShape) (g : Given) (name value : String) : Except Halt Given :=
  let added : Given := { g with options := g.options ++ [(name, value)] }
  match option with
  | .repeated => .ok added
  | .flag => if g.has name then .error .misused else .ok added
  | .single accepts => if g.has name || !accepts value then .error .misused else .ok added

/-- Whether an argument begins with some characters. -/
def beginsWith (start : List Char) (argument : String) : Bool := start.isPrefixOf argument.toList

/-- Whether an argument is an option. -/
def isOption (argument : String) : Bool := beginsWith ['-'] argument && argument ≠ "-"

/-- The name of a long option and the value behind its `=`. -/
def splitOption (argument : String) : String × Option String :=
  let cs := argument.toList.drop 2
  match Text.cutAt '=' cs with
  | some (name, value) => (String.ofList name, some (String.ofList value))
  | none => (String.ofList cs, none)

/-- How an argument asks for help, if it does: in full by the long name of the option. -/
def asksHelp? (argument : String) : Option Bool :=
  if argument = "--help" then some true else if beginsWith ['-', 'h'] argument then some false else none

/-- Reads arguments behind the ones already read. -/
def read (shape : Shape) (g : Given) : List String → Except Halt Given
  | [] => .ok g
  | argument :: rest =>
    if argument = "--" then rest.foldlM shape.addOperand g
    else
      match asksHelp? argument with
      | some isFull => .error (.help shape.topic isFull)
      | none =>
        if !isOption argument then do
          let g ← shape.addOperand g argument
          shape.read g rest
        else if !beginsWith ['-', '-'] argument then .error .misused
        else
          let (name, attached) := splitOption argument
          match shape.options.lookup name, attached, rest with
          | some .flag, none, rest => do
            let g ← addOption .flag g name ""
            shape.read g rest
          | some .flag, some _, _ => .error .misused
          | some option, some value, rest => do
            let g ← addOption option g name value
            shape.read g rest
          | some option, none, value :: rest =>
            if isOption value then .error .misused
            else do
              let g ← addOption option g name value
              shape.read g rest
          | _, _, _ => .error .misused

end Shape

/-- A page size; zero may have a minus sign. -/
def readSize (s : String) : Option UInt32 :=
  match s.toList with
  | '-' :: zeros => if !zeros.isEmpty && zeros.all (· == '0') then some 0 else none
  | _ => Text.readUInt32 s

/-- An option with a page size. -/
def sizeOption : OptionShape := .single fun value => (readSize value).isSome

/-- An option with a count of parents. -/
def countOption : OptionShape := .single fun value => (Text.readUInt64 value).isSome

/-- The accept value of a listing unless another one is given. -/
def defaultAccept : String := "application/json;version=2"

/-- The page size with which tokens are decoded unless another one is given. -/
def defaultPageSize : UInt32 := 500

/-- Reads the arguments of a listing. -/
def readList (arguments : List String) : Except Halt Command := do
  let shape : Shape :=
    { topic := .list
      options := [("accept", .single fun _ => true), ("page-size", sizeOption), ("all", .flag), ("query", .repeated)]
      operands := 2 }
  let g ← shape.read .empty arguments
  match g.operands with
  | [base, path] =>
    return .list base path ((g.value? "accept").getD defaultAccept) ((g.value? "page-size").bind readSize)
      (g.has "all") (g.all "query")
  | _ => throw .misused

/-- Reads the arguments of a decoding. -/
def readDecode (arguments : List String) : Except Halt Command := do
  let shape : Shape := { topic := .decode, options := [("default-page-size", sizeOption)], operands := 1 }
  let g ← shape.read .empty arguments
  match g.operands with
  | [token] => return .decode token (((g.value? "default-page-size").bind readSize).getD defaultPageSize)
  | _ => throw .misused

/-- Reads the arguments of an encoding. -/
def readEncode (arguments : List String) : Except Halt Command := do
  let shape : Shape :=
    { topic := .encode
      options := [("offset", countOption), ("page-size", sizeOption), ("total", countOption)], operands := 0 }
  let g ← shape.read .empty arguments
  match (g.value? "offset").bind Text.readUInt64, (g.value? "page-size").bind readSize with
  | some offset, some pageSize => return .encode offset pageSize ((g.value? "total").bind Text.readUInt64)
  | _, _ => throw .misused

/-- Full help on a command that is named by its words. -/
def helpOn (words : List String) : Halt :=
  match words with
  | [] => .help .client true
  | ["list"] => .help .list true
  | ["help"] => .help .help true
  | ["cursor"] => .help .cursor true
  | ["cursor", "decode"] => .help .decode true
  | ["cursor", "encode"] => .help .encode true
  | ["cursor", "help"] => .help .cursorHelp true
  | _ => .misused

/-- Reads the arguments of a command on cursors. -/
def readCursor : List String → Except Halt Command
  | "decode" :: arguments => readDecode arguments
  | "encode" :: arguments => readEncode arguments
  | "help" :: words => .error (helpOn ("cursor" :: words))
  | argument :: _ => .error (((Shape.asksHelp? argument).map (.help .cursor)).getD .misused)
  | [] => .error .misused

/-- Reads the arguments of the client. -/
def readCommand : List String → Except Halt Command
  | "list" :: arguments => readList arguments
  | "cursor" :: arguments => readCursor arguments
  | "help" :: words => .error (helpOn words)
  | argument :: _ =>
    .error <|
      if argument = "--version" || Shape.beginsWith ['-', 'V'] argument then .version
      else ((Shape.asksHelp? argument).map (.help .client)).getD .misused
  | [] => .error .misused

end BasinRegister.Client
