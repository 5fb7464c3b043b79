import BasinRegister.Client.Arguments
import BasinRegister.Client.Walk
import BasinRegister.Cursor
import BasinRegister.Json.Printer

/-!
# Runs of the client

From arguments to a report: what each command prints, given something that answers requests.
-/

namespace BasinRegister.Client

/-- Name and version of the client. -/
def version : String := "rdata 0.1.0"

/-- The pair of a query argument. The name loses its outer blanks and may not be empty. -/
def queryPair (argument : String) : Except Failure (String × String) :=
  match Text.cutAt '=' argument.toList with
  | some (name, value) =>
    let name := Text.trim (String.ofList name)
    if name.isEmpty then .error (.invalidQuery argument) else .ok (name, String.ofList value)
  | none => .error (.invalidQuery argument)

/-- The parameters of a listing: the pairs of its query arguments and then its page size. -/
def parameters (queries : List String) (pageSize : Option UInt32) : Except Failure (List (String × String)) := do
  let pairs ← queries.mapM queryPair
  return pairs ++ pageSize.toList.map fun size => ("page-size", Text.numeral size.toNat)

/-- What a token says, as a JSON object. -/
def describeCursor (c : Cursor) : Json :=
  .object
    [("normalized", .text c.encode), ("offset", .ofNat c.offset.toNat), ("page-size", .ofNat c.pageSize.toNat),
      ("total", (c.total.map fun total => Json.ofNat total.toNat).getD .null)]

/-- Runs a command; a listing is walked with at most so many requests. -/
def runCommand (transport : Transport) (limit : Nat) : Command → Report
  | .list base path accept pageSize isComplete queries =>
    match parameters queries pageSize with
    | .error failure => .ofFailure failure
    | .ok parameters => walk transport { endpoint := endpoint base path, accept, parameters, isComplete } limit none
  | .decode token defaultPageSize =>
    .ofText ((describeCursor (Cursor.decode (some token) defaultPageSize)).renderIndented 0)
  | .encode offset pageSize total =>
    if pageSize = 0 then .ofFailure .pageSizeNotPositive
    else .ofText ({ offset, total, pageSize } : Cursor).encode

/-- Runs the client with arguments. -/
def run (transport : Transport) (limit : Nat) (arguments : List String) : Report :=
  match readCommand arguments with
  | .ok command => runCommand transport limit command
  | .error (.help topic isFull) => .ofText (topic.text isFull)
  | .error .version => .ofText version
  | .error .misused => .ofFailure .misused

end BasinRegister.Client
