import BasinRegister.Text.Quoted
import BasinRegister.Text.Numeral

/-!
# Reports

What a run of the client prints and how it ends. Everything printed before a failure stays printed.
-/

namespace BasinRegister.Client

/-- The reason phrase of a status. -/
def reasonPhrase : Nat → String
  | 400 => "Bad Request"
  | 404 => "Not Found"
  | 405 => "Method Not Allowed"
  | 406 => "Not Acceptable"
  | 500 => "Internal Server Error"
  | 501 => "Not Implemented"
  | _ => "<unknown status code>"

/-- How the client is used. -/
def usage : String :=
  "usage: rdata list BASE_URL PATH [--accept ACCEPT] [--page-size N] [--all] [--query KEY=VALUE]...\n" ++
    "       rdata cursor decode TOKEN [--default-page-size N]\n" ++
    "       rdata cursor encode --offset N --page-size N [--total N]\n" ++
    "       rdata --help | --version"

/-- Why a run of the client fails. -/
inductive Failure where
  /-- The arguments do not fit a command. -/
  | misused
  /-- A query argument is no pair. -/
  | invalidQuery (argument : String)
  /-- A cursor was to hold no parents on a page. -/
  | pageSizeNotPositive
  /-- A request cannot be put together for an endpoint, whose address is known if it could be read. -/
  | unaddressed (endpoint : String) (url : Option String)
  /-- Nothing answers a request. -/
  | unreachable (endpoint url : String)
  /-- A request is answered with an error. -/
  | refused (status : Nat) (body : String)
  /-- A listing has more pages than the client may ask for. -/
  | tooManyPages
  deriving DecidableEq, Repr

/-- The wording of a failure. -/
def Failure.message : Failure → String
  | .misused => usage
  | .invalidQuery argument => "invalid --query " ++ Text.quoted argument ++ ": expected KEY=VALUE"
  | .pageSizeNotPositive => "--page-size must be positive"
  | .unaddressed endpoint none => s!"request to {endpoint} failed: builder error"
  | .unaddressed endpoint (some url) => s!"request to {endpoint} failed: builder error for url ({url})"
  | .unreachable endpoint url => s!"request to {endpoint} failed: error sending request for url ({url})"
  | .refused status body => s!"server returned {Text.numeral status} {reasonPhrase status}: {body}"
  | .tooManyPages => "the listing has too many pages"

/-- What a run of the client leaves. -/
structure Report where
  /-- The texts that were printed, each on lines of its own. -/
  printed : List String
  /-- How the run failed, if it did. -/
  failure : Option Failure
  deriving DecidableEq, Repr

namespace Report

/-- The report of a run that printed one text. -/
def ofText (text : String) : Report := { printed := [text], failure := none }

/-- The report of a run that failed before it printed anything. -/
def ofFailure (failure : Failure) : Report := { printed := [], failure := some failure }

/-- The report of a run that printed a text before the rest. -/
def after (text : String) (rest : Report) : Report := { rest with printed := text :: rest.printed }

/-- The exit code. -/
def exitCode (r : Report) : Nat := if r.failure.isSome then 2 else 0

/-- What goes to the output. -/
def output (r : Report) : String := String.join (r.printed.map (· ++ "\n"))

/-- What goes to the error output. -/
def errorOutput (r : Report) : String :=
  match r.failure with
  | some failure => "rdata: " ++ failure.message ++ "\n"
  | none => ""

end Report

end BasinRegister.Client
