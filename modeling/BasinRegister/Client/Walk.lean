import BasinRegister.Client.Report
import BasinRegister.Client.Url
import BasinRegister.Json.Reader
import BasinRegister.Service.Response

/-!
# Walking a listing

The client asks for a page, prints its body and, if it is to fetch all of them, asks for the page whose token came
with it. The token stands in a header, or else in the body of a JSON document. A walk ends at a page without such a
token, and at a page that only repeats the token it was asked with. An answer may go on naming new tokens for ever, so
a walk has a limit on its requests.
-/

namespace BasinRegister.Client

/-- What answers the requests of a client: an address and an accept value give a response, if anything answers. -/
abbrev Transport := Url → String → Option Response

/-- A listing as a client asks for it. -/
structure Listing where
  /-- The address of the listing. -/
  endpoint : String
  /-- The accept value of every request. -/
  accept : String
  /-- The parameters of every request. -/
  parameters : List (String × String)
  /-- Whether pages after the first are fetched. -/
  isComplete : Bool
  deriving DecidableEq, Repr

/-- The address below a base. -/
def endpoint (base path : String) : String :=
  let stem := String.ofList (base.toList.reverse.dropWhile (· == '/')).reverse
  stem ++ "/" ++ String.ofList (path.toList.dropWhile (· == '/'))

/-- The value of a header, if it can be read and is not empty. -/
def statedHeader? (r : Response) (name : String) : Option String :=
  (r.header? name).filter fun value => Header.isReadable value && !value.isEmpty

/-- Whether a content type stands for JSON documents. -/
def isJson (contentType : String) : Bool :=
  let base := Text.fold (Text.trim (String.ofList (contentType.toList.takeWhile (· != ';'))))
  base == "application/json" || base == "application/geo+json"

/-- The token of the next page in the body of a JSON document. The whole document has to be readable, and of repeated
members the last one counts. -/
def tokenOfBody? (body : String) : Option String :=
  (Json.readWhole? body).bind fun document => (document.last? "next-page").bind Json.asText?

/-- The token of the next page that a response states. -/
def statedToken? (r : Response) : Option String :=
  match statedHeader? r "next-page" with
  | some token => some token
  | none => if isJson ((statedHeader? r "content-type").getD "") then tokenOfBody? r.body else none

/-- The token of the next request: the one that a response states, unless the request had it already. -/
def following (r : Response) (token : Option String) : Option String :=
  (statedToken? r).filter (some · ≠ token)

/-- Whether a status stands for success. -/
def isSuccess (status : Nat) : Bool := 200 ≤ status && status < 300

/-- The address of a request for a page of a listing: the one of a token, or else the first. The endpoint has to name
a host, the accept value has to fit into a header, and the address has to be one that requests can be sent to. -/
def requestUrl (listing : Listing) (token : Option String) : Except Failure Url :=
  let unaddressed (url : Option Url) : Except Failure Url :=
    .error (.unaddressed listing.endpoint (url.map Url.text))
  match Url.ofText? listing.endpoint with
  | none => unaddressed none
  | some base =>
    let url := base.withPairs (listing.parameters ++ token.toList.map (("page", ·)))
    if !base.hasHost then unaddressed (some base)
    else if !Header.isAdmissible listing.accept then unaddressed none
    else if !url.isSendable then unaddressed (some url)
    else .ok url

/-- Asks for a page of a listing. -/
def fetch (transport : Transport) (listing : Listing) (token : Option String) : Except Failure Response := do
  let url ← requestUrl listing token
  match transport url listing.accept with
  | none => .error (.unreachable listing.endpoint url.text)
  | some r => if isSuccess r.status then .ok r else .error (.refused r.status r.body)

/-- Walks a listing from the page of a token, with at most so many requests. -/
def walk (transport : Transport) (listing : Listing) : Nat → Option String → Report
  | 0, _ => .ofFailure .tooManyPages
  | limit + 1, token =>
    match fetch transport listing token with
    | .error failure => .ofFailure failure
    | .ok r =>
      match if listing.isComplete then following r token else none with
      | none => .ofText r.body
      | some next => (walk transport listing limit (some next)).after r.body

end BasinRegister.Client
