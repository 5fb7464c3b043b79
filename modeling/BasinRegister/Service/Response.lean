import BasinRegister.Json.Printer
import BasinRegister.Service.Catalog
import BasinRegister.Storage.Error
import BasinRegister.Glob.Mask

/-!
# Requests, responses and errors

A request is a method, a target and the accept values that came with it; a response is a status, headers and a body.
Every error of the service has a status and a code, which its body repeats. What the service cannot even read is
rejected with a plain text. Not every text can be the value of a header.
-/

namespace BasinRegister

namespace Header

/-- Whether a text can be the value of a header: no control character but the tab. -/
def isAdmissible (value : String) : Bool :=
  value.toList.all fun c => (0x20 ≤ c.toNat && c.toNat ≠ 0x7F) || c == '\t'

/-- Whether every character of a header value is visible ASCII, a space or a tab. -/
def isReadable (value : String) : Bool :=
  value.toList.all fun c => (0x20 ≤ c.toNat && c.toNat < 0x7F) || c == '\t'

end Header

/-- A request. -/
structure Request where
  /-- The method. -/
  method : String
  /-- Path and query. -/
  target : String
  /-- The values of the accept headers. -/
  accepts : List String
  deriving DecidableEq, Repr

/-- A response. -/
structure Response where
  /-- The status. -/
  status : Nat
  /-- The headers. -/
  headers : List (String × String)
  /-- The body. -/
  body : String
  deriving DecidableEq, Repr

namespace Response

/-- The value of a header. -/
def header? (r : Response) (name : String) : Option String := r.headers.lookup name

/-- A response with a JSON body. -/
def json (status : Nat) (body : Json) : Response :=
  { status, headers := [("content-type", "application/json")], body := body.render }

/-- The content type of plain texts. -/
def plainText : String := "text/plain; charset=utf-8"

/-- A request that cannot be read. -/
def rejected (reason : String) : Response :=
  { status := 400, headers := [("content-type", plainText)], body := reason }

/-- A path that there is not. -/
def unknownPath : Response := { status := 404, headers := [], body := "" }

/-- A method that a path does not have. -/
def unknownMethod : Response := { status := 405, headers := [("allow", "GET,HEAD")], body := "" }

/-- The response without its body. -/
def withoutBody (r : Response) : Response := { r with body := "" }

end Response

/-- Why a request is not answered with a document. -/
inductive ServiceError where
  /-- There is no such record. -/
  | notFound (text : String)
  /-- A parameter cannot be used. -/
  | badRequest (text : String)
  /-- No requested format is known. -/
  | notAcceptable (text : String)
  /-- No requested format can hold the kind. -/
  | notImplemented (text : String)
  /-- What should be one record is several. -/
  | integrity (text : String)
  /-- The document could not be written. -/
  | formatting (text : String)
  /-- Anything else. -/
  | internal (text : String)
  deriving DecidableEq, Repr

namespace ServiceError

/-- The status of an error. -/
def status : ServiceError → Nat
  | .notFound _ => 404
  | .badRequest _ => 400
  | .notAcceptable _ => 406
  | .notImplemented _ => 501
  | .integrity _ => 500
  | .formatting _ => 500
  | .internal _ => 500

/-- The code of an error. -/
def code : ServiceError → String
  | .notFound _ => "not_found"
  | .badRequest _ => "invalid_parameter"
  | .notAcceptable _ => "not_acceptable"
  | .notImplemented _ => "not_implemented"
  | .integrity _ => "integrity_violation"
  | .formatting _ => "formatting_failed"
  | .internal _ => "internal_error"

/-- The text of an error. -/
def text : ServiceError → String
  | .notFound text => text
  | .badRequest text => text
  | .notAcceptable text => text
  | .notImplemented text => text
  | .integrity text => text
  | .formatting text => text
  | .internal text => text

/-- The body of an error. -/
def body (e : ServiceError) : ErrorBody := { error := e.text, code := e.code }

/-- The response of an error. -/
def response (e : ServiceError) : Response := .json e.status e.body.toJson

/-- The error of a store. -/
def ofStorage : StorageError → ServiceError
  | .notFound => .notFound "not found"
  | .conflict text => .internal text
  | .invalid text => .badRequest text
  | .integrity violation => .integrity violation.message
  | .internal text => .internal text

/-- The error of a format. -/
def ofFormat (e : FormatError) : ServiceError :=
  match e with
  | .notAcceptable _ _ => .notAcceptable e.message
  | .notImplemented _ _ => .notImplemented e.message
  | .formatting _ => .formatting e.message

/-- The error of a mask. -/
def ofMask (e : MaskError) : ServiceError := .badRequest e.message

end ServiceError

end BasinRegister
