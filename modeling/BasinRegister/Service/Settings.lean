import BasinRegister.Service.Config
import BasinRegister.Service.Query
import BasinRegister.Service.Response

/-!
# Settings of the service

What every request is answered with besides the store: the registry of formats and the bounds of pages. A page token may
ask for a smaller page than the greatest one, but for no larger one.
-/

namespace BasinRegister

/-- What every request is answered with besides the store. -/
structure Settings where
  /-- The registry of formats. -/
  registry : Registry
  /-- The page size of requests that state none. -/
  defaultPageSize : UInt32
  /-- The greatest page size. -/
  maxPageSize : UInt32

namespace Settings

/-- The settings of a configuration. -/
def ofConfig (registry : Registry) (config : Config) : Settings :=
  { registry, defaultPageSize := config.defaultPageSize, maxPageSize := config.maxPageSize }

/-- The accept value of a request: the first one, if it can be read. -/
def acceptValue (accepts : List String) : Option String :=
  accepts.head?.filter Header.isReadable

/-- Chooses the formatter for a request. -/
def resolve (s : Settings) (accepts : List String) (format : Option String) (kind : Kind) :
    Except ServiceError Resolved :=
  (s.registry.resolve (Accept.negotiate (acceptValue accepts) format) kind).mapError .ofFormat

/-- A page token whose page size is at most the greatest one. A token within the bounds stays as it is. -/
def clampToken (s : Settings) (pageSize : UInt32) (token : String) : String :=
  let cursor := Cursor.decode (some token) pageSize
  if s.maxPageSize < cursor.pageSize then { cursor with pageSize := s.maxPageSize }.encode else token

/-- What is asked of the store for a page. -/
def pageRequest (s : Settings) (page : Option String) (pageSize : Option UInt32) (includeTotal : Option Bool) :
    PageRequest :=
  let size := effectivePageSize pageSize s.defaultPageSize s.maxPageSize
  { token := page.map (s.clampToken size), defaultPageSize := size, includeTotal := includeTotal.getD false }

/-- A header with a page token, if the token can be one. -/
def tokenHeader (name token : String) : List (String × String) :=
  if Header.isAdmissible token then [(name, token)] else []

/-- The headers of a page. -/
def pageHeaders (info : PageInfo) : List (String × String) :=
  tokenHeader "page" info.page ++ (info.nextPage.map (tokenHeader "next-page")).getD [] ++
    info.totalText.toList.map (("total", ·)) ++ [("page-size", info.pageSizeText)]

/-- The headers of a payload besides its content type. -/
def payloadHeaders : Payload → List (String × String)
  | .page _ _ info => pageHeaders info
  | _ => []

/-- The response with the document of a payload. -/
def respond (resolved : Resolved) (payload : Payload) : Except ServiceError Response :=
  match resolved.format payload with
  | .error e => .error (.ofFormat e)
  | .ok body =>
    let contentType := resolved.contentType.text
    if Header.isAdmissible contentType then
      .ok { status := 200, headers := ("content-type", contentType) :: payloadHeaders payload, body }
    else .error (.internal "invalid content type header: failed to parse header value")

end Settings

end BasinRegister
