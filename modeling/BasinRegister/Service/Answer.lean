import BasinRegister.Service.Route
import BasinRegister.Service.Settings
import BasinRegister.Storage.Backend

/-!
# Answering requests

A request is answered in this order: the path is matched, the method checked, the path and the query are read, the
format is chosen, masks are compiled, and only then the store is asked. So an unusable format is reported whatever the
store holds.
-/

namespace BasinRegister.Service

variable {σ : Type} [Backend σ]

/-- What a request for a document carries besides its path. -/
structure Call where
  /-- The values of the accept headers. -/
  accepts : List String
  /-- The pairs of the query. -/
  pairs : List (String × String)

/-- The filter of an office and the text of a mask. -/
def filter (office mask : Option String) : Except ServiceError Filter :=
  match mask.mapM Mask.compile with
  | .ok mask => .ok { office, mask }
  | .error e => .error (.ofMask e)

/-- A record that was looked up, or the error that there is none. -/
def found {α : Type} (missing : String) : Except StorageError (Option α) → Except ServiceError α
  | .ok (some record) => .ok record
  | .ok none => .error (.notFound missing)
  | .error e => .error (.ofStorage e)

/-- The offices. -/
def offices (settings : Settings) (store : σ) (call : Call) (query : FormatQuery) : Except ServiceError Response := do
  let resolved ← settings.resolve call.accepts query.format .office
  Settings.respond resolved (.many .office ((Backend.offices store).map .office))

/-- An office. -/
def office (settings : Settings) (store : σ) (name : String) (call : Call) (query : FormatQuery) :
    Except ServiceError Response := do
  let resolved ← settings.resolve call.accepts query.format .office
  let record ← found s!"office {name} not found" (.ok (Backend.office? store name))
  Settings.respond resolved (.one (.office record))

/-- A page of locations. -/
def locations (settings : Settings) (store : σ) (call : Call) (query : LocationQuery) :
    Except ServiceError Response := do
  let resolved ← settings.resolve call.accepts query.format .location
  let filter ← filter query.office query.names
  let request := settings.pageRequest query.page query.pageSize query.includeTotal
  let page ← (Backend.locationsPage store filter request).mapError .ofStorage
  Settings.respond resolved (.ofPage .location .location page)

/-- A location. -/
def location (settings : Settings) (store : σ) (officeName name : String) (call : Call) (query : FormatQuery) :
    Except ServiceError Response := do
  let resolved ← settings.resolve call.accepts query.format .location
  let record ← found s!"location {officeName}/{name} not found" (Backend.location? store officeName name)
  Settings.respond resolved (.one (.location record))

/-- A page of rating templates. -/
def templates (settings : Settings) (store : σ) (call : Call) (query : TemplateQuery) :
    Except ServiceError Response := do
  let resolved ← settings.resolve call.accepts query.format .ratingTemplate
  let filter ← filter query.office query.idMask
  let request := settings.pageRequest query.page query.pageSize query.includeTotal
  let page ← (Backend.templatesPage store filter request).mapError .ofStorage
  Settings.respond resolved (.ofPage .ratingTemplate .ratingTemplate page)

/-- A rating template. -/
def template (settings : Settings) (store : σ) (id : String) (call : Call) (query : TemplateLookupQuery) :
    Except ServiceError Response := do
  let resolved ← settings.resolve call.accepts query.format .ratingTemplate
  let record ← found s!"rating template {id} not found" (Backend.template? store query.office id)
  Settings.respond resolved (.one (.ratingTemplate record))

/-- A water user. -/
def waterUser (settings : Settings) (store : σ) (officeName project name : String) (call : Call)
    (query : FormatQuery) : Except ServiceError Response := do
  let resolved ← settings.resolve call.accepts query.format .waterUser
  let record ← found s!"water user {name} not found at project {officeName}/{project}"
    (.ok (Backend.waterUser? store officeName project name))
  Settings.respond resolved (.one (.waterUser record))

/-- The response of a result. -/
def settle : Except ServiceError Response → Response
  | .ok response => response
  | .error e => e.response

/-- Answers with a query that is read from the pairs, or rejects them. -/
def withQuery {α : Type} (call : Call) (ofForm : List (String × String) → Option α)
    (answer : Call → α → Except ServiceError Response) : Response :=
  match ofForm call.pairs with
  | some query => settle (answer call query)
  | none => .rejected "the query cannot be read"

/-- Answers a request for what a route names. -/
def visit (settings : Settings) (store : σ) (call : Call) : Route → Response
  | .offices => withQuery call FormatQuery.ofForm (offices settings store)
  | .office name => withQuery call FormatQuery.ofForm (office settings store name)
  | .locations => withQuery call LocationQuery.ofForm (locations settings store)
  | .location officeName name => withQuery call FormatQuery.ofForm (location settings store officeName name)
  | .templates => withQuery call TemplateQuery.ofForm (templates settings store)
  | .template id => withQuery call TemplateLookupQuery.ofForm (template settings store id)
  | .waterUser officeName project name =>
    withQuery call FormatQuery.ofForm (waterUser settings store officeName project name)
  | .formats => .json 200 (FormatCatalog.ofRegistry settings.registry).toJson

/-- Answers a request as if it only read. -/
def get (settings : Settings) (store : σ) (route : Route) (request : Request) : Response :=
  let call : Call := { accepts := request.accepts, pairs := Text.formDecodePairs (Route.splitTarget request.target).2 }
  match route.decode with
  | some route => visit settings store call route
  | none => .rejected "the path cannot be read"

/-- Answers a request. -/
def answer (settings : Settings) (store : σ) (request : Request) : Response :=
  match Route.ofPath? (Route.splitTarget request.target).1 with
  | none => .unknownPath
  | some route =>
    if request.method = "GET" then get settings store route request
    else if request.method = "HEAD" then (get settings store route request).withoutBody
    else .unknownMethod

end BasinRegister.Service
