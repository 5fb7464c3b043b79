import BasinRegister.Proofs.Service.Listings

/-!
# What a request asks

A request for records asks one question, states a format for the answer and leaves the rest to the service. However different the
questions are, the service answers them in one way (`Route.visit_eq`): it chooses the format, then looks for what the document is
made of, and then writes the document. Only the second of these steps looks at the store.
-/

namespace BasinRegister

/-- What a request asks a store for. -/
inductive Question where
  /-- All offices. -/
  | offices
  /-- The office of a name. -/
  | office (name : String)
  /-- A page of a listing. -/
  | listing (listed : Listed) (query : ListedQuery)
  /-- The location of an office and a name. -/
  | location (office name : String)
  /-- The rating template of an identifier, in one office or in any. -/
  | template (office : Option String) (id : String)
  /-- The water user of an office, a project and a name. -/
  | waterUser (office project name : String)

/-- The question of a route, with the format that the query states. There is none where the query is not taken, and none about
the catalog of formats. -/
def Route.question? (pairs : List (String × String)) : Route → Option (Question × Option String)
  | .offices => (FormatQuery.ofForm pairs).map fun q => (.offices, q.format)
  | .office name => (FormatQuery.ofForm pairs).map fun q => (.office name, q.format)
  | .locations => (Listed.locations.query pairs).map fun q => (.listing .locations q, q.format)
  | .location officeName name => (FormatQuery.ofForm pairs).map fun q => (.location officeName name, q.format)
  | .templates => (Listed.templates.query pairs).map fun q => (.listing .templates q, q.format)
  | .template id => (TemplateLookupQuery.ofForm pairs).map fun q => (.template q.office id, q.format)
  | .waterUser officeName project name =>
    (FormatQuery.ofForm pairs).map fun q => (.waterUser officeName project name, q.format)
  | .formats => none

/-- The question of a request and the format that it states. -/
def Request.question? (request : Request) : Option (Question × Option String) :=
  ((Route.ofPath? (Route.splitTarget request.target).1).bind Route.decode).bind fun route =>
    route.question? (Text.formDecodePairs (Route.splitTarget request.target).2)

namespace Question

/-- The kind of the records that are asked for. -/
def kind : Question → Kind
  | .offices => .office
  | .office _ => .office
  | .listing listed _ => listed.kind
  | .location _ _ => .location
  | .template _ _ => .ratingTemplate
  | .waterUser _ _ _ => .waterUser

/-- What the document of the answer is made of, or why there is none. -/
def payload {σ : Type} [Backend σ] (settings : Settings) (store : σ) : Question → Except ServiceError Payload
  | .offices => .ok (.many .office ((Backend.offices store).map .office))
  | .office name =>
    (Service.found s!"office {name} not found" (.ok (Backend.office? store name))).map fun o => .one (.office o)
  | .listing listed q => do
    let filter ← Service.filter q.office q.mask
    let p ← (listed.page store filter (settings.pageRequest q.page q.pageSize q.includeTotal)).mapError .ofStorage
    .ok (.page listed.kind p.items p.info)
  | .location officeName name =>
    (Service.found s!"location {officeName}/{name} not found" (Backend.location? store officeName name)).map fun l =>
      .one (.location l)
  | .template officeName id =>
    (Service.found s!"rating template {id} not found" (Backend.template? store officeName id)).map fun t =>
      .one (.ratingTemplate t)
  | .waterUser officeName project name =>
    (Service.found s!"water user {name} not found at project {officeName}/{project}"
      (.ok (Backend.waterUser? store officeName project name))).map fun u => .one (.waterUser u)

/-- The answer to a question: a document in the format that is chosen first. -/
def answer {σ : Type} [Backend σ] (settings : Settings) (store : σ) (accepts : List String) (format : Option String)
    (question : Question) : Except ServiceError Response := do
  let resolved ← settings.resolve accepts format question.kind
  let payload ← question.payload settings store
  Settings.respond resolved payload

end Question

/-! ## One way to answer -/

variable {σ : Type} [Backend σ] {settings : Settings} {store : σ}

/-- A page of a listing is served like any other answer. -/
theorem Listed.serve_eq (listed : Listed) (accepts : List String) (q : ListedQuery) :
    listed.serve settings store accepts q = (Question.listing listed q).answer settings store accepts q.format := by
  simp only [serve, Question.answer, Question.payload, Question.kind, bind_assoc]
  rfl

/-- Every request for records is answered like its question. -/
theorem Route.visit_eq {route : Route} {call : Service.Call} {question : Question} {format : Option String}
    (h : route.question? call.pairs = some (question, format)) :
    Service.visit settings store call route = Service.settle (question.answer settings store call.accepts format) := by
  cases route with
  | offices =>
    obtain ⟨q, hq, hquestion⟩ := Option.map_eq_some_iff.mp h
    cases hquestion
    simp only [Service.visit, Service.withQuery, hq]
    rfl
  | office name =>
    obtain ⟨q, hq, hquestion⟩ := Option.map_eq_some_iff.mp h
    cases hquestion
    simp only [Service.visit, Service.withQuery, hq, Service.office, Question.answer, Question.payload, bind_map_eq]
    rfl
  | locations =>
    obtain ⟨q, hq, hquestion⟩ := Option.map_eq_some_iff.mp h
    cases hquestion
    have hvisit := Listed.locations.visit_route settings store call
    rw [Listed.route] at hvisit
    simp only [hvisit, Service.withQuery, hq, Listed.serve_eq]
  | location officeName name =>
    obtain ⟨q, hq, hquestion⟩ := Option.map_eq_some_iff.mp h
    cases hquestion
    simp only [Service.visit, Service.withQuery, hq, Service.location, Question.answer, Question.payload, bind_map_eq]
    rfl
  | templates =>
    obtain ⟨q, hq, hquestion⟩ := Option.map_eq_some_iff.mp h
    cases hquestion
    have hvisit := Listed.templates.visit_route settings store call
    rw [Listed.route] at hvisit
    simp only [hvisit, Service.withQuery, hq, Listed.serve_eq]
  | template id =>
    obtain ⟨q, hq, hquestion⟩ := Option.map_eq_some_iff.mp h
    cases hquestion
    simp only [Service.visit, Service.withQuery, hq, Service.template, Question.answer, Question.payload, bind_map_eq]
    rfl
  | waterUser officeName project name =>
    obtain ⟨q, hq, hquestion⟩ := Option.map_eq_some_iff.mp h
    cases hquestion
    simp only [Service.visit, Service.withQuery, hq, Service.waterUser, Question.answer, Question.payload, bind_map_eq]
    rfl
  | formats => cases h

/-- A request that only reads is answered like its question. -/
theorem Request.answer_eq {request : Request} {question : Question} {format : Option String} (hget : request.method = "GET")
    (h : request.question? = some (question, format)) :
    Service.answer settings store request = Service.settle (question.answer settings store request.accepts format) := by
  rw [Request.question?] at h
  generalize hpairs : Text.formDecodePairs (Route.splitTarget request.target).2 = pairs at h
  obtain ⟨route, hroute, hquestion⟩ := Option.bind_eq_some_iff.mp h
  obtain ⟨written, hpath, hdecode⟩ := Option.bind_eq_some_iff.mp hroute
  have hread : Service.get settings store written request =
      Service.visit settings store { accepts := request.accepts, pairs } route := by
    rw [Service.get, hpairs, hdecode]
  rw [Service.answer, hpath]
  simp only [hget, if_true, hread]
  exact Route.visit_eq hquestion

end BasinRegister
