import BasinRegister.Proofs.Service.Settings
import BasinRegister.Proofs.Storage.Children
import BasinRegister.Service.Answer

/-!
# Listings of the service

The two listings that the service gives page by page, as one: where they are found, how their queries are read
(`Listed.query_append`), and how a request for a page is answered (`Listed.visit_page`). Behind a page the token of the next one
is that of a cursor further on (`Listed.cursor_of_nextPage`). There is a page from every cursor on (`Listed.exists_page_from`), and
all pages together hold the listing (`Listed.exists_walk`).
-/

namespace BasinRegister

/-- A listing that the service gives page by page. -/
inductive Listed where
  /-- The locations. -/
  | locations
  /-- The rating templates. -/
  | templates
  deriving DecidableEq, Repr

/-- What a request for a page of a listing may state. -/
structure ListedQuery where
  /-- The office. -/
  office : Option String
  /-- A mask for the names or identifiers. -/
  mask : Option String
  /-- The token of the page. -/
  page : Option String
  /-- The number of records on a page. -/
  pageSize : Option UInt32
  /-- Whether to count the records. -/
  includeTotal : Option Bool
  /-- The wanted format. -/
  format : Option String

/-- The key of a record of a listing: its office with its name or its identifier. -/
def Entity.listedKey : Entity → Key
  | .office o => Memory.officeKey o
  | .location l => Memory.locationKey l
  | .ratingTemplate t => Memory.templateKey t
  | .waterUser u => Memory.waterUserKey u

/-- The response with the document of a page. -/
def Response.ofPage (contentType : String) (info : PageInfo) (body : String) : Response :=
  { status := 200, headers := ("content-type", contentType) :: Settings.pageHeaders info, body }

/-- What it takes for a payload to be responded with. -/
theorem Settings.respond_eq_ok {resolved : Resolved} {payload : Payload} {r : Response} :
    Settings.respond resolved payload = .ok r ↔
      ∃ body, resolved.format payload = .ok body ∧ Header.isAdmissible resolved.contentType.text = true ∧
        r = { status := 200, headers := ("content-type", resolved.contentType.text) :: Settings.payloadHeaders payload, body } := by
  unfold Settings.respond
  cases resolved.format payload with
  | error e => simp
  | ok body =>
    by_cases hadmissible : Header.isAdmissible resolved.contentType.text = true
    · simp [hadmissible, eq_comm]
    · simp [hadmissible]

namespace Listed

/-- Where a listing is found. -/
def route : Listed → Route
  | .locations => .locations
  | .templates => .templates

/-- The path of a listing. -/
def path : Listed → String
  | .locations => "/locations"
  | .templates => "/ratings/template"

/-- The kind of its records. -/
def kind : Listed → Kind
  | .locations => .location
  | .templates => .ratingTemplate

/-- The name of the parameter with the mask. -/
def maskName : Listed → String
  | .locations => "names"
  | .templates => "template-id-mask"

/-- The query of a form. -/
def query : Listed → List (String × String) → Option ListedQuery
  | .locations, pairs => (LocationQuery.ofForm pairs).map fun q =>
    { office := q.office, mask := q.names, page := q.page, pageSize := q.pageSize, includeTotal := q.includeTotal,
      format := q.format }
  | .templates, pairs => (TemplateQuery.ofForm pairs).map fun q =>
    { office := q.office, mask := q.idMask, page := q.page, pageSize := q.pageSize, includeTotal := q.includeTotal,
      format := q.format }

/-- A page of a listing of a store. -/
def page {σ : Type} [Backend σ] (store : σ) (filter : Filter) (request : PageRequest) :
    Listed → Except StorageError (Page Entity)
  | .locations => (Backend.locationsPage store filter request).map (·.map .location)
  | .templates => (Backend.templatesPage store filter request).map (·.map .ratingTemplate)

/-- The records of a listing that a filter accepts, with their children, as a store in memory holds them. -/
def records (m : Memory) (filter : Filter) : Listed → List Entity
  | .locations => (m.matching filter).map fun l => .location (m.withAliases l)
  | .templates => (m.matchingTemplates filter).map fun t => .ratingTemplate (m.withRatings t)

/-! ## Queries -/

section Forms

variable {α : Type} {read : String → Option α} {pairs others : List (String × String)} {name : String}

/-- A parameter is not found among pairs of other names. -/
theorem filter_name_eq_nil (h : ∀ p ∈ others, p.1 ≠ name) : others.filter (·.1 = name) = [] := by
  rw [List.filter_eq_nil_iff]
  intro p hp
  simpa using h p hp

theorem formValue_append_left (h : ∀ p ∈ others, p.1 ≠ name) :
    formValue read (pairs ++ others) name = formValue read pairs name := by
  rw [formValue, List.filter_append, filter_name_eq_nil h, List.append_nil]
  rfl

theorem formValue_append_right (h : ∀ p ∈ pairs, p.1 ≠ name) :
    formValue read (pairs ++ others) name = formValue read others name := by
  rw [formValue, List.filter_append, filter_name_eq_nil h, List.nil_append]
  rfl

/-- A parameter that is written at most once is read back. -/
theorem formValue_written {write : α → String} (hread : ∀ x, read (write x) = some x) (name : String) (value : Option α) :
    formValue read (value.toList.map fun x => (name, write x)) name = some value := by
  cases value with
  | none => rfl
  | some x => simp [formValue, hread]

end Forms

/-- What it takes for a form to state a query. -/
theorem query_eq_some {listed : Listed} {pairs : List (String × String)} {q : ListedQuery} :
    listed.query pairs = some q ↔
      formText pairs "office" = some q.office ∧ formText pairs listed.maskName = some q.mask ∧
      formText pairs "page" = some q.page ∧ formValue Text.readUInt32 pairs "page-size" = some q.pageSize ∧
      formValue readFormBool pairs "include-total" = some q.includeTotal ∧ formText pairs "format" = some q.format := by
  constructor
  · intro h
    cases listed with
    | locations =>
      obtain ⟨q, hq, rfl⟩ := Option.map_eq_some_iff.mp h
      simp only [LocationQuery.ofForm, Option.bind_eq_bind, Option.bind_eq_some_iff, Option.some.injEq] at hq
      obtain ⟨_, hoffice, _, hmask, _, hpage, _, hsize, _, htotal, _, hformat, rfl⟩ := hq
      exact ⟨hoffice, hmask, hpage, hsize, htotal, hformat⟩
    | templates =>
      obtain ⟨q, hq, rfl⟩ := Option.map_eq_some_iff.mp h
      simp only [TemplateQuery.ofForm, Option.bind_eq_bind, Option.bind_eq_some_iff, Option.some.injEq] at hq
      obtain ⟨_, hoffice, _, hmask, _, hpage, _, hsize, _, htotal, _, hformat, rfl⟩ := hq
      exact ⟨hoffice, hmask, hpage, hsize, htotal, hformat⟩
  · rintro ⟨hoffice, hmask, hpage, hsize, htotal, hformat⟩
    cases listed with
    | locations =>
      have hnames : formText pairs "names" = some q.mask := hmask
      simp only [query, LocationQuery.ofForm, hoffice, hnames, hpage, hsize, htotal, hformat]
      rfl
    | templates =>
      have hid : formText pairs "template-id-mask" = some q.mask := hmask
      simp only [query, TemplateQuery.ofForm, hoffice, hid, hpage, hsize, htotal, hformat]
      rfl

theorem maskName_ne (listed : Listed) : "page" ≠ listed.maskName ∧ "page-size" ≠ listed.maskName := by
  cases listed <;> decide

/-- Pairs that state no page and no page size are read as before with these two behind them, which then are stated. -/
theorem query_append {listed : Listed} {pairs : List (String × String)} {q : ListedQuery}
    (h : listed.query pairs = some q) (hfree : ∀ p ∈ pairs, p.1 ≠ "page" ∧ p.1 ≠ "page-size") (size : Option UInt32)
    (token : Option String) :
    listed.query (pairs ++ (size.toList.map fun n => ("page-size", Text.numeral n.toNat)) ++
      token.toList.map fun t => ("page", t)) = some { q with page := token, pageSize := size } := by
  obtain ⟨hoffice, hmask, -, -, htotal, hformat⟩ := query_eq_some.mp h
  have hsizes : ∀ p ∈ size.toList.map fun n => ("page-size", Text.numeral n.toNat), p.1 = "page-size" := by
    intro p hp
    obtain ⟨n, -, rfl⟩ := List.mem_map.mp hp
    rfl
  have htokens : ∀ p ∈ token.toList.map fun t => ("page", t), p.1 = "page" := by
    intro p hp
    obtain ⟨t, -, rfl⟩ := List.mem_map.mp hp
    rfl
  have hkept : ∀ {α : Type} (read : String → Option α) {name : String}, "page" ≠ name → "page-size" ≠ name →
      formValue read (pairs ++ (size.toList.map fun n => ("page-size", Text.numeral n.toNat)) ++
        token.toList.map fun t => ("page", t)) name = formValue read pairs name := by
    intro α read name hpage hsize
    rw [formValue_append_left fun p hp => htokens p hp ▸ hpage, formValue_append_left fun p hp => hsizes p hp ▸ hsize]
  obtain ⟨hpage, hsize⟩ := listed.maskName_ne
  refine query_eq_some.mpr ⟨?_, ?_, ?_, ?_, ?_, ?_⟩
  · rw [formText, hkept some (by decide) (by decide)]
    exact hoffice
  · rw [formText, hkept some hpage hsize]
    exact hmask
  · rw [formText, List.append_assoc, formValue_append_right fun p hp => (hfree p hp).1,
      formValue_append_right fun p hp => hsizes p hp ▸ by decide]
    exact formValue_written (fun _ => rfl) _ _
  · rw [formValue_append_left fun p hp => htokens p hp ▸ by decide, formValue_append_right fun p hp => (hfree p hp).2]
    exact formValue_written (fun n => Text.readUInt32_numeral n) _ _
  · rw [hkept readFormBool (by decide) (by decide)]
    exact htotal
  · rw [formText, hkept some (by decide) (by decide)]
    exact hformat

/-- A parameter that is stated once more than once is not read. -/
theorem formValue_again {α : Type} {read : String → Option α} {pairs : List (String × String)} {name : String} {x : α}
    (h : formValue read pairs name = some (some x)) (value : String) :
    formValue read (pairs ++ [(name, value)]) name = none := by
  have hadded : [(name, value)].filter (·.1 = name) = [(name, value)] := by simp
  unfold formValue at h ⊢
  rw [List.filter_append, hadded]
  rcases hfound : pairs.filter (·.1 = name) with _ | ⟨pair, _ | ⟨another, rest⟩⟩
  · rw [hfound] at h
    cases h
  · rw [hfound]
    rfl
  · rw [hfound]
    rfl

/-- A query that states a token is not taken with another one. -/
theorem query_again {listed : Listed} {pairs : List (String × String)} {q : ListedQuery}
    (h : listed.query pairs = some q) {token : String} (htoken : q.page = some token) (another : String) :
    listed.query (pairs ++ [("page", another)]) = none := by
  obtain ⟨-, -, hpage, -⟩ := query_eq_some.mp h
  rw [htoken] at hpage
  rw [Option.eq_none_iff_forall_ne_some]
  intro q' hagain
  obtain ⟨-, -, hpage', -⟩ := query_eq_some.mp hagain
  rw [formText, formValue_again hpage] at hpage'
  cases hpage'

/-! ## Answers -/

/-- The path of a listing leads to it. -/
theorem route_of_path (listed : Listed) :
    Route.ofPath? listed.path = some listed.route ∧ listed.route.decode = some listed.route := by
  cases listed <;> decide

/-- What a request for a page comes to once its query is read: the format is chosen, then the mask is compiled, and only then is the
store asked for the page. -/
def serve {σ : Type} [Backend σ] (settings : Settings) (store : σ) (accepts : List String) (listed : Listed)
    (q : ListedQuery) : Except ServiceError Response := do
  let resolved ← settings.resolve accepts q.format listed.kind
  let filter ← Service.filter q.office q.mask
  let p ← (listed.page store filter (settings.pageRequest q.page q.pageSize q.includeTotal)).mapError .ofStorage
  Settings.respond resolved (.page listed.kind p.items p.info)

/-- A page of records is responded with as a page of entities. -/
theorem respond_ofPage {α : Type} (resolved : Resolved) (kind : Kind) (entity : α → Entity)
    (result : Except StorageError (Page α)) :
    (result.mapError ServiceError.ofStorage >>= fun page => Settings.respond resolved (.ofPage kind entity page)) =
      ((result.map fun page => page.map entity).mapError ServiceError.ofStorage >>= fun p =>
        Settings.respond resolved (.page kind p.items p.info)) := by
  cases result with
  | error e => rfl
  | ok page =>
    have hinfo : (page.map entity).info = page.info := Page.info_map entity page
    show Settings.respond resolved (.page kind (page.items.map entity) page.info) =
      Settings.respond resolved (.page kind (page.items.map entity) (page.map entity).info)
    rw [hinfo]

/-- Both listings are served alike. -/
theorem visit_route {σ : Type} [Backend σ] (listed : Listed) (settings : Settings) (store : σ) (call : Service.Call) :
    Service.visit settings store call listed.route =
      Service.withQuery call listed.query fun call q => listed.serve settings store call.accepts q := by
  cases listed with
  | locations =>
    rw [route, Service.visit, Service.withQuery, Service.withQuery, query]
    cases LocationQuery.ofForm call.pairs with
    | none => rfl
    | some q =>
      simp only [Option.map_some, Service.locations, serve, page, kind, respond_ofPage]
  | templates =>
    rw [route, Service.visit, Service.withQuery, Service.withQuery, query]
    cases TemplateQuery.ofForm call.pairs with
    | none => rfl
    | some q =>
      simp only [Option.map_some, Service.templates, serve, page, kind, respond_ofPage]

/-- What it takes for a request for a page to be answered with it. -/
theorem serve_eq_ok {σ : Type} [Backend σ] {listed : Listed} {settings : Settings} {store : σ} {accepts : List String}
    {q : ListedQuery} {r : Response} :
    listed.serve settings store accepts q = .ok r ↔
      ∃ resolved filter p body, settings.resolve accepts q.format listed.kind = .ok resolved ∧
        Service.filter q.office q.mask = .ok filter ∧
        listed.page store filter (settings.pageRequest q.page q.pageSize q.includeTotal) = .ok p ∧
        resolved.format (.page listed.kind p.items p.info) = .ok body ∧
        Header.isAdmissible resolved.contentType.text = true ∧
        r = Response.ofPage resolved.contentType.text p.info body := by
  simp only [serve, bind_eq_ok, mapError_eq_ok, Settings.respond_eq_ok]
  constructor
  · rintro ⟨resolved, hresolved, filter, hfilter, p, hp, body, hbody, hadmissible, rfl⟩
    exact ⟨resolved, filter, p, body, hresolved, hfilter, hp, hbody, hadmissible, rfl⟩
  · rintro ⟨resolved, filter, p, body, hresolved, hfilter, hp, hbody, hadmissible, rfl⟩
    exact ⟨resolved, hresolved, filter, hfilter, p, hp, body, hbody, hadmissible, rfl⟩

/-- A request for a page is answered with its document, and with headers that say what the page says of itself. -/
theorem visit_page {σ : Type} [Backend σ] {listed : Listed} {settings : Settings} {store : σ} {call : Service.Call}
    {q : ListedQuery} {resolved : Resolved} {filter : Filter} {p : Page Entity} {body : String}
    (hquery : listed.query call.pairs = some q)
    (hresolved : settings.resolve call.accepts q.format listed.kind = .ok resolved)
    (hfilter : Service.filter q.office q.mask = .ok filter)
    (hpage : listed.page store filter (settings.pageRequest q.page q.pageSize q.includeTotal) = .ok p)
    (hbody : resolved.format (.page listed.kind p.items p.info) = .ok body)
    (hadmissible : Header.isAdmissible resolved.contentType.text = true) :
    Service.visit settings store call listed.route = Response.ofPage resolved.contentType.text p.info body := by
  have hserve : listed.serve settings store call.accepts q = .ok (Response.ofPage resolved.contentType.text p.info body) :=
    serve_eq_ok.mpr ⟨resolved, filter, p, body, hresolved, hfilter, hpage, hbody, hadmissible, rfl⟩
  rw [visit_route, Service.withQuery, hquery]
  simp only [hserve, Service.settle]

/-! ## Pages -/

/-- The records on the pages of a listing are of its kind. -/
theorem kind_of_mem_page {σ : Type} [Backend σ] {listed : Listed} {store : σ} {filter : Filter} {request : PageRequest}
    {p : Page Entity} (h : listed.page store filter request = .ok p) : ∀ item ∈ p.items, item.kind = listed.kind := by
  intro item hitem
  cases listed with
  | locations =>
    obtain ⟨records, -, rfl⟩ := map_eq_ok.mp h
    obtain ⟨l, -, rfl⟩ := List.mem_map.mp hitem
    rfl
  | templates =>
    obtain ⟨records, -, rfl⟩ := map_eq_ok.mp h
    obtain ⟨t, -, rfl⟩ := List.mem_map.mp hitem
    rfl

/-- The token of the next page is that of a cursor with the same page size further on. -/
theorem cursor_of_nextPage {σ : Type} [Backend σ] {listed : Listed} {store : σ} {filter : Filter} {request : PageRequest}
    {p : Page Entity} (h : listed.page store filter request = .ok p) {t : String} (hnext : p.info.nextPage = some t) :
    let start := Cursor.decode request.token request.defaultPageSize
    ∃ c : Cursor, t = c.encode ∧ c.Valid ∧ c.pageSize = start.pageSize ∧ start.offset < c.offset := by
  cases listed with
  | locations =>
    obtain ⟨records, hrecords, rfl⟩ := map_eq_ok.mp h
    obtain ⟨groups, hgroups, rfl⟩ := map_eq_ok.mp (mapError_eq_ok.mp hrecords)
    rw [Page.info_map, Page.info_map] at hnext
    exact RowSource.cursor_of_nextPage hgroups hnext
  | templates =>
    obtain ⟨records, hrecords, rfl⟩ := map_eq_ok.mp h
    obtain ⟨groups, hgroups, rfl⟩ := map_eq_ok.mp (mapError_eq_ok.mp hrecords)
    rw [Page.info_map, Page.info_map] at hnext
    exact RowSource.cursor_of_nextPage hgroups hnext

/-- There is a page of a listing of a store in memory from every cursor on. -/
theorem exists_page_from {m : Memory} (hw : m.WellFormed) (ho : m.Ordered) (listed : Listed) {filter : Filter}
    (hsmall : (listed.records m filter).length < UInt64.size) (request : PageRequest) {start : Cursor}
    (hstart : Cursor.decode request.token request.defaultPageSize = start)
    (hstated : ∀ total, start.total = some total → total.toNat = (listed.records m filter).length) :
    ∃ p, listed.page m filter request = .ok p ∧ p.From (listed.records m filter) start request.includeTotal := by
  cases listed with
  | locations =>
    have hrecords : records m filter .locations = ((m.locationGroups filter).map Group.assemble).map Entity.location := by
      rw [Memory.map_assemble_locationGroups, List.map_map]
      rfl
    rw [hrecords, List.length_map, List.length_map] at hsmall hstated
    obtain ⟨p, hp, hfrom⟩ := (Memory.keeps_locationRows hw ho).exists_page_from_groups (Memory.count_locationRows m filter)
      (Memory.nodup_children_locationGroups ho filter) hsmall request hstart hstated
    refine ⟨_, map_eq_ok.mpr ⟨_, Memory.locationsPage_of_rows request p hp, rfl⟩, ?_⟩
    rw [hrecords]
    exact (hfrom.map _).map _
  | templates =>
    have hrecords : records m filter .templates = ((m.templateGroups filter).map Group.assemble).map Entity.ratingTemplate := by
      rw [Memory.map_assemble_templateGroups, List.map_map]
      rfl
    rw [hrecords, List.length_map, List.length_map] at hsmall hstated
    obtain ⟨p, hp, hfrom⟩ := (Memory.keeps_templateRows hw ho).exists_page_from_groups (Memory.count_templateRows m filter)
      (Memory.nodup_children_templateGroups hw ho filter) hsmall request hstart hstated
    refine ⟨_, map_eq_ok.mpr ⟨_, Memory.templatesPage_of_rows request p hp, rfl⟩, ?_⟩
    rw [hrecords]
    exact (hfrom.map _).map _

/-- The records of a listing stand in the strict order of their keys. -/
theorem records_ascend {m : Memory} (hw : m.WellFormed) (ho : m.Ordered) (listed : Listed) (filter : Filter) :
    (listed.records m filter).Pairwise fun a b => a.listedKey < b.listedKey := by
  cases listed with
  | locations => exact List.pairwise_map.mpr ((ho.locations.values hw.locationKeys).filter filter.acceptsLocation)
  | templates => exact List.pairwise_map.mpr ((ho.templates.values hw.templateKeys).filter filter.acceptsTemplate)

/-- The pages of a walk through a listing from its start hold all of it. -/
theorem exists_walk {m : Memory} (hw : m.WellFormed) (ho : m.Ordered) (listed : Listed) (filter : Filter)
    (hsmall : (listed.records m .all).length < UInt64.size) (choices : Nat → PageChoice) :
    ∃ pages, PageWalk (fun request => listed.page m filter request) choices none pages ∧
      pages.flatMap (·.items) = listed.records m filter := by
  cases listed with
  | locations =>
    have hlength : (records m .all .locations).length = m.locations.values.length := by
      simp [records, Memory.matching, Filter.acceptsLocation, Filter.accepts, Filter.acceptsOffice, Filter.all]
    obtain ⟨pages, hwalk, hitems⟩ := Memory.exists_walk_locations hw ho filter (hlength ▸ hsmall) choices
    refine ⟨_, hwalk.map Entity.location, ?_⟩
    have hrecords : records m filter .locations = ((m.matching filter).map m.withAliases).map Entity.location :=
      List.map_map.symm
    rw [hrecords, ← hitems, PageWalk.items_map]
  | templates =>
    have hlength : (records m .all .templates).length = m.templates.values.length := by
      simp [records, Memory.matchingTemplates, Filter.acceptsTemplate, Filter.accepts, Filter.acceptsOffice, Filter.all]
    obtain ⟨pages, hwalk, hitems⟩ := Memory.exists_walk_templates hw ho filter (hlength ▸ hsmall) choices
    refine ⟨_, hwalk.map Entity.ratingTemplate, ?_⟩
    have hrecords : records m filter .templates = ((m.matchingTemplates filter).map m.withRatings).map Entity.ratingTemplate :=
      List.map_map.symm
    rw [hrecords, ← hitems, PageWalk.items_map]

end Listed

end BasinRegister
