import BasinRegister.Proofs.Client.Listing
import BasinRegister.Proofs.Format.JsonDocument
import BasinRegister.Proofs.Format.XmlTree

/-!
# The token of the next page in a response

A header that cannot hold a token is left out. The token of the next page always can: it is written from a cursor and never taken
from the client, so a response states it exactly if the page has it, in its headers and in its envelope alike
(`Listed.nextPage_stated`).
-/

namespace BasinRegister

/-! ## The form of tokens -/

/-- The form `digits|digits|digits`, where `null` may stand for the digits between the bars. -/
def Cursor.HasForm (token : String) : Prop :=
  ∃ offset total size : List Char, token.toList = offset ++ '|' :: (total ++ '|' :: size) ∧ Json.IsDigits offset ∧
    (Json.IsDigits total ∨ total = "null".toList) ∧ Json.IsDigits size

/-- The token of a cursor has the form. -/
theorem Cursor.hasForm_encode (c : Cursor) : Cursor.HasForm c.encode := by
  have hbar : "|".toList = ['|'] := by decide
  refine ⟨Text.decimal c.offset.toNat, (totalText c.total).toList, Text.decimal c.pageSize.toNat, ?_, Json.isDigits_decimal _, ?_,
    Json.isDigits_decimal _⟩
  · simp only [encode, Text.numeral, String.toList_intercalate, List.map_cons, List.map_nil, List.intercalate_cons_cons,
      List.intercalate_singleton, String.toList_ofList, hbar, List.append_assoc, List.singleton_append]
  · cases c.total with
    | none => exact .inr rfl
    | some total =>
      rw [totalText, Text.numeral, String.toList_ofList]
      exact .inl (Json.isDigits_decimal _)

/-! ## Headers -/

namespace Settings

/-- A header with a token is found under its own name only. -/
theorem filter_tokenHeader {name token : String} (key : String) :
    (tokenHeader name token).filter (·.1 = key) = if name = key then tokenHeader name token else [] := by
  unfold tokenHeader
  split
  · by_cases hname : name = key <;> simp [hname]
  · simp

/-- The headers of a page state the token of the next one once, if there is one, as long as a header can hold it. -/
theorem filter_pageHeaders {info : PageInfo} (h : ∀ t ∈ info.nextPage, Header.isAdmissible t = true) :
    (pageHeaders info).filter (·.1 = "next-page") = info.nextPage.toList.map (("next-page", ·)) := by
  have hnext : ((info.nextPage.map (tokenHeader "next-page")).getD []).filter (·.1 = "next-page") =
      info.nextPage.toList.map (("next-page", ·)) := by
    cases hinfo : info.nextPage with
    | none => rfl
    | some t =>
      rw [Option.map_some, Option.getD_some, filter_tokenHeader, if_pos rfl, tokenHeader, if_pos (h t hinfo)]
      rfl
  have htotal : (info.totalText.toList.map (("total", ·))).filter (·.1 = "next-page") = [] := by
    cases info.totalText <;> simp
  rw [pageHeaders, List.filter_append, List.filter_append, List.filter_append, hnext, htotal, filter_tokenHeader,
    if_neg (by decide)]
  simp

end Settings

/-! ## Documents -/

/-- What a document of a page says of the next one: a member of its envelope, or an attribute of its root. -/
structure NextPageIn (formatter : Formatter) (nextPage : Option String) (body : String) : Prop where
  /-- Documents of JSON, those of locations as features among them, are an object with the token for a member. -/
  json : formatter = JsonDocument.formatter2 ∨ formatter = GeoJson.formatter →
    ∃ document : Json, body = document.render ∧ document.get? "next-page" = nextPage.map .text
  /-- Documents of XML have a root with the token for an attribute. -/
  xml : formatter = XmlDocument.formatter2 →
    ∃ root : Xml, body = root.document ∧
      root.attributes.filter (·.1 = "next-page") = nextPage.toList.map (("next-page", ·))

variable {kind : Kind} {items : List Entity} {info : PageInfo} {body : String}

theorem JsonDocument.nextPage_of_format2 (h : formatter2.format (.page kind items info) = .ok body) :
    ∃ document : Json, body = document.render ∧ document.get? "next-page" = info.nextPage.map .text := by
  rw [format2_eq] at h
  cases h
  refine ⟨_, rfl, get?_envelope_nextPage info ?_⟩
  intro m hm
  rw [List.mem_singleton.mp hm]
  exact plural_ne kind (by simp)

theorem GeoJson.nextPage_of_format (h : formatter.format (.page kind items info) = .ok body) :
    ∃ document : Json, body = document.render ∧ document.get? "next-page" = info.nextPage.map .text := by
  obtain ⟨-, hwrite⟩ := FormatterTag.format_page_ok h
  split at hwrite
  · cases hwrite
    refine ⟨_, rfl, JsonDocument.get?_envelope_nextPage info ?_⟩
    simp
  · cases hwrite

theorem XmlDocument.nextPage_of_format2 (h : formatter2.format (.page kind items info) = .ok body) :
    ∃ root : Xml, body = root.document ∧
      root.attributes.filter (·.1 = "next-page") = info.nextPage.toList.map (("next-page", ·)) := by
  have hkind : kind ∈ kinds := List.contains_iff_mem.mp (FormatterTag.format_page_ok h).1
  rw [format2_eq (show (Payload.page kind items info).kind ∈ kinds from hkind)] at h
  cases h
  refine ⟨_, rfl, ?_⟩
  rw [root2, attributes_collection, pageAttributes, List.filter_append, List.filter_append, List.filter_append]
  cases info.nextPage <;> cases info.totalText <;> simp

/-- A document says of the next page what its page says. -/
theorem NextPageIn.of_format {formatter : Formatter} (h : formatter.format (.page kind items info) = .ok body) :
    NextPageIn formatter info.nextPage body := by
  constructor
  · rintro (rfl | rfl)
    · exact JsonDocument.nextPage_of_format2 h
    · exact GeoJson.nextPage_of_format h
  · rintro rfl
    exact XmlDocument.nextPage_of_format2 h

/-! ## Responses -/

/-- No error has the status of a document. -/
theorem ServiceError.status_ne_ok (e : ServiceError) : e.status ≠ 200 := by
  cases e <;> simp [status]

/-- A document that is responded with was written by the formatter. -/
theorem Resolved.of_format_ok {resolved : Resolved} {payload : Payload} (h : resolved.format payload = .ok body) :
    resolved.formatter.format payload = .ok body := by
  unfold Resolved.format at h
  split at h
  · exact mapError_eq_ok.mp h
  · cases h

/-- What is answered with a document is what was read, without its body where only the headers were asked for. -/
theorem Service.get_of_answer_ok {σ : Type} [Backend σ] {settings : Settings} {store : σ} {request : Request} {route : Route}
    (hroute : Route.ofPath? (Route.splitTarget request.target).1 = some route)
    (h : (answer settings store request).status = 200) :
    (get settings store route request).status = 200 ∧
      (answer settings store request).headers = (get settings store route request).headers ∧
      (request.method = "GET" → (answer settings store request).body = (get settings store route request).body) := by
  by_cases hget : request.method = "GET"
  · have hread : answer settings store request = get settings store route request := by
      simp only [answer, hroute, hget, if_true]
    rw [hread] at h ⊢
    exact ⟨h, rfl, fun _ => rfl⟩
  · by_cases hhead : request.method = "HEAD"
    · have hread : answer settings store request = (get settings store route request).withoutBody := by
        simp only [answer, hroute, hhead, if_neg (show ¬"HEAD" = "GET" by decide), if_true]
      rw [hread] at h ⊢
      exact ⟨h, rfl, fun hmethod => absurd hmethod hget⟩
    · simp only [answer, hroute, if_neg hget, if_neg hhead] at h
      cases h

namespace Listed

variable {σ : Type} [Backend σ] {settings : Settings} {store : σ} {call : Service.Call} {listed : Listed}

/-- A response to a request for a page that is no error states the page that it was made from. -/
theorem of_visit_ok (h : (Service.visit settings store call listed.route).status = 200) :
    ∃ q, listed.query call.pairs = some q ∧
      listed.serve settings store call.accepts q = .ok (Service.visit settings store call listed.route) := by
  rw [visit_route, Service.withQuery] at h ⊢
  cases hquery : listed.query call.pairs with
  | none =>
    rw [hquery] at h
    cases h
  | some q =>
    rw [hquery] at h
    simp only at h ⊢
    cases hserve : listed.serve settings store call.accepts q with
    | ok r => exact ⟨q, rfl, hserve⟩
    | error e =>
      rw [hserve] at h
      exact absurd h e.status_ne_ok

/-- The token of the next page is no echo of what the client sent, with or without blanks around it. -/
theorem nextPage_ne_stated {token : Option String} {pageSize : Option UInt32} {includeTotal : Option Bool} {filter : Filter}
    {p : Page Entity} (hmax : 1 ≤ settings.maxPageSize)
    (h : listed.page store filter (settings.pageRequest token pageSize includeTotal) = .ok p) {t : String}
    (hnext : p.info.nextPage = some t) : Cursor.statedToken token ≠ some t := by
  obtain ⟨c, rfl, hvalid, -, hoffset⟩ := listed.cursor_of_nextPage h hnext
  intro hstated
  -- a cursor is read from the token without its blanks, and would be the one further on
  have hread (size : UInt32) : Cursor.decode token size = c := by
    have hsame : Cursor.decode token size = Cursor.decode (some c.encode) size := by
      rw [Cursor.decode, Cursor.decode, hstated, Cursor.statedToken_encode]
    rw [hsame, Cursor.decode_encode hvalid]
  rw [Settings.decode_pageRequest hmax, hread] at hoffset
  exact UInt64.lt_irrefl _ hoffset

/-- No response to a request for a page loses the token of the next one, whatever the client sent, whatever the store is and
whatever formats there are. The response was made from a page, and states the token in a header exactly if the page has it. The
token is that of a cursor, which a header can always hold and which is not what the client sent. A document of version 2 of JSON
or XML or of features says the same: it has the token where the header is there, and none where it is not. -/
theorem nextPage_stated {lookup : String → Option String} {config : Config} (hconfig : Config.ofLookup lookup = .ok config)
    (registry : Registry) (store : σ) (listed : Listed) (request : Request)
    (hroute : Route.ofPath? (Route.splitTarget request.target).1 = some listed.route)
    (hstatus : (Service.answer (.ofConfig registry config) store request).status = 200) :
    let settings := Settings.ofConfig registry config
    let response := Service.answer settings store request
    ∃ q filter p resolved,
      listed.query (Text.formDecodePairs (Route.splitTarget request.target).2) = some q ∧
      Service.filter q.office q.mask = .ok filter ∧
      listed.page store filter (settings.pageRequest q.page q.pageSize q.includeTotal) = .ok p ∧
      settings.resolve request.accepts q.format listed.kind = .ok resolved ∧
      response.headers.filter (·.1 = "next-page") = p.info.nextPage.toList.map (("next-page", ·)) ∧
      (∀ t ∈ p.info.nextPage, Cursor.HasForm t ∧ Header.isAdmissible t = true ∧ q.page ≠ some t ∧
        Cursor.statedToken q.page ≠ some t) ∧
      (request.method = "GET" → NextPageIn resolved.formatter p.info.nextPage response.body) := by
  intro settings response
  have hmax : 1 ≤ settings.maxPageSize := (Config.bounds_of_ofLookup hconfig).2.2
  obtain ⟨-, hdecode⟩ := listed.route_of_path
  have hget : Service.get settings store listed.route request = Service.visit settings store
      { accepts := request.accepts, pairs := Text.formDecodePairs (Route.splitTarget request.target).2 } listed.route := by
    simp only [Service.get, hdecode]
  obtain ⟨hok, hheaders, hbody⟩ := Service.get_of_answer_ok hroute hstatus
  rw [hget] at hok
  obtain ⟨q, hquery, hserve⟩ := of_visit_ok hok
  rw [← hget] at hserve
  obtain ⟨resolved, filter, p, body, hresolved, hfilter, hp, hformat, -, hresponse⟩ := serve_eq_ok.mp hserve
  have htokens : ∀ t ∈ p.info.nextPage, Cursor.HasForm t ∧ Header.isAdmissible t = true ∧ q.page ≠ some t ∧
      Cursor.statedToken q.page ≠ some t := by
    intro t ht
    obtain ⟨⟨c, rfl, -⟩, hne⟩ := gaveOut_nextPage hmax hp ht
    exact ⟨c.hasForm_encode, c.encode_in_header.1, hne.symm, nextPage_ne_stated hmax hp ht⟩
  refine ⟨q, filter, p, resolved, hquery, hfilter, hp, hresolved, ?_, htokens, ?_⟩
  · rw [hheaders, hresponse, Response.ofPage, List.filter_cons_of_neg (by simp)]
    exact Settings.filter_pageHeaders fun t ht => (htokens t ht).2.1
  · intro hmethod
    rw [hbody hmethod, hresponse]
    exact .of_format (Resolved.of_format_ok hformat)

/-- A request for the first of three locations with a line of nonsense for a token. -/
def junkRequest : Request :=
  { method := "GET", target := "/locations?page=%0Ajunk&page-size=1", accepts := ["application/json;version=2"] }

/-- It is answered with a page, of which the header states the token of the next one. -/
theorem nextPage_stated_junk :
    ∃ registry, Standard.registry = .ok registry ∧
      let response := Service.answer (.ofConfig registry .defaults) Client.gaugeStore junkRequest
      response.status = 200 ∧ ∃ p : Page Entity, p.info.nextPage = some "1|null|1" ∧
        response.headers.filter (·.1 = "next-page") = [("next-page", "1|null|1")] ∧ Cursor.HasForm "1|null|1" := by
  have hanswer : (Standard.registry.toOption.map fun registry =>
      let response := Service.answer (.ofConfig registry .defaults) Client.gaugeStore junkRequest
      (response.status, response.headers.filter (·.1 = "next-page"))) = some (200, [("next-page", "1|null|1")]) := by
    decide +kernel
  obtain ⟨registry, hregistry, hanswer⟩ := exists_of_toOption_map hanswer
  obtain ⟨hstatus, hheader⟩ := Prod.mk.inj hanswer
  have hconfig : Config.ofLookup (fun _ => none) = .ok .defaults := by rfl
  have hroute : Route.ofPath? (Route.splitTarget junkRequest.target).1 = some Listed.locations.route := by decide
  obtain ⟨q, filter, p, resolved, -, -, -, -, hstated, htokens, -⟩ :=
    nextPage_stated hconfig registry Client.gaugeStore .locations junkRequest hroute hstatus
  have hnext : p.info.nextPage = some "1|null|1" := by
    rw [hheader] at hstated
    cases hinfo : p.info.nextPage with
    | none => simp [hinfo] at hstated
    | some t =>
      simp only [hinfo, Option.toList_some, List.map_cons, List.map_nil, List.cons.injEq, Prod.mk.injEq, true_and,
        and_true] at hstated
      rw [hstated]
  exact ⟨registry, hregistry, hstatus, p, hnext, hheader, (htokens _ hnext).1⟩

end Listed

end BasinRegister
