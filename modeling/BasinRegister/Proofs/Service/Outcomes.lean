import BasinRegister.Proofs.Client.LastPage
import BasinRegister.Proofs.Format.Catalog
import BasinRegister.Proofs.Service.Questions
import BasinRegister.Proofs.Storage.Lookups
import BasinRegister.Proofs.Storage.Offsets

/-!
# What a request comes to

A question that a store in memory is asked leads to a document, or to nothing for one of three reasons: its mask is refused, no
record has the name, or several have it where one is wanted (`Question.leads`). The format comes first: a request for one that
cannot be had is refused in the same words whatever else it says and whatever the store holds. Nothing else ever goes wrong
(`Service.outcome_of_get`).
-/

namespace BasinRegister

/-! ## Errors as they are read -/

/-- What the body of an error states. -/
def Response.error? (r : Response) : Option ErrorBody := (Json.read? r.body).bind ErrorBody.ofJson

/-- The code that the body of an error states. -/
def Response.code? (r : Response) : Option String := r.error?.map (·.code)

theorem ErrorBody.ofJson_toJson (e : ErrorBody) : ErrorBody.ofJson e.toJson = some e := by
  have hslots : e.toJson.slots? ["error", "code"] =
      some ([some (.text e.error), some (.text e.code)].map Json.Slot.ofOption) := by
    refine Json.slots?_object _ (.cons ?_ (.cons ?_ .nil))
    all_goals simp
  rw [ofJson, hslots]
  simp

/-- The body of an error states its text and its code. -/
theorem ServiceError.error?_response (e : ServiceError) : e.response.error? = some e.body := by
  have hkept : Json.Kept Json.ReadsBack e.body.toJson := by
    refine .object (by simp) ?_
    simp only [List.forall_mem_cons, List.not_mem_nil, false_imp_iff, implies_true, and_true]
    exact ⟨.text _, .text _⟩
  rw [Response.error?, response, Response.json, Json.faithful_read? _ hkept, Option.bind_some, ErrorBody.ofJson_toJson]

theorem ServiceError.code?_response (e : ServiceError) : e.response.code? = some e.code := by
  rw [Response.code?, e.error?_response]
  rfl

/-- A registry that refuses a request either knows no format that it names or has none of them for the kind. -/
theorem Settings.resolve_error {settings : Settings} {accepts : List String} {format : Option String} {kind : Kind}
    {e : ServiceError} (h : settings.resolve accepts format kind = .error e) :
    ∃ text, e = .notAcceptable text ∨ e = .notImplemented text := by
  unfold resolve Registry.resolve at h
  split at h
  · cases h
  · cases h
    exact ⟨_, .inr rfl⟩
  · cases h
    exact ⟨_, .inl rfl⟩

/-! ## Questions to a store in memory -/

/-- A filter is refused with its mask, and only then. -/
theorem Service.filter_cases (office mask : Option String) :
    (∃ text ∈ mask, ∃ e, Mask.compile text = .error e ∧ filter office mask = .error (.badRequest e.message)) ∨
      ∃ accepted, filter office mask = .ok accepted ∧ ¬∃ text ∈ mask, ∃ e, Mask.compile text = .error e := by
  cases mask with
  | none => exact .inr ⟨⟨office, none⟩, rfl, by simp⟩
  | some text =>
    have hmask : (some text).mapM Mask.compile = some <$> Mask.compile text := rfl
    cases hcompile : Mask.compile text with
    | error e =>
      refine .inl ⟨text, rfl, e, hcompile, ?_⟩
      rw [filter, hmask, hcompile]
      rfl
    | ok compiled =>
      refine .inr ⟨⟨office, some compiled⟩, ?_, by simp [hcompile]⟩
      rw [filter, hmask, hcompile]
      rfl

/-- There is a page for every request for one. -/
theorem Listed.exists_page {m : Memory} (h : m.Reachable) (hlocations : m.locations.values.length < UInt64.size)
    (htemplates : m.templates.values.length < UInt64.size) (listed : Listed) (filter : Filter) (request : PageRequest) :
    ∃ p, listed.page m filter request = .ok p := by
  cases listed with
  | locations =>
    have hsmall : (m.matching filter).length < UInt64.size := (List.length_filter_le _ _).trans_lt hlocations
    obtain ⟨p, hp, -⟩ := Memory.exists_locationsPage_within h hsmall request
    exact ⟨_, map_eq_ok.mpr ⟨p, hp, rfl⟩⟩
  | templates =>
    have hsmall : (m.matchingTemplates filter).length < UInt64.size := (List.length_filter_le _ _).trans_lt htemplates
    obtain ⟨p, hp, -⟩ := Memory.exists_templatesPage_within h hsmall request
    exact ⟨_, map_eq_ok.mpr ⟨p, hp, rfl⟩⟩

namespace Question

/-- The records that a look-up is about, by their names in either case; a question for a list is about no record. -/
def named (m : Memory) : Question → Option (List Entity)
  | .offices => none
  | .office name => some ((m.offices.values.filter fun o => Text.sameFolded o.name name).map .office)
  | .listing _ _ => none
  | .location officeName name => some ((m.locationsNamed officeName name).map .location)
  | .template officeName id => some ((m.templatesNamed officeName id).map .ratingTemplate)
  | .waterUser officeName project name =>
    some ((m.waterUsers.values.filter fun u =>
      Text.sameFolded u.projectId.officeId officeName && Text.sameFolded u.projectId.name project &&
        Text.sameFolded u.entityName name).map .waterUser)

/-- The mask of a question for a page is refused. -/
def MaskRefused : Question → Prop
  | .listing _ q => ∃ mask ∈ q.mask, ∃ e, Mask.compile mask = .error e
  | _ => False

/-- The only location or rating template of a name is asked for, but several have it. -/
def Ambiguous (m : Memory) : Question → Prop
  | .location officeName name => 2 ≤ (m.locationsNamed officeName name).length
  | .template officeName id => 2 ≤ (m.templatesNamed officeName id).length
  | _ => False

/-- What a question leads to. -/
inductive Leads (m : Memory) (question : Question) : Except ServiceError Payload → Prop where
  /-- Its mask is refused. -/
  | refused (text : String) (hrefused : question.MaskRefused) (hnamed : question.named m ≠ some [])
    (hsingle : ¬question.Ambiguous m) : Leads m question (.error (.badRequest text))
  /-- There is no such record. -/
  | missing (text : String) (hrefused : ¬question.MaskRefused) (hnamed : question.named m = some [])
    (hsingle : ¬question.Ambiguous m) : Leads m question (.error (.notFound text))
  /-- There are several where one is wanted. -/
  | ambiguous (text : String) (hrefused : ¬question.MaskRefused) (hnamed : question.named m ≠ some [])
    (hsingle : question.Ambiguous m) : Leads m question (.error (.integrity text))
  /-- There is what the document is made of. -/
  | document (payload : Payload) (hkind : payload.kind = question.kind) (hitems : ∀ item ∈ payload.items, item.kind = payload.kind)
    (hrefused : ¬question.MaskRefused) (hnamed : question.named m ≠ some []) (hsingle : ¬question.Ambiguous m) :
    Leads m question (.ok payload)

/-- A search for the first record finds none only if no record passes the test. -/
theorem find?_cases {α : Type} (test : α → Bool) (xs : List α) :
    (xs.find? test = none ∧ xs.filter test = []) ∨ ∃ x, xs.find? test = some x ∧ xs.filter test ≠ [] := by
  cases h : xs.find? test with
  | none =>
    refine .inl ⟨rfl, List.filter_eq_nil_iff.mpr ?_⟩
    exact List.find?_eq_none.mp h
  | some x =>
    refine .inr ⟨x, rfl, ?_⟩
    exact List.ne_nil_of_mem (List.mem_filter.mpr ⟨List.mem_of_find?_eq_some h, List.find?_some h⟩)

/-- A look-up for the only record leads to it, to nothing or to several. -/
theorem leads_of_answersOnly {m : Memory} {question : Question} {α : Type} {what missing : String} {records : List α}
    {item : α → α} {entity : α → Entity} {answer : Except StorageError (Option α)} (h : AnswersOnly what records item answer)
    (hkind : ∀ x, (entity x).kind = question.kind) (hrefused : ¬question.MaskRefused)
    (hnamed : question.named m = some (records.map entity)) (hsingle : question.Ambiguous m ↔ 2 ≤ records.length) :
    question.Leads m ((Service.found missing answer).map fun x => .one (entity x)) := by
  cases answer with
  | error e =>
    obtain ⟨hlength, rfl⟩ := (h.several e).mp rfl
    refine .ambiguous _ hrefused ?_ (hsingle.mpr hlength)
    intro hempty
    have hnone : records = [] := List.map_eq_nil_iff.mp (Option.some.inj (hnamed.symm.trans hempty))
    rw [hnone] at hlength
    exact absurd hlength (by simp)
  | ok result =>
    cases result with
    | none =>
      obtain rfl := h.nothing.mp rfl
      exact .missing _ hrefused hnamed (by rw [hsingle]; simp)
    | some x =>
      obtain ⟨y, rfl, -⟩ := (h.only x).mp rfl
      refine .document _ (hkind x) ?_ hrefused (by rw [hnamed]; simp) (by rw [hsingle]; simp)
      exact List.forall_mem_singleton.mpr rfl

/-- A look-up for the first record leads to it or to nothing. -/
theorem leads_of_find? {m : Memory} {question : Question} {α : Type} {missing : String} {test : α → Bool} {records : List α}
    {entity : α → Entity} (hkind : ∀ x, (entity x).kind = question.kind) (hrefused : ¬question.MaskRefused)
    (hnamed : question.named m = some ((records.filter test).map entity)) (hsingle : ¬question.Ambiguous m) :
    question.Leads m ((Service.found missing (.ok (records.find? test))).map fun x => .one (entity x)) := by
  rcases find?_cases test records with ⟨hfind, hnone⟩ | ⟨x, hfind, hsome⟩
  · rw [hfind]
    exact .missing _ hrefused (by rw [hnamed, hnone]; rfl) hsingle
  · rw [hfind]
    refine .document _ (hkind x) (List.forall_mem_singleton.mpr rfl) hrefused ?_ hsingle
    intro hempty
    exact hsome (List.map_eq_nil_iff.mp (Option.some.inj (hnamed.symm.trans hempty)))

/-- A question for a page leads to it unless its mask is refused. -/
theorem leads_listing {m : Memory} (h : m.Reachable) (hlocations : m.locations.values.length < UInt64.size)
    (htemplates : m.templates.values.length < UInt64.size) (settings : Settings) (listed : Listed) (q : ListedQuery) :
    (Question.listing listed q).Leads m ((Question.listing listed q).payload settings m) := by
  have hnamed : (Question.listing listed q).named m ≠ some [] := nofun
  have hsingle : ¬(Question.listing listed q).Ambiguous m := id
  rcases Service.filter_cases q.office q.mask with ⟨mask, hmask, cause, hcompile, hfilter⟩ | ⟨filter, hfilter, hrefused⟩
  · have hpayload : (Question.listing listed q).payload settings m = .error (.badRequest cause.message) := by
      simp only [payload, hfilter]
      rfl
    rw [hpayload]
    exact .refused _ ⟨mask, hmask, cause, hcompile⟩ hnamed hsingle
  · obtain ⟨p, hp⟩ := listed.exists_page h hlocations htemplates filter
      (settings.pageRequest q.page q.pageSize q.includeTotal)
    have hpayload : (Question.listing listed q).payload settings m = .ok (.page listed.kind p.items p.info) :=
      bind_eq_ok.mpr ⟨filter, hfilter, bind_eq_ok.mpr ⟨p, mapError_eq_ok.mpr hp, rfl⟩⟩
    rw [hpayload]
    exact .document _ rfl (Listed.kind_of_mem_page hp) hrefused hnamed hsingle

/-- What every question to a store in memory leads to. -/
theorem leads {m : Memory} (h : m.Reachable) (hlocations : m.locations.values.length < UInt64.size)
    (htemplates : m.templates.values.length < UInt64.size) (settings : Settings) (question : Question) :
    question.Leads m (question.payload settings m) := by
  cases question with
  | offices =>
    refine .document _ rfl ?_ id nofun id
    exact List.forall_mem_map.mpr fun _ _ => rfl
  | office name => exact leads_of_find? (fun _ => rfl) id rfl id
  | listing listed q => exact leads_listing h hlocations htemplates settings listed q
  | location officeName name =>
    exact leads_of_answersOnly (Memory.answersOnly_location? h.wellFormed h.ordered officeName name) (fun _ => rfl) id rfl .rfl
  | template officeName id =>
    exact leads_of_answersOnly (Memory.answersOnly_template? h.wellFormed h.ordered officeName id) (fun _ => rfl)
      (fun hrefused => hrefused) rfl .rfl
  | waterUser officeName project name => exact leads_of_find? (fun _ => rfl) id rfl id

/-- How a question is answered in a format that was chosen. -/
structure Answered (m : Memory) (question : Question) (resolved : Resolved) (response : Response) : Prop where
  /-- The request is bad exactly if its mask is refused. -/
  refused : response.status = 400 ↔ question.MaskRefused
  /-- Nothing is found exactly if a look-up is about no record. -/
  missing : response.status = 404 ↔ question.named m = some []
  /-- The service fails exactly if the only location or template is asked for and there are several. -/
  ambiguous : response.status = 500 ↔ question.Ambiguous m
  /-- Otherwise there is a document, with the content type of the format. -/
  document : ¬question.MaskRefused → question.named m ≠ some [] → ¬question.Ambiguous m →
    response.status = 200 ∧ response.header? "content-type" = some resolved.contentType.text
  /-- An error states the code of its status. -/
  code : response.status ≠ 200 → (response.status, response.code?) ∈
    [(400, some "invalid_parameter"), (404, some "not_found"), (500, some "integrity_violation")]

/-- An error answers a question if its status stands for what the question leads to. -/
theorem Answered.of_error {m : Memory} {question : Question} {resolved : Resolved} {e : ServiceError}
    (hrefused : e.status = 400 ↔ question.MaskRefused) (hmissing : e.status = 404 ↔ question.named m = some [])
    (hambiguous : e.status = 500 ↔ question.Ambiguous m)
    (hcode : (e.status, e.code) ∈ [(400, "invalid_parameter"), (404, "not_found"), (500, "integrity_violation")]) :
    question.Answered m resolved e.response := by
  simp only [List.mem_cons, Prod.mk.injEq, List.not_mem_nil, or_false] at hcode
  refine ⟨hrefused, hmissing, hambiguous, ?_, ?_⟩
  · intro hnotRefused hnamed hsingle
    rcases hcode with ⟨hstatus, -⟩ | ⟨hstatus, -⟩ | ⟨hstatus, -⟩
    · exact absurd (hrefused.mp hstatus) hnotRefused
    · exact absurd (hmissing.mp hstatus) hnamed
    · exact absurd (hambiguous.mp hstatus) hsingle
  · intro _
    have hstatus : e.response.status = e.status := rfl
    rw [ServiceError.code?_response, hstatus]
    rcases hcode with ⟨hstatus, hcode⟩ | ⟨hstatus, hcode⟩ | ⟨hstatus, hcode⟩ <;> simp [hstatus, hcode]

/-- A document of the register can be written and responded with. -/
theorem respond_ok {settings : Settings} (hregistry : Standard.registry = .ok settings.registry) {accepts : List String}
    {format : Option String} {kind : Kind} {resolved : Resolved} (h : settings.resolve accepts format kind = .ok resolved)
    {payload : Payload} (hkind : payload.kind = kind) (hitems : ∀ item ∈ payload.items, item.kind = payload.kind) :
    ∃ body, Settings.respond resolved payload =
      .ok { status := 200, headers := ("content-type", resolved.contentType.text) :: Settings.payloadHeaders payload, body } := by
  subst hkind
  have hresolve := mapError_eq_ok.mp h
  obtain ⟨hwrites, htype, hsupports⟩ := Standard.writesPages_of_resolve hregistry hresolve
  obtain ⟨hmem, -, -⟩ := Registry.of_resolve hresolve
  rw [Blueprint.formatters_of_build hregistry] at hmem
  obtain ⟨body, hbody⟩ := Standard.total_of_mem hmem payload hsupports hitems
  have hformat : resolved.format payload = .ok body := by
    rw [Resolved.format, if_pos hsupports, hbody]
    rfl
  exact ⟨body, Settings.respond_eq_ok.mpr ⟨body, hformat, htype ▸ hwrites.admissible, rfl⟩⟩

/-- A question in a format that can be had is answered by what it leads to. -/
theorem answered {settings : Settings} (hregistry : Standard.registry = .ok settings.registry) {m : Memory} {question : Question}
    (hleads : question.Leads m (question.payload settings m)) {accepts : List String} {format : Option String}
    {resolved : Resolved} (h : settings.resolve accepts format question.kind = .ok resolved) :
    question.Answered m resolved (Service.settle (question.answer settings m accepts format)) := by
  have hanswer : question.answer settings m accepts format =
      question.payload settings m >>= fun payload => Settings.respond resolved payload := by
    rw [answer, h]
    rfl
  rw [hanswer]
  generalize question.payload settings m = result at hleads
  cases hleads with
  | refused text hrefused hnamed hsingle =>
    exact .of_error (iff_of_true rfl hrefused) (iff_of_false (by simp [ServiceError.status]) hnamed)
      (iff_of_false (by simp [ServiceError.status]) hsingle) List.mem_cons_self
  | missing text hrefused hnamed hsingle =>
    exact .of_error (iff_of_false (by simp [ServiceError.status]) hrefused) (iff_of_true rfl hnamed)
      (iff_of_false (by simp [ServiceError.status]) hsingle) (List.mem_cons_of_mem _ List.mem_cons_self)
  | ambiguous text hrefused hnamed hsingle =>
    exact .of_error (iff_of_false (by simp [ServiceError.status]) hrefused) (iff_of_false (by simp [ServiceError.status]) hnamed)
      (iff_of_true rfl hsingle) (List.mem_cons_of_mem _ (List.mem_cons_of_mem _ List.mem_cons_self))
  | document payload hkind hitems hrefused hnamed hsingle =>
    obtain ⟨body, hrespond⟩ := respond_ok hregistry h hkind hitems
    show question.Answered m resolved (Service.settle (Settings.respond resolved payload))
    rw [hrespond, Service.settle]
    exact ⟨by simp [hrefused], by simp [hnamed], by simp [hsingle], fun _ _ _ => ⟨rfl, rfl⟩, fun hnot => absurd rfl hnot⟩

end Question

/-! ## Answers -/

namespace Service

/-- How a request for records is answered, for every store in memory, every settings with the standard registry and every request
that is taken. If the format that it states cannot be had for the kind, the answer is 406 or 501, and the same for every store and
every other request for the kind with the same format, even with a mask that is refused or a name that no record has. Otherwise
it is answered by what it leads to: 400 exactly if its mask is refused, 404 exactly if its look-up is about no record, 500 for a
violation of integrity exactly if the only location or template of a name is wanted and there are several, and else a document
under the canonical content type of the format. No error ever states that the service failed or could not write a document. -/
theorem outcome_of_get {settings : Settings} (hregistry : Standard.registry = .ok settings.registry) {m : Memory}
    (h : m.Reachable) (hlocations : m.locations.values.length < UInt64.size)
    (htemplates : m.templates.values.length < UInt64.size) {request : Request} (hget : request.method = "GET")
    {question : Question} {format : Option String} (hquestion : request.question? = some (question, format)) :
    let response := answer settings m request
    (∀ e, settings.resolve request.accepts format question.kind = .error e →
      (response.status, response.code?) ∈ [(406, some "not_acceptable"), (501, some "not_implemented")] ∧
      ∀ (other : Memory) (otherRequest : Request) (otherQuestion : Question), otherRequest.method = "GET" →
        otherRequest.accepts = request.accepts → otherRequest.question? = some (otherQuestion, format) →
        otherQuestion.kind = question.kind → answer settings other otherRequest = response) ∧
    (∀ resolved, settings.resolve request.accepts format question.kind = .ok resolved →
      question.Answered m resolved response ∧ resolved.formatter ∈ settings.registry.formatters ∧
        resolved.formatter.contentType = resolved.contentType) ∧
    (response.status ≠ 200 → response.code? ≠ some "internal_error" ∧ response.code? ≠ some "formatting_failed") := by
  intro response
  have hresponse : response = settle (question.answer settings m request.accepts format) := Request.answer_eq hget hquestion
  cases hresolve : settings.resolve request.accepts format question.kind with
  | error e =>
    -- the format is chosen before anything else is looked at
    have hfails (other : Memory) (otherQuestion : Question) (hkind : otherQuestion.kind = question.kind) :
        settle (otherQuestion.answer settings other request.accepts format) = e.response := by
      rw [Question.answer, hkind, hresolve]
      rfl
    have hsame : response = e.response := hresponse.trans (hfails m question rfl)
    have hcodes : (response.status, response.code?) ∈ [(406, some "not_acceptable"), (501, some "not_implemented")] := by
      rw [hsame, ServiceError.code?_response]
      obtain ⟨text, rfl | rfl⟩ := Settings.resolve_error hresolve
      · exact List.mem_cons_self
      · exact List.mem_cons_of_mem _ List.mem_cons_self
    refine ⟨?_, ?_, ?_⟩
    · intro e' _
      refine ⟨hcodes, ?_⟩
      intro other otherRequest otherQuestion hotherGet haccepts hother hkind
      rw [hsame, Request.answer_eq hotherGet hother, haccepts, hfails other otherQuestion hkind]
    · intro resolved hresolved
      cases hresolved
    · intro _
      simp only [List.mem_cons, Prod.mk.injEq, List.not_mem_nil, or_false] at hcodes
      rcases hcodes with ⟨-, hcode⟩ | ⟨-, hcode⟩ <;> simp [hcode]
  | ok resolved =>
    have hanswered : question.Answered m resolved response := by
      rw [hresponse]
      exact Question.answered hregistry (question.leads h hlocations htemplates settings) hresolve
    obtain ⟨hmem, htype, -⟩ := Registry.of_resolve (mapError_eq_ok.mp hresolve)
    refine ⟨?_, ?_, ?_⟩
    · intro e he
      cases he
    · rintro _ ⟨⟩
      exact ⟨hanswered, hmem, htype⟩
    · intro hstatus
      have hcodes := hanswered.code hstatus
      simp only [List.mem_cons, Prod.mk.injEq, List.not_mem_nil, or_false] at hcodes
      rcases hcodes with ⟨-, hcode⟩ | ⟨-, hcode⟩ | ⟨-, hcode⟩ <;> simp [hcode]

/-- A request for a location by a name that two have in either case, in any format. -/
def keysRequest : Request := { method := "GET", target := "/locations/SWT/Keys", accepts := [] }

/-- A request for it as a table, which locations are not written as. -/
def keysTableRequest : Request := { method := "GET", target := "/locations/SWT/Keys?format=csv", accepts := [] }

/-- The first request violates integrity. The second one is refused for its format, and so it is when there are no locations. -/
theorem outcome_of_get_keys :
    ∃ registry, Standard.registry = .ok registry ∧ Memory.namesakes.Reachable ∧
      let settings := Settings.ofConfig registry .defaults
      (answer settings Memory.namesakes keysRequest).status = 500 ∧
      (answer settings Memory.namesakes keysRequest).code? = some "integrity_violation" ∧
      (answer settings Memory.namesakes keysTableRequest).status ∈ [406, 501] ∧
      answer settings Memory.empty keysTableRequest = answer settings Memory.namesakes keysTableRequest := by
  have hchosen : (Standard.registry.toOption.map fun registry =>
      let settings := Settings.ofConfig registry .defaults
      ((settings.resolve [] none .location).isOk, (settings.resolve [] (some "csv") .location).isOk)) = some (true, false) := by
    decide +kernel
  obtain ⟨registry, hregistry, hchosen⟩ := exists_of_toOption_map hchosen
  obtain ⟨hresolved, hrefused⟩ := Prod.mk.inj hchosen
  have hreachable : Memory.namesakes.Reachable := ⟨_, rfl⟩
  have hkeys : keysRequest.question? = some (.location "SWT" "Keys", none) := by rfl
  have htable : keysTableRequest.question? = some (.location "SWT" "Keys", some "csv") := by rfl
  refine ⟨registry, hregistry, hreachable, ?_⟩
  intro settings
  have hsettings : Standard.registry = .ok settings.registry := hregistry
  have hkeysGet : keysRequest.method = "GET" := rfl
  have htableGet : keysTableRequest.method = "GET" := rfl
  obtain ⟨-, hanswered, -⟩ := outcome_of_get hsettings hreachable (by decide) (by decide) hkeysGet hkeys
  obtain ⟨hfails, -, -⟩ := outcome_of_get hsettings hreachable (by decide) (by decide) htableGet htable
  have hfirst : (answer settings Memory.namesakes keysRequest).status = 500 ∧
      (answer settings Memory.namesakes keysRequest).code? = some "integrity_violation" := by
    obtain ⟨resolved, hresolved⟩ := exists_of_isOk hresolved
    obtain ⟨hkeysAnswered, -, -⟩ := hanswered resolved hresolved
    have hstatus := hkeysAnswered.ambiguous.mpr (show 2 ≤ (Memory.namesakes.locationsNamed "SWT" "Keys").length by decide)
    have hcode := hkeysAnswered.code (by rw [hstatus]; decide)
    rw [hstatus] at hcode
    simpa using And.intro hstatus hcode
  have hsecond : (answer settings Memory.namesakes keysTableRequest).status ∈ [406, 501] ∧
      answer settings Memory.empty keysTableRequest = answer settings Memory.namesakes keysTableRequest := by
    obtain ⟨e, hrefused⟩ := exists_of_not_isOk hrefused
    obtain ⟨hcodes, hsame⟩ := hfails e hrefused
    refine ⟨?_, hsame Memory.empty keysTableRequest _ rfl rfl htable rfl⟩
    simp only [List.mem_cons, Prod.mk.injEq, List.not_mem_nil, or_false] at hcodes
    rcases hcodes with ⟨hstatus, -⟩ | ⟨hstatus, -⟩ <;> simp [hstatus]
  exact ⟨hfirst.1, hfirst.2, hsecond⟩

end Service

end BasinRegister
