import BasinRegister.Client.Run
import BasinRegister.Proofs.Client.LastPage
import BasinRegister.Proofs.Service.Listings

/-!
# Walks of a client

A client that asks the service for all pages of a listing prints the documents of the pages, one after the other, and ends with
the last of them.
-/

namespace BasinRegister

/-! ## Tokens in headers -/

/-- The characters of a token are visible. -/
theorem Cursor.visible_of_mem_encode {c : Cursor} {x : Char} (h : x ∈ c.encode.toList) :
    0x20 < x.toNat ∧ x.toNat < 0x7F := by
  have hchar := Cursor.isTokenChar_of_mem_encode h
  rw [Cursor.isTokenChar, Bool.or_eq_true, Bool.or_eq_true, decide_eq_true_eq, decide_eq_true_eq] at hchar
  rcases hchar with (hdigit | rfl) | hletter
  · rw [Char.isDigit_iff_toNat] at hdigit
    have h48 : 48 ≤ x.toNat := hdigit.1
    have h57 : x.toNat ≤ 57 := hdigit.2
    omega
  · decide
  · have hletter : x = 'n' ∨ x = 'u' ∨ x = 'l' := by simpa [Cursor.unknownTotal] using hletter
    rcases hletter with rfl | rfl | rfl <;> decide

/-- A token can stand in a header and is read there. -/
theorem Cursor.encode_in_header (c : Cursor) :
    Header.isAdmissible c.encode = true ∧ Header.isReadable c.encode = true := by
  constructor
  · rw [Header.isAdmissible, List.all_eq_true]
    intro x hx
    obtain ⟨hlow, hhigh⟩ := Cursor.visible_of_mem_encode hx
    simp [Nat.le_of_lt hlow, Nat.ne_of_lt hhigh]
  · rw [Header.isReadable, List.all_eq_true]
    intro x hx
    obtain ⟨hlow, hhigh⟩ := Cursor.visible_of_mem_encode hx
    simp [Nat.le_of_lt hlow, hhigh]

namespace Settings

theorem lookup_tokenHeader_of_ne {key name : String} (h : key ≠ name) (token : String) :
    (tokenHeader name token).lookup key = none := by
  unfold tokenHeader
  split
  · rw [List.lookup_cons, beq_eq_false_iff_ne.mpr h]
    rfl
  · rfl

/-- The headers of a page state the token of the next one, if there is one and a header can hold it. -/
theorem lookup_pageHeaders {info : PageInfo} (h : ∀ t ∈ info.nextPage, Header.isAdmissible t = true) :
    (pageHeaders info).lookup "next-page" = info.nextPage := by
  have hnext : ((info.nextPage.map (tokenHeader "next-page")).getD []).lookup "next-page" = info.nextPage := by
    cases hnext : info.nextPage with
    | none => rfl
    | some t =>
      rw [Option.map_some, Option.getD_some, tokenHeader, if_pos (h t hnext)]
      rfl
  have htotal : (info.totalText.toList.map (("total", ·))).lookup "next-page" = none := by
    cases info.totalText <;> rfl
  rw [pageHeaders, List.lookup_append, List.lookup_append, List.lookup_append, lookup_tokenHeader_of_ne (by decide), hnext,
    htotal, Option.none_or, Option.or_none]
  exact Option.or_none

end Settings

namespace Client

/-- A client takes the token of the next page from the headers of a page, and finds none in a document that has none. -/
theorem statedToken?_ofPage {contentType body : String} {info : PageInfo}
    (hnext : ∀ t ∈ info.nextPage, ∃ c : Cursor, t = c.encode)
    (hlast : info.nextPage = none → isJson contentType = true → tokenOfBody? body = none) :
    statedToken? (.ofPage contentType info body) = info.nextPage := by
  have hadmissible : ∀ t ∈ info.nextPage, Header.isAdmissible t = true := by
    intro t ht
    obtain ⟨c, rfl⟩ := hnext t ht
    exact c.encode_in_header.1
  have hheader : (Response.ofPage contentType info body).header? "next-page" = info.nextPage :=
    Settings.lookup_pageHeaders hadmissible
  unfold statedToken?
  rw [statedHeader?, hheader]
  cases hinfo : info.nextPage with
  | some t =>
    obtain ⟨c, rfl⟩ := hnext t hinfo
    simp [Option.filter, c.encode_in_header.2, c.isEmpty_encode]
  | none =>
    simp only [Option.filter_none]
    split
    · rename_i hjson
      apply hlast hinfo
      -- a content type that cannot be read counts as none, and then the body is not looked into
      have hstated : ∀ value, statedHeader? (.ofPage contentType info body) "content-type" = some value →
          value = contentType := by
        intro value hvalue
        exact (Option.some.inj (Option.filter_eq_some_iff.mp hvalue).1).symm
      cases hvalue : statedHeader? (.ofPage contentType info body) "content-type" with
      | none =>
        rw [hvalue] at hjson
        exact absurd hjson (by decide)
      | some value =>
        rw [hvalue] at hjson
        exact hstated value hvalue ▸ hjson
    · rfl

end Client

/-! ## Requests -/

/-- What a client that goes through a listing asks for with each request, besides the token. -/
def Settings.choice (settings : Settings) (pageSize : Option UInt32) (includeTotal : Option Bool) : PageChoice :=
  { defaultPageSize := effectivePageSize pageSize settings.defaultPageSize settings.maxPageSize
    includeTotal := includeTotal.getD false }

/-- A token that the service gave out: that of a cursor whose page size it allows. -/
def Settings.GaveOut (settings : Settings) (token : String) : Prop :=
  ∃ c : Cursor, token = c.encode ∧ c.Valid ∧ c.pageSize ≤ settings.maxPageSize

/-- A token that the service gave out is taken as it is. -/
theorem Settings.pageRequest_eq {settings : Settings} {token : Option String} (h : ∀ t ∈ token, settings.GaveOut t)
    (pageSize : Option UInt32) (includeTotal : Option Bool) :
    settings.pageRequest token pageSize includeTotal = (settings.choice pageSize includeTotal).request token := by
  have hclamp : ∀ size, token.map (settings.clampToken size) = token := by
    intro size
    cases token with
    | none => rfl
    | some t =>
      obtain ⟨c, rfl, hvalid, hsize⟩ := h t rfl
      simp only [Option.map_some, clampToken, Cursor.decode_encode hvalid, if_neg (UInt32.not_lt.mpr hsize)]
  simp only [pageRequest, choice, PageChoice.request, hclamp]

/-- The token of the next page is another one that the service gave out. -/
theorem Listed.gaveOut_nextPage {σ : Type} [Backend σ] {listed : Listed} {settings : Settings} {store : σ} {filter : Filter}
    {token : Option String} {pageSize : Option UInt32} {includeTotal : Option Bool} {p : Page Entity}
    (hmax : 1 ≤ settings.maxPageSize)
    (h : listed.page store filter (settings.pageRequest token pageSize includeTotal) = .ok p) {t : String}
    (hnext : p.info.nextPage = some t) : settings.GaveOut t ∧ some t ≠ token := by
  obtain ⟨c, rfl, hvalid, hsize, hoffset⟩ := listed.cursor_of_nextPage h hnext
  rw [Settings.decode_pageRequest hmax] at hsize hoffset
  refine ⟨⟨c, rfl, hvalid, ?_⟩, ?_⟩
  · rw [hsize]
    exact min_le_bound _ _
  · rintro rfl
    rw [Cursor.decode_encode hvalid] at hoffset
    exact UInt64.lt_irrefl _ hoffset

namespace Client

/-- A transport hands the requests of a listing for pages to the service over a store, and its responses back. -/
def Transport.Faithful {σ : Type} [Backend σ] (transport : Transport) (settings : Settings) (store : σ) (listing : Listing)
    (route : Route) : Prop :=
  ∀ token : Option String, (∀ t ∈ token, ∃ c : Cursor, t = c.encode) →
    ∃ url, requestUrl listing token = .ok url ∧
      transport url listing.accept = some (Service.visit settings store
        { accepts := [listing.accept], pairs := listing.parameters ++ token.toList.map (("page", ·)) } route)

/-! ## Walks -/

section Walks

variable {σ : Type} [Backend σ] {transport : Transport} {settings : Settings} {store : σ} {listed : Listed}
  {listing : Listing} {pairs : List (String × String)} {pageSize : Option UInt32} {q : ListedQuery} {filter : Filter}
  {resolved : Resolved}

/-- What a listing is asked for and how it is answered: its parameters are read as a query, the mask is compiled, and the
accept value chooses a formatter. -/
structure Asks (settings : Settings) (listed : Listed) (listing : Listing) (pairs : List (String × String))
    (pageSize : Option UInt32) (q : ListedQuery) (filter : Filter) (resolved : Resolved) : Prop where
  /-- Behind the pairs stands the page size. -/
  parameters : listing.parameters = pairs ++ pageSize.toList.map fun n => ("page-size", Text.numeral n.toNat)
  /-- The pairs state no page and no page size. -/
  free : ∀ p ∈ pairs, p.1 ≠ "page" ∧ p.1 ≠ "page-size"
  /-- The pairs are read as a query. -/
  query : listed.query pairs = some q
  /-- The mask is compiled. -/
  filter : Service.filter q.office q.mask = .ok filter
  /-- The accept value chooses a formatter. -/
  resolved : settings.resolve [listing.accept] q.format listed.kind = .ok resolved

/-- A client gets the document of the page that its parameters and its token state, and the token of the next page with it. -/
theorem fetch_stated (hmax : 1 ≤ settings.maxPageSize) (hregistry : Standard.registry = .ok settings.registry)
    (hfaithful : transport.Faithful settings store listing listed.route) {token : Option String}
    (htoken : ∀ t ∈ token, ∃ c : Cursor, t = c.encode)
    (hquery : listed.query (listing.parameters ++ token.toList.map (("page", ·))) = some q)
    (hfilter : Service.filter q.office q.mask = .ok filter)
    (hresolved : settings.resolve [listing.accept] q.format listed.kind = .ok resolved) {p : Page Entity}
    (hpage : listed.page store filter (settings.pageRequest q.page q.pageSize q.includeTotal) = .ok p) :
    ∃ body r, resolved.format (.page listed.kind p.items p.info) = .ok body ∧ fetch transport listing token = .ok r ∧
      r.body = body ∧ statedToken? r = p.info.nextPage := by
  obtain ⟨hwrites, htype, hkind⟩ := Standard.writesPages_of_resolve hregistry (mapError_eq_ok.mp hresolved)
  obtain ⟨body, hformat⟩ := hwrites.writes p.info hkind (Listed.kind_of_mem_page hpage)
  have hbody : resolved.format (.page listed.kind p.items p.info) = .ok body := by
    have hunfold : resolved.format (.page listed.kind p.items p.info) =
        (resolved.formatter.format (.page listed.kind p.items p.info)).mapError .formatting := if_pos hkind
    rw [hunfold, hformat]
    rfl
  obtain ⟨url, hurl, hanswer⟩ := hfaithful token htoken
  have hvisit := hanswer.trans (congrArg some
    (Listed.visit_page hquery hresolved hfilter hpage hbody (htype ▸ hwrites.admissible)))
  refine ⟨body, .ofPage resolved.contentType.text p.info body, hbody, ?_, rfl, statedToken?_ofPage ?_ ?_⟩
  · rw [fetch, hurl]
    simp only [bind, Except.bind, hvisit]
    rfl
  · intro t ht
    obtain ⟨⟨c, hc, -⟩, -⟩ := Listed.gaveOut_nextPage hmax hpage ht
    exact ⟨c, hc⟩
  · rw [← htype]
    exact hwrites.ends hformat

/-- A client gets the document of the page that it asks for, and the token of the next page with it. -/
theorem fetch_page (hmax : 1 ≤ settings.maxPageSize) (hregistry : Standard.registry = .ok settings.registry)
    (hfaithful : transport.Faithful settings store listing listed.route)
    (hasks : Asks settings listed listing pairs pageSize q filter resolved) {token : Option String}
    (htoken : ∀ t ∈ token, settings.GaveOut t) {p : Page Entity}
    (hpage : listed.page store filter (settings.pageRequest token pageSize q.includeTotal) = .ok p) :
    ∃ body r, resolved.format (.page listed.kind p.items p.info) = .ok body ∧ fetch transport listing token = .ok r ∧
      r.body = body ∧ statedToken? r = p.info.nextPage := by
  have hquery : listed.query (listing.parameters ++ token.toList.map (("page", ·))) =
      some { q with page := token, pageSize := pageSize } := by
    rw [hasks.parameters]
    exact Listed.query_append hasks.query hasks.free pageSize token
  have htokens : ∀ t ∈ token, ∃ c : Cursor, t = c.encode := by
    intro t ht
    obtain ⟨c, hc, -⟩ := htoken t ht
    exact ⟨c, hc⟩
  exact fetch_stated hmax hregistry hfaithful htokens hquery hasks.filter hasks.resolved hpage

/-- A client that goes on through all pages of a listing prints their documents in order and ends with the last page. The
induction is on the pages: each gives the token of the next one, which is another token than the one before. -/
theorem walk_eq (hmax : 1 ≤ settings.maxPageSize) (hregistry : Standard.registry = .ok settings.registry)
    (hfaithful : transport.Faithful settings store listing listed.route)
    (hasks : Asks settings listed listing pairs pageSize q filter resolved) (hcomplete : listing.isComplete = true)
    {choices : Nat → PageChoice} {token : Option String} {pages : List (Page Entity)}
    (h : PageWalk (fun request => listed.page store filter request) choices token pages)
    (hchoices : ∀ i, choices i = settings.choice pageSize q.includeTotal) (htoken : ∀ t ∈ token, settings.GaveOut t) :
    ∃ bodies, List.Forall₂ (fun p body => resolved.format (.page listed.kind p.items p.info) = .ok body) pages bodies ∧
      ∀ limit, pages.length ≤ limit → walk transport listing limit token = { printed := bodies, failure := none } := by
  induction h with
  | @last choices token p hp hnone =>
    rw [hchoices 0, ← Settings.pageRequest_eq htoken] at hp
    obtain ⟨body, r, hbody, hfetch, hr, hstated⟩ := fetch_page hmax hregistry hfaithful hasks htoken hp
    refine ⟨[body], .cons hbody .nil, ?_⟩
    intro limit hlimit
    obtain ⟨limit, rfl⟩ := Nat.exists_eq_add_of_le' hlimit
    have hfollowing : following r token = none := by rw [following, hstated, hnone, Option.filter_none]
    show walk transport listing (limit + 1) token = _
    simp only [walk, hfetch, hcomplete, if_true, hfollowing, hr]
    rfl
  | @next choices token p t pages hp hsome hrest ih =>
    rw [hchoices 0, ← Settings.pageRequest_eq htoken] at hp
    obtain ⟨body, r, hbody, hfetch, hr, hstated⟩ := fetch_page hmax hregistry hfaithful hasks htoken hp
    obtain ⟨hgiven, hne⟩ := Listed.gaveOut_nextPage hmax hp hsome
    obtain ⟨bodies, hbodies, hwalk⟩ := ih (fun i => hchoices (i + 1)) (by rintro _ ⟨⟩; exact hgiven)
    refine ⟨body :: bodies, .cons hbody hbodies, ?_⟩
    intro limit hlimit
    obtain ⟨limit, rfl⟩ := Nat.exists_eq_add_of_le' (Nat.one_le_of_lt hlimit)
    have hfollowing : following r token = some t := by
      rw [following, hstated, hsome, Option.filter, if_pos (decide_eq_true hne)]
    simp only [walk, hfetch, hcomplete, if_true, hfollowing, hr, hwalk limit (Nat.le_of_succ_le_succ hlimit)]
    rfl

end Walks

end Client

end BasinRegister
