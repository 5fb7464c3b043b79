import BasinRegister.Proofs.Client.Listing

/-!
# Listings from a token on

A client that is to fetch all pages may be given a token among its parameters, and then states it with every request. The token
of the next page comes to stand beside it, and the service takes no parameter twice. So a run from a token on prints one page:
that is all that is left of the listing if the page is the last one, and otherwise the second request is refused
(`Client.run_list_resumed`).
-/

namespace BasinRegister

namespace Client

section Requests

variable {σ : Type} [Backend σ] {transport : Transport} {settings : Settings} {store : σ} {listed : Listed}
  {listing : Listing}

/-- A client is refused where the service does not take its parameters and its token. -/
theorem fetch_refused (hfaithful : transport.Faithful settings store listing listed.route) {token : Option String}
    (htoken : ∀ t ∈ token, ∃ c : Cursor, t = c.encode)
    (hquery : listed.query (listing.parameters ++ token.toList.map (("page", ·))) = none) :
    ∃ reason, fetch transport listing token = .error (.refused 400 reason) := by
  obtain ⟨url, hurl, hanswer⟩ := hfaithful token htoken
  rw [Listed.visit_route, Service.withQuery, hquery] at hanswer
  refine ⟨"the query cannot be read", ?_⟩
  rw [fetch, hurl]
  simp only [bind, Except.bind, hanswer]
  rfl

/-- A client that is given a token among its parameters prints the document of one page. It ends with it if no page follows,
and otherwise the next request is refused. -/
theorem walk_resumed (hmax : 1 ≤ settings.maxPageSize) (hregistry : Standard.registry = .ok settings.registry)
    (hfaithful : transport.Faithful settings store listing listed.route) (hcomplete : listing.isComplete = true)
    {q : ListedQuery} (hquery : listed.query listing.parameters = some q) {token : String} (htoken : q.page = some token)
    {filter : Filter} (hfilter : Service.filter q.office q.mask = .ok filter) {resolved : Resolved}
    (hresolved : settings.resolve [listing.accept] q.format listed.kind = .ok resolved) {p : Page Entity}
    (hpage : listed.page store filter (settings.pageRequest q.page q.pageSize q.includeTotal) = .ok p) :
    ∃ body, resolved.format (.page listed.kind p.items p.info) = .ok body ∧
      ∃ reason, ∀ limit, 2 ≤ limit → walk transport listing limit none =
        { printed := [body], failure := if p.info.nextPage = none then none else some (.refused 400 reason) } := by
  have hfirst : listed.query (listing.parameters ++ (none : Option String).toList.map (("page", ·))) = some q := by
    rw [Option.toList_none, List.map_nil, List.append_nil]
    exact hquery
  obtain ⟨body, r, hbody, hfetch, hr, hstated⟩ :=
    fetch_stated hmax hregistry hfaithful (by simp) hfirst hfilter hresolved hpage
  refine ⟨body, hbody, ?_⟩
  cases hnext : p.info.nextPage with
  | none =>
    refine ⟨"", ?_⟩
    intro limit hlimit
    obtain ⟨limit, rfl⟩ := Nat.exists_eq_add_of_le' hlimit
    have hfollowing : following r none = none := by rw [following, hstated, hnext, Option.filter_none]
    simp only [walk, hfetch, hcomplete, if_true, hfollowing, hr]
    rfl
  | some t =>
    obtain ⟨⟨c, rfl, -⟩, -⟩ := Listed.gaveOut_nextPage hmax hpage hnext
    have hencoded : ∀ t ∈ some c.encode, ∃ c' : Cursor, t = c'.encode := by
      rintro _ ⟨⟩
      exact ⟨c, rfl⟩
    obtain ⟨reason, hrefused⟩ := fetch_refused hfaithful hencoded (Listed.query_again hquery htoken c.encode)
    refine ⟨reason, ?_⟩
    intro limit hlimit
    obtain ⟨limit, rfl⟩ := Nat.exists_eq_add_of_le' hlimit
    have hfollowing : following r none = some c.encode := by
      rw [following, hstated, hnext]
      rfl
    simp only [walk, hfetch, hcomplete, if_true, hfollowing, hr, hrefused]
    rfl

end Requests

/-- For every seeded store in memory, every configuration, both listings, every accept value that chooses a formatter and all
parameters with a token that the service takes, where a total that the token states is the number of the records that are
selected: a client that is to fetch all pages prints the document of one page, the one of the token. It ends without a failure
exactly if nothing is left of the records behind the offset of the token, or their number is known and all that is left is on the
page; then the page holds all that is left, each record once. Otherwise the service refuses the next request. -/
theorem run_list_resumed {document : SeedDocument} {summary : SeedSummary} {m : Memory}
    (hseed : Seed.load (Backend.empty : Memory) document = (.ok summary, m))
    {registry : Registry} (hregistry : Standard.registry = .ok registry)
    {lookup : String → Option String} {config : Config} (hconfig : Config.ofLookup lookup = .ok config) (listed : Listed)
    {arguments queries : List String} {base path accept : String} {pageSize : Option UInt32}
    (hcommand : readCommand arguments = .ok (.list base path accept pageSize true queries))
    {stated : List (String × String)} (hstated : parameters queries pageSize = .ok stated)
    {q : ListedQuery} (hquery : listed.query stated = some q) {token : String} (htoken : q.page = some token)
    {filter : Filter} (hfilter : Service.filter q.office q.mask = .ok filter)
    {resolved : Resolved} (hresolved : (Settings.ofConfig registry config).resolve [accept] q.format listed.kind = .ok resolved)
    (hsmall : (listed.records m filter).length < UInt64.size) {transport : Transport}
    (hfaithful : transport.Faithful (.ofConfig registry config) m
      { endpoint := endpoint base path, accept, parameters := stated, isComplete := true } listed.route) :
    let start := (Cursor.decode (some token)
      (effectivePageSize q.pageSize config.defaultPageSize config.maxPageSize)).clamp config.maxPageSize
    let rest := (listed.records m filter).drop start.offset.toNat
    (∀ total, start.total = some total → total.toNat = (listed.records m filter).length) →
    rest.Pairwise (fun a b => a.listedKey < b.listedKey) ∧
    ∃ (p : Page Entity) (body : String),
      p.items = rest.take start.pageSize.toNat ∧
      resolved.format (.page listed.kind p.items p.info) = .ok body ∧
      ∀ limit, 2 ≤ limit →
        let report := run transport limit arguments
        report.printed = [body] ∧
        (report.exitCode = 0 ↔
          rest = [] ∨ (start.total.isSome = true ∨ q.includeTotal = some true) ∧ rest.length ≤ start.pageSize.toNat) ∧
        (report.exitCode = 0 → p.items = rest) ∧
        (report.exitCode ≠ 0 → ∃ reason, report.failure = some (.refused 400 reason)) := by
  intro start rest htotal
  have hreachable := Memory.Reachable.of_load hseed
  have hmax : 1 ≤ (Settings.ofConfig registry config).maxPageSize := (Config.bounds_of_ofLookup hconfig).2.2
  generalize hrequest : (Settings.ofConfig registry config).pageRequest q.page q.pageSize q.includeTotal = request
  have hstart : Cursor.decode request.token request.defaultPageSize = start := by
    rw [← hrequest, htoken]
    exact Settings.decode_pageRequest hmax (some token) q.pageSize q.includeTotal
  obtain ⟨p, hp, hitems, hlast⟩ :=
    listed.exists_page_from hreachable.wellFormed hreachable.ordered hsmall request hstart htotal
  rw [← hrequest] at hp
  obtain ⟨body, hbody, reason, hwalk⟩ := walk_resumed hmax hregistry hfaithful rfl hquery htoken hfilter hresolved hp
  refine ⟨(Listed.records_ascend hreachable.wellFormed hreachable.ordered listed filter).sublist (List.drop_sublist _ _),
    p, body, hitems, hbody, ?_⟩
  intro limit hlimit report
  have hreport : report = { printed := [body], failure := if p.info.nextPage = none then none else some (.refused 400 reason) } := by
    rw [← hwalk limit hlimit]
    simp only [report, run, hcommand, runCommand, hstated]
  have hcounted : request.includeTotal = true ↔ q.includeTotal = some true := by
    rw [← hrequest]
    show q.includeTotal.getD false = true ↔ _
    cases q.includeTotal <;> simp
  rw [hcounted] at hlast
  have hends : report.exitCode = 0 ↔ p.info.nextPage = none := by
    rw [hreport]
    by_cases hnone : p.info.nextPage = none
    · simp [Report.exitCode, hnone]
    · simp [Report.exitCode, hnone]
  refine ⟨by rw [hreport], hends.trans hlast, ?_, ?_⟩
  · intro hexit
    rw [hitems]
    rcases hlast.mp (hends.mp hexit) with hnothing | ⟨-, hfits⟩
    · rw [hnothing, List.take_nil]
      exact hnothing.symm
    · exact List.take_of_length_le hfits
  · intro hexit
    have hnext : p.info.nextPage ≠ none := fun hnone => hexit (hends.mpr hnone)
    exact ⟨reason, by rw [hreport, if_neg hnext]⟩

/-- A token behind the first of three locations that states their number and has room for the two that are left: the run prints
both on one page and ends without a failure. -/
theorem run_list_resumed_rest :
    ∃ registry, Standard.registry = .ok registry ∧ ∃ (p : Page Entity) (body : String),
      p.items.map Entity.listedKey = [["SWT", "ARCADIA"], ["SWT", "KEYS"]] ∧
      ∀ limit, 2 ≤ limit →
        let report := run (.ofService (.ofConfig registry .defaults) gaugeStore) limit
          ["list", "http://localhost", "/locations", "--all", "--query", "page=1|3|2"]
        report.printed = [body] ∧ report.exitCode = 0 := by
  have hchosen : (Standard.registry.toOption.map fun registry =>
      ((Settings.ofConfig registry .defaults).resolve ["application/json;version=2"] none .location).isOk) = some true := by
    decide +kernel
  obtain ⟨registry, hregistry, hresolves⟩ := exists_of_toOption_map hchosen
  obtain ⟨resolved, hresolved⟩ := exists_of_isOk hresolves
  have haddressed : Addressed
      { endpoint := endpoint "http://localhost" "/locations", accept := "application/json;version=2",
        parameters := [("page", "1|3|2")], isComplete := true }
      Listed.locations.path ⟨"http", some "localhost", "/locations", none, none⟩ := by
    refine ⟨rfl, .inl rfl, rfl, ?_, rfl, rfl, ?_, ?_⟩
    all_goals decide
  have hseed : Seed.load (Backend.empty : Memory) threeGauges = (.ok threeGauges.summary, gaugeStore) :=
    Prod.ext (by rfl) rfl
  have hconfig : Config.ofLookup (fun _ => none) = .ok .defaults := by rfl
  have hcommand : readCommand ["list", "http://localhost", "/locations", "--all", "--query", "page=1|3|2"] =
      .ok (.list "http://localhost" "/locations" "application/json;version=2" none true ["page=1|3|2"]) := by
    rfl
  have hparameters : parameters ["page=1|3|2"] none = .ok [("page", "1|3|2")] := by rfl
  have hquery : Listed.locations.query [("page", "1|3|2")] = some ⟨none, none, some "1|3|2", none, none, none⟩ := by rfl
  have hfilter : Service.filter none none = .ok .all := by rfl
  have htotal : ∀ total : UInt64, some 3 = some total → total.toNat = (Listed.locations.records gaugeStore .all).length := by
    rintro _ ⟨⟩
    decide
  obtain ⟨-, p, body, hitems, -, hrun⟩ := run_list_resumed hseed hregistry hconfig .locations hcommand hparameters hquery rfl
    hfilter hresolved (by decide) (Transport.faithful_ofService haddressed) htotal
  refine ⟨registry, hregistry, p, body, ?_, ?_⟩
  · rw [hitems]
    decide
  · intro limit hlimit
    obtain ⟨hprinted, hexit, -, -⟩ := hrun limit hlimit
    exact ⟨hprinted, hexit.mpr (.inr ⟨.inl (by decide), by decide⟩)⟩

/-- A token at the start of three locations that states no number of them: the run prints one page and is refused the next. -/
theorem run_list_refused_gauges :
    (Listed.locations.records gaugeStore .all).length = 3 ∧
    (Cursor.decode (some "0|null|1") 500).offset = 0 ∧ (Cursor.decode (some "0|null|1") 500).total = none ∧
    ∃ registry, Standard.registry = .ok registry ∧
      let report := run (.ofService (.ofConfig registry .defaults) gaugeStore) 10
        ["list", "http://localhost", "/locations", "--all", "--query", "page=0|null|1"]
      report.printed.length = 1 ∧ report.exitCode = 2 ∧
        report.failure = some (.refused 400 "the query cannot be read") := by
  have hrun : (Standard.registry.toOption.map fun registry =>
      let report := run (.ofService (.ofConfig registry .defaults) gaugeStore) 10
        ["list", "http://localhost", "/locations", "--all", "--query", "page=0|null|1"]
      (report.printed.length, report.failure)) = some (1, some (.refused 400 "the query cannot be read")) := by
    decide +kernel
  obtain ⟨registry, hregistry, hrun⟩ := exists_of_toOption_map hrun
  obtain ⟨hprinted, hfailure⟩ := Prod.mk.inj hrun
  refine ⟨by decide, by decide, by decide, registry, hregistry, ?_⟩
  intro report
  refine ⟨hprinted, ?_, hfailure⟩
  rw [Report.exitCode, hfailure]
  rfl

end Client

end BasinRegister
