import BasinRegister.Proofs.Client.Transport
import BasinRegister.Storage.Seed

/-!
# Whole listings

A client that is told to fetch all pages prints the whole listing and then ends (`Client.run_list_all`), whatever format it
asks for: one with an envelope for pages or one without.
-/

namespace BasinRegister

/-! ## Seeded stores -/

/-- A store that records were put into is one behind a run of operations. -/
theorem Seed.exists_performAll {σ : Type} [Backend σ] (s : σ) (ps : List Put) :
    ∃ operations, (Seed.putAll s ps).2 = (Backend.performAll s operations).2 := by
  induction ps generalizing s with
  | nil => exact ⟨[], rfl⟩
  | cons p ps ih =>
    rw [Seed.putAll]
    cases hput : Backend.put s p with
    | error e => exact ⟨[], rfl⟩
    | ok s' =>
      obtain ⟨operations, hoperations⟩ := ih s'
      refine ⟨.put p :: operations, ?_⟩
      simp only [Backend.performAll, Backend.perform, hput]
      exact hoperations

theorem Memory.Reachable.of_load {d : SeedDocument} {outcome : Except SeedError SeedSummary} {m : Memory}
    (h : Seed.load (Backend.empty : Memory) d = (outcome, m)) : m.Reachable := by
  obtain ⟨operations, hoperations⟩ := Seed.exists_performAll (Backend.empty : Memory) d.puts
  refine ⟨operations, ?_⟩
  rw [← hoperations]
  unfold Seed.load at h
  split at h
  · rename_i hall
    cases h
    rw [hall]
  · rename_i hall
    cases h
    rw [hall]

namespace Client

/-! ## The whole listing -/

/-- For every seeded store in memory, every configuration, both listings, every accept value that chooses a formatter, every page
size and every query that the service takes: the client prints the documents of successive pages and ends without a failure
once there are none left, however many requests it might send. The pages hold the records that the query selects, in the strict
order of their keys, and so each once. -/
theorem run_list_all {document : SeedDocument} {summary : SeedSummary} {m : Memory}
    (hseed : Seed.load (Backend.empty : Memory) document = (.ok summary, m))
    {registry : Registry} (hregistry : Standard.registry = .ok registry)
    {lookup : String → Option String} {config : Config} (hconfig : Config.ofLookup lookup = .ok config) (listed : Listed)
    {arguments queries : List String} {base path accept : String} {pageSize : Option UInt32}
    (hcommand : readCommand arguments = .ok (.list base path accept pageSize true queries))
    {pairs : List (String × String)} (hpairs : queries.mapM queryPair = .ok pairs)
    (hfree : ∀ p ∈ pairs, p.1 ≠ "page" ∧ p.1 ≠ "page-size")
    {q : ListedQuery} (hquery : listed.query pairs = some q)
    {filter : Filter} (hfilter : Service.filter q.office q.mask = .ok filter)
    {resolved : Resolved} (hresolved : (Settings.ofConfig registry config).resolve [accept] q.format listed.kind = .ok resolved)
    (hsmall : (listed.records m .all).length < UInt64.size) {transport : Transport}
    (hfaithful : transport.Faithful (.ofConfig registry config) m
      { endpoint := endpoint base path, accept,
        parameters := pairs ++ pageSize.toList.map fun n => ("page-size", Text.numeral n.toNat), isComplete := true }
      listed.route) :
    ∃ pages bodies,
      PageWalk (fun request => listed.page m filter request)
        (fun _ => (Settings.ofConfig registry config).choice pageSize q.includeTotal) none pages ∧
      pages.flatMap (·.items) = listed.records m filter ∧
      (listed.records m filter).Pairwise (fun a b => a.listedKey < b.listedKey) ∧
      List.Forall₂ (fun p body => resolved.format (.page listed.kind p.items p.info) = .ok body) pages bodies ∧
      ∀ limit, pages.length ≤ limit →
        (run transport limit arguments).printed = bodies ∧ (run transport limit arguments).exitCode = 0 := by
  have hreachable := Memory.Reachable.of_load hseed
  have hmax : 1 ≤ (Settings.ofConfig registry config).maxPageSize := (Config.bounds_of_ofLookup hconfig).2.2
  obtain ⟨pages, hwalk, hitems⟩ := Listed.exists_walk hreachable.wellFormed hreachable.ordered listed filter hsmall
    fun _ => (Settings.ofConfig registry config).choice pageSize q.includeTotal
  generalize hlisting : Listing.mk (endpoint base path) accept
    (pairs ++ pageSize.toList.map fun n => ("page-size", Text.numeral n.toNat)) true = listing at hfaithful
  have hasks : Asks (.ofConfig registry config) listed listing pairs pageSize q filter resolved := by
    subst hlisting
    exact ⟨by dsimp only, hfree, hquery, hfilter, hresolved⟩
  have hcomplete : listing.isComplete = true := by rw [← hlisting]
  obtain ⟨bodies, hbodies, hprinted⟩ := walk_eq hmax hregistry hfaithful hasks hcomplete hwalk (fun _ => rfl)
    (fun _ h => by cases h)
  refine ⟨pages, bodies, hwalk, hitems, Listed.records_ascend hreachable.wellFormed hreachable.ordered listed filter, hbodies, ?_⟩
  intro limit hlimit
  have hparameters : parameters queries pageSize =
      .ok (pairs ++ pageSize.toList.map fun n => ("page-size", Text.numeral n.toNat)) := bind_eq_ok.mpr ⟨pairs, hpairs, rfl⟩
  have hrun : run transport limit arguments = { printed := bodies, failure := none } := by
    rw [← hprinted limit hlimit]
    simp only [run, hcommand, runCommand, hparameters, hlisting]
  rw [hrun]
  exact ⟨rfl, rfl⟩

/-- A location of an office. -/
def gauge (officeId name : String) : Location :=
  { officeId, name, latitude := none, longitude := none, horizontalDatum := none, timezoneName := none, locationKind := none,
    publicName := none, active := true, aliases := [] }

/-- A seed with three locations of two offices. -/
def threeGauges : SeedDocument :=
  { offices := [], locations := [gauge "SWT" "KEYS", gauge "SPK" "FOLSOM", gauge "SWT" "ARCADIA"], locationAliases := [],
    ratingTemplates := [], ratingSpecs := [], waterUsers := [] }

/-- The store that the seed leaves. -/
def gaugeStore : Memory := (Seed.load (Backend.empty : Memory) threeGauges).2

/-- The locations of one office one by one, in a format without an envelope, from the service itself. -/
theorem run_list_all_gauges :
    ∃ registry, Standard.registry = .ok registry ∧ ∃ pages : List (Page Entity), ∃ bodies : List String,
      (pages.flatMap (·.items)).map Entity.listedKey = [["SWT", "ARCADIA"], ["SWT", "KEYS"]] ∧ bodies.length = pages.length ∧
      ∀ limit, pages.length ≤ limit →
        let report := run (.ofService (.ofConfig registry .defaults) gaugeStore) limit ["list", "http://localhost",
          "/locations", "--accept", "json", "--page-size", "1", "--all", "--query", "office=swt"]
        report.printed = bodies ∧ report.exitCode = 0 := by
  have hchosen : (Standard.registry.toOption.map fun r =>
      ((Settings.ofConfig r .defaults).resolve ["json"] none .location).toOption.map (·.contentType)) =
        some (some ⟨"application/json", some "1"⟩) := by
    decide +kernel
  cases hregistry : Standard.registry with
  | error e => simp [hregistry, Except.toOption] at hchosen
  | ok registry =>
    cases hresolved : (Settings.ofConfig registry .defaults).resolve ["json"] none .location with
    | error e => simp [hregistry, hresolved, Except.toOption] at hchosen
    | ok resolved =>
      have haddressed : Addressed
          { endpoint := endpoint "http://localhost" "/locations", accept := "json",
            parameters := [("office", "swt")] ++ (some 1).toList.map fun n : UInt32 => ("page-size", Text.numeral n.toNat),
            isComplete := true }
          Listed.locations.path ⟨"http", some "localhost", "/locations", none, none⟩ := by
        have hone : Text.numeral (1 : UInt32).toNat = "1" := by decide +kernel
        constructor
        · rfl
        · exact .inl rfl
        · rfl
        · decide
        · rfl
        · rfl
        · decide
        · simp only [Option.toList_some, List.map_cons, List.map_nil, hone]
          decide
      have hseed : Seed.load (Backend.empty : Memory) threeGauges = (.ok threeGauges.summary, gaugeStore) :=
        Prod.ext (by rfl) rfl
      have hconfig : Config.ofLookup (fun _ => none) = .ok .defaults := by rfl
      have hcommand : readCommand ["list", "http://localhost", "/locations", "--accept", "json", "--page-size", "1", "--all",
          "--query", "office=swt"] = .ok (.list "http://localhost" "/locations" "json" (some 1) true ["office=swt"]) := by
        rfl
      have hpairs : ["office=swt"].mapM queryPair = .ok [("office", "swt")] := by rfl
      have hquery : Listed.locations.query [("office", "swt")] = some ⟨some "swt", none, none, none, none, none⟩ := by rfl
      have hfilter : Service.filter (some "swt") none = .ok ⟨some "swt", none⟩ := by rfl
      obtain ⟨pages, bodies, -, hitems, -, hbodies, hrun⟩ := run_list_all hseed hregistry hconfig .locations hcommand hpairs
        (by decide) hquery hfilter hresolved (by decide) (Transport.faithful_ofService haddressed)
      refine ⟨registry, rfl, pages, bodies, ?_, hbodies.length_eq.symm, hrun⟩
      rw [hitems]
      decide

end Client

end BasinRegister
