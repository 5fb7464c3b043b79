import BasinRegister.Proofs.Format.Lookup
import BasinRegister.Proofs.Media.ContentType

/-!
# Blank requests and `*/*`

A request for `*/*` is a look-up of the default type. A blank request is read from the text of the default type, so it is the same
look-up if that text states the default type and nothing else, and only then in every registry (`Registry.resolve_blank_iff`). A
version that is a token is read back from the text; one that needs quotes has lost them.
-/

namespace BasinRegister

/-- The text of a content type is an accept value that states it, and nothing else unless it is `*/*`. -/
def ContentType.StatesItself (c : ContentType) : Prop :=
  Accept.stated c.text ≠ [] ∧ ∀ e ∈ Accept.stated c.text, e.contentType.isAny = true ∨ e.contentType = c

/-- A formatter of empty documents. -/
def Formatter.empty (contentType : ContentType) (kinds : List Kind) : Formatter :=
  { name := contentType.text, contentType, kinds, format := fun _ => .ok "" }

variable {b : Blueprint} {r : Registry} {c canonical : ContentType} {text requested : String} {kind : Kind}

/-! ## Texts of content types -/

/-- A content type that was read states itself if its version is a token. -/
theorem ContentType.statesItself_of_token (h : ContentType.parse? text = some c) (hversion : c.TokenVersion) :
    c.StatesItself := by
  obtain ⟨range, hread, hquality⟩ := ContentType.read?_text h hversion
  have hcandidate : Accept.candidate? c.text = some ⟨c, Quality.one⟩ := by
    rw [Accept.candidate?, hread, Option.map_some]
    cases range with
    | none => rfl
    | some range => simp [Accept.qualityOf, hquality range rfl]
  have hstated : Accept.stated c.text = [⟨c, Quality.one⟩] :=
    Accept.stated_of_single (ContentType.comma_not_mem_text h hversion) hcandidate (show Quality.one.isPositive = true by decide)
  rw [ContentType.StatesItself, hstated]
  simp

namespace Registry

/-! ## Look-ups of the default type -/

/-- The default type is registered. -/
theorem exists_canonical_defaultType (hbuild : b.build = .ok r) : ∃ canonical, r.canonical? r.defaultType = some canonical :=
  Option.isSome_iff_exists.mp ((Blueprint.isSome_canonical? hbuild).mpr (Blueprint.build_eq_ok.mp hbuild).2.2.2.2.1)

/-- A request for `*/*` is a look-up of the default type. -/
theorem resolve_any (h : r.canonical? r.defaultType = some canonical) : r.resolve "*/*" kind = r.lookup canonical kind := by
  have hcandidate : Accept.candidate? "*/*" = some ⟨⟨"*/*", none⟩, Quality.one⟩ := by decide +kernel
  exact resolve_single (by decide) hcandidate (by decide) h

/-- A blank request is a look-up of the default type if its text states nothing else. -/
theorem resolve_blank (hblank : (Text.trim requested).isEmpty = true) (hstates : r.defaultType.StatesItself)
    (h : r.canonical? r.defaultType = some canonical) : r.resolve requested kind = r.lookup canonical kind := by
  have hmem : ∀ e, e ∈ r.candidates requested ↔ e ∈ Accept.stated r.defaultType.text := by
    intro e
    rw [candidates_of_blank hblank, Accept.mem_parse]
  refine resolve_eq_lookup ?_ ?_
  · obtain ⟨e, he⟩ := List.exists_mem_of_ne_nil _ hstates.1
    exact List.ne_nil_of_mem ((hmem e).mpr he)
  · intro e he
    have hwanted : r.wanted e = r.defaultType := by
      rw [wanted]
      split
      · rfl
      · rename_i hany
        exact (hstates.2 e ((hmem e).mp he)).resolve_left hany
    rw [hwanted, h]

/-! ## Other texts -/

/-- A text that was read is the default type of a registry of any formatters that are apart and of which one has that type. -/
theorem exists_registry {fs : List Formatter} (hapart : fs.Pairwise Formatter.Apart) (h : ContentType.parse? text = some c)
    (hfs : ∃ f ∈ fs, f.contentType = c) :
    ∃ r, Blueprint.build ⟨fs, [], some text⟩ = .ok r ∧ r.defaultType = c ∧ r.formatters = fs := by
  have hsound : Blueprint.Sound ⟨fs, [], some text⟩ :=
    { apart := hapart
      parsed := by simp
      unshadowed := by simp
      distinct := .nil
      grounded := by simp
      defaultType := ⟨c, h, .inl hfs⟩ }
  obtain ⟨r, hbuild⟩ := Blueprint.exists_build.mpr hsound
  obtain ⟨-, -, -, hdefault, -, hformatters⟩ := Blueprint.build_eq_ok.mp hbuild
  exact ⟨r, hbuild, Option.some.inj (hdefault.symm.trans h), hformatters⟩

/-- A request without candidates is refused as not acceptable. -/
theorem resolve_of_no_candidates (h : r.candidates requested = []) :
    r.resolve requested kind = .error (.notAcceptable requested kind) := by
  rw [resolve, recognised, h]
  rfl

/-- A look-up is not refused as not acceptable. -/
theorem lookup_ne_notAcceptable : r.lookup canonical kind ≠ .error (.notAcceptable requested kind) := by
  rw [lookup]
  cases r.bind? kind canonical <;> simp

/-- A request with a candidate that has a formatter for the kind is resolved. -/
theorem exists_resolve_of_mem {e : Candidate} (he : e ∈ r.candidates requested)
    (hcanonical : r.canonical? (r.wanted e) = some canonical) (hkind : (r.bind? kind canonical).isSome) :
    ∃ chosen, r.resolve requested kind = .ok chosen := by
  have hmem : canonical ∈ r.recognised requested := List.mem_filterMap.mpr ⟨e, he, hcanonical⟩
  have hfound : ((r.recognised requested).findSome? (r.bind? kind)).isSome := by
    rw [List.findSome?_isSome_iff]
    exact ⟨canonical, hmem, hkind⟩
  obtain ⟨chosen, hchosen⟩ := Option.isSome_iff_exists.mp hfound
  exact ⟨chosen, by rw [resolve, hchosen]⟩

/-- A default type that does not state itself has a registry in which a blank request and one for `*/*` differ. -/
theorem statesItself_of_resolve_blank (h : ContentType.parse? text = some c)
    (hsame : ∀ b r, Blueprint.build b = .ok r → r.defaultType = c → r.resolve "" .office = r.resolve "*/*" .office) :
    c.StatesItself := by
  refine ⟨?_, ?_⟩
  · -- without candidates, a blank request is refused in another way
    intro hnone
    obtain ⟨r, hbuild, rfl, -⟩ :=
      exists_registry (List.pairwise_singleton _ (Formatter.empty c [])) h ⟨_, List.mem_cons_self, rfl⟩
    obtain ⟨canonical, hcanonical⟩ := exists_canonical_defaultType hbuild
    have hblank : (Text.trim "").isEmpty = true := by decide
    have hcandidates : r.candidates "" = [] := by
      rw [candidates_of_blank hblank, Accept.parse, hnone, List.mergeSort_nil]
    have hresolve := hsame _ r hbuild rfl
    rw [resolve_of_no_candidates hcandidates, resolve_any hcanonical] at hresolve
    exact lookup_ne_notAcceptable hresolve.symm
  · -- another content type may have a formatter where the default type has none
    intro e he
    by_contra hother
    rw [not_or, Bool.not_eq_true] at hother
    obtain ⟨hany, hne⟩ := hother
    let fs := [Formatter.empty c [], Formatter.empty e.contentType [.office]]
    have hapart : fs.Pairwise Formatter.Apart := by
      simp [fs, Formatter.Apart, Formatter.supports, Formatter.empty]
    obtain ⟨r, hbuild, rfl, hfs⟩ := exists_registry hapart h ⟨_, List.mem_cons_self, rfl⟩
    have husual : r.canonical? r.defaultType = some r.defaultType :=
      canonical?_of_formatter (f := Formatter.empty r.defaultType []) hbuild (by simp [fs])
    have hcanonical : r.canonical? (r.wanted e) = some e.contentType := by
      rw [wanted, hany]
      exact canonical?_of_formatter (f := Formatter.empty e.contentType [.office]) hbuild (by simp [fs])
    have hmem : e ∈ r.candidates "" := by
      rw [candidates_of_blank (by decide)]
      exact Accept.mem_parse.mpr he
    have hgranted : (r.bind? .office e.contentType).isSome := by
      simp [bind?, formatterFor?, formattersOf, hfs, fs, Formatter.empty, Formatter.supports]
    obtain ⟨chosen, hchosen⟩ := exists_resolve_of_mem hmem hcanonical hgranted
    have hresolve := hsame _ r hbuild rfl
    rw [hchosen, resolve_any husual] at hresolve
    have hnone : r.bind? .office r.defaultType = none := by
      simp [bind?, formatterFor?, formattersOf, hfs, fs, Formatter.empty, Formatter.supports, hne]
    rw [eq_comm, lookup_eq_ok, hnone] at hresolve
    cases hresolve

/-- In every registry with a default type, blank requests get what requests for `*/*` get exactly if the default type states
itself. It does if its version is a token or it has none. -/
theorem resolve_blank_iff (h : ContentType.parse? text = some c) :
    (∀ b r, Blueprint.build b = .ok r → r.defaultType = c →
      ∃ canonical, r.canonical? c = some canonical ∧ ∀ kind, r.resolve "*/*" kind = r.lookup canonical kind) ∧
    ((∀ b r, Blueprint.build b = .ok r → r.defaultType = c → ∀ requested, (Text.trim requested).isEmpty = true →
      ∀ kind, r.resolve requested kind = r.resolve "*/*" kind) ↔ c.StatesItself) ∧
    (c.TokenVersion → c.StatesItself) := by
  refine ⟨?_, ⟨?_, ?_⟩, ContentType.statesItself_of_token h⟩
  · rintro b r hbuild rfl
    obtain ⟨canonical, hcanonical⟩ := exists_canonical_defaultType hbuild
    exact ⟨canonical, hcanonical, fun kind => resolve_any hcanonical⟩
  · intro hsame
    exact statesItself_of_resolve_blank h fun b r hbuild hdefault => hsame b r hbuild hdefault "" (by decide) .office
  · rintro hstates b r hbuild rfl requested hblank kind
    obtain ⟨canonical, hcanonical⟩ := exists_canonical_defaultType hbuild
    rw [resolve_blank hblank hstates hcanonical, resolve_any hcanonical]

/-- Plain JSON as the default type states itself. -/
theorem resolve_blank_iff_chained :
    ∃ r, Blueprint.chained.build = .ok r ∧ ∀ kind, r.resolve " " kind = r.resolve "*/*" kind := by
  have hparse : ContentType.parse? "application/json" = some ⟨"application/json", none⟩ := by decide +kernel
  obtain ⟨-, hiff, htoken⟩ := resolve_blank_iff hparse
  cases hbuild : Blueprint.chained.build with
  | error e =>
    have hbuilt : Blueprint.chained.build.toOption.isSome = true := by decide +kernel
    simp [hbuild, Except.toOption] at hbuilt
  | ok r =>
    have hdefault : r.defaultType = ⟨"application/json", none⟩ :=
      Option.some.inj ((Blueprint.build_eq_ok.mp hbuild).2.2.2.1.symm.trans hparse)
    have hstates := htoken (by simp [ContentType.TokenVersion])
    exact ⟨r, rfl, hiff.mpr hstates Blueprint.chained r hbuild hdefault " " (by decide)⟩

end Registry

/-- A default type whose version holds a blank, so that it needs quotes. -/
def Blueprint.drafts : Blueprint :=
  { formatters := [Formatter.empty ⟨"application/json", some "2 draft"⟩ [.office]]
    aliases := []
    defaultType := some "application/json;version=\x222 draft\x22" }

namespace Registry

/-- The text of such a default type is no content type, so a blank request is refused where one for `*/*` is granted. -/
theorem resolve_blank_ne_any_drafts :
    ∃ r, Blueprint.drafts.build = .ok r ∧
      (∃ chosen, r.resolve "*/*" .office = .ok chosen ∧ chosen.contentType = ⟨"application/json", some "2 draft"⟩) ∧
      r.resolve "" .office = .error (.notAcceptable "" .office) := by
  have hparse : ContentType.parse? "application/json;version=\x222 draft\x22" = some ⟨"application/json", some "2 draft"⟩ := by
    decide +kernel
  obtain ⟨r, hbuild, hdefault, hfs⟩ := exists_registry
    (List.pairwise_singleton _ (Formatter.empty ⟨"application/json", some "2 draft"⟩ [.office])) hparse
    ⟨_, List.mem_cons_self, rfl⟩
  have hcanonical : r.canonical? r.defaultType = some ⟨"application/json", some "2 draft"⟩ := by
    rw [hdefault]
    exact canonical?_of_formatter (f := Formatter.empty ⟨"application/json", some "2 draft"⟩ [.office]) hbuild (by simp)
  refine ⟨r, hbuild, ⟨⟨_, Formatter.empty ⟨"application/json", some "2 draft"⟩ [.office]⟩, ?_, rfl⟩, ?_⟩
  · rw [resolve_any hcanonical, lookup_eq_ok, bind?, formatterFor?, formattersOf, hfs]
    rfl
  · have hstated : Accept.stated "application/json;version=2 draft" = [] := by decide +kernel
    have hblank : (Text.trim "").isEmpty = true := by decide
    refine resolve_of_no_candidates ?_
    rw [candidates_of_blank hblank, hdefault]
    exact (congrArg (List.mergeSort · Accept.mayPrecede) hstated).trans List.mergeSort_nil

end Registry

end BasinRegister
