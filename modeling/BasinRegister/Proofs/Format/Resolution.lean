import BasinRegister.Proofs.Format.Blueprint
import BasinRegister.Proofs.Media.Accept

/-!
# What a request resolves to

The formatter that is chosen for a request and a kind, and when none is. The choice is stated of the candidates as the request
states them, not of the order in which they are tried (`Registry.resolve_sound`).
-/

namespace BasinRegister.Registry

variable {b : Blueprint} {r : Registry} {requested : String} {kind : Kind} {c : Candidate} {chosen : Resolved}

/-- The content type that a candidate stands for leads to one that a formatter writes the kind as. -/
def Supports (r : Registry) (kind : Kind) (c : Candidate) : Prop :=
  ∃ contentType, r.canonical? (r.wanted c) = some contentType ∧
    ∃ f ∈ r.formatters, f.contentType = contentType ∧ f.supports kind = true

/-- The content type that a candidate stands for is registered. -/
def Recognises (r : Registry) (c : Candidate) : Prop :=
  ∃ d ∈ r.descriptors, d.contentType = r.wanted c

/-- The choice is that of the best candidate with a formatter for the kind. -/
structure Chooses (r : Registry) (entries : List Candidate) (kind : Kind) (chosen : Resolved) : Prop where
  /-- It is the canonical content type of the best candidate that is supported. -/
  best : ∃ i c, Accept.Best entries (r.Supports kind) i c ∧
    r.canonical? (r.wanted c) = some chosen.contentType
  /-- The content type is its own canonical one. -/
  canonical : r.canonical? chosen.contentType = some chosen.contentType
  /-- The content type is no alias. -/
  unaliased : ∀ d ∈ r.descriptors, d.contentType = chosen.contentType → d.aliasOf = none
  /-- The formatter is registered. -/
  registered : chosen.formatter ∈ r.formatters
  /-- The formatter is one of that content type. -/
  writes : chosen.formatter.contentType = chosen.contentType
  /-- The formatter declares the kind. -/
  declares : chosen.formatter.supports kind = true

/-! ## Formatters of candidates -/

/-- The formatters of a content type are those that write it. -/
theorem mem_formattersOf {contentType : ContentType} {f : Formatter} :
    f ∈ r.formattersOf contentType ↔ f ∈ r.formatters ∧ f.contentType = contentType := by
  rw [formattersOf, List.mem_filter, decide_eq_true_eq]

/-- The formatter that is found writes the content type and declares the kind. -/
theorem formatterFor?_eq_some {contentType : ContentType} {f : Formatter}
    (h : r.formatterFor? contentType kind = some f) :
    f ∈ r.formatters ∧ f.contentType = contentType ∧ f.supports kind = true := by
  obtain ⟨hf, hcontentType⟩ := mem_formattersOf.mp (List.mem_of_find?_eq_some h)
  have hdeclares := List.find?_some h
  exact ⟨hf, hcontentType, hdeclares⟩

/-- There is a formatter for a kind exactly if one of the content type declares it. -/
theorem isSome_formatterFor? {contentType : ContentType} :
    (r.formatterFor? contentType kind).isSome ↔
      ∃ f ∈ r.formatters, f.contentType = contentType ∧ f.supports kind = true := by
  simp only [formatterFor?, List.find?_isSome, mem_formattersOf, and_assoc]

/-- What there is for a kind under a content type is a formatter of that type. -/
theorem of_bind? {contentType : ContentType} (h : r.bind? kind contentType = some chosen) :
    chosen.contentType = contentType ∧ chosen.formatter ∈ r.formatters ∧
      chosen.formatter.contentType = chosen.contentType ∧ chosen.formatter.supports kind = true := by
  obtain ⟨f, hf, rfl⟩ := Option.map_eq_some_iff.mp h
  exact ⟨rfl, formatterFor?_eq_some hf⟩

/-- The choice for one candidate. -/
def choice? (r : Registry) (kind : Kind) (c : Candidate) : Option Resolved :=
  (r.canonical? (r.wanted c)).bind (r.bind? kind)

/-- A candidate is chosen for a kind where a formatter supports it. -/
theorem isSome_choice? : (r.choice? kind c).isSome ↔ r.Supports kind c := by
  rw [choice?, Supports]
  cases r.canonical? (r.wanted c) with
  | none => simp
  | some contentType =>
    simp only [Option.bind_some, bind?, Option.isSome_map, isSome_formatterFor?, Option.some.injEq, exists_eq_left']

/-- A candidate is recognised where what it stands for is registered. -/
theorem isSome_canonical?_wanted (hbuild : b.build = .ok r) :
    (r.canonical? (r.wanted c)).isSome ↔ r.Recognises c := by
  simp [Blueprint.isSome_canonical? hbuild, Descriptor.find?, List.find?_isSome, Recognises]

/-- The choice for a candidate is one of a formatter for its canonical content type. -/
theorem of_choice? (h : r.choice? kind c = some chosen) :
    r.canonical? (r.wanted c) = some chosen.contentType ∧ chosen.formatter ∈ r.formatters ∧
      chosen.formatter.contentType = chosen.contentType ∧ chosen.formatter.supports kind = true := by
  obtain ⟨contentType, hcanonical, hbind⟩ := Option.bind_eq_some_iff.mp h
  obtain ⟨rfl, hformatter⟩ := of_bind? hbind
  exact ⟨hcanonical, hformatter⟩

/-! ## Search -/

/-- A search behind a selection is one search. -/
theorem findSome?_filterMap {α β γ : Type} (g : α → Option β) (f : β → Option γ) (xs : List α) :
    (xs.filterMap g).findSome? f = xs.findSome? fun x => (g x).bind f := by
  induction xs with
  | nil => rfl
  | cons x xs ih =>
    rw [List.filterMap_cons, List.findSome?_cons]
    cases g x with
    | none => exact ih
    | some y => rw [Option.bind_some, List.findSome?_cons, ih]

/-- The candidates of a request that is not blank are the ones that it states. -/
theorem candidates_of_stated (hstated : (Text.trim requested).isEmpty = false) :
    r.candidates requested = Accept.parse requested := by
  rw [candidates, hstated]
  rfl

/-- A request that is not blank has the first choice for a candidate as its answer, else a refusal. -/
theorem resolve_cases (r : Registry) (kind : Kind) (hstated : (Text.trim requested).isEmpty = false) :
    (∃ chosen, (Accept.parse requested).findSome? (r.choice? kind) = some chosen ∧
      r.resolve requested kind = .ok chosen) ∨
    ((Accept.parse requested).findSome? (r.choice? kind) = none ∧
      ∃ contentType, (Accept.parse requested).findSome? (fun c => r.canonical? (r.wanted c)) = some contentType ∧
        r.resolve requested kind = .error (.notImplemented contentType.text kind)) ∨
    ((Accept.parse requested).findSome? (r.choice? kind) = none ∧
      (Accept.parse requested).findSome? (fun c => r.canonical? (r.wanted c)) = none ∧
        r.resolve requested kind = .error (.notAcceptable requested kind)) := by
  have hrecognised : r.recognised requested = (Accept.parse requested).filterMap fun c => r.canonical? (r.wanted c) := by
    rw [recognised, candidates_of_stated hstated]
  have hchoice : (r.recognised requested).findSome? (r.bind? kind) =
      (Accept.parse requested).findSome? (r.choice? kind) := by
    rw [hrecognised]
    exact findSome?_filterMap _ _ _
  rw [resolve, hchoice, ← List.head?_filterMap (f := fun c => r.canonical? (r.wanted c)), ← hrecognised]
  cases (Accept.parse requested).findSome? (r.choice? kind) with
  | some chosen => exact .inl ⟨chosen, rfl, rfl⟩
  | none =>
    cases r.recognised requested with
    | cons contentType rest => exact .inr (.inl ⟨rfl, contentType, rfl, rfl⟩)
    | nil => exact .inr (.inr ⟨rfl, rfl, rfl⟩)

/-- A search among the candidates finds something where one that is stated has it. -/
theorem isSome_findSome?_parse {β : Type} {f : Candidate → Option β} {P : Candidate → Prop}
    (hP : ∀ c, (f c).isSome ↔ P c) :
    ((Accept.parse requested).findSome? f).isSome ↔ ∃ c ∈ Accept.stated requested, P c := by
  simp [List.findSome?_isSome_iff, Accept.mem_parse, hP]

/-- What is chosen is the choice for the best candidate with a formatter for the kind. -/
theorem chooses_of_findSome? (hbuild : b.build = .ok r)
    (h : (Accept.parse requested).findSome? (r.choice? kind) = some chosen) :
    r.Chooses (Accept.stated requested) kind chosen := by
  obtain ⟨i, c, hbest, hc⟩ := Accept.findSome?_parse h
  simp only [isSome_choice?] at hbest
  obtain ⟨hcanonical, hmem, hwrites, hdeclares⟩ := of_choice? hc
  have hend := Descriptor.find?_of_chainEnd (Blueprint.canonical?_eq_some.mp hcanonical)
  obtain ⟨⟨d, hfound, hformat⟩, hself⟩ := hend
  refine ⟨⟨i, c, hbest, hcanonical⟩, Blueprint.canonical?_eq_some.mpr hself, ?_, hmem, hwrites, hdeclares⟩
  intro e he heq
  have hfind := (Blueprint.describes_of_build hbuild).find?_eq_some.mpr ⟨he, heq⟩
  obtain rfl : d = e := Option.some.inj (hfound.symm.trans hfind)
  exact hformat

/-- A request that is not blank is resolved exactly when one of its candidates has a formatter for the kind, and then to the
best of those. It is refused as not implemented exactly when none has one but some candidate is registered, by the name of the
canonical content type of the best of those, and as not acceptable exactly when no candidate is registered. -/
theorem resolve_sound (hbuild : b.build = .ok r) (hstated : (Text.trim requested).isEmpty = false) (kind : Kind) :
    ((∃ chosen, r.resolve requested kind = .ok chosen) ↔ ∃ c ∈ Accept.stated requested, r.Supports kind c) ∧
      (∀ chosen, r.resolve requested kind = .ok chosen → r.Chooses (Accept.stated requested) kind chosen) ∧
      ((∃ text k, r.resolve requested kind = .error (.notImplemented text k)) ↔
        (¬∃ c ∈ Accept.stated requested, r.Supports kind c) ∧ ∃ c ∈ Accept.stated requested, r.Recognises c) ∧
      (∀ text k, r.resolve requested kind = .error (.notImplemented text k) →
        k = kind ∧ ∃ i c, Accept.Best (Accept.stated requested) r.Recognises i c ∧
          (r.canonical? (r.wanted c)).map ContentType.text = some text) ∧
      ((∃ text k, r.resolve requested kind = .error (.notAcceptable text k)) ↔
        ¬∃ c ∈ Accept.stated requested, r.Recognises c) ∧
      ∀ text k, r.resolve requested kind = .error (.notAcceptable text k) → text = requested ∧ k = kind := by
  have hsupported : ((Accept.parse requested).findSome? (r.choice? kind)).isSome ↔
      ∃ c ∈ Accept.stated requested, r.Supports kind c := isSome_findSome?_parse fun _ => isSome_choice?
  have hregistered : ((Accept.parse requested).findSome? fun c => r.canonical? (r.wanted c)).isSome ↔
      ∃ c ∈ Accept.stated requested, r.Recognises c :=
    isSome_findSome?_parse fun _ => isSome_canonical?_wanted hbuild
  rcases resolve_cases r kind hstated with ⟨chosen, hchosen, hresolve⟩ |
    ⟨hnone, contentType, hfirst, hresolve⟩ | ⟨hnone, hunknown, hresolve⟩
  · have hchooses := chooses_of_findSome? hbuild hchosen
    have hknown : ∃ c ∈ Accept.stated requested, r.Recognises c := by
      obtain ⟨i, c, hbest, hcanonical⟩ := hchooses.best
      exact ⟨c, List.mem_of_getElem? hbest.stands, (isSome_canonical?_wanted hbuild).mp (by simp [hcanonical])⟩
    simp [← hsupported, hchosen, hresolve, hchooses, hknown]
  · have hnamed : ∃ i c, Accept.Best (Accept.stated requested) r.Recognises i c ∧
        (r.canonical? (r.wanted c)).map ContentType.text = some contentType.text := by
      obtain ⟨i, c, hbest, hcanonical⟩ := Accept.findSome?_parse hfirst
      simp only [isSome_canonical?_wanted hbuild] at hbest
      exact ⟨i, c, hbest, by rw [hcanonical, Option.map_some]⟩
    simp only [← hsupported, ← hregistered, hnone, hfirst, hresolve]
    simpa using hnamed
  · simp [← hsupported, ← hregistered, hnone, hunknown, hresolve]

/-- Version 1 is wanted more, but no water user is written as it; the alias of an alias is what is chosen. -/
theorem resolve_sound_chained :
    ∃ r, Blueprint.chained.build = .ok r ∧
      ∃ chosen, r.resolve "application/json;version=1, text/html, json;q=0.5" .waterUser = .ok chosen ∧
        r.Chooses (Accept.stated "application/json;version=1, text/html, json;q=0.5") .waterUser chosen ∧
        chosen.contentType = ⟨"application/json", some "2"⟩ := by
  have hchoices : (Blueprint.chained.build.toOption.map fun r =>
      (Accept.stated "application/json;version=1, text/html, json;q=0.5").filterMap fun c =>
        (r.choice? .waterUser c).map (·.contentType)) = some [⟨"application/json", some "2"⟩] := by
    decide +kernel
  cases hbuild : Blueprint.chained.build with
  | error e => simp [hbuild, Except.toOption] at hchoices
  | ok r =>
    rw [hbuild] at hchoices
    have hchoices := Option.some.inj hchoices
    obtain ⟨hok, hchooses, -⟩ := @resolve_sound Blueprint.chained r
      "application/json;version=1, text/html, json;q=0.5" hbuild (by decide +kernel) .waterUser
    obtain ⟨c, hc, hchoice⟩ := List.mem_filterMap.mp (hchoices ▸ List.mem_singleton_self _)
    obtain ⟨chosen, hchosen⟩ := hok.mpr ⟨c, hc, isSome_choice?.mp (by simpa using congrArg Option.isSome hchoice)⟩
    refine ⟨r, rfl, chosen, hchosen, hchooses chosen hchosen, ?_⟩
    obtain ⟨i, c, hbest, hcanonical⟩ := (hchooses chosen hchosen).best
    obtain ⟨other, hother⟩ := Option.isSome_iff_exists.mp (isSome_choice?.mpr hbest.holds)
    have heq : chosen.contentType = other.contentType := Option.some.inj (hcanonical.symm.trans (of_choice? hother).1)
    have hmem : other.contentType ∈ [(⟨"application/json", some "2"⟩ : ContentType)] := by
      rw [← hchoices]
      exact List.mem_filterMap.mpr ⟨c, List.mem_of_getElem? hbest.stands, by rw [hother, Option.map_some]⟩
    rw [heq, List.mem_singleton.mp hmem]

end BasinRegister.Registry
