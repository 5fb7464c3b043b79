import BasinRegister.Client.Walk
import BasinRegister.Proofs.Format.Envelope
import BasinRegister.Proofs.Format.Resolution
import BasinRegister.Proofs.Format.Totality
import BasinRegister.Proofs.Json.Reading

/-!
# Documents of last pages

Every formatter of the register writes every page of the kinds that it declares, and a client finds no token in the document of
a page that states none (`Standard.writesPages_of_resolve`). Only documents of JSON are looked into, and only an envelope
could have the member.
-/

namespace BasinRegister

/-- A formatter writes pages, and its documents name a next page only where a page does. -/
structure Formatter.WritesPages (f : Formatter) : Prop where
  /-- The content type can stand in a header. -/
  admissible : Header.isAdmissible f.contentType.text = true
  /-- Every page of records of a declared kind has a document. -/
  writes : ∀ {kind : Kind} {items : List Entity} (info : PageInfo), f.supports kind = true →
    (∀ item ∈ items, item.kind = kind) → ∃ body, f.format (.page kind items info) = .ok body
  /-- A client finds no token in the document of a last page. -/
  ends : ∀ {kind : Kind} {items : List Entity} {info : PageInfo} {body : String},
    f.format (.page kind items info) = .ok body → info.nextPage = none →
      Client.isJson f.contentType.text = true → Client.tokenOfBody? body = none

/-! ## Documents without the member -/

/-- A client finds no token in an array. -/
theorem tokenOfBody?_array (items : List Json) : Client.tokenOfBody? (Json.render (.array items)) = none := by
  rw [Client.tokenOfBody?, Option.bind_eq_none_iff]
  intro document hkept
  obtain ⟨hread, -⟩ := Option.filter_eq_some_iff.mp hkept
  rw [Json.last?_of_read?_array "next-page" hread]
  rfl

/-- Nor does it in an object without the member. -/
theorem tokenOfBody?_object {members : List (String × Json)} (hmissing : "next-page" ∉ members.map Prod.fst) :
    Client.tokenOfBody? (Json.render (.object members)) = none := by
  rw [Client.tokenOfBody?, Option.bind_eq_none_iff]
  intro document hkept
  obtain ⟨hread, -⟩ := Option.filter_eq_some_iff.mp hkept
  rw [Json.last?_of_read?_object hread hmissing]
  rfl

namespace JsonDocument

/-- The paging fields of a last page are without a token of a next one. -/
theorem next_not_mem_pageMembers {info : PageInfo} (hlast : info.nextPage = none) :
    "next-page" ∉ (pageMembers info).map Prod.fst := by
  rw [pageMembers, hlast]
  cases info.total with
  | none => simp [Json.member?]
  | some total => simp [Json.member?]

/-- The envelope of a last page has no member for a next one unless it is among the others. -/
theorem tokenOfBody?_envelope {info : PageInfo} (hlast : info.nextPage = none) {members : List (String × Json)}
    (hmissing : ∀ m ∈ members, m.1 ≠ "next-page") :
    Client.tokenOfBody? (Json.render (envelope info members)) = none := by
  apply tokenOfBody?_object
  intro hnamed
  obtain ⟨m, hm, hname⟩ := List.mem_map.mp hnamed
  rcases List.mem_append.mp ((perm_foldr_insertMember _ _).mem_iff.mp hm) with hm | hm
  · exact hmissing m hm hname
  · exact next_not_mem_pageMembers hlast (List.mem_map.mpr ⟨m, hm, hname⟩)

end JsonDocument

/-! ## Formatters -/

namespace FormatterTag

variable {tag : FormatterTag} {write : Payload → Except FormattingError String} {kind : Kind} {items : List Entity}
  {info : PageInfo} {body : String}

/-- A formatter that wrote a page declares its kind. -/
theorem format_page_ok (h : (tag.formatter write).format (.page kind items info) = .ok body) :
    tag.kinds.contains kind = true ∧ write (.page kind items info) = .ok body := by
  have hunfold : (if tag.kinds.contains kind = true then write (.page kind items info)
      else .error (tag.undeclared kind)) = .ok body := h
  split at hunfold
  · rename_i hkind
    exact ⟨hkind, hunfold⟩
  · cases hunfold

/-- A formatter that writes whatever it is given writes pages. -/
theorem writesPages_of_total {text : Payload → String} (hadmissible : Header.isAdmissible tag.contentType.text = true)
    (hends : ∀ {kind : Kind} {items : List Entity} {info : PageInfo}, info.nextPage = none →
      Client.isJson tag.contentType.text = true → Client.tokenOfBody? (text (.page kind items info)) = none) :
    (tag.formatter fun payload => .ok (text payload)).WritesPages := by
  refine ⟨hadmissible, fun info hkind hitems => total_of_text tag text (.page _ _ info) hkind hitems, ?_⟩
  intro kind items info body hbody hlast hjson
  obtain ⟨-, heq⟩ := format_page_ok hbody
  cases heq
  exact hends hlast hjson

end FormatterTag

/-- Version 1 of JSON writes pages: it has no envelope, so nothing in it names a next page. -/
theorem JsonDocument.writesPages_formatter1 : JsonDocument.formatter1.WritesPages := by
  refine FormatterTag.writesPages_of_total (by decide) ?_
  intro kind items info _ _
  -- version 1 has no envelope: offices stand in an object of their own, all others in an array
  cases kind with
  | office => exact tokenOfBody?_object (by simp)
  | location => exact tokenOfBody?_array _
  | ratingTemplate => exact tokenOfBody?_array _
  | waterUser => exact tokenOfBody?_array _

/-- Version 2 writes pages: the envelope of the last one has no `next-page`. -/
theorem JsonDocument.writesPages_formatter2 : JsonDocument.formatter2.WritesPages := by
  refine FormatterTag.writesPages_of_total (by decide) ?_
  intro kind items info hlast _
  refine tokenOfBody?_envelope hlast ?_
  intro m hm
  rw [List.mem_singleton.mp hm]
  cases kind <;> simp [Kind.plural]

/-- Version 1 of XML writes pages, which are not looked into as they are not JSON. -/
theorem XmlDocument.writesPages_formatter1 : XmlDocument.formatter1.WritesPages :=
  FormatterTag.writesPages_of_total (by decide) fun _ hjson => absurd hjson (by decide)

/-- Version 2 of XML writes pages for the same reason. -/
theorem XmlDocument.writesPages_formatter2 : XmlDocument.formatter2.WritesPages :=
  FormatterTag.writesPages_of_total (by decide) fun _ hjson => absurd hjson (by decide)

/-- A formatter of delimited documents writes pages if its content type can stand in a header and is not JSON. -/
theorem Delimited.writesPages_formatter {name base : String} {delimiter : Char}
    (hadmissible : Header.isAdmissible (ContentType.versioned base "1").text = true)
    (hjson : Client.isJson (ContentType.versioned base "1").text = false) :
    (Delimited.formatter name base delimiter).WritesPages := by
  refine ⟨hadmissible, fun info hkind hitems => Delimited.total_formatter _ _ _ (.page _ _ info) hkind hitems, ?_⟩
  intro kind items info body _ _ hstated
  exact absurd (hstated.symm.trans hjson) (by decide)

/-- A collection of features is a page: the envelope of the last one has no `next-page`. -/
theorem GeoJson.writesPages_formatter : GeoJson.formatter.WritesPages := by
  refine ⟨by decide, fun info hkind hitems => GeoJson.total_formatter (.page _ _ info) hkind hitems, ?_⟩
  intro kind items info body hbody hlast _
  obtain ⟨-, hwrite⟩ := FormatterTag.format_page_ok hbody
  split at hwrite
  · cases hwrite
    refine JsonDocument.tokenOfBody?_envelope hlast ?_
    simp
  · cases hwrite

/-! ## The register -/

/-- Every standard formatter writes pages. -/
theorem Standard.writesPages_of_mem {f : Formatter} (hf : f ∈ Standard.formatters) : f.WritesPages := by
  simp only [Standard.formatters, List.mem_cons, List.not_mem_nil, or_false] at hf
  rcases hf with rfl | rfl | rfl | rfl | rfl | rfl | rfl
  · exact JsonDocument.writesPages_formatter1
  · exact JsonDocument.writesPages_formatter2
  · exact XmlDocument.writesPages_formatter1
  · exact XmlDocument.writesPages_formatter2
  · exact Delimited.writesPages_formatter (by decide) (by decide)
  · exact Delimited.writesPages_formatter (by decide) (by decide)
  · exact GeoJson.writesPages_formatter

/-- What a request is resolved to is a registered formatter for the kind, with its content type. -/
theorem Registry.of_resolve {r : Registry} {requested : String} {kind : Kind} {chosen : Resolved}
    (h : r.resolve requested kind = .ok chosen) :
    chosen.formatter ∈ r.formatters ∧ chosen.formatter.contentType = chosen.contentType ∧
      chosen.formatter.supports kind = true := by
  unfold Registry.resolve at h
  split at h
  · rename_i hfound
    cases h
    obtain ⟨contentType, -, hbind⟩ := List.exists_of_findSome?_eq_some hfound
    exact (Registry.of_bind? hbind).2
  · cases h
  · cases h

/-- Whatever a request is resolved to by the standard registry writes pages of the kind. -/
theorem Standard.writesPages_of_resolve {r : Registry} {requested : String} {kind : Kind} {chosen : Resolved}
    (hbuild : Standard.registry = .ok r) (h : r.resolve requested kind = .ok chosen) :
    chosen.formatter.WritesPages ∧ chosen.formatter.contentType = chosen.contentType ∧
      chosen.formatter.supports kind = true := by
  obtain ⟨hmem, htype, hkind⟩ := Registry.of_resolve h
  rw [Blueprint.formatters_of_build hbuild] at hmem
  exact ⟨Standard.writesPages_of_mem hmem, htype, hkind⟩

end BasinRegister
