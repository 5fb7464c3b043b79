import BasinRegister.Proofs.Client.Walk
import BasinRegister.Proofs.Text.Percent
import Mathlib.Data.List.TakeWhile

/-!
# A client beside the service

A client whose requests go straight to the service asks it for exactly what the listing states (`Transport.faithful_ofService`):
the pairs that it writes into an address come back out of the target of the request.
-/

namespace BasinRegister

/-- The service over a store as what answers a client: the path and the query of an address make the target of a request. -/
def Client.Transport.ofService {σ : Type} [Backend σ] (settings : Settings) (store : σ) : Client.Transport := fun url accept =>
  some (Service.answer settings store { method := "GET", target := url.target, accepts := [accept] })

/-! ## Targets -/

/-- A path from the root that nothing in it ends. -/
structure Route.IsPath (path : String) : Prop where
  /-- It begins at the root. -/
  rooted : path.toList.head? = some '/'
  /-- It has no query and no fragment. -/
  plain : '?' ∉ path.toList ∧ '#' ∉ path.toList

theorem Route.dropAuthority_of_rooted {cs : List Char} (h : cs.head? = some '/') : Route.dropAuthority cs = cs := by
  cases cs with
  | nil => rfl
  | cons c cs =>
    cases h
    rfl

/-- A target is taken apart into its path and its query. -/
theorem Route.splitTarget_query {path query : String} (hpath : Route.IsPath path) (hquery : '#' ∉ query.toList) :
    Route.splitTarget (path ++ "?" ++ query) = (path, query) := by
  have hmark : "?".toList = ['?'] := by decide
  have hwhole : (path ++ "?" ++ query).toList = path.toList ++ '?' :: query.toList := by
    rw [String.toList_append, String.toList_append, hmark, List.append_assoc, List.singleton_append]
  have hplain : (path.toList ++ '?' :: query.toList).takeWhile (· != '#') = path.toList ++ '?' :: query.toList := by
    rw [List.takeWhile_eq_self_iff]
    intro c hc
    rw [bne_iff_ne]
    rintro rfl
    rcases List.mem_append.mp hc with hc | hc
    · exact hpath.plain.2 hc
    · rcases List.mem_cons.mp hc with hc | hc
      · exact absurd hc (by decide)
      · exact hquery hc
  have hrooted : (path.toList ++ '?' :: query.toList).head? = some '/' := by
    rw [List.head?_append, hpath.rooted]
    rfl
  simp only [Route.splitTarget, hwhole, hplain, Route.dropAuthority_of_rooted hrooted, Text.cutAt_append hpath.plain.1,
    String.ofList_toList]

theorem Route.splitTarget_path {path : String} (hpath : Route.IsPath path) : Route.splitTarget path = (path, "") := by
  have hplain : path.toList.takeWhile (· != '#') = path.toList := by
    rw [List.takeWhile_eq_self_iff]
    intro c hc
    rw [bne_iff_ne]
    rintro rfl
    exact hpath.plain.2 hc
  simp only [Route.splitTarget, hplain, Route.dropAuthority_of_rooted hpath.rooted, Text.cutAt_of_not_mem hpath.plain.1,
    String.ofList_toList]

namespace Url

variable {base : Url}

/-- An address without a query gets the form of pairs for one, unless there are none. -/
theorem query_withPairs (hquery : base.query = none) (pairs : List (String × String)) :
    (base.withPairs pairs).query =
      if (Text.formEncodePairs pairs).isEmpty then none else some (Text.formEncodePairs pairs) := by
  have hnone : (!"".isEmpty) = false := rfl
  rw [withPairs, hquery, Option.getD_none]
  cases hform : (Text.formEncodePairs pairs).isEmpty with
  | true =>
    simp only [List.filter_cons, hnone, hform, Bool.not_true, Bool.false_eq_true, if_false, List.filter_nil]
    rfl
  | false =>
    have hjoin : "&".intercalate [Text.formEncodePairs pairs] = Text.formEncodePairs pairs := by
      rw [← String.toList_inj, String.toList_intercalate, List.map_singleton, List.intercalate_singleton]
    simp only [List.filter_cons, hnone, hform, Bool.not_false, Bool.false_eq_true, if_false, if_true, List.filter_nil, hjoin]

/-- The target of an address is taken apart into its path and the form of the pairs that were put into it. -/
theorem splitTarget_withPairs (hquery : base.query = none) (hpath : Route.IsPath base.path) (pairs : List (String × String)) :
    Route.splitTarget (base.withPairs pairs).target = (base.path, Text.formEncodePairs pairs) := by
  have hplace : (base.withPairs pairs).path = base.path := rfl
  rw [target, hplace, query_withPairs hquery]
  split
  · rename_i hempty
    rw [String.isEmpty_iff.mp hempty, Option.map_none, Option.getD_none, String.append_empty]
    exact Route.splitTarget_path hpath
  · rw [Option.map_some, Option.getD_some, ← String.append_assoc]
    apply Route.splitTarget_query hpath
    intro hmark
    rcases Text.of_mem_formEncodePairs hmark with h | h | h <;> exact absurd h (by decide)

/-- An address grows by no more than a mark and the form of the pairs that are put into it. -/
theorem utf8ByteSize_withPairs_le (hquery : base.query = none) (pairs : List (String × String)) :
    (base.withPairs pairs).text.utf8ByteSize ≤ base.text.utf8ByteSize + Text.formSize pairs + 1 := by
  have hform := Text.utf8ByteSize_formEncodePairs_le pairs
  have htarget : (base.withPairs pairs).target.utf8ByteSize ≤ base.target.utf8ByteSize + Text.formSize pairs + 1 := by
    have hplace : (base.withPairs pairs).path = base.path := rfl
    have hmark : "?".utf8ByteSize = 1 := by decide
    rw [target, target, hplace, query_withPairs hquery, hquery, String.utf8ByteSize_append, String.utf8ByteSize_append]
    split
    · rw [Option.map_none]
      omega
    · rw [Option.map_some, Option.getD_some, String.utf8ByteSize_append, hmark]
      omega
  have hscheme : (base.withPairs pairs).scheme = base.scheme := rfl
  have hauthority : (base.withPairs pairs).authority = base.authority := rfl
  have hplace : (base.withPairs pairs).path = base.path := rfl
  have hfragment : (base.withPairs pairs).fragment = base.fragment := rfl
  simp only [text, String.utf8ByteSize_append, hscheme, hauthority, hplace, hfragment]
  omega

end Url

/-! ## Requests -/

namespace Client

/-- Where a listing is found: at an address of the web without a query, which has room for the parameters of the listing and
for any token. -/
structure Addressed (listing : Listing) (path : String) (base : Url) : Prop where
  /-- The endpoint is the address. -/
  read : Url.ofText? listing.endpoint = some base
  /-- It is an address of the web. -/
  scheme : base.scheme = "http" ∨ base.scheme = "https"
  /-- It names a host. -/
  host : base.hasHost = true
  /-- The host stands for itself. -/
  authority : (base.authority.getD "").toList.all Url.isPathChar = true
  /-- Its path is the one of the listing. -/
  path : base.path = path
  /-- It has no query. -/
  query : base.query = none
  /-- The accept value can stand in a header. -/
  accept : Header.isAdmissible listing.accept = true
  /-- There is room for the parameters and a token. -/
  size : base.text.utf8ByteSize + Text.formSize listing.parameters + 171 ≤ Url.sizeLimit

/-- A token takes no more room than there is. -/
theorem formSize_token_le {token : Option String} (h : ∀ t ∈ token, ∃ c : Cursor, t = c.encode) :
    Text.formSize (token.toList.map fun t => ("page", t)) ≤ 170 := by
  cases token with
  | none => simp [Text.formSize]
  | some t =>
    obtain ⟨c, rfl⟩ := h t rfl
    have hbytes : (Text.utf8Bytes c.encode).length = c.encode.toList.length :=
      Text.length_utf8Bytes_of_ascii fun x hx => Nat.lt_trans (Cursor.visible_of_mem_encode hx).2 (by decide)
    have hlength := c.length_encode_le
    have hname : (Text.utf8Bytes "page").length = 4 := by decide
    simp only [Option.toList_some, List.map_cons, List.map_nil, Text.formSize, Text.pairSize, hname, hbytes]
    omega

/-- Requests for all pages of a listing can be sent to its address. -/
theorem Addressed.requestUrl_eq {listing : Listing} {path : String} {base : Url} (h : Addressed listing path base)
    {token : Option String} (htoken : ∀ t ∈ token, ∃ c : Cursor, t = c.encode) :
    requestUrl listing token = .ok (base.withPairs (listing.parameters ++ token.toList.map (("page", ·)))) := by
  generalize hpairs : listing.parameters ++ token.toList.map (("page", ·)) = pairs
  have hsize : (base.withPairs pairs).text.utf8ByteSize ≤ Url.sizeLimit := by
    have hgrown := Url.utf8ByteSize_withPairs_le h.query pairs
    have htokenSize := formSize_token_le htoken
    have hroom := h.size
    rw [← hpairs, Text.formSize_append] at hgrown
    rw [← hpairs]
    omega
  have hsendable : (base.withPairs pairs).isSendable = true := by
    have hscheme : (base.withPairs pairs).scheme = base.scheme := rfl
    have hauthority : (base.withPairs pairs).authority = base.authority := rfl
    rw [Url.isSendable, hscheme, hauthority, h.authority, decide_eq_true hsize, Bool.and_true, Bool.and_true]
    simpa using h.scheme
  rw [requestUrl, h.read]
  simp only [h.host, h.accept, hpairs, hsendable, Bool.not_true, Bool.false_eq_true, if_false]

/-- The service beside a client answers what the listing asks for: the parameters and the token come back out of the target
of the request. -/
theorem Transport.faithful_ofService {σ : Type} [Backend σ] {settings : Settings} {store : σ} {listing : Listing}
    {listed : Listed} {base : Url} (h : Addressed listing listed.path base) :
    (Transport.ofService settings store).Faithful settings store listing listed.route := by
  intro token htoken
  refine ⟨_, h.requestUrl_eq htoken, ?_⟩
  have hpath : Route.IsPath base.path := by
    rw [h.path]
    cases listed <;> exact ⟨by decide, by decide⟩
  obtain ⟨hroute, hdecode⟩ := listed.route_of_path
  rw [Transport.ofService, Service.answer, Url.splitTarget_withPairs h.query hpath, h.path, hroute]
  simp only [if_true, Service.get, hdecode, Url.splitTarget_withPairs h.query hpath, Text.formDecodePairs_formEncodePairs]

end Client

end BasinRegister
