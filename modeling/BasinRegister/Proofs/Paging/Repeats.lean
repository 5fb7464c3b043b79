import BasinRegister.Proofs.Cursor
import BasinRegister.Proofs.Paging.Window

/-!
# Pages are read again

The token of a page stands for that page. Reading it again, with the same page size for a fallback and the same wish for a
count, gives the same page with the same tokens, whatever the request was that first led to it: a token that was stated is
read as before, and a token that was written for the page carries all of its cursor, a total that was counted included
(`RowSource.page_again`).
-/

namespace BasinRegister

namespace Cursor

/-- A token that is stated is stated as it is. -/
theorem statedToken_of_stated {token : Option String} {text : String} (h : statedToken token = some text) :
    statedToken (some text) = some text := by
  obtain ⟨hmap, hne⟩ := Option.filter_eq_some_iff.mp h
  obtain ⟨s, -, rfl⟩ := Option.map_eq_some_iff.mp hmap
  rw [statedToken, Option.map_some, Text.trim_trim, Option.filter_some, if_pos hne]

/-- Only what is stated of a token is read. -/
theorem decode_congr {token token' : Option String} (h : statedToken token = statedToken token') (default : UInt32) :
    decode token default = decode token' default := by
  simp only [decode, h]

/-- Without a stated token a listing starts. -/
theorem decode_of_unstated {token : Option String} (h : statedToken token = none) (default : UInt32) :
    decode token default = first default := by
  rw [decode, h]

/-- The start of a listing is valid with any total. -/
theorem first_valid_withTotal (default : UInt32) (total : Option UInt64) :
    ({ first default with total } : Cursor).Valid :=
  ⟨pos_max_one default, fun t _ => UInt64.le_iff_toNat_le.mpr (Nat.zero_le t.toNat)⟩

end Cursor

namespace RowSource

variable {φ π γ ε κ : Type} {source source' : RowSource φ π γ ε} {filter : φ} {request : PageRequest}

/-- What was counted is not counted again. -/
theorem countTotal_again {c cursor : Cursor} (h : (source.countTotal filter request c).1 = .ok cursor) :
    (source.countTotal filter request cursor).1 = .ok cursor := by
  rcases countTotal_cases h with rfl | ⟨-, -, total, -, rfl⟩
  · exact h
  · rw [countTotal]
    rfl

/-- The token of a page is the one that is stated, or else that of its cursor. -/
theorem pageOf_current {cursor : Cursor} {items : List (Group π γ)} {p : Page (Group π γ)}
    (h : (pageOf request cursor items : Except (PageFailure ε) _) = .ok p) :
    p.current = (Cursor.statedToken request.token).getD cursor.encode := by
  unfold pageOf at h
  simp only at h
  split at h
  · cases h
    rfl
  · split at h
    · cases h
      rfl
    · cases h

/-- The token of a page is taken as it is, and it stands for the cursor of the page once the total is counted. -/
theorem current_of_countTotal {cursor : Cursor} {current : String}
    (hcount : (source.countTotal filter request (Cursor.decode request.token request.defaultPageSize)).1 = .ok cursor)
    (hcurrent : current = (Cursor.statedToken request.token).getD cursor.encode) :
    Cursor.statedToken (some current) = some current ∧
      (source.countTotal filter request (Cursor.decode (some current) request.defaultPageSize)).1 = .ok cursor := by
  cases hstated : Cursor.statedToken request.token with
  | some text =>
    rw [hstated, Option.getD_some] at hcurrent
    subst hcurrent
    have hsame := Cursor.statedToken_of_stated hstated
    refine ⟨hsame, ?_⟩
    rw [Cursor.decode_congr (hsame.trans hstated.symm)]
    exact hcount
  | none =>
    rw [hstated, Option.getD_none] at hcurrent
    subst hcurrent
    refine ⟨Cursor.statedToken_encode cursor, ?_⟩
    -- the listing was started, so the cursor is valid even with a total that was counted just now
    have hvalid : cursor.Valid := by
      rw [Cursor.decode_of_unstated hstated] at hcount
      rcases countTotal_cases hcount with rfl | ⟨-, -, total, -, rfl⟩
      · exact Cursor.first_valid _
      · exact Cursor.first_valid_withTotal _ _
    rw [Cursor.decode_encode hvalid]
    exact countTotal_again hcount

variable [GroupKey π κ] [DecidableEq κ] [DecidableEq γ] {listing : φ → Listing π γ} {p : Page (Group π γ)}

/-- The token of a page gives the page again, with the same items, cursor and tokens, also where the source stops elsewhere
behind the wanted parents this time. The token behind an empty page is its own, so that the walk stays on it. -/
theorem page_again (h : source.Keeps listing) (h' : source'.Keeps listing)
    (hcount : source'.count filter = source.count filter) (hp : source.page filter request = .ok p) :
    source'.page filter { request with token := some p.current } = .ok p ∧
      (p.items = [] → p.next = p.current ∧ source'.page filter { request with token := some p.next } = .ok p) := by
  obtain ⟨hcursor, hitems, hpageOf⟩ := h.of_page hp
  have hcurrent := pageOf_current hpageOf
  obtain ⟨hstated, hcountAgain⟩ := current_of_countTotal hcursor hcurrent
  have hagain : source'.page filter { request with token := some p.current } = .ok p := by
    have hsame : (source'.countTotal filter { request with token := some p.current }
        (Cursor.decode (some p.current) request.defaultPageSize)).1 = .ok p.cursor := by
      rw [countTotal, hcount]
      exact hcountAgain
    rw [h'.page_eq, hsame]
    simp only
    rw [← hitems, ← hpageOf, pageOf, pageOf, hstated, ← hcurrent]
    rfl
  refine ⟨hagain, ?_⟩
  intro hempty
  have hnext : p.next = p.current := by
    rw [hempty] at hpageOf
    rw [← Except.ok.inj hpageOf]
  rw [hnext]
  exact ⟨rfl, hagain⟩

/-- Two pages of three parents that are read again: the first one, whose token was written for it together with the count, and
the empty one of a token with blanks around it past the end. -/
theorem page_again_threeParents :
    (ListedRows.ofListing threeParents : ListedRows String Nat String).source.Keeps (fun _ => threeParents) ∧
    (∃ p, (ListedRows.ofListing threeParents : ListedRows String Nat String).source.page ()
        { token := none, defaultPageSize := 2, includeTotal := true } = .ok p ∧
      p.items = [⟨"a", [1]⟩, ⟨"b", [2, 3]⟩] ∧ p.current = "0|3|2" ∧ p.next = "2|3|2" ∧
      (ListedRows.ofListing threeParents : ListedRows String Nat String).source.page ()
        { token := some "0|3|2", defaultPageSize := 2, includeTotal := true } = .ok p) ∧
    ∃ p, (ListedRows.ofListing threeParents : ListedRows String Nat String).source.page ()
        { token := some " 9|?|2 ", defaultPageSize := 7, includeTotal := true } = .ok p ∧
      p.items = [] ∧ p.next = "9|?|2" ∧
      (ListedRows.ofListing threeParents : ListedRows String Nat String).source.page ()
        { token := some "9|?|2", defaultPageSize := 7, includeTotal := true } = .ok p := by
  have hkeeps := ListedRows.keeps (ε := String) threeParents
  have hfirst : (ListedRows.ofListing threeParents : ListedRows String Nat String).source.page ()
      { token := none, defaultPageSize := 2, includeTotal := true } =
        .ok ⟨[⟨"a", [1]⟩, ⟨"b", [2, 3]⟩], { offset := 0, total := some 3, pageSize := 2 }, "0|3|2", "2|3|2"⟩ := by
    decide +kernel
  have hpast : (ListedRows.ofListing threeParents : ListedRows String Nat String).source.page ()
      { token := some " 9|?|2 ", defaultPageSize := 7, includeTotal := true } =
        .ok ⟨[], { offset := 9, total := some 3, pageSize := 2 }, "9|?|2", "9|?|2"⟩ := by
    rfl
  exact ⟨hkeeps, ⟨_, hfirst, rfl, rfl, rfl, (page_again hkeeps hkeeps rfl hfirst).1⟩,
    ⟨_, hpast, rfl, rfl, (page_again hkeeps hkeeps rfl hpast).1⟩⟩

end RowSource

end BasinRegister
