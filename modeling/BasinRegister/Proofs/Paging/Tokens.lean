import BasinRegister.Proofs.Cursor
import BasinRegister.Proofs.Paging.Window

/-!
# Cursors and tokens of pages

A page is read at the cursor of its token, and the parents are counted where that is asked for and the token states no total.
Whatever the token is, the offset of a page that holds something lies within the total as far as it is known, and the next
token stands for the cursor behind the page. Only a count can lie before the offset, on an empty page past the end of the
listing, and only a total that the token states too small is lost on the way to the next page
(`RowSource.cursor_of_page`).
-/

namespace BasinRegister.RowSource

variable {φ π γ ε κ : Type} [GroupKey π κ] [DecidableEq κ] [DecidableEq γ] {source : RowSource φ π γ ε}
  {listing : φ → Listing π γ} {filter : φ} {request : PageRequest} {p : Page (Group π γ)}

/-- There is a page where counting does not fail and the parents can be counted in 64 bits. -/
theorem Keeps.exists_page (h : source.Keeps listing) (hsmall : (listing filter).parents.length < UInt64.size)
    (hcounts : request.includeTotal = true → ∃ total, source.count filter = .ok total) :
    ∃ p, source.page filter request = .ok p := by
  rw [h.page_eq]
  cases hcount : (source.countTotal filter request (Cursor.decode request.token request.defaultPageSize)).1 with
  | error e =>
    obtain ⟨-, hasked, hfails⟩ := countTotal_error hcount
    obtain ⟨total, htotal⟩ := hcounts hasked
    rw [hfails] at htotal
    cases htotal
  | ok cursor =>
    cases hpage : (pageOf request cursor ((listing filter).window cursor) : Except (PageFailure ε) _) with
    | ok p => exact ⟨p, hpage⟩
    | error e =>
      obtain ⟨rfl, -⟩ := pageOf_error hpage
      exact absurd hpage (pageOf_window_ne_overflow hsmall cursor)

/-- A known total of a page is that of its token, which its offset has not passed, or the number of parents. -/
theorem Keeps.total_of_page (h : source.Keeps listing)
    (hcount : ∀ total, source.count filter = .ok total → total.toNat = (listing filter).parents.length)
    (hp : source.page filter request = .ok p) {total : UInt64} (htotal : p.cursor.total = some total) :
    ((Cursor.decode request.token request.defaultPageSize).total = some total ∧ p.cursor.offset ≤ total) ∨
      ((Cursor.decode request.token request.defaultPageSize).total = none ∧ request.includeTotal = true ∧
        total.toNat = (listing filter).parents.length) := by
  rcases countTotal_cases (h.of_page hp).1 with hsame | ⟨hnone, hasked, counted, hok, hcounted⟩
  · have hvalid := Cursor.decode_valid request.token request.defaultPageSize
    rw [← hsame] at hvalid ⊢
    exact .inl ⟨htotal, hvalid.offset_le total htotal⟩
  · rw [hcounted] at htotal
    cases htotal
    exact .inr ⟨hnone, hasked, hcount total hok⟩

/-- The token behind a page that holds something is that of the cursor behind its items, which lies within the listing. -/
theorem Keeps.next_of_page (h : source.Keeps listing) (hp : source.page filter request = .ok p) (hne : p.items ≠ []) :
    ∃ behind, p.cursor.advance? p.items.length = some behind ∧ p.next = behind.encode ∧ 0 < behind.pageSize ∧
      behind.offset.toNat ≤ (listing filter).parents.length := by
  obtain ⟨hcursor, hitems, hpageOf⟩ := h.of_page hp
  rcases pageOf_next hpageOf with ⟨hempty, -⟩ | ⟨behind, hadvance, hnext⟩
  · exact absurd hempty hne
  · obtain ⟨hoffset, -, hsize⟩ := Cursor.of_advance? hadvance
    refine ⟨behind, hadvance, hnext, ?_, ?_⟩
    · rw [hsize, (countTotal_ok hcursor).2]
      exact (Cursor.decode_valid request.token request.defaultPageSize).pageSize_pos
    · rw [hoffset, hitems]
      rw [hitems] at hne
      exact (listing filter).offset_add_length_window_le hne

/-- The cursor of a page holds at least one parent a page. Its offset has passed a known total only where that was counted for
the very page, past the end of the listing; then the page is empty. The next token of a page that holds something stands for
the cursor behind its items, except that a total stated by the token of the page is dropped once the offset has passed it.
There is a page unless counting is asked for and fails, as long as the parents can be counted in 64 bits. -/
theorem cursor_of_page (h : source.Keeps listing)
    (hcount : ∀ total, source.count filter = .ok total → total.toNat = (listing filter).parents.length)
    (request : PageRequest) :
    let start := Cursor.decode request.token request.defaultPageSize
    ((listing filter).parents.length < UInt64.size →
      (request.includeTotal = true → ∃ total, source.count filter = .ok total) →
      ∃ p, source.page filter request = .ok p) ∧
    ∀ p, source.page filter request = .ok p →
      0 < p.cursor.pageSize ∧
      (∀ total, p.cursor.total = some total → total < p.cursor.offset →
        start.total = none ∧ request.includeTotal = true ∧ total.toNat = (listing filter).parents.length ∧ p.items = []) ∧
      (p.items ≠ [] → ∃ behind, p.cursor.advance? p.items.length = some behind ∧
        ∀ default, Cursor.decode (some p.next) default =
          if start.total.any (· < behind.offset) then { behind with total := none } else behind) := by
  intro start
  refine ⟨h.exists_page, ?_⟩
  intro p hp
  obtain ⟨hcursor, hitems, -⟩ := h.of_page hp
  have htotals (total : UInt64) (htotal : p.cursor.total = some total) := h.total_of_page hcount hp htotal
  refine ⟨?_, ?_, ?_⟩
  · rw [(countTotal_ok hcursor).2]
    exact (Cursor.decode_valid request.token request.defaultPageSize).pageSize_pos
  · intro total htotal hpassed
    rcases htotals total htotal with ⟨-, hle⟩ | ⟨hnone, hasked, hlength⟩
    · exact absurd hle (UInt64.not_le.mpr hpassed)
    · refine ⟨hnone, hasked, hlength, ?_⟩
      by_contra hne
      rw [hitems] at hne
      have hend := (listing filter).offset_add_length_window_le hne
      rw [UInt64.lt_iff_toNat_lt] at hpassed
      omega
  · intro hne
    obtain ⟨behind, hadvance, hnext, hpos, hend⟩ := h.next_of_page hp hne
    have htotal : behind.total = p.cursor.total := (Cursor.of_advance? hadvance).2.1
    refine ⟨behind, hadvance, fun default => ?_⟩
    rw [hnext, Cursor.decode_encode_of_pos hpos]
    rcases countTotal_cases hcursor with hsame | ⟨hnone, -⟩
    · rw [Cursor.withoutPassedTotal_eq_ite, htotal, hsame]
    · -- a total that was counted is not passed by a page that holds something
      have hvalid : behind.Valid := by
        refine ⟨hpos, fun total hsome => ?_⟩
        rcases htotals total (htotal ▸ hsome) with ⟨hstated, -⟩ | ⟨-, -, hlength⟩
        · rw [hnone] at hstated
          cases hstated
        · rw [UInt64.le_iff_toNat_le]
          omega
      rw [hvalid.withoutPassedTotal_eq, show start.total = none from hnone]
      rfl

/-- The page of two parents behind the first, counted, is followed by the end of the listing. -/
theorem cursor_of_page_behind_first :
    (ListedRows.ofListing threeParents : ListedRows String Nat String).source.Keeps (fun _ => threeParents) ∧
    (∀ total, (ListedRows.ofListing threeParents : ListedRows String Nat String).source.count () = .ok total →
      total.toNat = threeParents.parents.length) ∧
    ∃ p, (ListedRows.ofListing threeParents : ListedRows String Nat String).source.page ()
        { token := some " 1|null|2", defaultPageSize := 7, includeTotal := true } = .ok p ∧
      p.items ≠ [] ∧ p.cursor.total = some 3 ∧
      Cursor.decode (some p.next) 7 = { offset := 3, total := some 3, pageSize := 2 } := by
  have hkeeps := ListedRows.keeps (ε := String) threeParents
  have hcount : ∀ total, (ListedRows.ofListing threeParents : ListedRows String Nat String).source.count () = .ok total →
      total.toNat = threeParents.parents.length := by
    intro total htotal
    rw [ListedRows.count_ofListing] at htotal
    cases htotal
    decide
  obtain ⟨-, hpages⟩ := cursor_of_page hkeeps hcount { token := some " 1|null|2", defaultPageSize := 7, includeTotal := true }
  obtain ⟨-, -, hnext⟩ := hpages _ rfl
  obtain ⟨behind, hadvance, hdecode⟩ := hnext (by decide)
  refine ⟨hkeeps, hcount, _, rfl, by decide, by decide, ?_⟩
  rw [hdecode 7, ← Option.some.inj hadvance]
  decide

/-- Both happen: past the end of three parents a count of them lies before the offset, and a total of one that a token states
is dropped behind a page of two parents. -/
theorem passed_totals_of_page :
    (∃ p, (ListedRows.ofListing threeParents : ListedRows String Nat String).source.page ()
        { token := some "9|null|2", defaultPageSize := 7, includeTotal := true } = .ok p ∧
      p.cursor = { offset := 9, total := some 3, pageSize := 2 } ∧ ¬p.cursor.Valid) ∧
    ∃ p behind, (ListedRows.ofListing threeParents : ListedRows String Nat String).source.page ()
        { token := some "0|1|2", defaultPageSize := 7, includeTotal := false } = .ok p ∧
      p.items ≠ [] ∧ p.cursor.advance? p.items.length = some behind ∧ Cursor.decode (some p.next) 7 ≠ behind := by
  constructor
  · refine ⟨_, rfl, by decide, ?_⟩
    intro hvalid
    exact absurd (hvalid.offset_le 3 (by decide)) (by decide)
  · refine ⟨_, { offset := 2, total := some 1, pageSize := 2 }, rfl, by decide, by decide, ?_⟩
    show Cursor.decode (some ({ offset := 2, total := some 1, pageSize := 2 } : Cursor).encode) 7 ≠ _
    rw [Cursor.decode_encode_of_pos (by decide)]
    decide

end BasinRegister.RowSource
