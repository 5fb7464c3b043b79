import BasinRegister.Proofs.Cursor
import BasinRegister.Proofs.Paging.Window

/-!
# Walking through a listing

A client reads a page, goes on with the token of the next page, and stops where there is none (`RowSource.Walk`). Over a
source that keeps its contract and does not change, every walk ends, whatever the first token is and whatever else the
client asks for on the way. The induction is on the parents that are left: a page that is not the last moves the cursor on by
what it holds, and the token it gives decodes to that very cursor (`RowSource.read_step`).
-/

namespace BasinRegister

/-- What a client asks for with a request, besides the token. -/
structure PageChoice where
  /-- The page size where the token states none. -/
  defaultPageSize : UInt32
  /-- Whether to count the parents unless the token states their number. -/
  includeTotal : Bool

/-- The request for the page of a token. -/
def PageChoice.request (choice : PageChoice) (token : Option String) : PageRequest :=
  { token, defaultPageSize := choice.defaultPageSize, includeTotal := choice.includeTotal }

/-- The groups that were read. -/
def PageReading.items {π γ ε : Type} (reading : PageReading π γ ε) : List (Group π γ) :=
  match reading.outcome with
  | .ok p => p.items
  | .error _ => []

/-- How often the parents were counted for readings. -/
def PageReading.timesCounted {π γ ε : Type} : List (PageReading π γ ε) → Nat
  | [] => 0
  | reading :: readings => reading.counted + timesCounted readings

namespace RowSource

variable {φ π γ ε κ : Type} [GroupKey π κ] [DecidableEq κ] [DecidableEq γ]

/-- The readings of a walk from a token on, with a choice for each request. A reading that fails ends no walk. -/
inductive Walk (source : RowSource φ π γ ε) (filter : φ) :
    (Nat → PageChoice) → Option String → List (PageReading π γ ε) → Prop where
  /-- There is no next page. -/
  | last {choices : Nat → PageChoice} {token : Option String} {p : Page (Group π γ)} :
      (source.read filter ((choices 0).request token)).outcome = .ok p → p.info.nextPage = none →
      Walk source filter choices token [source.read filter ((choices 0).request token)]
  /-- The walk goes on with the next page. -/
  | next {choices : Nat → PageChoice} {token : Option String} {p : Page (Group π γ)} {t : String}
      {readings : List (PageReading π γ ε)} :
      (source.read filter ((choices 0).request token)).outcome = .ok p → p.info.nextPage = some t →
      Walk source filter (fun i => choices (i + 1)) (some t) readings →
      Walk source filter choices token (source.read filter ((choices 0).request token) :: readings)

/-- A walk has one course. -/
theorem Walk.unique {source : RowSource φ π γ ε} {filter : φ} {choices : Nat → PageChoice} {token : Option String}
    {readings others : List (PageReading π γ ε)} (h : source.Walk filter choices token readings)
    (h' : source.Walk filter choices token others) : others = readings := by
  induction h generalizing others with
  | last hp hnone =>
    cases h' with
    | last _ _ => rfl
    | next hq hsome _ =>
      rw [hp] at hq
      cases hq
      rw [hnone] at hsome
      cases hsome
  | next hp hsome _ ih =>
    cases h' with
    | last hq hnone =>
      rw [hp] at hq
      cases hq
      rw [hsome] at hnone
      cases hnone
    | next hq hsome' hrest =>
      rw [hp] at hq
      cases hq
      rw [hsome] at hsome'
      cases hsome'
      rw [ih hrest]

/-! ## One page -/

/-- The total that is known once a request is read: what the token states, or the count if that is asked for. -/
def knownTotal (n : Nat) (choice : PageChoice) (cursor : Cursor) : Option UInt64 :=
  if cursor.total.isNone && choice.includeTotal then some (UInt64.ofNat n) else cursor.total

/-- The cursor behind the groups that a cursor names. -/
def cursorBehind (l : Listing π γ) (choice : PageChoice) (cursor : Cursor) : Cursor :=
  { cursor with
    offset := UInt64.ofNat (cursor.offset.toNat + (l.window cursor).length)
    total := knownTotal l.parents.length choice cursor }

/-- One page of a walk: it holds what the cursor of its token names, and is followed by no page exactly if it is empty or
reaches the known total. Otherwise the next token decodes to the cursor behind the page. -/
theorem read_step {source : RowSource φ π γ ε} {listing : φ → Listing π γ} (h : source.Keeps listing) {filter : φ}
    (hcount : source.count filter = .ok (UInt64.ofNat (listing filter).parents.length))
    (hsmall : (listing filter).parents.length < UInt64.size) (choice : PageChoice) (token : Option String)
    {cursor : Cursor} (hcursor : Cursor.decode token choice.defaultPageSize = cursor) :
    ∃ p, (source.read filter (choice.request token)).outcome = .ok p ∧ p.items = (listing filter).window cursor ∧
      (source.read filter (choice.request token)).counted =
        (if cursor.total.isNone && choice.includeTotal then 1 else 0) ∧
      p.info.nextPage =
        if (listing filter).window cursor = [] ∨ (cursorBehind (listing filter) choice cursor).isExhausted = true then none
        else some (cursorBehind (listing filter) choice cursor).encode := by
  have htotal : source.countTotal filter (choice.request token) cursor =
      (.ok { cursor with total := knownTotal (listing filter).parents.length choice cursor },
        if cursor.total.isNone && choice.includeTotal then 1 else 0) := by
    simp only [countTotal, PageChoice.request, knownTotal, hcount]
    split <;> rfl
  have hcounted : (source.read filter (choice.request token)).counted =
      (if cursor.total.isNone && choice.includeTotal then 1 else 0) := by
    simp only [read, PageChoice.request] at htotal ⊢
    rw [hcursor, htotal]
  have hpage := h.page_eq filter (choice.request token)
  rw [show (choice.request token).token = token from rfl,
    show (choice.request token).defaultPageSize = choice.defaultPageSize from rfl, hcursor, htotal] at hpage
  simp only [pageOf] at hpage
  have hwindow : (listing filter).window
      { cursor with total := knownTotal (listing filter).parents.length choice cursor } =
      (listing filter).window cursor := rfl
  rw [hwindow] at hpage
  by_cases hempty : (listing filter).window cursor = []
  · rw [hempty] at hpage
    exact ⟨_, hpage, hempty.symm, hcounted, by simp [Page.info, Page.isLast, hempty]⟩
  · have hend := (listing filter).offset_add_length_window_le hempty
    have hadvance : ({ cursor with
        total := knownTotal (listing filter).parents.length choice cursor } : Cursor).advance?
          ((listing filter).window cursor).length = some (cursorBehind (listing filter) choice cursor) := by
      rw [Cursor.advance?_eq]
      · rfl
      · show cursor.offset.toNat + _ < _
        omega
    rw [if_neg (by simp [hempty]), hadvance] at hpage
    refine ⟨_, hpage, rfl, hcounted, ?_⟩
    simp only [Page.info, Page.isLast, hadvance, hempty, false_or, List.isEmpty_eq_false_iff.mpr hempty, Bool.false_or,
      Option.map_some, Option.getD_some]

/-! ## All pages -/

/-- The number of pages that so many parents fill, the last of them perhaps in part. -/
def pageCount (parents size : Nat) : Nat := (parents + size - 1) / size

theorem pageCount_of_le {parents size : Nat} (hpos : 0 < parents) (hle : parents ≤ size) : pageCount parents size = 1 := by
  rw [pageCount, Nat.div_eq_of_lt_le] <;> omega

theorem pageCount_of_lt {parents size : Nat} (hsize : 0 < size) (hlt : size < parents) :
    pageCount parents size = pageCount (parents - size) size + 1 := by
  rw [pageCount, pageCount, ← Nat.add_div_right _ hsize]
  congr 1
  omega

omit [DecidableEq κ] in
/-- The window of a cursor and the groups behind it are all groups from the cursor on. -/
theorem window_append_drop (l : Listing π γ) (cursor : Cursor) :
    l.window cursor ++ l.groups.drop (cursor.offset.toNat + (l.window cursor).length) =
      l.groups.drop cursor.offset.toNat := by
  rw [← List.drop_drop, Listing.window, List.length_take]
  conv_lhs => rw [List.take_eq_take_min]
  exact List.take_append_drop _ _

omit [DecidableEq κ] in
theorem toNat_offset_cursorBehind (l : Listing π γ) (choice : PageChoice) (cursor : Cursor)
    (hsmall : l.parents.length < UInt64.size) (hne : l.window cursor ≠ []) :
    (cursorBehind l choice cursor).offset.toNat = cursor.offset.toNat + (l.window cursor).length := by
  have hlength := l.length_window cursor
  have hpos : 0 < (l.window cursor).length := List.length_pos_iff.mpr hne
  exact UInt64.toNat_ofNat_of_lt' (by omega)

omit [DecidableEq κ] in
/-- A known total is reached behind a page when it is no greater than the parents up to there. -/
theorem isExhausted_cursorBehind_iff (l : Listing π γ) (choice : PageChoice) (cursor : Cursor)
    (hsmall : l.parents.length < UInt64.size) (hne : l.window cursor ≠ []) :
    (cursorBehind l choice cursor).isExhausted = true ↔
      ∃ total, knownTotal l.parents.length choice cursor = some total ∧
        total.toNat ≤ cursor.offset.toNat + (l.window cursor).length := by
  rw [Cursor.isExhausted_iff, ← toNat_offset_cursorBehind l choice cursor hsmall hne]
  simp only [UInt64.le_iff_toNat_le]
  rfl

omit [GroupKey π κ] [DecidableEq κ] [DecidableEq γ] in
/-- A known total is either stated by the cursor or counted. -/
theorem knownTotal_cases {n : Nat} {choice : PageChoice} {cursor : Cursor} {total : UInt64}
    (h : knownTotal n choice cursor = some total) : cursor.total = some total ∨ total = UInt64.ofNat n := by
  unfold knownTotal at h
  split at h
  · exact Or.inr (Option.some.inj h).symm
  · exact Or.inl h

/-- What holds of the course of a walk from a cursor on. The parents that are left decide how many pages there are at most;
they are counted at most once, and not at all where their number is stated. -/
structure Course (source : RowSource φ π γ ε) (filter : φ) (l : Listing π γ) (choices : Nat → PageChoice)
    (token : Option String) (cursor : Cursor) (readings : List (PageReading π γ ε)) : Prop where
  /-- The readings are a walk. -/
  walk : source.Walk filter choices token readings
  /-- There is at most one reading behind those that the parents fill. -/
  length_le : readings.length ≤ pageCount (l.parents.length - cursor.offset.toNat) cursor.pageSize.toNat + 1
  /-- The parents are counted at most once. -/
  counted_le : PageReading.timesCounted readings ≤ if cursor.total.isNone then 1 else 0
  /-- Nothing is left out, unless a total is stated that is too small. -/
  items_eq : (∀ total, cursor.total = some total → l.parents.length ≤ total.toNat) →
    readings.flatMap PageReading.items = l.groups.drop cursor.offset.toNat
  /-- Where the number of parents is known, there are as many readings as the parents fill. -/
  length_eq : knownTotal l.parents.length (choices 0) cursor = some (UInt64.ofNat l.parents.length) →
    readings.length = max 1 (pageCount (l.parents.length - cursor.offset.toNat) cursor.pageSize.toNat)

/-- A walk that ends with its first page. -/
theorem Course.of_last {source : RowSource φ π γ ε} {filter : φ} {l : Listing π γ} {choices : Nat → PageChoice}
    {token : Option String} {cursor : Cursor} (hvalid : cursor.Valid) (hsmall : l.parents.length < UInt64.size)
    (hlast : l.window cursor = [] ∨ (cursorBehind l (choices 0) cursor).isExhausted = true)
    (hwalk : source.Walk filter choices token [source.read filter ((choices 0).request token)])
    (hitems : (source.read filter ((choices 0).request token)).items = l.window cursor)
    (hcounted : (source.read filter ((choices 0).request token)).counted =
      if cursor.total.isNone && (choices 0).includeTotal then 1 else 0) :
    Course source filter l choices token cursor [source.read filter ((choices 0).request token)] := by
  have hsize : 0 < cursor.pageSize.toNat := UInt32.lt_iff_toNat_lt.mp hvalid.pageSize_pos
  have hlength := l.length_window cursor
  have htoNat : (UInt64.ofNat l.parents.length).toNat = l.parents.length := UInt64.toNat_ofNat_of_lt' hsmall
  -- with a known total that is not too small the page reaches the end of the listing
  have hend : (∀ total, knownTotal l.parents.length (choices 0) cursor = some total → l.parents.length ≤ total.toNat) →
      l.parents.length - cursor.offset.toNat = (l.window cursor).length := by
    intro hlarge
    by_cases hempty : l.window cursor = []
    · rw [hempty, List.length_nil] at hlength ⊢
      omega
    · obtain ⟨total, htotal, hle⟩ :=
        (isExhausted_cursorBehind_iff l (choices 0) cursor hsmall hempty).mp (hlast.resolve_left hempty)
      have := hlarge total htotal
      omega
  refine ⟨hwalk, by simp, ?_, ?_, ?_⟩
  · rw [PageReading.timesCounted, PageReading.timesCounted, hcounted]
    cases cursor.total <;> cases (choices 0).includeTotal <;> simp
  · intro hlarge
    have hfull : (l.window cursor).length = l.parents.length - cursor.offset.toNat := by
      refine (hend fun total htotal => ?_).symm
      rcases knownTotal_cases htotal with h | rfl
      · exact hlarge total h
      · exact htoNat.ge
    rw [List.flatMap_singleton, hitems, ← window_append_drop l cursor, hfull, List.drop_of_length_le, List.append_nil]
    simp only [Listing.groups, List.length_map]
    omega
  · intro hknown
    have hfull := hend fun total htotal => by
      rw [hknown] at htotal
      cases htotal
      exact htoNat.ge
    rw [List.length_singleton]
    by_cases hzero : l.parents.length - cursor.offset.toNat = 0
    · rw [hzero, pageCount, Nat.div_eq_of_lt (by omega)]
      rfl
    · rw [pageCount_of_le] <;> omega

/-- A walk that goes on behind its first page. -/
theorem Course.of_next {source : RowSource φ π γ ε} {filter : φ} {l : Listing π γ} {choices : Nat → PageChoice}
    {token : Option String} {cursor : Cursor} {readings : List (PageReading π γ ε)} (hvalid : cursor.Valid)
    (hsmall : l.parents.length < UInt64.size) (hne : l.window cursor ≠ [])
    (hmore : ¬(cursorBehind l (choices 0) cursor).isExhausted = true)
    (hwalk : source.Walk filter choices token (source.read filter ((choices 0).request token) :: readings))
    (hitems : (source.read filter ((choices 0).request token)).items = l.window cursor)
    (hcounted : (source.read filter ((choices 0).request token)).counted =
      if cursor.total.isNone && (choices 0).includeTotal then 1 else 0)
    (hrest : Course source filter l (fun i => choices (i + 1)) (some (cursorBehind l (choices 0) cursor).encode)
      (cursorBehind l (choices 0) cursor) readings) :
    Course source filter l choices token cursor (source.read filter ((choices 0).request token) :: readings) := by
  have hsize : 0 < cursor.pageSize.toNat := UInt32.lt_iff_toNat_lt.mp hvalid.pageSize_pos
  have hlength := l.length_window cursor
  have hpos : 0 < (l.window cursor).length := List.length_pos_iff.mpr hne
  have htoNat : (UInt64.ofNat l.parents.length).toNat = l.parents.length := UInt64.toNat_ofNat_of_lt' hsmall
  have hoffset := toNat_offset_cursorBehind l (choices 0) cursor hsmall hne
  have hpageSize : (cursorBehind l (choices 0) cursor).pageSize = cursor.pageSize := rfl
  have htotal : (cursorBehind l (choices 0) cursor).total = knownTotal l.parents.length (choices 0) cursor := rfl
  have hcount (hlt : cursor.pageSize.toNat < l.parents.length - cursor.offset.toNat) := pageCount_of_lt hsize hlt
  have hleft : l.parents.length - (cursor.offset.toNat + (l.window cursor).length) =
      l.parents.length - cursor.offset.toNat - cursor.pageSize.toNat := by
    omega
  refine ⟨hwalk, ?_, ?_, ?_, ?_⟩
  · have hle := hrest.length_le
    rw [hoffset, hpageSize, hleft] at hle
    rw [List.length_cons]
    by_cases hlt : cursor.pageSize.toNat < l.parents.length - cursor.offset.toNat
    · have := hcount hlt
      omega
    · rw [pageCount_of_le (by omega) (by omega)]
      rw [pageCount, Nat.div_eq_of_lt (by omega)] at hle
      omega
  · have hle := hrest.counted_le
    rw [htotal, knownTotal] at hle
    rw [PageReading.timesCounted, hcounted]
    cases ht : cursor.total <;> cases hi : (choices 0).includeTotal <;> simp_all
  · intro hlarge
    rw [List.flatMap_cons, hitems, hrest.items_eq, hoffset, window_append_drop]
    intro total hknown
    rcases knownTotal_cases (htotal ▸ hknown) with h | rfl
    · exact hlarge total h
    · exact htoNat.ge
  · intro hknown
    have hlt : cursor.pageSize.toNat < l.parents.length - cursor.offset.toNat := by
      rw [isExhausted_cursorBehind_iff l (choices 0) cursor hsmall hne] at hmore
      by_contra hle
      exact hmore ⟨_, hknown, by omega⟩
    have heq := hrest.length_eq (by rw [knownTotal, htotal, hknown]; simp)
    rw [hoffset, hpageSize, hleft] at heq
    have := hcount hlt
    have hone : 1 ≤ pageCount (l.parents.length - cursor.offset.toNat - cursor.pageSize.toNat) cursor.pageSize.toNat := by
      rw [pageCount, Nat.le_div_iff_mul_le hsize]
      omega
    rw [List.length_cons]
    omega

/-- A walk from a token has a course from the cursor of that token. -/
theorem exists_course {source : RowSource φ π γ ε} {listing : φ → Listing π γ} (h : source.Keeps listing) {filter : φ}
    (hcount : source.count filter = .ok (UInt64.ofNat (listing filter).parents.length))
    (hsmall : (listing filter).parents.length < UInt64.size) (left : Nat) :
    ∀ (cursor : Cursor) (choices : Nat → PageChoice) (token : Option String), cursor.Valid →
      Cursor.decode token (choices 0).defaultPageSize = cursor →
      (listing filter).parents.length - cursor.offset.toNat = left →
      ∃ readings, Course source filter (listing filter) choices token cursor readings := by
  induction left using Nat.strong_induction_on with
  | _ left ih =>
    intro cursor choices token hvalid hdecode hleft
    obtain ⟨p, hp, hitems, hcounted, hnext⟩ := read_step h hcount hsmall (choices 0) token hdecode
    have hreading : (source.read filter ((choices 0).request token)).items = (listing filter).window cursor := by
      rw [PageReading.items, hp]
      exact hitems
    by_cases hlast : (listing filter).window cursor = [] ∨
        (cursorBehind (listing filter) (choices 0) cursor).isExhausted = true
    · rw [if_pos hlast] at hnext
      exact ⟨_, Course.of_last hvalid hsmall hlast (Walk.last hp hnext) hreading hcounted⟩
    · rw [if_neg hlast] at hnext
      obtain ⟨hne, hmore⟩ := not_or.mp hlast
      have hpos : 0 < ((listing filter).window cursor).length := List.length_pos_iff.mpr hne
      have hlength := (listing filter).length_window cursor
      have hoffset := toNat_offset_cursorBehind (listing filter) (choices 0) cursor hsmall hne
      have hbehind : (cursorBehind (listing filter) (choices 0) cursor).Valid := by
        refine ⟨hvalid.pageSize_pos, fun total htotal => ?_⟩
        rw [Cursor.isExhausted_iff] at hmore
        by_contra hle
        exact hmore ⟨total, htotal, UInt64.le_of_lt (UInt64.not_le.mp hle)⟩
      obtain ⟨readings, hrest⟩ := ih ((listing filter).parents.length -
          (cursorBehind (listing filter) (choices 0) cursor).offset.toNat) (by omega)
        (cursorBehind (listing filter) (choices 0) cursor) (fun i => choices (i + 1)) _ hbehind
        (Cursor.decode_encode hbehind _) rfl
      exact ⟨_, Course.of_next hvalid hsmall hne hmore (Walk.next hp hnext hrest.walk) hreading hcounted hrest⟩

/-- Every walk over a source that keeps its contract and does not change ends, in one way only, whatever the first token is
and whatever page size and counting each request asks for. There is at most one page more than the parents from the first
cursor on fill, and the parents are counted at most once. Unless the first token states a total that is too small, the pages
hold all groups from the first cursor on, each once. A walk from the start that counts at once has no page too many. -/
theorem walk_ends {source : RowSource φ π γ ε} {listing : φ → Listing π γ} (h : source.Keeps listing) (filter : φ)
    (hcount : source.count filter = .ok (UInt64.ofNat (listing filter).parents.length))
    (hsmall : (listing filter).parents.length < UInt64.size) (choices : Nat → PageChoice) (token : Option String) :
    let start := Cursor.decode token (choices 0).defaultPageSize
    let n := (listing filter).parents.length
    ∃ readings, source.Walk filter choices token readings ∧
      (∀ others, source.Walk filter choices token others → others = readings) ∧
      readings.length ≤ pageCount (n - start.offset.toNat) start.pageSize.toNat + 1 ∧
      PageReading.timesCounted readings ≤ 1 ∧
      ((∀ total, start.total = some total → n ≤ total.toNat) →
        readings.flatMap PageReading.items = (groupRows (listing filter).rows).drop start.offset.toNat ∧
        ((readings.flatMap PageReading.items).map fun g => GroupKey.key g.parent).Nodup) ∧
      (token = none → (choices 0).includeTotal = true →
        readings.length = max 1 (pageCount n start.pageSize.toNat)) := by
  intro start n
  obtain ⟨readings, hcourse⟩ := exists_course h hcount hsmall _ start choices token
    (Cursor.decode_valid token (choices 0).defaultPageSize) rfl rfl
  refine ⟨readings, hcourse.walk, fun others hothers => hcourse.walk.unique hothers, hcourse.length_le, ?_, ?_, ?_⟩
  · have hle := hcourse.counted_le
    split at hle <;> omega
  · intro hlarge
    rw [hcourse.items_eq hlarge, Listing.groupRows_rows, List.map_drop, Listing.map_key_groups]
    exact ⟨rfl, (listing filter).distinct.sublist (List.drop_sublist _ _)⟩
  · rintro rfl hasked
    have hstart : start = Cursor.first (choices 0).defaultPageSize := rfl
    have hlength := hcourse.length_eq (by rw [knownTotal, hstart, hasked]; rfl)
    rw [hlength, hstart]
    rfl

/-- A walk from the second of three parents on, one parent a page. The total is not known, so an empty page ends it. -/
theorem walk_ends_behind_first :
    (ListedRows.ofListing threeParents : ListedRows String Nat String).source.Keeps (fun _ => threeParents) ∧
    (ListedRows.ofListing threeParents : ListedRows String Nat String).source.count () = .ok 3 ∧
    threeParents.parents.length < UInt64.size ∧
    ∃ readings, (ListedRows.ofListing threeParents : ListedRows String Nat String).source.Walk ()
        (fun _ => { defaultPageSize := 9, includeTotal := false }) (some "1|null|1") readings ∧
      readings.length ≤ 3 ∧ readings.flatMap PageReading.items = [⟨"b", [2, 3]⟩, ⟨"c", []⟩] := by
  have hkeeps := ListedRows.keeps (ε := String) threeParents
  obtain ⟨readings, hwalk, -, hlength, -, hitems, -⟩ := walk_ends hkeeps () (ListedRows.count_ofListing threeParents)
    (by decide) (fun _ => { defaultPageSize := 9, includeTotal := false }) (some "1|null|1")
  refine ⟨hkeeps, rfl, by decide, readings, hwalk, hlength, ?_⟩
  have hunknown : (Cursor.decode (some "1|null|1") 9).total = none := by decide
  have htotal : ∀ total, (Cursor.decode (some "1|null|1") 9).total = some total →
      threeParents.parents.length ≤ total.toNat := by
    intro total hsome
    rw [hunknown] at hsome
    cases hsome
  rw [(hitems htotal).1]
  decide

end RowSource

end BasinRegister
