import BasinRegister.Proofs.Cursor
import BasinRegister.Proofs.Outcome
import BasinRegister.Proofs.Paging.Window
import BasinRegister.Proofs.Storage.Listings
import Mathlib.Data.List.Induction

/-!
# Walks among puts

A client walks through the locations of a store in memory while others put records between its pages. An offset is a position in
a listing that shifts under the client, but only to the right: nothing is taken away, and what is put stands in its place by key.
So a location that was there is still ahead or was returned (`Memory.SharedWalk.Keeps`), and one is returned again only if
something was put before what was already returned.
-/

namespace BasinRegister.Memory

/-- The locations that a filter accepts, in the order of their keys. -/
def matching (m : Memory) (filter : Filter) : List Location :=
  m.locations.values.filter filter.acceptsLocation

/-- A location as it is returned, with its aliases. -/
def withAliases (m : Memory) (l : Location) : Location :=
  { l with aliases := m.aliasesOf (locationKey l) }

/-- What happens to a store while a client walks through it. -/
inductive WalkEvent where
  /-- Someone puts a record. -/
  | put (record : Put)
  /-- The client reads its next page; the page size counts where no token states one. -/
  | read (defaultPageSize : UInt32)
  deriving DecidableEq, Repr

/-- A walk and the store that it shares with others. -/
structure SharedWalk where
  /-- The store. -/
  store : Memory
  /-- The token of the page to be read; none before the first page. -/
  token : Option String
  /-- The pages that were read. -/
  pages : List (Page Location)

namespace SharedWalk

/-- A walk before its first page. -/
def start (store : Memory) : SharedWalk := { store, token := none, pages := [] }

/-- The locations that were returned. -/
def items (w : SharedWalk) : List Location := w.pages.flatMap (·.items)

/-- The page that a walk reads next. Nothing is counted. -/
def nextPage (filter : Filter) (w : SharedWalk) (defaultPageSize : UInt32) : Except StorageError (Page Location) :=
  Backend.locationsPage w.store filter { token := w.token, defaultPageSize, includeTotal := false }

/-- A walk behind one more page. It goes on with the token of the page behind that. -/
def behind (w : SharedWalk) (p : Page Location) : SharedWalk :=
  { w with token := some p.next, pages := w.pages ++ [p] }

/-- What an event makes of a walk. A put that fails changes nothing. -/
def step (filter : Filter) (w : SharedWalk) : WalkEvent → Except StorageError SharedWalk
  | .put record => .ok { w with store := (Backend.perform w.store (.put record)).2 }
  | .read defaultPageSize => (w.nextPage filter defaultPageSize).map w.behind

/-- What events make of a walk, one after the other. -/
def run (filter : Filter) (w : SharedWalk) (events : List WalkEvent) : Except StorageError SharedWalk :=
  events.foldlM (step filter) w

/-- The last page that was read is empty. -/
def Ended (w : SharedWalk) : Prop := ∃ p, w.pages.getLast? = some p ∧ p.items = []

/-- No location that the filter accepts was put before one that had been returned. -/
def Undisturbed (filter : Filter) (w : SharedWalk) (events : List WalkEvent) : Prop :=
  ∀ earlier l later w', events = earlier ++ .put (.location l) :: later → run filter w earlier = .ok w' →
    (w'.store.putLocation l).isOk = true → filter.acceptsLocation l = true →
      ∀ item ∈ w'.items, ¬locationKey l < locationKey item

end SharedWalk

/-! ## One page -/

/-- A token from which a walk that counts nothing goes on behind so many locations. -/
def StandsAt (token : Option String) (n : Nat) : Prop :=
  (token = none ∧ n = 0) ∨ ∃ c : Cursor, c.Valid ∧ c.total = none ∧ c.offset.toNat = n ∧ token = some c.encode

/-- The cursor of such a token has that place for its offset, and the token stands for it. -/
theorem StandsAt.decode {token : Option String} {n : Nat} (h : StandsAt token n) (size : UInt32) :
    (Cursor.decode token size).offset.toNat = n ∧ (Cursor.decode token size).total = none ∧
      (Cursor.statedToken token).getD (Cursor.decode token size).encode = (Cursor.decode token size).encode := by
  rcases h with ⟨rfl, rfl⟩ | ⟨c, hvalid, htotal, rfl, rfl⟩
  · exact ⟨rfl, rfl, rfl⟩
  · rw [Cursor.decode_encode hvalid, Cursor.statedToken_encode]
    exact ⟨rfl, htotal, rfl⟩

/-- Where a walk that stands at a place goes on behind a page. -/
theorem StandsAt.next {token : Option String} {n k : Nat} {next : String} (h : StandsAt token n) (size : UInt32)
    (hnext : (k = 0 ∧ next = (Cursor.statedToken token).getD (Cursor.decode token size).encode) ∨
      ∃ behind, (Cursor.decode token size).advance? k = some behind ∧ next = behind.encode) :
    StandsAt (some next) (n + k) := by
  obtain ⟨hoffset, htotal, hstated⟩ := h.decode size
  have hvalid := Cursor.decode_valid token size
  rcases hnext with ⟨rfl, rfl⟩ | ⟨behind, hbehind, rfl⟩
  · exact .inr ⟨Cursor.decode token size, hvalid, htotal, hoffset, congrArg some hstated⟩
  · obtain ⟨hend, hunknown, hsize⟩ := Cursor.of_advance? hbehind
    rw [htotal] at hunknown
    refine .inr ⟨behind, ⟨?_, ?_⟩, hunknown, ?_, rfl⟩
    · rw [hsize]
      exact hvalid.pageSize_pos
    · intro total hsome
      rw [hunknown] at hsome
      cases hsome
    · rw [hend, hoffset]

/-- A page of a walk holds some of the locations behind its place, and the walk goes on behind them. -/
theorem locationsPage_ok {m : Memory} (hw : m.WellFormed) (ho : m.Ordered) {filter : Filter} {token : Option String}
    {n : Nat} {defaultPageSize : UInt32} {p : Page Location} (hstands : StandsAt token n)
    (h : Backend.locationsPage m filter { token, defaultPageSize, includeTotal := false } = .ok p) :
    (∃ k, 0 < k ∧ p.items = (((m.matching filter).drop n).take k).map m.withAliases) ∧
      StandsAt (some p.next) (n + p.items.length) := by
  have hgroups : (Listing.ofGroups (m.locationGroups filter) (nodup_locationGroups hw ho filter)).groups =
      (m.matching filter).map fun l => ⟨l, m.aliasesOf (locationKey l)⟩ := by
    rw [Listing.groups_ofGroups, locationGroups, matching]
    exact List.forall_mem_map.mpr fun l _ => (ho.aliasesOf _).nodup
  have hpage := (keeps_locationRows hw ho).page_eq filter { token, defaultPageSize, includeTotal := false }
  simp only [RowSource.countTotal, Bool.and_false, Bool.false_eq_true, if_false, Listing.window, hgroups] at hpage
  rw [Backend.locationsPage, mapError_eq_ok, map_eq_ok] at h
  obtain ⟨q, hq, rfl⟩ := h
  have hpageOf := hpage.symm.trans hq
  have hlength : (q.map Group.assemble).items.length = q.items.length := List.length_map _
  refine ⟨⟨(Cursor.decode token defaultPageSize).pageSize.toNat, ?_, ?_⟩, hstands.next defaultPageSize ?_⟩
  · exact UInt32.lt_iff_toNat_lt.mp (Cursor.decode_valid token defaultPageSize).pageSize_pos
  · rw [Page.map, (RowSource.pageOf_ok hpageOf).1, ← List.map_drop, ← List.map_take, List.map_map,
      (hstands.decode defaultPageSize).1]
    rfl
  · rw [hlength, List.length_eq_zero_iff]
    exact RowSource.pageOf_next hpageOf

/-- Locations are stored without their aliases. -/
theorem withoutAliases_withAliases {m : Memory} (hw : m.WellFormed) {filter : Filter} {l : Location}
    (hl : l ∈ m.matching filter) : (m.withAliases l).withoutAliases = l := by
  obtain ⟨k, hk⟩ := Keyed.mem_values.mp (List.mem_filter.mp hl).1
  have hbare : l.aliases = [] := hw.locationsBare _ hk
  simp [Location.withoutAliases, withAliases, ← hbare]

/-! ## One put -/

/-- A put changes the locations only if it adds one. -/
theorem locations_of_put {m m' : Memory} {record : Put} (h : m.put record = .ok m') :
    m'.locations = m.locations ∨ ∃ l, record = .location l ∧ (m.putLocation l).isOk = true ∧
      m'.locations = m.locations.insert (locationKey l) l.withoutAliases := by
  cases record with
  | office o =>
    obtain ⟨-, rfl⟩ := putOffice_ok h
    exact .inl rfl
  | location l =>
    obtain ⟨-, hstore⟩ := putLocation_ok h
    refine .inr ⟨l, rfl, ?_, ?_⟩
    · have hok : m.putLocation l = .ok m' := h
      rw [hok]
      rfl
    · rw [hstore, addAliases_eq]
  | locationAlias a =>
    obtain ⟨-, rfl⟩ := putLocationAlias_ok h
    rw [addAliases_eq]
    exact .inl rfl
  | ratingTemplate t =>
    obtain ⟨-, -, rfl⟩ := putTemplate_ok h
    exact .inl rfl
  | ratingSpec r =>
    obtain ⟨-, -, rfl⟩ := putSpec_ok h
    exact .inl rfl
  | waterUser u =>
    obtain ⟨-, rfl⟩ := putWaterUser_ok h
    exact .inl rfl

/-- What is accepted behind a put was accepted before, or is what was put. -/
theorem mem_matching_of_put {m m' : Memory} {record : Put} {filter : Filter} {x : Location} (h : m.put record = .ok m')
    (hx : x ∈ m'.matching filter) :
    x ∈ m.matching filter ∨ ∃ l, record = .location l ∧ (m.putLocation l).isOk = true ∧
      filter.acceptsLocation l = true ∧ x = l.withoutAliases := by
  obtain ⟨hvalue, haccepts⟩ := List.mem_filter.mp hx
  rcases locations_of_put h with hsame | ⟨l, rfl, hok, hinsert⟩
  · rw [hsame] at hvalue
    exact .inl (List.mem_filter.mpr ⟨hvalue, haccepts⟩)
  · obtain ⟨k, hk⟩ := Keyed.mem_values.mp (hinsert ▸ hvalue)
    rcases Keyed.mem_insertEntry hk with heq | hold
    · obtain ⟨-, rfl⟩ := Prod.mk.inj heq
      exact .inr ⟨l, rfl, hok, haccepts, rfl⟩
    · exact .inl (List.mem_filter.mpr ⟨Keyed.mem_values.mpr ⟨k, hold⟩, haccepts⟩)

/-- The accepted locations of a store stand in the same order among those of a store that extends it. -/
theorem Extends.matching {m m' : Memory} (h : m.Extends m') (filter : Filter) :
    (m.matching filter).Sublist (m'.matching filter) :=
  (h.locations.map _).filter _

/-- In an ascending list the first elements are those of a part of it, when nothing else comes before the last of them. -/
theorem take_eq_take_of_sublist {α : Type} {key : α → Key} {xs ys : List α} (h : xs.Sublist ys)
    (hascending : ys.Pairwise fun a b => key a < key b) {n : Nat} (hn : n ≤ xs.length)
    (hnew : ∀ y ∈ ys, y ∉ xs → ∀ x ∈ xs.take n, ¬key y < key x) : ys.take n = xs.take n := by
  induction h generalizing n with
  | slnil => rfl
  | @cons xs ys y hsub ih =>
    obtain ⟨hbehind, hascending⟩ := List.pairwise_cons.mp hascending
    cases n with
    | zero => rfl
    | succ n =>
      cases xs with
      | nil => simp at hn
      | cons x xs =>
        have hy : y ∉ x :: xs := fun hmem => List.lt_irrefl _ (hbehind y (hsub.subset hmem))
        exact absurd (hbehind x (hsub.subset List.mem_cons_self)) (hnew y List.mem_cons_self hy x (by simp))
  | @cons_cons xs ys x hsub ih =>
    obtain ⟨hbehind, hascending⟩ := List.pairwise_cons.mp hascending
    cases n with
    | zero => rfl
    | succ n =>
      rw [List.take_succ_cons, List.take_succ_cons, ih hascending (by simpa using hn)]
      intro y hy hnot z hz
      have hne : y ∉ x :: xs := by
        intro hmem
        rcases List.mem_cons.mp hmem with rfl | hmem
        · exact List.lt_irrefl _ (hbehind y hy)
        · exact hnot hmem
      exact hnew y (List.mem_cons_of_mem _ hy) hne z (List.mem_cons_of_mem _ hz)

/-! ## What every event keeps -/

namespace SharedWalk

variable {m : Memory} {filter : Filter} {w w' : SharedWalk}

/-- A location of the store at the start was returned, with at least the aliases that it had there. -/
def Returned (m : Memory) (w : SharedWalk) (l : Location) : Prop :=
  ∃ item ∈ w.items, item.withoutAliases = l ∧ ∀ x ∈ m.aliasesOf (locationKey l), x ∈ item.aliases

/-- What holds of a walk at any time: it stands behind as many locations as it returned, and whatever was there at the start
was returned or is still ahead. -/
structure Covers (m : Memory) (filter : Filter) (w : SharedWalk) : Prop where
  /-- The collections of the store belong together. -/
  wellFormed : w.store.WellFormed
  /-- The collections of the store are in order. -/
  ordered : w.store.Ordered
  /-- Nothing was taken away. -/
  extended : m.Extends w.store
  /-- The walk goes on behind what it returned. -/
  stands : StandsAt w.token w.items.length
  /-- What was not returned is ahead. -/
  ahead : ∀ l ∈ m.matching filter, Returned m w l ∨ l ∈ (w.store.matching filter).drop w.items.length
  /-- Nothing is ahead when a page was empty. -/
  ended : w.Ended → ∀ l ∈ m.matching filter, Returned m w l

/-- Before the first page everything is ahead. -/
theorem covers_start (hw : m.WellFormed) (ho : m.Ordered) : Covers m filter (start m) :=
  { wellFormed := hw
    ordered := ho
    extended := Extends.refl m
    stands := .inl ⟨rfl, rfl⟩
    ahead := fun _ hl => .inr hl
    ended := fun ⟨p, hp, _⟩ => by simp [start] at hp }

/-- A put takes nothing away, so nothing that is ahead comes to stand behind the walk. -/
theorem Covers.put {store : Memory} {record : Put} (h : Covers m filter w) (hput : w.store.put record = .ok store) :
    Covers m filter { w with store } := by
  have hextends := extends_put hput
  refine { h with
    wellFormed := h.wellFormed.put hput
    ordered := h.ordered.put hput
    extended := h.extended.trans hextends
    ahead := fun l hl => ?_ }
  rcases h.ahead l hl with hreturned | hahead
  · exact .inl hreturned
  · exact .inr (((hextends.matching filter).drop w.items.length).subset hahead)

@[simp] theorem store_behind (p : Page Location) : (w.behind p).store = w.store := rfl

/-- A page is added behind the others. -/
theorem pages_behind (p : Page Location) : (w.behind p).pages = w.pages ++ [p] := rfl

/-- Its items are added behind theirs. -/
theorem items_behind (p : Page Location) : (w.behind p).items = w.items ++ p.items := by
  simp [items, behind]

/-- What was returned stays returned. -/
theorem Returned.mono {l : Location} (h : Returned m w l) (hsub : w.items ⊆ w'.items) : Returned m w' l := by
  obtain ⟨item, hitem, hl, haliases⟩ := h
  exact ⟨item, hsub hitem, hl, haliases⟩

/-- A stored location is returned with the aliases that it has by then. -/
theorem Covers.returned_of_mem_page {l : Location} {p : Page Location} (h : Covers m filter w)
    (hl : l ∈ w.store.matching filter) (hp : w.store.withAliases l ∈ p.items) : Returned m (w.behind p) l := by
  refine ⟨w.store.withAliases l, ?_, withoutAliases_withAliases h.wellFormed hl, fun x hx => h.extended.aliases _ x hx⟩
  rw [items_behind]
  exact List.mem_append_right _ hp

/-- A page returns what is ahead up to where the walk goes on. -/
theorem Covers.read {size : UInt32} {p : Page Location} (h : Covers m filter w) (hp : w.nextPage filter size = .ok p) :
    Covers m filter (w.behind p) := by
  obtain ⟨⟨k, hk, hitems⟩, hstands⟩ := locationsPage_ok h.wellFormed h.ordered h.stands hp
  have hahead : ∀ l ∈ m.matching filter, Returned m (w.behind p) l ∨
      l ∈ ((w.store.matching filter).drop w.items.length).drop k := by
    intro l hl
    rcases h.ahead l hl with hreturned | hmem
    · exact .inl (hreturned.mono (by rw [items_behind]; exact List.subset_append_left _ _))
    · rw [← List.take_append_drop k ((w.store.matching filter).drop w.items.length), List.mem_append] at hmem
      rcases hmem with hmem | hmem
      · refine .inl (h.returned_of_mem_page (List.mem_of_mem_drop (List.mem_of_mem_take hmem)) ?_)
        rw [hitems]
        exact List.mem_map_of_mem hmem
      · exact .inr hmem
  refine { h with stands := ?_, ahead := ?_, ended := ?_ }
  · rwa [items_behind, List.length_append]
  · intro l hl
    refine (hahead l hl).imp_right fun hmem => ?_
    have hlength : p.items.length = min k ((w.store.matching filter).drop w.items.length).length := by
      rw [hitems, List.length_map, List.length_take]
    rwa [items_behind, store_behind, List.length_append, hlength, ← List.drop_drop, ← List.drop_eq_drop_min]
  · rintro ⟨q, hq, hempty⟩ l hl
    rw [pages_behind, List.getLast?_concat, Option.some.injEq] at hq
    subst hq
    have hnone : (w.store.matching filter).drop w.items.length = [] := by
      rw [hitems, List.map_eq_nil_iff, List.take_eq_nil_iff] at hempty
      exact hempty.resolve_left (by omega)
    refine (hahead l hl).resolve_right fun hmem => ?_
    simp [hnone] at hmem

/-- The locations that were returned are the first that the filter accepts, each once and in order. -/
def InOrder (filter : Filter) (w : SharedWalk) : Prop :=
  w.items.map Location.withoutAliases = (w.store.matching filter).take w.items.length

/-- The accepted locations ascend by their keys. -/
theorem Covers.ascending (h : Covers m filter w) :
    (w.store.matching filter).Pairwise fun a b => locationKey a < locationKey b :=
  (h.ordered.locations.values h.wellFormed.locationKeys).filter _

/-- A put behind what was returned leaves it the first that the filter accepts. -/
theorem InOrder.put {store : Memory} {record : Put} (h : InOrder filter w) (hcovers : Covers m filter w)
    (hput : w.store.put record = .ok store)
    (hbehind : ∀ l, record = .location l → (w.store.putLocation l).isOk = true → filter.acceptsLocation l = true →
      ∀ item ∈ w.items, ¬locationKey l < locationKey item) : InOrder filter { w with store } := by
  have hlength : w.items.length ≤ (w.store.matching filter).length := by
    have := congrArg List.length h
    rw [List.length_map, List.length_take] at this
    omega
  have htake : (store.matching filter).take w.items.length = (w.store.matching filter).take w.items.length := by
    refine take_eq_take_of_sublist ((extends_put hput).matching filter) (hcovers.put hput).ascending hlength ?_
    intro y hy hnew x hx hlt
    rcases mem_matching_of_put hput hy with hold | ⟨l, rfl, hok, haccepts, rfl⟩
    · exact hnew hold
    · rw [← h] at hx
      obtain ⟨item, hitem, rfl⟩ := List.mem_map.mp hx
      exact hbehind l rfl hok haccepts item hitem hlt
  exact h.trans htake.symm

/-- A page goes on with the next that the filter accepts. -/
theorem InOrder.read {size : UInt32} {p : Page Location} (h : InOrder filter w) (hcovers : Covers m filter w)
    (hp : w.nextPage filter size = .ok p) : InOrder filter (w.behind p) := by
  obtain ⟨⟨k, hk, hitems⟩, -⟩ := locationsPage_ok hcovers.wellFormed hcovers.ordered hcovers.stands hp
  have hbare : p.items.map Location.withoutAliases = ((w.store.matching filter).drop w.items.length).take k := by
    rw [hitems, List.map_map]
    refine (List.map_congr_left fun l hl => ?_).trans (List.map_id _)
    exact withoutAliases_withAliases hcovers.wellFormed (List.mem_of_mem_drop (List.mem_of_mem_take hl))
  have hlength : p.items.length = min k ((w.store.matching filter).drop w.items.length).length := by
    rw [hitems, List.length_map, List.length_take]
  rw [InOrder, items_behind, store_behind, List.map_append, h, hbare, List.length_append, List.take_add, hlength,
    ← List.take_eq_take_min]

/-! ## What a whole walk keeps -/

/-- A run with one more event is the run and then the event. -/
theorem run_concat (events : List WalkEvent) (event : WalkEvent) :
    run filter w (events ++ [event]) = run filter w events >>= fun w' => step filter w' event := by
  simp [run, List.foldlM_append]

/-- An event is a put that succeeds or fails, or the reading of a page. -/
theorem step_cases {event : WalkEvent} (h : step filter w event = .ok w') :
    (∃ record store, event = .put record ∧ w.store.put record = .ok store ∧ w' = { w with store }) ∨
      (∃ record, event = .put record ∧ w' = w) ∨
      ∃ size p, event = .read size ∧ w.nextPage filter size = .ok p ∧ w' = w.behind p := by
  cases event with
  | put record =>
    cases h
    rcases Backend.perform_snd w.store (.put record) with hsame | ⟨record', store, heq, hput, hstore⟩
    · exact .inr (.inl ⟨record, rfl, by rw [hsame]⟩)
    · cases heq
      exact .inl ⟨record, store, rfl, hput, by rw [hstore]⟩
  | read size =>
    obtain ⟨p, hp, rfl⟩ := map_eq_ok.mp h
    exact .inr (.inr ⟨size, p, rfl, hp, rfl⟩)

/-- What was there at the start is returned or ahead throughout, by induction on the events. -/
theorem covers_run (hw : m.WellFormed) (ho : m.Ordered) {events : List WalkEvent}
    (hrun : run filter (start m) events = .ok w) : Covers m filter w := by
  induction events using List.reverseRecOn generalizing w with
  | nil =>
    cases hrun
    exact covers_start hw ho
  | append_singleton events event ih =>
    rw [run_concat, bind_eq_ok] at hrun
    obtain ⟨w', hrun, hstep⟩ := hrun
    have hcovers := ih hrun
    rcases step_cases hstep with ⟨record, store, rfl, hput, rfl⟩ | ⟨record, rfl, rfl⟩ | ⟨size, p, rfl, hp, rfl⟩
    · exact hcovers.put hput
    · exact hcovers
    · exact hcovers.read hp

/-- A walk that is undisturbed to its end was undisturbed before its last event. -/
theorem Undisturbed.of_concat {events : List WalkEvent} {event : WalkEvent}
    (h : Undisturbed filter w (events ++ [event])) : Undisturbed filter w events := by
  intro earlier l later w' hevents
  exact h earlier l (later ++ [event]) w' (by rw [hevents, List.append_assoc, List.cons_append])

/-- A whole walk that is undisturbed returns its items in their order. -/
theorem inOrder_run (hw : m.WellFormed) (ho : m.Ordered) {events : List WalkEvent}
    (hrun : run filter (start m) events = .ok w) (hundisturbed : Undisturbed filter (start m) events) :
    InOrder filter w := by
  induction events using List.reverseRecOn generalizing w with
  | nil =>
    cases hrun
    rfl
  | append_singleton events event ih =>
    rw [run_concat, bind_eq_ok] at hrun
    obtain ⟨w', hrun, hstep⟩ := hrun
    have hcovers := covers_run hw ho hrun
    have horder := ih hrun hundisturbed.of_concat
    rcases step_cases hstep with ⟨record, store, rfl, hput, rfl⟩ | ⟨record, rfl, rfl⟩ | ⟨size, p, rfl, hp, rfl⟩
    · refine horder.put hcovers hput ?_
      rintro l rfl
      exact hundisturbed events l [] w' rfl hrun
    · exact horder
    · exact horder.read hcovers hp

/-- A client walks through the locations that a filter accepts, over a store that any operations led to by its first page,
while others put records between its pages. If the walk ends at an empty page, every location that was accepted at its start
was returned, with at least the aliases that it had. If no accepted location was put before one that had been returned, none
was returned twice. -/
theorem walk_among_puts (operations : List Operation) (filter : Filter) (events : List WalkEvent) {w : SharedWalk}
    (hrun : run filter (start (Backend.performAll (Backend.empty : Memory) operations).2) events = .ok w) :
    let m := (Backend.performAll (Backend.empty : Memory) operations).2
    (w.Ended → ∀ l ∈ m.matching filter, ∃ item ∈ w.items, item.withoutAliases = l ∧
        ∀ x ∈ m.aliasesOf (locationKey l), x ∈ item.aliases) ∧
      (Undisturbed filter (start m) events → (w.items.map locationKey).Nodup) := by
  intro m
  obtain ⟨hw, ho⟩ := wellFormed_performAll operations
  have hcovers := covers_run hw ho hrun
  refine ⟨hcovers.ended, fun hundisturbed => ?_⟩
  have horder := congrArg (List.map locationKey) (inOrder_run hw ho hrun hundisturbed)
  have hkeys : (w.items.map Location.withoutAliases).map locationKey = w.items.map locationKey := by
    rw [List.map_map]
    rfl
  rw [← hkeys, horder]
  exact Keyed.nodup_map_of_ascending (hcovers.ascending.sublist (List.take_sublist _ _)) fun _ _ h => h

/-- A location of which only the office and the name are of interest. -/
def site (name : String) : Location := { (default : Location) with officeId := "SWT", name }

/-- Two locations are there, and one between them is put behind the first page. -/
def putBehindFirstPage : List WalkEvent :=
  [.read 1, .put (.location (site "FOSS")), .read 1, .read 1, .read 1]

/-- The filter that accepts every location. -/
def anyLocation : Filter := { office := none, mask := none }

/-- All three are returned, each once. -/
theorem walk_among_puts_behindFirstPage :
    let m := (Backend.performAll (Backend.empty : Memory) [.put (.location (site "KEYS")), .put (.location (site "ALTU"))]).2
    ∃ w, run anyLocation (start m) putBehindFirstPage = .ok w ∧ w.Ended ∧
      Undisturbed anyLocation (start m) putBehindFirstPage ∧ (∃ item ∈ w.items, item.withoutAliases = site "KEYS") ∧
      (w.items.map locationKey).Nodup := by
  intro m
  have hpages : (run anyLocation (start m) putBehindFirstPage).toOption.map (fun w => w.pages.map (·.items)) =
      some [[site "ALTU"], [site "FOSS"], [site "KEYS"], []] := by
    decide +kernel
  have hfirst : (run anyLocation (start m) [.read 1]).toOption.map items = some [site "ALTU"] := by
    decide +kernel
  have hundisturbed : Undisturbed anyLocation (start m) putBehindFirstPage := by
    intro earlier l later w' hevents hrun _ _ item hitem
    rcases earlier with _ | ⟨first, _ | ⟨second, rest⟩⟩
    · simp [putBehindFirstPage] at hevents
    · simp only [putBehindFirstPage, List.cons_append, List.nil_append, List.cons.injEq, WalkEvent.put.injEq,
        Put.location.injEq] at hevents
      obtain ⟨rfl, rfl, -⟩ := hevents
      rw [hrun] at hfirst
      rw [Option.some.inj hfirst, List.mem_singleton] at hitem
      subst hitem
      decide +kernel
    · have hput : WalkEvent.put (.location l) ∈ [WalkEvent.read 1, .read 1, .read 1] := by
        simp only [putBehindFirstPage, List.cons_append, List.cons.injEq] at hevents
        rw [hevents.2.2]
        simp
      simp at hput
  cases hrun : run anyLocation (start m) putBehindFirstPage with
  | error e => simp [hrun, Except.toOption] at hpages
  | ok w =>
    rw [hrun] at hpages
    have hpages : w.pages.map (·.items) = _ := Option.some.inj hpages
    have hended : w.Ended := by
      have hlast := congrArg List.getLast? hpages
      rw [List.getLast?_map] at hlast
      obtain ⟨p, hp, hempty⟩ := Option.map_eq_some_iff.mp hlast
      exact ⟨p, hp, hempty⟩
    obtain ⟨hall, honce⟩ := walk_among_puts _ anyLocation putBehindFirstPage hrun
    obtain ⟨item, hitem, hkeys, -⟩ := hall hended (site "KEYS") (by decide +kernel)
    exact ⟨w, rfl, hended, hundisturbed, ⟨item, hitem, hkeys⟩, honce hundisturbed⟩

end SharedWalk

end BasinRegister.Memory
