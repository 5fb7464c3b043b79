import BasinRegister.Proofs.Grouping.AnyOrder
import BasinRegister.Proofs.Paging.Window

/-!
# Pages of rows in any order

What a page takes of the rows of a source does not depend on the order in which the source promises them: a row is taken or
turned down by the groups that are open at that moment. The rows that are taken are the longest run from the first row on with
no more keys than the page holds parents (`RowSource.fill_empty`), and the page is made of the groups of that run
(`RowSource.read_longest`).
-/

namespace BasinRegister

section

variable {π γ κ : Type} [GroupKey π κ] [DecidableEq κ]

/-- The number of different keys of rows. -/
def countKeys (rows : List (JoinRow π γ)) : Nat := (keysOf rows).eraseDups.length

/-- The longest run of rows from the first one on that has at most so many different keys. -/
structure LongestRun (size : Nat) (rows run : List (JoinRow π γ)) : Prop where
  /-- It is a run from the first row on. -/
  starts : run <+: rows
  /-- It has no more keys than that. -/
  fits : countKeys run ≤ size
  /-- Any other such run is a part of it. -/
  longest : ∀ other, other <+: rows → countKeys other ≤ size → other <+: run

/-- A grouper that was given rows has one group for each of their keys. -/
theorem RowGrouper.size_pushAll_empty [DecidableEq γ] (rows : List (JoinRow π γ)) :
    (RowGrouper.empty.pushAll rows).size = countKeys rows := by
  rw [← RowGrouper.length_keys, (RowGrouper.holds_pushAll rows).keys, countKeys]

end

namespace RowSource

variable {φ π γ ε κ : Type} [GroupKey π κ] [DecidableEq κ] [DecidableEq γ]

/-- A page takes of rows the longest run with no more keys than it holds parents. -/
theorem fill_empty (size : Nat) (rows : List (JoinRow π γ)) :
    ∃ taken rest, rows = taken ++ rest ∧ LongestRun size rows taken ∧
      fill size RowGrouper.empty rows = ⟨⟨groupRows taken⟩, taken.length + (rest.take 1).length, !rest.isEmpty⟩ := by
  obtain ⟨taken, rest, hrows, hfits, hlongest, hfill⟩ := fill_eq size RowGrouper.empty rows (Nat.zero_le size)
  simp only [RowGrouper.size_pushAll_empty] at hfits hlongest
  exact ⟨taken, rest, hrows, ⟨⟨rest, hrows.symm⟩, hfits, hlongest⟩, hfill⟩

/-- Whatever rows a source hands out, a page takes the longest run from the first one on with no more keys than it holds parents.
It turns down the row behind that run, if there is one, and asks for none after it, so that at most one row behind the page is
handed out. The items of the page are the groups of that run, of which there are no more than it holds. There is no page only
where the offset behind it leaves 64 bits, or where the source fails behind all its rows and none of them was turned down. -/
theorem read_longest {source : RowSource φ π γ ε} {filter : φ} {request : PageRequest} {cursor : Cursor}
    (hcount : (source.countTotal filter request (Cursor.decode request.token request.defaultPageSize)).1 = .ok cursor) :
    let stream := source.scan filter cursor.offset cursor.pageSize
    let size := cursor.pageSize.toNat
    let reading := source.read filter request
    ∃ taken rest, stream.rows = taken ++ rest ∧ LongestRun size stream.rows taken ∧
      fill size RowGrouper.empty stream.rows = ⟨⟨groupRows taken⟩, reading.pulled, !rest.isEmpty⟩ ∧
      reading.pulled = taken.length + (rest.take 1).length ∧
      (groupRows taken).length ≤ size ∧
      (∀ page, reading.outcome = .ok page → page.items = groupRows taken) ∧
      ∀ failure, reading.outcome = .error failure →
        (failure = .offsetOverflow ∧ UInt64.size ≤ cursor.offset.toNat + (groupRows taken).length) ∨
          (rest = [] ∧ ∃ e, stream.failure = some e ∧ failure = .source e) := by
  intro stream size reading
  obtain ⟨taken, rest, hrows, hlongest, hfill⟩ := fill_empty size stream.rows
  have hpulled : reading.pulled = taken.length + (rest.take 1).length := by
    simp only [reading, read, hcount]
    exact congrArg PageFill.pulled hfill
  have houtcome : reading.outcome = pageOf request cursor (groupRows taken) ∨
      (rest = [] ∧ ∃ e, stream.failure = some e ∧ reading.outcome = .error (.source e)) := by
    simp only [reading, read, hcount]
    rw [hfill]
    cases rest with
    | cons row rest => exact .inl rfl
    | nil =>
      cases hfailure : stream.failure with
      | none => exact .inl rfl
      | some e => exact .inr ⟨rfl, e, rfl, rfl⟩
  have hsize : (groupRows taken).length = countKeys taken := RowGrouper.size_pushAll_empty taken
  refine ⟨taken, rest, hrows, hlongest, by rw [hpulled, hfill], hpulled, by rw [hsize]; exact hlongest.fits, ?_, ?_⟩
  · intro page hpage
    rcases houtcome with houtcome | ⟨-, e, -, houtcome⟩
    · exact (pageOf_ok (houtcome.symm.trans hpage)).1
    · rw [houtcome] at hpage
      cases hpage
  · intro failure hfailure
    rcases houtcome with houtcome | ⟨hrest, e, he, houtcome⟩
    · exact .inl (pageOf_error (houtcome.symm.trans hfailure))
    · rw [houtcome] at hfailure
      cases hfailure
      exact .inr ⟨hrest, e, he, rfl⟩

/-- Rows of three parents that do not stand together: the first parent comes again behind the second and behind the third. -/
def scatteredRows : RowSource Unit String Nat String :=
  { scan := fun _ _ _ => ⟨[⟨"a", some 1⟩, ⟨"b", none⟩, ⟨"a", some 2⟩, ⟨"c", some 3⟩, ⟨"a", some 4⟩], some "lost"⟩
    count := fun _ => .ok 3 }

/-- A page of two parents is full behind two rows and takes the third one all the same; it turns down the fourth, and so does not
come to the failure behind the fifth. -/
theorem read_longest_scattered :
    let request : PageRequest := { token := none, defaultPageSize := 2, includeTotal := false }
    (scatteredRows.countTotal () request (Cursor.decode none 2)).1 = .ok ⟨0, none, 2⟩ ∧
    (scatteredRows.read () request).pulled = 4 ∧
    ∃ page, scatteredRows.page () request = .ok page ∧ page.items = [⟨"a", [1, 2]⟩, ⟨"b", []⟩] := by
  intro request
  have hcount : (scatteredRows.countTotal () request (Cursor.decode none 2)).1 = .ok ⟨0, none, 2⟩ := rfl
  obtain ⟨taken, rest, hrows, -, hfill, hpulled, -, hitems, -⟩ := read_longest hcount
  have hgroups : groupRows taken = [⟨"a", [1, 2]⟩, ⟨"b", []⟩] := by
    have hfilled := congrArg (fun filled => filled.grouper.groups) hfill
    exact hfilled.symm.trans (by decide)
  refine ⟨hcount, ?_, _, rfl, ?_⟩
  · exact (congrArg PageFill.pulled hfill).symm.trans (by decide)
  · rw [hitems _ rfl, hgroups]

end RowSource

end BasinRegister
