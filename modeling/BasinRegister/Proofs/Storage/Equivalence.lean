import BasinRegister.Proofs.Storage.SameAnswers

/-!
# Both stores answer alike

A run of operations gets the same answers from a store in memory and from a relational store, step by step, when both are
empty in the beginning; only the texts of conflicts may differ. The run has to be comparable (`Comparable`): its records are
kept as they are, its names and masks have no line feeds and NULs, and no two offices and no two water users have names that
are equal up to case. That is not enough for names and masks with noncharacters: the `LIKE` operator reads two of them as the
replacement character, so a mask with one selects a name with the other.

The induction carries `SameRecords` through the run: stores with the same records answer an operation alike and have the same
records behind it (`Backend.perform_alike`).
-/

namespace BasinRegister

/-! ## What is compared -/

/-- An operation whose data both stores keep and read as they are. -/
def Operation.Comparable : Operation → Prop
  | .put record => record.Comparable
  | .locationsPage filter _ => filter.Comparable
  | .templatesPage filter _ => filter.Comparable
  | _ => True

/-- An operation whose names and masks hold no noncharacter that the `LIKE` operator replaces. -/
def Operation.Kept : Operation → Prop
  | .put record => record.Kept
  | .locationsPage filter _ => filter.Kept
  | .templatesPage filter _ => filter.Kept
  | _ => True

/-- A store in which no two offices and no two water users are the same up to case, with no more locations and templates than
a table has room for, which are as many as a query can skip. -/
structure Memory.Comparable (m : Memory) : Prop where
  /-- Offices whose names are equal up to case have the same name. -/
  offices : ∀ a ∈ m.offices.values, ∀ b ∈ m.offices.values, Text.sameFolded a.name b.name = true → a.name = b.name
  /-- Water users whose keys are equal up to case have the same key. -/
  waterUsers : ∀ a ∈ m.waterUsers.values, ∀ b ∈ m.waterUsers.values,
    List.Forall₂ (fun x y => Text.sameFolded x y = true) (Memory.waterUserKey a) (Memory.waterUserKey b) →
      Memory.waterUserKey a = Memory.waterUserKey b
  /-- The locations fit a table. -/
  locationsFit : m.locations.values.length ≤ Relational.greatestOffset
  /-- The templates fit a table. -/
  templatesFit : m.templates.values.length ≤ Relational.greatestOffset

/-- Operations whose answers are compared: each has data that both stores keep and read alike, and what they store can be
told apart. -/
structure Comparable (operations : List Operation) : Prop where
  /-- Each operation has such data. -/
  each : ∀ operation ∈ operations, operation.Comparable
  /-- What is stored can be told apart. -/
  store : (Backend.performAll (Backend.empty : Memory) operations).2.Comparable

/-- Answers that are the same up to the texts of conflicts. -/
inductive Answer.Alike : Answer → Answer → Prop where
  /-- The same answer. -/
  | same (a : Answer) : Alike a a
  /-- Two failures of the same variant. -/
  | failed {e e' : StorageError} : e.Alike e' → Alike (.failed e) (.failed e')

/-! ## One operation -/

/-- What can be told apart in a store can be told apart in one that it extends. -/
theorem Memory.Comparable.of_extends {m m' : Memory} (h : m'.Comparable) (hle : m.Extends m') : m.Comparable := by
  have hoffices := (hle.offices.map Prod.snd).subset
  have hwaterUsers := (hle.waterUsers.map Prod.snd).subset
  constructor
  · exact fun a ha b hb => h.offices a (hoffices ha) b (hoffices hb)
  · exact fun a ha b hb => h.waterUsers a (hwaterUsers ha) b (hwaterUsers hb)
  · exact Nat.le_trans (hle.locations.map Prod.snd).length_le h.locationsFit
  · exact Nat.le_trans (hle.templates.map Prod.snd).length_le h.templatesFit

namespace Backend

variable {m : Memory} {r : Relational}

/-- Stores with the same records answer alike to an operation that only reads. -/
theorem read_eq (h : SameRecords m r) (hw : m.WellFormed) (ho : m.Ordered) (hm : m.Comparable) {operation : Operation}
    (hoperation : operation.Comparable) (hkept : operation.Kept) : read m operation = read r operation := by
  cases operation with
  | put record => rfl
  | offices => exact congrArg Answer.offices (h.allOffices_eq hw ho).symm
  | office name => exact congrArg Answer.office (h.office?_eq hw ho hm.offices name)
  | location office name => exact congrArg (Answer.ofResult Answer.location) (h.location?_eq hw ho office name)
  | template office id => exact congrArg (Answer.ofResult Answer.template) (h.template?_eq hw ho office id)
  | waterUser office project name =>
    exact congrArg Answer.waterUser (h.waterUser?_eq hw ho hm.waterUsers office project name)
  | locationsPage filter request =>
    have hpage : (locationRows m).page filter request = (locationRows r).page filter request :=
      h.locationRows_page_eq hw ho hoperation hkept hm.locationsFit request
    rw [read, read, locationsPage, locationsPage, hpage]
  | templatesPage filter request =>
    have hpage : (templateRows m).page filter request = (templateRows r).page filter request :=
      h.templateRows_page_eq hw ho hoperation hkept hm.templatesFit request
    rw [read, read, templatesPage, templatesPage, hpage]

/-- Stores with the same records answer an operation alike and have the same records behind it. -/
theorem perform_alike (h : SameRecords m r) (hw : m.WellFormed) (ho : m.Ordered) (hm : m.Comparable)
    {operation : Operation} (hoperation : operation.Comparable) (hkept : operation.Kept) :
    Answer.Alike (perform m operation).1 (perform r operation).1 ∧
      SameRecords (perform m operation).2 (perform r operation).2 := by
  cases operation with
  | put record =>
    have hput : SamePut (put m record) (put r record) := h.put hw hoperation hkept
    rw [perform, perform]
    generalize put m record = taken, put r record = taken' at hput
    cases hput with
    | ok hsame => exact ⟨Answer.Alike.same _, hsame⟩
    | error halike => exact ⟨Answer.Alike.failed halike, h⟩
  | _ =>
    refine ⟨?_, h⟩
    have hread := read_eq h hw ho hm hoperation hkept
    rw [perform, perform, hread]
    · exact Answer.Alike.same _
    all_goals simp

/-! ## Runs -/

/-- Stores with the same records answer a run alike. -/
theorem performAll_alike_of_sameRecords (operations : List Operation) (h : SameRecords m r) (hw : m.WellFormed)
    (ho : m.Ordered) (hstore : (performAll m operations).2.Comparable)
    (heach : ∀ operation ∈ operations, operation.Comparable ∧ operation.Kept) :
    List.Forall₂ Answer.Alike (performAll m operations).1 (performAll r operations).1 := by
  induction operations generalizing m r with
  | nil => exact List.Forall₂.nil
  | cons operation operations ih =>
    -- nothing is taken away, so what can be told apart in the end can be told apart now
    have hm : m.Comparable := hstore.of_extends (Memory.extends_performAll m (operation :: operations))
    obtain ⟨hoperation, hkept⟩ := heach operation List.mem_cons_self
    obtain ⟨halike, hsame⟩ := perform_alike h hw ho hm hoperation hkept
    have hw' : (perform m operation).2.WellFormed :=
      performAll_keeps (P := Memory.WellFormed) (fun _ _ _ hs hput => hs.put hput) [operation] m hw
    have ho' : (perform m operation).2.Ordered :=
      performAll_keeps (P := Memory.Ordered) (fun _ _ _ hs hput => hs.put hput) [operation] m ho
    rw [performAll_cons, performAll_cons]
    exact List.Forall₂.cons halike
      (ih hsame hw' ho' hstore fun next hnext => heach next (List.mem_cons_of_mem operation hnext))

/-- Two empty stores give the same answers to the same operations, one after the other, up to the texts of conflicts. -/
theorem performAll_alike {operations : List Operation} (h : Comparable operations)
    (hkept : ∀ operation ∈ operations, operation.Kept) :
    List.Forall₂ Answer.Alike (performAll (empty : Memory) operations).1 (performAll (empty : Relational) operations).1 :=
  performAll_alike_of_sameRecords operations sameRecords_empty Memory.wellFormed_empty Memory.ordered_empty h.store
    fun operation hoperation => ⟨h.each operation hoperation, hkept operation hoperation⟩

/-- A run in which both stores take records, refuse one with texts of their own, and are asked by name and by mask. -/
def ratingPutTwice : List Operation :=
  let template : RatingTemplate :=
    { officeId := "SWT", id := "Stage;Flow", version := "Linear", description := none, dependentParameter := "Flow"
      specs := [⟨"Stage", "LINEAR", "ERROR", "NEAREST"⟩], ratingIds := [] }
  let rating : RatingSpec :=
    { officeId := "SWT", ratingId := "KEYS.Stage;Flow", templateId := "Stage;Flow", aliasedItem := none }
  let location : Location :=
    { (default : Location) with officeId := "SWT", name := "KEYS", latitude := some ⟨1⟩, aliases := ["Keystone"] }
  [.put (.office { name := "SWT", longName := "Tulsa District", officeType := "DIS", reportsTo := none }),
    .put (.location location), .put (.ratingTemplate template), .put (.ratingSpec rating), .put (.ratingSpec rating),
    .template none "stage;flow",
    .locationsPage { office := some "swt", mask := some ⟨"k*"⟩ }
      { token := none, defaultPageSize := 20, includeTotal := true }]

theorem comparable_ratingPutTwice : Comparable ratingPutTwice := by
  have hoffices : ∀ a ∈ (performAll (empty : Memory) ratingPutTwice).2.offices.values,
      ∀ b ∈ (performAll (empty : Memory) ratingPutTwice).2.offices.values,
        Text.sameFolded a.name b.name = true → a.name = b.name := by
    decide +kernel
  have hwaterUsers : (performAll (empty : Memory) ratingPutTwice).2.waterUsers.values = [] := rfl
  refine ⟨?_, hoffices, ?_, by decide +kernel, by decide +kernel⟩
  · simp only [ratingPutTwice, List.forall_mem_cons]
    refine ⟨trivial, ⟨⟨by decide, by decide⟩, ?_⟩, ⟨⟨by decide, by decide⟩, ?_⟩, trivial, trivial, trivial, ?_, by simp⟩
    · rintro x (hx | hx) <;> cases hx
      decide
    · intro s hs
      rw [List.mem_singleton.mp hs]
      exact ⟨by decide, by decide⟩
    · intro mask hmask
      cases hmask
      exact ⟨⟨by decide, by decide⟩, by decide⟩
  · rw [hwaterUsers]
    simp

/-- Both stores answer that run alike. -/
theorem performAll_alike_ratingPutTwice :
    Comparable ratingPutTwice ∧ (∀ operation ∈ ratingPutTwice, operation.Kept) ∧
      List.Forall₂ Answer.Alike (performAll (empty : Memory) ratingPutTwice).1
        (performAll (empty : Relational) ratingPutTwice).1 := by
  have hkept : ∀ operation ∈ ratingPutTwice, operation.Kept := by
    simp only [ratingPutTwice, List.forall_mem_cons]
    refine ⟨trivial, ⟨by decide, by decide⟩, ⟨by decide, by decide⟩, trivial, trivial, trivial, ?_, by simp⟩
    intro mask hmask
    cases hmask
    exact ⟨by decide, by decide⟩
  exact ⟨comparable_ratingPutTwice, hkept, performAll_alike comparable_ratingPutTwice hkept⟩

/-! ## Noncharacters -/

/-- A location whose name is one noncharacter. -/
def noncharacterLocation : Location := { (default : Location) with officeId := "S", name := "\uFFFF", active := true }

/-- A filter with the other noncharacter for its mask. -/
def noncharacterFilter : Filter := { office := none, mask := some ⟨"\uFFFE"⟩ }

/-- A request for the first page, with its total. -/
def firstPage : PageRequest := { token := none, defaultPageSize := 20, includeTotal := true }

/-- The location is put and then listed by the filter. -/
def noncharacterRun : List Operation := [.put (.location noncharacterLocation), .locationsPage noncharacterFilter firstPage]

/-- The relational store with the location. -/
def noncharacterStore : Relational := { Relational.empty with locations := [noncharacterLocation] }

/-- The filter selects the location in the relational store. -/
theorem page_noncharacter :
    noncharacterStore.locationRows.page noncharacterFilter firstPage =
      .ok ⟨[⟨noncharacterLocation, []⟩], ⟨0, some 1, 20⟩, "0|1|20", "1|1|20"⟩ := by
  have hselect : Relational.select (fun l : Location => l.officeId) (fun l => l.name) noncharacterFilter
      noncharacterStore.locations = .ok [noncharacterLocation] := by
    decide +kernel
  have hscan : noncharacterStore.locationRows.scan noncharacterFilter 0 20 = ⟨[⟨noncharacterLocation, none⟩], none⟩ := by
    simp only [Relational.locationRows, Relational.source, hselect, Relational.orderBy, List.mergeSort_singleton]
    simp [noncharacterStore, Relational.window, Relational.join, Relational.aliasesOf, Relational.empty,
      Relational.orderBy, Relational.readRows]
  have hcount : noncharacterStore.locationRows.count noncharacterFilter = .ok 1 := Relational.count_source hselect
  have hdecode : Cursor.decode firstPage.token firstPage.defaultPageSize = ⟨0, none, 20⟩ := by decide
  have hcursor : noncharacterStore.locationRows.countTotal noncharacterFilter firstPage ⟨0, none, 20⟩ =
      (.ok ⟨0, some 1, 20⟩, 1) := by
    rw [RowSource.countTotal, hcount]
    rfl
  unfold RowSource.page RowSource.read
  simp only [hdecode, hcursor, hscan]
  decide +kernel

/-- The run is comparable, but the store in memory lists nothing and the relational store lists the location. -/
theorem not_alike_of_noncharacter :
    Comparable noncharacterRun ∧
      ¬List.Forall₂ Answer.Alike (performAll (empty : Memory) noncharacterRun).1
        (performAll (empty : Relational) noncharacterRun).1 := by
  have hmemory : (performAll (empty : Memory) noncharacterRun).1 =
      [.stored, .locations ⟨[], ⟨0, some 0, 20⟩, "0|0|20", "0|0|20"⟩] := by
    decide +kernel
  have hrelational : (performAll (empty : Relational) noncharacterRun).1 =
      [.stored, .locations ⟨[noncharacterLocation], ⟨0, some 1, 20⟩, "0|1|20", "1|1|20"⟩] := by
    have hpage : locationsPage noncharacterStore noncharacterFilter firstPage =
        .ok ⟨[noncharacterLocation], ⟨0, some 1, 20⟩, "0|1|20", "1|1|20"⟩ := by
      have hrows : (locationRows noncharacterStore).page noncharacterFilter firstPage = _ := page_noncharacter
      rw [locationsPage, hrows]
      rfl
    exact congrArg (fun page => [Answer.stored, Answer.ofResult Answer.locations page]) hpage
  have hoffices : (performAll (empty : Memory) noncharacterRun).2.offices.values = [] := rfl
  have hwaterUsers : (performAll (empty : Memory) noncharacterRun).2.waterUsers.values = [] := rfl
  refine ⟨⟨?_, ?_, ?_, by decide +kernel, by decide +kernel⟩, ?_⟩
  · simp only [noncharacterRun, List.forall_mem_cons]
    refine ⟨⟨⟨by decide, by decide⟩, ?_⟩, ?_, by simp⟩
    · rintro x (hx | hx) <;> cases hx
    · intro mask hmask
      cases hmask
      exact ⟨⟨by decide, by decide⟩, by decide⟩
  · rw [hoffices]
    simp
  · rw [hwaterUsers]
    simp
  · rw [hmemory, hrelational]
    rintro (_ | ⟨-, _ | ⟨halike, -⟩⟩)
    cases halike

end Backend

end BasinRegister
