import BasinRegister.Record.Entity
import BasinRegister.Proofs.Json.Fields

/-!
# Records that come back

A record is read back from its object (`Entity.ofJson_toJson`): the names that it is written under are the names that it is read
by, what was left out is read as missing, and what has a value of its own when it is left out is always written. The object holds
nothing that a faithful reader of documents may lose (`Entity.kept_toJson`).
-/

namespace BasinRegister

open Json
open Number (Double)

variable {isExact : Double → Prop}

/-! ## Objects -/

/-- A spec is read back from its object. -/
theorem ParameterSpec.ofJson_toJson (s : ParameterSpec) : ofJson s.toJson = some s := by
  rw [ofJson, toJson, slots?_object [some (.text s.parameter), some (.text s.inRangeMethod),
    some (.text s.outRangeLowMethod), some (.text s.outRangeHighMethod)] (by simp)]
  simp

/-- So is an office. -/
theorem Office.ofJson_toJson (o : Office) : ofJson o.toJson = some o := by
  rw [ofJson, toJson, slots?_object [some (.text o.name), some (.text o.longName), some (.text o.officeType),
    o.reportsTo.map .text] (by simp)]
  simp

/-- A coordinate that is finite is read as it was written. -/
theorem optional_readDouble {x? : Option Double} (h : ∀ x ∈ x?, x.isFinite = true) :
    Slot.optional readDouble (Slot.ofOption (x?.map ofDouble)) = some x? := by
  refine optional_ofOption fun x hx => ?_
  rw [ofDouble_eq_real (h x hx)]
  exact ⟨rfl, Json.noConfusion⟩

/-- So is a location whose coordinates are finite; others are written as `null`. -/
theorem Location.ofJson_toJson {l : Location} (hlatitude : ∀ x ∈ l.latitude, x.isFinite = true)
    (hlongitude : ∀ x ∈ l.longitude, x.isFinite = true) : ofJson l.toJson = some l := by
  rw [ofJson, ofJsonWith, toJson, slots?_object [some (.text l.officeId), some (.text l.name), l.latitude.map ofDouble,
    l.longitude.map ofDouble, l.horizontalDatum.map .text, l.timezoneName.map .text, l.locationKind.map .text,
    l.publicName.map .text, some (.bool l.active), some (ofTexts l.aliases)] (by simp)]
  simp [optional_readDouble hlatitude, optional_readDouble hlongitude]

/-- So is a template. -/
theorem RatingTemplate.ofJson_toJson (t : RatingTemplate) : ofJson t.toJson = some t := by
  rw [ofJson, toJson, slots?_object [some (.text t.officeId), some (.text t.id), some (.text t.version),
    t.description.map .text, some (.text t.dependentParameter), some (.array (t.specs.map ParameterSpec.toJson)),
    some (ofTexts t.ratingIds)] (by simp)]
  simp [readList_array fun s (_ : s ∈ t.specs) => ParameterSpec.ofJson_toJson s]

/-- So is the identifier of a project. -/
theorem ProjectId.ofJson_toJson (p : ProjectId) : ofJson p.toJson = some p := by
  rw [ofJson, toJson, slots?_object [some (.text p.officeId), some (.text p.name)] (by simp)]
  simp

/-- So is a water user. -/
theorem WaterUser.ofJson_toJson (u : WaterUser) : ofJson u.toJson = some u := by
  rw [ofJson, toJson, slots?_object [some (.text u.entityName), some u.projectId.toJson, u.waterRight.map .text] (by simp)]
  simp [ProjectId.ofJson_toJson]

/-! ## What objects hold -/

/-- The object of a spec is kept. -/
theorem ParameterSpec.kept_toJson (s : ParameterSpec) : Kept isExact s.toJson := by
  refine .object (by simp) ?_
  simp [Kept.text]

/-- So is that of an office. -/
theorem Office.kept_toJson (o : Office) : Kept isExact o.toJson := by
  refine .object ?_ ?_
  · simp only [List.map_append, List.map_cons, List.map_nil]
    exact (((List.Sublist.refl _).append (names_member? _)).append (.refl _)).nodup (by decide)
  · simp only [List.forall_mem_append, List.forall_mem_cons, List.not_mem_nil, false_implies, implies_true, and_true]
    exact ⟨⟨⟨.text _, .text _⟩, kept_member?_text _⟩, .text _⟩

/-- A coordinate that is finite and exact is kept. -/
theorem kept_member?_ofDouble {name : String} {x? : Option Double} (h : ∀ x ∈ x?, x.isFinite = true ∧ isExact x) :
    ∀ m ∈ member? name (x?.map ofDouble), Kept isExact m.2 := by
  refine kept_member? fun v hv => ?_
  obtain ⟨x, hx, rfl⟩ := Option.map_eq_some_iff.mp hv
  exact kept_ofDouble (h x hx)

/-- So is that of a location where its coordinates are finite and read back exactly. -/
theorem Location.kept_toJson {l : Location} (hlatitude : ∀ x ∈ l.latitude, x.isFinite = true ∧ isExact x)
    (hlongitude : ∀ x ∈ l.longitude, x.isFinite = true ∧ isExact x) : Kept isExact l.toJson := by
  refine .object ?_ ?_
  · simp only [List.map_append, List.map_cons, List.map_nil]
    exact ((((((((List.Sublist.refl _).append (names_member? _)).append (names_member? _)).append (names_member? _)).append
      (names_member? _)).append (.refl _)).append (names_member? _)).append (names_member? _)).nodup (by decide)
  · simp only [List.forall_mem_append, List.forall_mem_cons, List.not_mem_nil, false_implies, implies_true, and_true]
    exact ⟨⟨⟨⟨⟨⟨⟨⟨.bool _, kept_ofTexts _⟩, kept_member?_text _⟩, kept_member?_ofDouble hlatitude⟩, kept_member?_text _⟩,
      kept_member?_ofDouble hlongitude⟩, .text _, .text _⟩, kept_member?_text _⟩, kept_member?_text _⟩

/-- So is that of a template. -/
theorem RatingTemplate.kept_toJson (t : RatingTemplate) : Kept isExact t.toJson := by
  refine .object ?_ ?_
  · simp only [List.map_append, List.map_cons, List.map_nil]
    exact (((List.Sublist.refl _).append (names_member? _)).append (.refl _)).nodup (by decide)
  · simp only [List.forall_mem_append, List.forall_mem_cons, List.not_mem_nil, false_implies, implies_true, and_true]
    exact ⟨⟨.text _, kept_member?_text _⟩, .text _, kept_array fun s _ => s.kept_toJson, .text _, kept_ofTexts _, .text _⟩

/-- So is that of the identifier of a project. -/
theorem ProjectId.kept_toJson (p : ProjectId) : Kept isExact p.toJson := by
  refine .object (by simp) ?_
  simp [Kept.text]

/-- So is that of a water user. -/
theorem WaterUser.kept_toJson (u : WaterUser) : Kept isExact u.toJson := by
  refine .object ?_ ?_
  · simp only [List.map_append, List.map_cons, List.map_nil]
    exact ((List.Sublist.refl _).append (names_member? _)).nodup (by decide)
  · simp only [List.forall_mem_append, List.forall_mem_cons, List.not_mem_nil, false_implies, implies_true, and_true]
    exact ⟨⟨.text _, u.projectId.kept_toJson⟩, kept_member?_text _⟩

/-! ## Records of every kind -/

namespace Entity

/-- The coordinates of a record. -/
def coordinates : Entity → List Double
  | .location l => l.latitude.toList ++ l.longitude.toList
  | _ => []

/-- The coordinates of a record, if it has any, are finite, and exact for a reader. -/
def Legible (isExact : Double → Prop) (e : Entity) : Prop :=
  ∀ x ∈ e.coordinates, x.isFinite = true ∧ isExact x

/-- The coordinates of a legible location. -/
theorem Legible.location {l : Location} (h : Legible isExact (.location l)) :
    (∀ x ∈ l.latitude, x.isFinite = true ∧ isExact x) ∧ ∀ x ∈ l.longitude, x.isFinite = true ∧ isExact x :=
  ⟨fun x hx => h x (List.mem_append_left _ (Option.mem_toList.mpr hx)),
    fun x hx => h x (List.mem_append_right _ (Option.mem_toList.mpr hx))⟩

/-- A legible record is read back from its object. -/
theorem ofJson_toJson {e : Entity} (h : e.Legible isExact) : ofJson e.kind e.toJson = some e := by
  cases e with
  | office o => exact congrArg (Option.map Entity.office) o.ofJson_toJson
  | location l =>
    obtain ⟨hlatitude, hlongitude⟩ := h.location
    exact congrArg (Option.map Entity.location)
      (Location.ofJson_toJson (fun x hx => (hlatitude x hx).1) fun x hx => (hlongitude x hx).1)
  | ratingTemplate t => exact congrArg (Option.map Entity.ratingTemplate) t.ofJson_toJson
  | waterUser u => exact congrArg (Option.map Entity.waterUser) u.ofJson_toJson

/-- The object of a legible record is kept. -/
theorem kept_toJson {e : Entity} (h : e.Legible isExact) : Kept isExact e.toJson := by
  cases e with
  | office o => exact o.kept_toJson
  | location l => exact Location.kept_toJson h.location.1 h.location.2
  | ratingTemplate t => exact t.kept_toJson
  | waterUser u => exact u.kept_toJson

end Entity

end BasinRegister
