import BasinRegister.Format.GeoJson
import BasinRegister.Proofs.Format.JsonDocument
import BasinRegister.Proofs.Json.Texts

/-!
# GeoJSON documents that come back

The documents of a location, a list and a page are read back to the locations with their positions (`GeoJson.format_located`): the
two numbers of a point are the longitude and the latitude, in this order, and the other fields are properties. Only a coordinate
that stands alone is nowhere in the document, so that locations which differ in such a coordinate have the same document.
-/

namespace BasinRegister

open Json
open Number (Double)

variable {isExact : Double → Prop} {l : Location} {ls : List Location}

/-- The coordinates of a location, if it has any, are finite. -/
def Location.Finite (l : Location) : Prop := ∀ x ∈ (Entity.location l).coordinates, x.isFinite = true

instance (l : Location) : Decidable l.Finite := inferInstanceAs (Decidable (∀ x ∈ (Entity.location l).coordinates, _))

/-- A location with finite coordinates can be read in a document. -/
theorem Location.Finite.legible (h : l.Finite) : (Entity.location l).Legible fun _ => True := fun x hx => ⟨h x hx, trivial⟩

/-- A location that can be read in a document has finite coordinates. -/
theorem Location.finite_of_legible (h : (Entity.location l).Legible isExact) : l.Finite := fun x hx => (h x hx).1

/-- The longitude and the latitude of a location with both. -/
def Location.point? (l : Location) : Option (Double × Double) :=
  l.longitude.bind fun longitude => l.latitude.map (longitude, ·)

/-- A location as far as its position is known as a whole: a coordinate that stands alone is left out. -/
def Location.pointed (l : Location) : Location :=
  if l.latitude.isSome && l.longitude.isSome then l else { l with latitude := none, longitude := none }

/-- Nothing is left out of a location with both coordinates, or with none. -/
theorem Location.pointed_eq_iff : l.pointed = l ↔ (l.latitude.isSome ↔ l.longitude.isSome) := by
  obtain ⟨officeId, name, latitude, longitude, horizontalDatum, timezoneName, locationKind, publicName, active, aliases⟩ := l
  cases latitude <;> cases longitude <;> simp [pointed]

namespace GeoJson

/-! ## Readers -/

/-- The longitude and the latitude of a feature that has a point. -/
def position? (v : Json) : Option (Double × Double) :=
  match (v.get? "geometry").bind (·.get? "coordinates") with
  | some (.array [longitude, latitude]) =>
    (readDouble longitude).bind fun longitude => (readDouble latitude).map (longitude, ·)
  | _ => none

/-- A location with a position. -/
def place (l : Location) : Option (Double × Double) → Location
  | some (longitude, latitude) => { l with longitude := some longitude, latitude := some latitude }
  | none => l

/-- The location of a feature: what its properties say, at the position of its point. -/
def ofFeature (v : Json) : Option Location :=
  ((v.get? "properties").bind Location.ofJson).map fun l => place l (position? v)

/-- The locations of a collection of features. -/
def ofCollection (v : Json) : Option (List Location) := (v.get? "features").bind (readList ofFeature)

/-! ## Features -/

/-- A location has both coordinates, or no point and nothing of a position that could be written. -/
theorem point_cases (l : Location) :
    (∃ longitude latitude, l.longitude = some longitude ∧ l.latitude = some latitude ∧ l.pointed = l) ∨
      (l.point? = none ∧ geometry l.longitude l.latitude = .null ∧
        l.pointed = { l with latitude := none, longitude := none }) := by
  cases hlongitude : l.longitude with
  | none => exact .inr ⟨by rw [Location.point?, hlongitude]; rfl, rfl, by simp [Location.pointed, hlongitude]⟩
  | some longitude =>
    cases hlatitude : l.latitude with
    | none => exact .inr ⟨by rw [Location.point?, hlongitude, hlatitude]; rfl, rfl, by simp [Location.pointed, hlatitude]⟩
    | some latitude => exact .inl ⟨longitude, latitude, rfl, rfl, by simp [Location.pointed, hlongitude, hlatitude]⟩

/-- A feature has a geometry and properties. -/
theorem get?_feature (l : Location) :
    (feature l).get? "geometry" = some (geometry l.longitude l.latitude) ∧
      (feature l).get? "properties" = some (properties l) :=
  ⟨get?_object rfl, get?_object rfl⟩

/-- The numbers of a point are the longitude and the latitude of its location. -/
theorem position?_feature (h : l.Finite) : position? (feature l) = l.point? := by
  rw [position?, (get?_feature l).1, Option.bind_some]
  rcases point_cases l with ⟨longitude, latitude, hlongitude, hlatitude, -⟩ | ⟨hpoint, hgeometry, -⟩
  · have hcoordinates : (geometry (some longitude) (some latitude)).get? "coordinates" =
        some (.array [ofDouble longitude, ofDouble latitude]) := get?_object rfl
    rw [Location.Finite, Entity.coordinates, hlatitude, hlongitude] at h
    rw [Location.point?, hlongitude, hlatitude, hcoordinates, ofDouble_eq_real (h longitude (by simp)),
      ofDouble_eq_real (h latitude (by simp))]
    rfl
  · rw [hgeometry, hpoint]
    rfl

/-- A feature is read back to its location, but for a coordinate that stands alone. -/
theorem ofFeature_feature (h : l.Finite) : ofFeature (feature l) = some l.pointed := by
  have hproperties : Location.ofJson (properties l) = some { l with latitude := none, longitude := none } :=
    Location.ofJson_toJson (by simp) (by simp)
  rw [ofFeature, (get?_feature l).2, Option.bind_some, hproperties, Option.map_some, position?_feature h]
  rcases point_cases l with ⟨longitude, latitude, hlongitude, hlatitude, hpointed⟩ | ⟨hpoint, -, hpointed⟩
  · rw [hpointed, Location.point?, hlongitude, hlatitude, Option.bind_some, Option.map_some, place]
    simp only [← hlongitude, ← hlatitude]
  · rw [hpointed, hpoint, place]

/-- A coordinate that stands alone is nowhere in a feature. -/
theorem feature_pointed (l : Location) : feature l.pointed = feature l := by
  rcases point_cases l with ⟨-, -, -, -, hpointed⟩ | ⟨-, hgeometry, hpointed⟩
  · rw [hpointed]
  · rw [hpointed, feature, feature, hgeometry]
    rfl

/-- The feature of a legible location is kept. -/
theorem kept_feature (h : (Entity.location l).Legible isExact) : Kept isExact (feature l) := by
  have hgeometry : Kept isExact (geometry l.longitude l.latitude) := by
    rcases point_cases l with ⟨longitude, latitude, hlongitude, hlatitude, -⟩ | ⟨-, hgeometry, -⟩
    · have hpoint : ∀ v ∈ [ofDouble longitude, ofDouble latitude], Kept isExact v := by
        simp only [List.forall_mem_cons, List.not_mem_nil, false_implies, implies_true, and_true]
        exact ⟨kept_ofDouble (h.location.2 longitude hlongitude), kept_ofDouble (h.location.1 latitude hlatitude)⟩
      rw [hlongitude, hlatitude]
      refine .object (by simp) ?_
      simp only [List.forall_mem_cons, List.not_mem_nil, false_implies, implies_true, and_true]
      exact ⟨.array hpoint, .text _⟩
    · rw [hgeometry]
      exact .null
  refine .object (by simp) ?_
  simp only [List.forall_mem_cons, List.not_mem_nil, false_implies, implies_true, and_true]
  exact ⟨hgeometry, .text _, Location.kept_toJson (by simp) (by simp), .text _⟩

/-! ## Documents -/

/-- All records of a list of locations are locations. -/
theorem locations_map (ls : List Location) : locations (ls.map Entity.location) = .ok ls := by
  induction ls with
  | nil => rfl
  | cons l ls ih => rw [List.map_cons, locations, ih]; rfl

/-- A payload of locations is written as its document. -/
theorem format_eq (ls : List Location) {payload : Payload} (hkind : payload.kind = .location) (hitems : payload.items = ls.map Entity.location) :
    formatter.format payload = .ok (document (ls.map feature) payload).render := by
  rw [formatter, FormatterTag.formatter]
  simp only [hkind, hitems, locations_map]
  rfl

/-- The members of a collection beside its paging fields. -/
def collectionMembers (ls : List Location) : List (String × Json) :=
  [("features", .array (ls.map feature)), ("type", .text "FeatureCollection")]

/-- The members of a collection are kept. -/
theorem kept_collectionMembers (h : ∀ l ∈ ls, (Entity.location l).Legible isExact) :
    ∀ m ∈ collectionMembers ls, Kept isExact m.2 := by
  simp only [collectionMembers, List.forall_mem_cons, List.not_mem_nil, false_implies, implies_true, and_true]
  exact ⟨kept_array fun l hl => kept_feature (h l hl), .text _⟩

/-- A collection is kept. -/
theorem kept_collection (h : ∀ l ∈ ls, (Entity.location l).Legible isExact) : Kept isExact (.object (collectionMembers ls)) :=
  .object (by simp [collectionMembers]) (kept_collectionMembers h)

/-- No member of a collection is a paging field. -/
theorem beside_collectionMembers (ls : List Location) : JsonDocument.Beside (collectionMembers ls) := by
  have hnames : (["features", "type"] ++ ["next-page", "page", "page-size", "total"]).Nodup := by decide
  exact hnames

/-- Locations have the features of those that lose a coordinate that stands alone. -/
theorem map_feature_pointed (ls : List Location) : (ls.map Location.pointed).map feature = ls.map feature := by
  rw [List.map_map]
  exact List.map_congr_left fun l _ => feature_pointed l

/-- A collection of features is read back to its locations, but for coordinates that stand alone. -/
theorem ofCollection_of_features {v : Json} (hfeatures : v.get? "features" = some (.array (ls.map feature)))
    (h : ∀ l ∈ ls, l.Finite) :
    ofCollection v = some (ls.map Location.pointed) := by
  rw [ofCollection, hfeatures, Option.bind_some, ← map_feature_pointed]
  refine readList_array ?_
  intro p hp
  obtain ⟨l, hl, rfl⟩ := List.mem_map.mp hp
  rw [feature_pointed, ofFeature_feature (h l hl)]

/-- A collection is read back but for coordinates that stand alone. -/
theorem ofCollection_collection (h : ∀ l ∈ ls, l.Finite) :
    ofCollection (.object (collectionMembers ls)) = some (ls.map Location.pointed) :=
  ofCollection_of_features (get?_object rfl) h

/-- Two lists have the same document exactly if they are the same but for coordinates that stand alone. -/
theorem format_many_eq_iff {ls' : List Location} (h : ∀ l ∈ ls, l.Finite)
    (h' : ∀ l ∈ ls', l.Finite) :
    formatter.format (.many .location (ls.map Entity.location)) =
      formatter.format (.many .location (ls'.map Entity.location)) ↔ ls.map Location.pointed = ls'.map Location.pointed := by
  rw [format_eq ls rfl rfl, format_eq ls' rfl rfl]
  constructor
  · intro hsame
    have hcollection : Json.object (collectionMembers ls) = .object (collectionMembers ls') :=
      render_inj (kept_collection fun l hl => (h l hl).legible) (kept_collection fun l hl => (h' l hl).legible)
        (Except.ok.inj hsame)
    have hread := ofCollection_collection h
    rw [hcollection, ofCollection_collection h'] at hread
    exact (Option.some.inj hread).symm
  · intro hsame
    rw [← map_feature_pointed ls, hsame, map_feature_pointed]
    rfl

/-- Whoever reads a document with a reader that is faithful to JSON gets the locations that were written, in their order and each at
its position, and the paging fields of a page; what is lost is a coordinate that stands alone, and nothing of a location with both
coordinates or with none. So lists that differ otherwise have different documents, and there are readers that are faithful whatever
finite coordinates there are. -/
theorem format_located {read : String → Option Json} (hread : Faithful read isExact)
    (hls : ∀ l ∈ ls, (Entity.location l).Legible isExact) :
    (∀ l ∈ ls, ∃ doc v, formatter.format (.one (.location l)) = .ok doc ∧ read doc = some v ∧ ofFeature v = some l.pointed ∧
      position? v = l.point? ∧ (l.pointed = l ↔ (l.latitude.isSome ↔ l.longitude.isSome))) ∧
    (∃ doc v, formatter.format (.many .location (ls.map Entity.location)) = .ok doc ∧ read doc = some v ∧
      ofCollection v = some (ls.map Location.pointed)) ∧
    (∀ info, ∃ doc v, formatter.format (.page .location (ls.map Entity.location) info) = .ok doc ∧ read doc = some v ∧
      ofCollection v = some (ls.map Location.pointed) ∧ PageInfo.ofJson v = some info) ∧
    (∀ ls' : List Location, (∀ l ∈ ls', l.Finite) →
      (formatter.format (.many .location (ls.map Entity.location)) =
        formatter.format (.many .location (ls'.map Entity.location)) ↔ ls.map Location.pointed = ls'.map Location.pointed)) ∧
    ∃ reader, Faithful reader fun _ => True := by
  have hfinite : ∀ l ∈ ls, l.Finite := fun l hl => Location.finite_of_legible (hls l hl)
  refine ⟨?_, ?_, ?_, fun ls' h' => format_many_eq_iff hfinite h', exists_faithful⟩
  · intro l hl
    exact ⟨_, _, format_eq [l] rfl rfl, hread _ (kept_feature (hls l hl)), ofFeature_feature (hfinite l hl),
      position?_feature (hfinite l hl), Location.pointed_eq_iff⟩
  · exact ⟨_, _, format_eq ls rfl rfl, hread _ (kept_collection hls), ofCollection_collection hfinite⟩
  · intro info
    have hbeside := beside_collectionMembers ls
    have hfeatures : (JsonDocument.envelope info (collectionMembers ls)).get? "features" = some (.array (ls.map feature)) :=
      JsonDocument.get?_envelope_of_beside info hbeside rfl ⟨_, List.mem_cons_self, rfl⟩
    exact ⟨_, _, format_eq ls rfl rfl,
      hread _ (JsonDocument.kept_envelope_of_beside info hbeside (kept_collectionMembers hls)),
      ofCollection_of_features hfeatures hfinite, JsonDocument.ofJson_envelope_of_beside info hbeside⟩

/-- The lake without a position. -/
def keysNowhere : Location := { JsonDocument.keysLake with latitude := none, longitude := none }

/-- The reader of documents gets the lake back from its feature, with its longitude in front of its latitude, and its document is not
that of the lake without a position. -/
theorem format_located_keysLake :
    (∃ doc v, formatter.format (.one (.location JsonDocument.keysLake)) = .ok doc ∧ read? doc = some v ∧
      ofFeature v = some JsonDocument.keysLake ∧ position? v = some (⟨0xC058100000000000⟩, ⟨0x4042133333333333⟩)) ∧
    formatter.format (.many .location [.location JsonDocument.keysLake]) ≠
      formatter.format (.many .location [.location keysNowhere]) := by
  obtain ⟨hone, -, -, hmany, -⟩ :=
    format_located faithful_read? (List.forall_mem_singleton.mpr JsonDocument.legible_keysLake)
  obtain ⟨doc, v, hdoc, hread, hlocation, hposition, hwhole⟩ := hone JsonDocument.keysLake (List.mem_singleton_self _)
  rw [hwhole.mpr (iff_of_true rfl rfl)] at hlocation
  refine ⟨⟨doc, v, hdoc, hread, hlocation, hposition⟩, fun hsame => ?_⟩
  exact absurd ((hmany [keysNowhere] (by decide)).mp hsame) (by decide)

/-- The lake with its latitude alone. -/
def keysParallel : Location := { JsonDocument.keysLake with longitude := none }

/-- A latitude that stands alone is lost: with it and without it the document is the same. -/
theorem format_keysParallel :
    ¬∀ ls ls' : List Location, (∀ l ∈ ls, l.Finite) → (∀ l ∈ ls', l.Finite) →
      formatter.format (.many .location (ls.map Entity.location)) =
        formatter.format (.many .location (ls'.map Entity.location)) → ls = ls' := by
  intro h
  have hsame : formatter.format (.many .location ([keysParallel].map Entity.location)) =
      formatter.format (.many .location ([keysNowhere].map Entity.location)) := by
    rw [format_eq [keysParallel] rfl rfl, format_eq [keysNowhere] rfl rfl]
    rfl
  have heq := h [keysParallel] [keysNowhere] (by decide) (by decide) hsame
  exact absurd heq (by decide)

end GeoJson

end BasinRegister
