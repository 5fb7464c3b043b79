import BasinRegister.Storage.Backend
import BasinRegister.Storage.Keyed

/-!
# The store in memory

Each kind of record in a collection ordered by key. The aliases of a location stand apart from it under its key, and
only where there are some; a template stands without its ratings. Several names that are equal up to case are told
apart when they are stored; a look-up of an office or a water user takes the first of them, one of a location or a
template refuses.
-/

namespace BasinRegister

/-- The store in memory. -/
structure Memory where
  /-- The offices by name. -/
  offices : Keyed Office
  /-- The locations by office and name, without their aliases. -/
  locations : Keyed Location
  /-- The aliases in order, by the key of their location. -/
  aliases : Keyed (List String)
  /-- The templates by office and identifier, without their ratings. -/
  templates : Keyed RatingTemplate
  /-- The ratings by office and identifier. -/
  specs : Keyed RatingSpec
  /-- The water users by office, project and name. -/
  waterUsers : Keyed WaterUser
  deriving DecidableEq, Repr, Inhabited

namespace Memory

/-- The store without records. -/
def empty : Memory := ⟨.empty, .empty, .empty, .empty, .empty, .empty⟩

/-- The key of an office. -/
def officeKey (o : Office) : Key := [o.name]

/-- The key of a location. -/
def locationKey (l : Location) : Key := [l.officeId, l.name]

/-- The key of the location of an alias. -/
def aliasKey (a : LocationAlias) : Key := [a.officeId, a.locationId]

/-- The key of a template. -/
def templateKey (t : RatingTemplate) : Key := [t.officeId, t.id]

/-- The key of a rating. -/
def specKey (r : RatingSpec) : Key := [r.officeId, r.ratingId]

/-- The key of the template of a rating. -/
def specTemplateKey (r : RatingSpec) : Key := [r.officeId, r.templateId]

/-- The key of a water user. -/
def waterUserKey (u : WaterUser) : Key := [u.projectId.officeId, u.projectId.name, u.entityName]

/-! ## Putting records -/

/-- Adds an office. -/
def putOffice (m : Memory) (o : Office) : Except StorageError Memory :=
  if m.offices.contains (officeKey o) then .error (.officeExists o)
  else .ok { m with offices := m.offices.insert (officeKey o) o }

/-- The aliases of a location. -/
def aliasesOf (m : Memory) (k : Key) : List String := (m.aliases.get? k).getD []

/-- Adds aliases to those of a location. -/
def addAliases (m : Memory) (k : Key) (names : List String) : Memory :=
  if names.isEmpty then m else { m with aliases := m.aliases.insert k (insertTexts names (m.aliasesOf k)) }

/-- Adds a location with its aliases. -/
def putLocation (m : Memory) (l : Location) : Except StorageError Memory :=
  if m.locations.contains (locationKey l) then .error (.locationExists l)
  else
    .ok <| addAliases { m with locations := m.locations.insert (locationKey l) l.withoutAliases }
      (locationKey l) l.aliases

/-- Adds an alias to a location. -/
def putLocationAlias (m : Memory) (a : LocationAlias) : Except StorageError Memory :=
  if m.locations.contains (aliasKey a) then .ok (m.addAliases (aliasKey a) [a.aliasId]) else .error .notFound

/-- Adds a template that has specs. -/
def putTemplate (m : Memory) (t : RatingTemplate) : Except StorageError Memory :=
  if t.specs.isEmpty then .error (.noParameters t)
  else if m.templates.contains (templateKey t) then
    .error (.conflict s!"rating template {t.id} already exists in office {t.officeId}")
  else .ok { m with templates := m.templates.insert (templateKey t) t.withoutRatings }

/-- Adds a rating to a template. -/
def putSpec (m : Memory) (r : RatingSpec) : Except StorageError Memory :=
  if !m.templates.contains (specTemplateKey r) then .error .notFound
  else if m.specs.contains (specKey r) then
    .error (.conflict s!"rating spec {r.ratingId} already exists in office {r.officeId}")
  else .ok { m with specs := m.specs.insert (specKey r) r }

/-- Adds a water user. -/
def putWaterUser (m : Memory) (u : WaterUser) : Except StorageError Memory :=
  if m.waterUsers.contains (waterUserKey u) then
    .error (.conflict s!"water user {u.entityName} already exists at project {u.projectId.name}")
  else .ok { m with waterUsers := m.waterUsers.insert (waterUserKey u) u }

/-- Adds a record. -/
def put (m : Memory) : Put → Except StorageError Memory
  | .office o => m.putOffice o
  | .location l => m.putLocation l
  | .locationAlias a => m.putLocationAlias a
  | .ratingTemplate t => m.putTemplate t
  | .ratingSpec r => m.putSpec r
  | .waterUser u => m.putWaterUser u

/-! ## Looking records up -/

/-- The first office of a name in either case. -/
def office? (m : Memory) (name : String) : Option Office :=
  m.offices.values.find? fun o => Text.sameFolded o.name name

/-- The ratings of a template that are not aliased items. -/
def ratingsOf (m : Memory) (t : RatingTemplate) : List String :=
  (m.specs.values.filter fun r => r.aliasedItem.isNone && r.officeId = t.officeId && r.templateId = t.id).map
    (·.ratingId)

/-- The rows that a walk hands out for a parent: one for every child, and at their end one without a child unless a row
was handed out before. -/
def joinRows {π γ : Type} (parent : π) (emitted : Bool) : List γ → List (JoinRow π γ)
  | [] => if emitted then [] else [⟨parent, none⟩]
  | child :: children => ⟨parent, some child⟩ :: joinRows parent true children

/-- The locations that a filter accepts, from one on, joined with their aliases. -/
def walkLocations (m : Memory) (filter : Filter) (skip : Nat) : List (JoinRow Location String) :=
  ((m.locations.entries.filter fun entry => filter.acceptsLocation entry.2).drop skip).flatMap fun entry =>
    joinRows entry.2 false (m.aliasesOf entry.1)

/-- Templates joined with their ratings. -/
def walkTemplates (m : Memory) (templates : List RatingTemplate) : List (JoinRow RatingTemplate String) :=
  templates.flatMap fun t => joinRows t false (m.ratingsOf t)

/-- The source of the locations with their aliases. -/
def locationRows (m : Memory) : RowSource Filter Location String StorageError :=
  { scan := fun filter skip _ => ⟨m.walkLocations filter skip.toNat, none⟩
    count := fun filter => .ok (UInt64.ofNat (m.locations.values.filter filter.acceptsLocation).length) }

/-- The source of the templates with their ratings. -/
def templateRows (m : Memory) : RowSource Filter RatingTemplate String StorageError :=
  { scan := fun filter skip _ =>
      ⟨m.walkTemplates ((m.templates.values.filter filter.acceptsTemplate).drop skip.toNat), none⟩
    count := fun filter => .ok (UInt64.ofNat (m.templates.values.filter filter.acceptsTemplate).length) }

/-- The only location of an office and a name in either case. -/
def location? (m : Memory) (office name : String) : Except StorageError (Option Location) :=
  let rows := m.walkLocations { office := some office, mask := none } 0
  let found := groupSingle (StorageError.locationSubject office name)
    (rows.filter fun row => Text.sameFolded row.parent.name name)
  (found.map (·.map Group.assemble)).mapError .integrity

/-- The only template of an identifier in either case. -/
def template? (m : Memory) (office : Option String) (id : String) : Except StorageError (Option RatingTemplate) :=
  let matching := m.templates.values.filter fun t =>
    ({ office, mask := none } : Filter).acceptsOffice t.officeId && Text.sameFolded t.id id
  let found := groupSingle (StorageError.templateSubject office id) (m.walkTemplates matching)
  (found.map (·.map Group.assemble)).mapError .integrity

/-- The first water user of an office, a project and a name in either case. -/
def waterUser? (m : Memory) (office project name : String) : Option WaterUser :=
  m.waterUsers.values.find? fun u =>
    Text.sameFolded u.projectId.officeId office && Text.sameFolded u.projectId.name project &&
      Text.sameFolded u.entityName name

instance : Backend Memory where
  empty := empty
  put := put
  offices := fun m => m.offices.values
  office? := office?
  location? := location?
  locationRows := locationRows
  template? := template?
  templateRows := templateRows
  waterUser? := waterUser?

end Memory

end BasinRegister
