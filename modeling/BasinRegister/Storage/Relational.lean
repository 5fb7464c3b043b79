import BasinRegister.Glob.Like
import BasinRegister.Storage.Backend

/-!
# The relational store

Each kind of record in a table of rows, in the order in which they were added. A key may not stand twice. Queries
select rows, order them by key and join them with their children. The specs of a template are kept as two columns and
split again whenever its row is read; a row that does not split back fails the query. A coordinate that is not a
number is kept as none, and a zero without its sign.

Listings take a window of the ordered parents before they join them, and select by the `LIKE` operator.
-/

namespace BasinRegister

open Number (Double)

/-- A template as a row. -/
structure TemplateRow where
  /-- The office that owns it. -/
  officeId : String
  /-- The identifier within the office. -/
  id : String
  /-- The version. -/
  version : String
  /-- A description. -/
  description : Option String
  /-- What the ratings yield. -/
  dependentParameter : String
  /-- The specs in their column form. -/
  columns : SpecColumns
  deriving DecidableEq, Repr, Inhabited

namespace TemplateRow

/-- The row of a template. -/
def ofTemplate (t : RatingTemplate) : TemplateRow :=
  { officeId := t.officeId
    id := t.id
    version := t.version
    description := t.description
    dependentParameter := t.dependentParameter
    columns := SpecColumns.ofSpecs t.specs }

/-- The template of a row, without ratings. -/
def template (r : TemplateRow) : Except StorageError RatingTemplate :=
  match r.columns.specs with
  | .error e => .error (.internal ("rating template " ++ r.id ++ ": " ++ e.message))
  | .ok specs =>
    .ok {
      officeId := r.officeId
      id := r.id
      version := r.version
      description := r.description
      dependentParameter := r.dependentParameter
      specs
      ratingIds := [] }

end TemplateRow

/-- The relational store. -/
structure Relational where
  /-- The offices. -/
  offices : List Office
  /-- The locations, without their aliases. -/
  locations : List Location
  /-- The aliases. -/
  aliases : List LocationAlias
  /-- The templates. -/
  templates : List TemplateRow
  /-- The ratings. -/
  specs : List RatingSpec
  /-- The water users. -/
  waterUsers : List WaterUser
  deriving DecidableEq, Repr, Inhabited

namespace Relational

/-- The store without records. -/
def empty : Relational := ⟨[], [], [], [], [], []⟩

/-! ## Putting records -/

/-- A coordinate as it is kept. -/
def keptCoordinate (x : Option Double) : Option Double :=
  (x.filter (!·.isNaN)).map fun d => if d.isZero then Double.zero else d

/-- A location as it is kept. -/
def keptLocation (l : Location) : Location :=
  { l.withoutAliases with latitude := keptCoordinate l.latitude, longitude := keptCoordinate l.longitude }

/-- Adds an office. -/
def putOffice (r : Relational) (o : Office) : Except StorageError Relational :=
  if r.offices.any fun p => p.name = o.name then .error (.officeExists o)
  else .ok { r with offices := r.offices ++ [o] }

/-- Rows with an alias behind them, unless it is among them. -/
def addAlias (rows : List LocationAlias) (a : LocationAlias) : List LocationAlias :=
  if a ∈ rows then rows else rows ++ [a]

/-- Adds a location with its aliases. -/
def putLocation (r : Relational) (l : Location) : Except StorageError Relational :=
  if r.locations.any fun p => p.officeId = l.officeId && p.name = l.name then .error (.locationExists l)
  else
    let added := l.aliases.map fun aliasId => { officeId := l.officeId, locationId := l.name, aliasId }
    .ok { r with locations := r.locations ++ [keptLocation l], aliases := added.foldl addAlias r.aliases }

/-- Adds an alias to a location. -/
def putLocationAlias (r : Relational) (a : LocationAlias) : Except StorageError Relational :=
  if r.locations.any fun p => p.officeId = a.officeId && p.name = a.locationId then
    .ok { r with aliases := addAlias r.aliases a }
  else .error .notFound

/-- Adds a template that has specs. -/
def putTemplate (r : Relational) (t : RatingTemplate) : Except StorageError Relational :=
  if t.specs.isEmpty then .error (.noParameters t)
  else if r.templates.any fun p => p.officeId = t.officeId && p.id = t.id then
    .error (.conflict s!"rating template {t.id} in office {t.officeId} already exists")
  else .ok { r with templates := r.templates ++ [TemplateRow.ofTemplate t] }

/-- Adds a rating to a template. -/
def putSpec (r : Relational) (s : RatingSpec) : Except StorageError Relational :=
  if !(r.templates.any fun p => p.officeId = s.officeId && p.id = s.templateId) then .error .notFound
  else if r.specs.any fun p => p.officeId = s.officeId && p.ratingId = s.ratingId then
    .error (.conflict s!"rating spec {s.ratingId} in office {s.officeId} already exists")
  else .ok { r with specs := r.specs ++ [s] }

/-- Adds a water user. -/
def putWaterUser (r : Relational) (u : WaterUser) : Except StorageError Relational :=
  if r.waterUsers.any fun p => p.projectId = u.projectId && p.entityName = u.entityName then
    .error (.conflict s!"water user {u.entityName} at project {u.projectId.name} already exists")
  else .ok { r with waterUsers := r.waterUsers ++ [u] }

/-- Adds a record. -/
def put (r : Relational) : Put → Except StorageError Relational
  | .office o => r.putOffice o
  | .location l => r.putLocation l
  | .locationAlias a => r.putLocationAlias a
  | .ratingTemplate t => r.putTemplate t
  | .ratingSpec s => r.putSpec s
  | .waterUser u => r.putWaterUser u

/-! ## Selecting rows -/

/-- Whether two texts are equal in upper case, where only ASCII letters have one. -/
def sameUpper (a b : String) : Bool :=
  a.toList.map Char.toUpper == b.toList.map Char.toUpper

/-- Rows ordered by a key; rows of one key keep their order. -/
def orderBy {α : Type} (key : α → List String) (rows : List α) : List α :=
  rows.mergeSort fun a b => !(key b < key a)

/-- The rows that a filter selects by their office and identifier. The size of a pattern is only looked at when a row is
compared with it. -/
def select {α : Type} (office id : α → String) (filter : Filter) (rows : List α) : Except StorageError (List α) :=
  let ofOffice := rows.filter fun row => filter.office.all fun wanted => sameUpper (office row) wanted
  match filter.mask.map Mask.toLike with
  | none => .ok ofOffice
  | some pattern =>
    if Glob.Like.isTooLarge pattern && !ofOffice.isEmpty then .error (.internal "LIKE or GLOB pattern too complex")
    else .ok (ofOffice.filter fun row => Glob.Like.selects pattern (id row))

/-- The greatest number of rows that a query can skip. -/
def greatestOffset : Nat := 9223372036854775807

/-- The rows of a window. -/
def window {α : Type} (rows : List α) (skip : UInt64) (limit : UInt32) : List α :=
  (rows.drop (min skip.toNat greatestOffset)).take limit.toNat

/-- A parent joined with its ordered children; without children it has one row. -/
def join {α : Type} (children : α → List String) (parent : α) : List (α × Option String) :=
  match orderBy (fun c => [c]) (children parent) with
  | [] => [(parent, none)]
  | cs => cs.map fun c => (parent, some c)

/-- The aliases of a location. -/
def aliasesOf (r : Relational) (l : Location) : List String :=
  (r.aliases.filter fun a => a.officeId = l.officeId && a.locationId = l.name).map (·.aliasId)

/-- The ratings of a template that are not aliased items. -/
def ratingsOf (r : Relational) (t : TemplateRow) : List String :=
  (r.specs.filter fun s => s.officeId = t.officeId && s.templateId = t.id && s.aliasedItem.isNone).map (·.ratingId)

/-- The key of a location. -/
def locationKey (l : Location) : List String := [l.officeId, l.name]

/-- The key of a template. -/
def templateKey (t : TemplateRow) : List String := [t.officeId, t.id]

/-- Rows read one after the other up to the first that cannot be read. -/
def readRows {α π : Type} (parent : α → Except StorageError π) :
    List (α × Option String) → RowStream π String StorageError
  | [] => { rows := [], failure := none }
  | (row, child) :: rest =>
    match parent row with
    | .error e => { rows := [], failure := some e }
    | .ok parent' =>
      let more := readRows parent rest
      { more with rows := { parent := parent', child } :: more.rows }

/-- A query over parents of one table joined with their children. -/
def source {α π : Type} (office id : α → String) (key : α → List String) (children : α → List String)
    (parent : α → Except StorageError π) (rows : List α) : RowSource Filter π String StorageError :=
  { scan := fun filter skip limit =>
      match select office id filter rows with
      | .error e => { rows := [], failure := some e }
      | .ok selected => readRows parent ((window (orderBy key selected) skip limit).flatMap (join children))
    count := fun filter => (select office id filter rows).map fun selected => UInt64.ofNat selected.length }

/-- The locations joined with their aliases. -/
def locationRows (r : Relational) : RowSource Filter Location String StorageError :=
  source (·.officeId) (·.name) locationKey r.aliasesOf .ok r.locations

/-- The templates joined with their ratings. -/
def templateRows (r : Relational) : RowSource Filter RatingTemplate String StorageError :=
  source (·.officeId) (·.id) templateKey r.ratingsOf TemplateRow.template r.templates

/-! ## Looking records up -/

/-- The only parent of rows that were read, with its children. -/
def single {π κ : Type} [GroupKey π κ] [DecidableEq κ] [Assemble π String] (what : String)
    (stream : RowStream π String StorageError) : Except StorageError (Option π) :=
  match stream.failure with
  | some e => .error e
  | none => ((groupSingle what stream.rows).map (·.map Group.assemble)).mapError .integrity

/-- All offices in the order of their names. -/
def allOffices (r : Relational) : List Office := orderBy (fun o => [o.name]) r.offices

/-- The first office of a name in either case. -/
def office? (r : Relational) (name : String) : Option Office :=
  r.offices.find? fun o => sameUpper o.name name

/-- The only location of an office and a name in either case. -/
def location? (r : Relational) (office name : String) : Except StorageError (Option Location) :=
  let found := r.locations.filter fun l => sameUpper l.officeId office && sameUpper l.name name
  single (StorageError.locationSubject office name)
    (readRows .ok ((orderBy locationKey found).flatMap (join r.aliasesOf)))

/-- The only template of an identifier in either case. -/
def template? (r : Relational) (office : Option String) (id : String) :
    Except StorageError (Option RatingTemplate) :=
  let found := r.templates.filter fun t => (office.all fun o => sameUpper t.officeId o) && sameUpper t.id id
  single (StorageError.templateSubject office id)
    (readRows TemplateRow.template ((orderBy templateKey found).flatMap (join r.ratingsOf)))

/-- The first water user of an office, a project and a name in either case. -/
def waterUser? (r : Relational) (office project name : String) : Option WaterUser :=
  r.waterUsers.find? fun u =>
    sameUpper u.projectId.officeId office && sameUpper u.projectId.name project && sameUpper u.entityName name

instance : Backend Relational where
  empty := empty
  put := put
  offices := allOffices
  office? := office?
  location? := location?
  locationRows := locationRows
  template? := template?
  templateRows := templateRows
  waterUser? := waterUser?

end Relational

end BasinRegister
