import BasinRegister.Storage.Filter
import BasinRegister.Storage.Put

/-!
# Stores

What every store can do: take records, look single ones up and list pages of them. Listings are pages over the join rows
of a source, so every store cuts its pages in the same way.
-/

namespace BasinRegister

/-- A type of stores. -/
class Backend (σ : Type) where
  /-- The store without records. -/
  empty : σ
  /-- The store with one more record. -/
  put : σ → Put → Except StorageError σ
  /-- All offices in the order of their names. -/
  offices : σ → List Office
  /-- The office of a name in either case. -/
  office? : σ → String → Option Office
  /-- The only location of an office and a name in either case. -/
  location? : σ → String → String → Except StorageError (Option Location)
  /-- The locations joined with their aliases. -/
  locationRows : σ → RowSource Filter Location String StorageError
  /-- The only rating template of an identifier in either case, in one office or in any. -/
  template? : σ → Option String → String → Except StorageError (Option RatingTemplate)
  /-- The rating templates joined with their ratings. -/
  templateRows : σ → RowSource Filter RatingTemplate String StorageError
  /-- The water user of an office, a project and a name in either case. -/
  waterUser? : σ → String → String → String → Option WaterUser

namespace Backend

variable {σ : Type} [Backend σ]

/-- A page of locations with their aliases. -/
def locationsPage (s : σ) (filter : Filter) (request : PageRequest) : Except StorageError (Page Location) :=
  (((locationRows s).page filter request).map (·.map Group.assemble)).mapError StorageError.ofPageFailure

/-- A page of rating templates with their ratings. -/
def templatesPage (s : σ) (filter : Filter) (request : PageRequest) : Except StorageError (Page RatingTemplate) :=
  (((templateRows s).page filter request).map (·.map Group.assemble)).mapError StorageError.ofPageFailure

end Backend

/-- Something to be done with a store. -/
inductive Operation where
  /-- Add a record. -/
  | put (record : Put)
  /-- List the offices. -/
  | offices
  /-- Look an office up. -/
  | office (name : String)
  /-- Look a location up. -/
  | location (office name : String)
  /-- Look a rating template up. -/
  | template (office : Option String) (id : String)
  /-- Look a water user up. -/
  | waterUser (office project name : String)
  /-- List locations. -/
  | locationsPage (filter : Filter) (request : PageRequest)
  /-- List rating templates. -/
  | templatesPage (filter : Filter) (request : PageRequest)
  deriving DecidableEq, Repr

/-- What a store answers. -/
inductive Answer where
  /-- The record was added. -/
  | stored
  /-- The offices. -/
  | offices (records : List Office)
  /-- The office, if there is one. -/
  | office (record : Option Office)
  /-- The location, if there is one. -/
  | location (record : Option Location)
  /-- The rating template, if there is one. -/
  | template (record : Option RatingTemplate)
  /-- The water user, if there is one. -/
  | waterUser (record : Option WaterUser)
  /-- The page of locations. -/
  | locations (page : Page Location)
  /-- The page of rating templates. -/
  | templates (page : Page RatingTemplate)
  /-- Nothing, for a reason. -/
  | failed (error : StorageError)
  deriving DecidableEq, Repr

namespace Answer

/-- The answer of a result. -/
def ofResult {α : Type} (answer : α → Answer) : Except StorageError α → Answer
  | .ok x => answer x
  | .error e => .failed e

end Answer

namespace Backend

variable {σ : Type} [Backend σ]

/-- The answer to an operation that only reads. -/
def read (s : σ) : Operation → Answer
  | .put _ => .stored
  | .offices => .offices (offices s)
  | .office name => .office (office? s name)
  | .location office name => .ofResult .location (location? s office name)
  | .template office id => .ofResult .template (template? s office id)
  | .waterUser office project name => .waterUser (waterUser? s office project name)
  | .locationsPage filter request => .ofResult .locations (locationsPage s filter request)
  | .templatesPage filter request => .ofResult .templates (templatesPage s filter request)

/-- The answer to an operation and the store behind it. A put that fails leaves the store as it was. -/
def perform (s : σ) : Operation → Answer × σ
  | .put record =>
    match put s record with
    | .ok s => (.stored, s)
    | .error e => (.failed e, s)
  | operation => (read s operation, s)

/-- The answers to operations one after the other, and the store behind them. -/
def performAll (s : σ) : List Operation → List Answer × σ
  | [] => ([], s)
  | operation :: operations =>
    let (answer, s) := perform s operation
    let (answers, s) := performAll s operations
    (answer :: answers, s)

end Backend

end BasinRegister
