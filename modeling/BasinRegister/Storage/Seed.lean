import BasinRegister.Json.Reader
import BasinRegister.Storage.Backend
import BasinRegister.Storage.FileTree

/-!
# Seed documents

A seed is a JSON document with an array for each kind of record, each of which may be left out. Its records are put
into a store kind by kind, so that what a record builds on comes before it. Loading stops at the first record that the
store refuses; the ones before it stay.
-/

namespace BasinRegister

open Json Json.Slot

/-- The records of a seed. -/
structure SeedDocument where
  /-- The offices. -/
  offices : List Office
  /-- The locations. -/
  locations : List Location
  /-- The aliases of locations. -/
  locationAliases : List LocationAlias
  /-- The rating templates. -/
  ratingTemplates : List RatingTemplate
  /-- The ratings. -/
  ratingSpecs : List RatingSpec
  /-- The water users. -/
  waterUsers : List WaterUser
  deriving DecidableEq, Repr

/-- How many records of each kind a seed had. -/
structure SeedSummary where
  /-- The number of offices. -/
  offices : Nat
  /-- The number of locations. -/
  locations : Nat
  /-- The number of aliases. -/
  locationAliases : Nat
  /-- The number of rating templates. -/
  ratingTemplates : Nat
  /-- The number of ratings. -/
  ratingSpecs : Nat
  /-- The number of water users. -/
  waterUsers : Nat
  deriving DecidableEq, Repr

/-- Why a seed was not loaded. -/
inductive SeedError where
  /-- The path leads to no text. -/
  | unreadable (path : String) (cause : FileError)
  /-- The document is no seed. -/
  | malformed
  /-- The store refused a record. -/
  | refused (what : String) (source : StorageError)
  deriving DecidableEq, Repr

/-- The wording of the error. -/
def SeedError.message : SeedError → String
  | .unreadable path cause => s!"cannot read seed file {path}: {cause.message}"
  | .malformed => "malformed seed document"
  | .refused what source => s!"seeding {what} failed: {source.message}"

namespace SeedDocument

/-- The seed that a JSON value describes. -/
def ofJson (v : Json) : Option SeedDocument := do
  match ← v.slots? ["offices", "locations", "location-aliases", "rating-templates", "rating-specs", "water-users"] with
  | [offices, locations, locationAliases, ratingTemplates, ratingSpecs, waterUsers] =>
    some {
      offices := ← offices.defaulted [] (readList Office.ofJson)
      locations := ← locations.defaulted [] (readList Location.ofJson)
      locationAliases := ← locationAliases.defaulted [] (readList LocationAlias.ofJson)
      ratingTemplates := ← ratingTemplates.defaulted [] (readList RatingTemplate.ofJson)
      ratingSpecs := ← ratingSpecs.defaulted [] (readList RatingSpec.ofJson)
      waterUsers := ← waterUsers.defaulted [] (readList WaterUser.ofJson) }
  | _ => none

/-- The records in the order in which they are put. -/
def puts (d : SeedDocument) : List Put :=
  d.offices.map .office ++ d.locations.map .location ++ d.locationAliases.map .locationAlias ++
    d.ratingTemplates.map .ratingTemplate ++ d.ratingSpecs.map .ratingSpec ++ d.waterUsers.map .waterUser

/-- How many records there are. -/
def summary (d : SeedDocument) : SeedSummary :=
  { offices := d.offices.length
    locations := d.locations.length
    locationAliases := d.locationAliases.length
    ratingTemplates := d.ratingTemplates.length
    ratingSpecs := d.ratingSpecs.length
    waterUsers := d.waterUsers.length }

end SeedDocument

namespace Seed

variable {σ : Type} [Backend σ]

/-- Puts records one after the other up to the first that is refused. -/
def putAll (s : σ) : List Put → Option SeedError × σ
  | [] => (none, s)
  | p :: ps =>
    match Backend.put s p with
    | .ok s => putAll s ps
    | .error e => (some (.refused p.subject e), s)

/-- Loads a seed into a store. -/
def load (s : σ) (d : SeedDocument) : Except SeedError SeedSummary × σ :=
  match putAll s d.puts with
  | (none, s) => (.ok d.summary, s)
  | (some e, s) => (.error e, s)

/-- Loads a seed that is given as a JSON value, if there is one. -/
def loadJson (s : σ) (v : Option Json) : Except SeedError SeedSummary × σ :=
  match v.bind SeedDocument.ofJson with
  | some d => load s d
  | none => (.error .malformed, s)

/-- Loads a seed that is given as a text. -/
def loadText (s : σ) (text : String) : Except SeedError SeedSummary × σ :=
  loadJson s (Json.read? text)

/-- Loads the seed to which a path leads. -/
def loadPath (files : FileTree) (s : σ) (path : String) : Except SeedError SeedSummary × σ :=
  match files.readText path with
  | .ok document => loadText s document
  | .error cause => (.error (.unreadable path cause), s)

end Seed

end BasinRegister
