import BasinRegister.Grouping
import BasinRegister.Record.ParameterSpec

/-!
# Rating templates

The shape of a family of ratings. The ratings built on a template are records of their own, which name their template; a
template lists the ones that are not aliased items.
-/

namespace BasinRegister

/-- A rating template. -/
structure RatingTemplate where
  /-- The office that owns it. -/
  officeId : String
  /-- The identifier within the office. -/
  id : String
  /-- The version. -/
  version : String
  /-- A description. -/
  description : Option String
  /-- What the ratings yield. -/
  dependentParameter : String
  /-- What the ratings depend on. -/
  specs : List ParameterSpec
  /-- The ratings built on the template. -/
  ratingIds : List String
  deriving DecidableEq, Repr, Inhabited

/-- What tells a rating template apart from others: everything but its ratings. -/
structure RatingTemplateKey where
  /-- The office that owns it. -/
  officeId : String
  /-- The identifier within the office. -/
  id : String
  /-- The version. -/
  version : String
  /-- A description. -/
  description : Option String
  /-- What the ratings yield. -/
  dependentParameter : String
  /-- What the ratings depend on. -/
  specs : List ParameterSpec
  deriving DecidableEq, Repr

namespace RatingTemplate

open Json Json.Slot

/-- The template without its ratings. -/
def withoutRatings (t : RatingTemplate) : RatingTemplate := { t with ratingIds := [] }

instance : GroupKey RatingTemplate RatingTemplateKey where
  key t :=
    { officeId := t.officeId
      id := t.id
      version := t.version
      description := t.description
      dependentParameter := t.dependentParameter
      specs := t.specs }

instance : Assemble RatingTemplate String := ⟨fun t ratingIds => { t with ratingIds }⟩

/-- The template as a JSON object. -/
def toJson (t : RatingTemplate) : Json :=
  .object <|
    [("dependent-parameter", .text t.dependentParameter)] ++ member? "description" (t.description.map .text) ++
      [("id", .text t.id), ("independent-parameter-specs", .array (t.specs.map ParameterSpec.toJson)),
        ("office-id", .text t.officeId), ("rating-ids", ofTexts t.ratingIds), ("version", .text t.version)]

/-- The template that a JSON value describes. -/
def ofJson (v : Json) : Option RatingTemplate := do
  match ← v.slots? ["office-id", "id", "version", "description", "dependent-parameter", "independent-parameter-specs",
      "rating-ids"] with
  | [officeId, id, version, description, dependentParameter, specs, ratingIds] =>
    some {
      officeId := ← officeId.required readText
      id := ← id.required readText
      version := ← version.required readText
      description := ← description.optional readText
      dependentParameter := ← dependentParameter.required readText
      specs := ← specs.required (readList ParameterSpec.ofJson)
      ratingIds := ← ratingIds.defaulted [] (readList readText) }
  | _ => none

end RatingTemplate

/-- A rating built on a template. -/
structure RatingSpec where
  /-- The office that owns it. -/
  officeId : String
  /-- The identifier of the rating. -/
  ratingId : String
  /-- The template in the same office. -/
  templateId : String
  /-- What the rating is another name for; such a rating is not listed with its template. -/
  aliasedItem : Option String
  deriving DecidableEq, Repr, Inhabited

namespace RatingSpec

open Json Json.Slot

/-- The rating as a JSON object. -/
def toJson (r : RatingSpec) : Json :=
  .object <|
    member? "aliased-item" (r.aliasedItem.map .text) ++
      [("office-id", .text r.officeId), ("rating-id", .text r.ratingId), ("template-id", .text r.templateId)]

/-- The rating that a JSON value describes. -/
def ofJson (v : Json) : Option RatingSpec := do
  match ← v.slots? ["office-id", "rating-id", "template-id", "aliased-item"] with
  | [officeId, ratingId, templateId, aliasedItem] =>
    some {
      officeId := ← officeId.required readText
      ratingId := ← ratingId.required readText
      templateId := ← templateId.required readText
      aliasedItem := ← aliasedItem.optional readText }
  | _ => none

end RatingSpec

end BasinRegister
