import BasinRegister.Format.Formatter
import BasinRegister.Media.Accept

/-!
# The registry of formats

Which content types there are, which of them are aliases of others, and which formatter writes which kind. A registry is
built from a blueprint, which is refused unless every alias leads to the content type of some formatter. A request is
resolved to the most wanted of its content types that has a formatter for the kind.
-/

namespace BasinRegister

/-- A registered content type. -/
structure Descriptor where
  /-- The content type. -/
  contentType : ContentType
  /-- What it is an alias of, if it is one. -/
  aliasOf : Option ContentType
  deriving DecidableEq, Repr

/-- Where following aliases ends. -/
inductive ChainEnd where
  /-- At a content type that is no alias. -/
  | reaches (contentType : ContentType)
  /-- At a content type that is not registered. -/
  | dangles (contentType : ContentType)
  /-- Nowhere: they come round again, or the steps run out. -/
  | circles
  deriving DecidableEq, Repr

namespace Descriptor

/-- The descriptor of a content type. -/
def find? (ds : List Descriptor) (contentType : ContentType) : Option Descriptor :=
  List.find? (fun d => d.contentType = contentType) ds

/-- Follows aliases for a number of steps. -/
def follow (ds : List Descriptor) : Nat → ContentType → ChainEnd
  | 0, _ => .circles
  | steps + 1, contentType =>
    match find? ds contentType with
    | none => .dangles contentType
    | some d =>
      match d.aliasOf with
      | none => .reaches contentType
      | some target => follow ds steps target

/-- Where the aliases from a content type on end. A chain without repetition passes each descriptor at most once, so one
step more than there are descriptors decides. -/
def chainEnd (ds : List Descriptor) (contentType : ContentType) : ChainEnd :=
  follow ds (ds.length + 1) contentType

/-- The descriptors of content types that were not visited. -/
def unvisited (ds : List Descriptor) (visited : List ContentType) : List Descriptor :=
  ds.filter fun d => d.contentType ∉ visited

/-- A visit to a registered content type leaves fewer descriptors to be visited. -/
theorem length_unvisited_cons {ds : List Descriptor} {visited : List ContentType} {contentType : ContentType}
    {d : Descriptor} (hnew : contentType ∉ visited) (hfound : find? ds contentType = some d) :
    (unvisited ds (contentType :: visited)).length < (unvisited ds visited).length := by
  have hkey : d.contentType = contentType := by simpa using List.find?_some hfound
  have hmem : d ∈ unvisited ds visited :=
    List.mem_filter.mpr ⟨List.mem_of_find?_eq_some hfound, by simpa [hkey] using hnew⟩
  have hstep : unvisited ds (contentType :: visited) =
      (unvisited ds visited).filter fun d => d.contentType ≠ contentType := by
    rw [unvisited, unvisited, List.filter_filter]
    congr 1
    funext e
    simp
  rw [hstep, List.length_filter_lt_length_iff_exists]
  exact ⟨d, hmem, by simp [hkey]⟩

/-- Follows aliases until they end or come round to a content type that was visited. Every step visits one more
descriptor, so it ends. -/
def trace (ds : List Descriptor) (visited : List ContentType) (contentType : ContentType) : ChainEnd :=
  if contentType ∈ visited then .circles
  else
    match _ : find? ds contentType with
    | none => .dangles contentType
    | some d =>
      match d.aliasOf with
      | none => .reaches contentType
      | some target => trace ds (contentType :: visited) target
termination_by (unvisited ds visited).length
decreasing_by exact length_unvisited_cons ‹_› ‹_›

end Descriptor

/-- Why a blueprint is refused. -/
inductive RegistryError where
  /-- A text is no content type. -/
  | invalidContentType (text : String)
  /-- An alias leads to a content type that is not registered. -/
  | danglingAlias (aliasText target : String)
  /-- An alias leads nowhere. -/
  | aliasCycle (aliasText : String)
  /-- An alias is the content type of a formatter. -/
  | aliasShadowsFormat (aliasText : String)
  /-- An alias is stated twice. -/
  | duplicateAlias (aliasText : String)
  /-- Two formatters of one content type declare the same kind. -/
  | duplicateBinding (contentType : String) (kind : Kind)
  deriving DecidableEq, Repr

/-- The wording of the error. -/
def RegistryError.message : RegistryError → String
  | .invalidContentType text => Text.quoted text ++ " is not a valid content type"
  | .danglingAlias aliasText target =>
    "alias " ++ aliasText ++ " points at unregistered content type " ++ target
  | .aliasCycle aliasText => "alias cycle through " ++ aliasText
  | .aliasShadowsFormat aliasText =>
    aliasText ++ " is registered both as an alias and as a formatter's content type"
  | .duplicateAlias aliasText => "alias " ++ aliasText ++ " registered twice"
  | .duplicateBinding contentType kind => "two formatters for " ++ contentType ++ " both declare " ++ kind.name

/-- The formatter that was chosen for a request. -/
structure Resolved where
  /-- The content type of the document. -/
  contentType : ContentType
  /-- The formatter. -/
  formatter : Formatter

namespace Resolved

/-- The document of a payload. -/
def format (r : Resolved) (payload : Payload) : Except FormatError String :=
  if r.formatter.supports payload.kind then (r.formatter.format payload).mapError .formatting
  else .error (.notImplemented r.contentType.text payload.kind)

/-- The choice with the names of its fields. -/
def described (r : Resolved) : String :=
  "Resolved \x7b content_type: " ++ r.contentType.described ++ ", formatter: " ++ Text.quoted r.formatter.name ++
    " \x7d"

end Resolved

/-- An entry of the catalog of formats. -/
structure FormatEntry where
  /-- The content type. -/
  contentType : ContentType
  /-- The content type that it leads to, if it is an alias. -/
  aliasOf : Option ContentType
  /-- The kinds that can be had in it, in their order. -/
  kinds : List Kind
  deriving DecidableEq, Repr

/-- The registered content types and formatters. -/
structure Registry where
  /-- The content types, none of them twice. -/
  descriptors : List Descriptor
  /-- The formatters in the order in which they were named. -/
  formatters : List Formatter
  /-- The content type that `*/*` stands for. -/
  defaultType : ContentType

namespace Registry

/-- The content type at the end of the aliases from a registered content type on. -/
def canonical? (r : Registry) (contentType : ContentType) : Option ContentType :=
  match Descriptor.chainEnd r.descriptors contentType with
  | .reaches target => some target
  | _ => none

/-- The formatters of a content type, in the order in which they were named. -/
def formattersOf (r : Registry) (contentType : ContentType) : List Formatter :=
  r.formatters.filter fun f => f.contentType = contentType

/-- The first formatter of a content type that declares a kind. -/
def formatterFor? (r : Registry) (contentType : ContentType) (kind : Kind) : Option Formatter :=
  (r.formattersOf contentType).find? fun f => f.supports kind

/-- The candidates of a request; those of the default type where it is blank. -/
def candidates (r : Registry) (requested : String) : List Candidate :=
  Accept.parse (if (Text.trim requested).isEmpty then r.defaultType.text else requested)

/-- The content type that a candidate stands for. -/
def wanted (r : Registry) (candidate : Candidate) : ContentType :=
  if candidate.contentType.isAny then r.defaultType else candidate.contentType

/-- The canonical content types of the registered candidates of a request, the most wanted first. -/
def recognised (r : Registry) (requested : String) : List ContentType :=
  (r.candidates requested).filterMap fun candidate => r.canonical? (r.wanted candidate)

/-- A content type with its formatter for a kind. -/
def bind? (r : Registry) (kind : Kind) (contentType : ContentType) : Option Resolved :=
  (r.formatterFor? contentType kind).map fun formatter => { contentType, formatter }

/-- Chooses the formatter for a request. -/
def resolve (r : Registry) (requested : String) (kind : Kind) : Except FormatError Resolved :=
  match (r.recognised requested).findSome? (r.bind? kind), r.recognised requested with
  | some resolved, _ => .ok resolved
  | none, contentType :: _ => .error (.notImplemented contentType.text kind)
  | none, [] => .error (.notAcceptable requested kind)

/-- The kinds that the formatters of a content type declare: those of one formatter after the other, put in order and
then each of them once. -/
def kindsOf (r : Registry) (contentType : ContentType) : List Kind :=
  let declared := (r.formattersOf contentType).flatMap (·.kinds)
  (declared.mergeSort fun a b => a.index ≤ b.index).eraseReps

/-- The entry of a descriptor. -/
def entry (r : Registry) (d : Descriptor) : FormatEntry :=
  let canonical := r.canonical? d.contentType
  { contentType := d.contentType
    aliasOf := d.aliasOf.bind fun _ => canonical
    kinds := (canonical.map r.kindsOf).getD [] }

/-- All registered content types in order. -/
def catalog (r : Registry) : List FormatEntry :=
  (r.descriptors.map r.entry).mergeSort fun a b => a.contentType.le b.contentType

end Registry

/-- What a registry is built from. -/
structure Blueprint where
  /-- The formatters. -/
  formatters : List Formatter
  /-- Aliases with their targets, as texts. -/
  aliases : List (String × String)
  /-- What `*/*` stands for; JSON unless stated. -/
  defaultType : Option String

namespace Blueprint

/-- The content type of a text. -/
def parse (text : String) : Except RegistryError ContentType :=
  match ContentType.parse? text with
  | some contentType => .ok contentType
  | none => .error (.invalidContentType text)

/-- The first kind of a formatter that an earlier one of its content type declares too. -/
def clash? (earlier : List Formatter) (f : Formatter) : Option Kind :=
  f.kinds.find? fun kind => earlier.any fun g => g.contentType = f.contentType && g.supports kind

/-- Refuses formatters of which two write the same kind as the same content type. -/
def checkBindings (earlier : List Formatter) : List Formatter → Except RegistryError Unit
  | [] => .ok ()
  | f :: fs =>
    match clash? earlier f with
    | some kind => .error (.duplicateBinding f.contentType.text kind)
    | none => checkBindings (earlier ++ [f]) fs

/-- The descriptors of the content types of formatters. -/
def formatDescriptors (formatters : List Formatter) : List Descriptor :=
  (formatters.map (·.contentType)).eraseDups.map fun contentType => { contentType, aliasOf := none }

/-- The descriptors with those of the aliases behind them. -/
def addAliases (formats : List Descriptor) (seen : List Descriptor) :
    List (String × String) → Except RegistryError (List Descriptor)
  | [] => .ok (formats ++ seen)
  | (aliasText, target) :: rest => do
    let contentType ← parse aliasText
    let target ← parse target
    if (Descriptor.find? formats contentType).isSome then throw (.aliasShadowsFormat contentType.text)
    if (Descriptor.find? seen contentType).isSome then throw (.duplicateAlias contentType.text)
    addAliases formats (seen ++ [{ contentType, aliasOf := some target }]) rest

/-- Refuses a descriptor whose aliases lead to no format. -/
def checkChain (ds : List Descriptor) (d : Descriptor) : Except RegistryError Unit :=
  match Descriptor.trace ds [] d.contentType with
  | .reaches _ => .ok ()
  | .dangles target => .error (.danglingAlias d.contentType.text target.text)
  | .circles => .error (.aliasCycle d.contentType.text)

/-- The registry of a blueprint. -/
def build (b : Blueprint) : Except RegistryError Registry := do
  checkBindings [] b.formatters
  let descriptors ← addAliases (formatDescriptors b.formatters) [] b.aliases
  descriptors.forM (checkChain descriptors)
  let defaultType ← parse (b.defaultType.getD "application/json")
  if (Descriptor.find? descriptors defaultType).isNone then throw (.danglingAlias "*/*" defaultType.text)
  return { descriptors, formatters := b.formatters, defaultType }

end Blueprint

end BasinRegister
