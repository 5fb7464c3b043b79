import BasinRegister.Media.ContentType
import BasinRegister.Media.Quality
import BasinRegister.Text.Split

/-!
# Accept values

A list of content types with qualities, as clients send it. Entries that are no content type and entries whose quality
is not greater than zero are dropped. The others are ordered by falling quality, and entries of the same quality keep
their order.
-/

namespace BasinRegister

/-- An entry of an accept value. -/
structure Candidate where
  /-- What is wanted. -/
  contentType : ContentType
  /-- How much it is wanted. -/
  quality : Quality
  deriving DecidableEq, Repr

namespace Accept

/-- The quality that a media range states; one if it states none that is a number literal. -/
def qualityOf (range : Option MediaRange) : Quality :=
  ((range.bind (·.parameter? "q")).bind Quality.read?).getD Quality.one

/-- The candidate of an entry. A bare word has quality one whatever follows it. -/
def candidate? (entry : String) : Option Candidate :=
  (ContentType.read? entry).map fun (contentType, range) => { contentType, quality := qualityOf range }

/-- The candidates that the entries of an accept value state, in their order. -/
def stated (raw : String) : List Candidate :=
  ((Text.splitAll ',' raw).filterMap candidate?).filter (·.quality.isPositive)

/-- Whether a candidate may stand before another: unless it is wanted less. -/
def mayPrecede (a b : Candidate) : Bool :=
  (Quality.compare? b.quality a.quality).getD .eq != .gt

/-- The candidates of an accept value, the most wanted first. -/
def parse (raw : String) : List Candidate :=
  (stated raw).mergeSort mayPrecede

/-- The stated value without outer blanks, unless it is blank. -/
def statedValue (value : Option String) : Option String :=
  (value.map Text.trim).filter (!·.isEmpty)

/-- What to choose a format by: the accept value, unless it is missing, blank or `*/*` and a format is named. -/
def negotiate (accept format : Option String) : String :=
  match statedValue accept, statedValue format with
  | some accept, some format => if accept = "*/*" then format else accept
  | some accept, none => accept
  | none, some format => format
  | none, none => ""

end Accept

end BasinRegister
