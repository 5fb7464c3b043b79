import BasinRegister.Glob.Mask
import BasinRegister.Record.Entity
import BasinRegister.Text.Basic

/-!
# Filters

What a listing is narrowed down to: an office, named in either case, and a mask for the identifiers.
-/

namespace BasinRegister

/-- What a listing is narrowed down to. -/
structure Filter where
  /-- The only office wanted. -/
  office : Option String
  /-- The mask of the identifiers wanted. -/
  mask : Option Mask
  deriving DecidableEq, Repr

namespace Filter

/-- Whether a record of an office is wanted. -/
def acceptsOffice (f : Filter) (officeId : String) : Bool :=
  f.office.all fun wanted => Text.sameFolded wanted officeId

/-- Whether a record of an office and with an identifier is wanted. -/
def accepts (f : Filter) (officeId id : String) : Bool :=
  f.acceptsOffice officeId && f.mask.all fun mask => mask.selects id

/-- Whether a location is wanted. -/
def acceptsLocation (f : Filter) (l : Location) : Bool := f.accepts l.officeId l.name

/-- Whether a rating template is wanted. -/
def acceptsTemplate (f : Filter) (t : RatingTemplate) : Bool := f.accepts t.officeId t.id

end Filter

end BasinRegister
