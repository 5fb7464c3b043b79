import BasinRegister.Paging

/-!
# Storage errors

Why a store does not do what it is asked.
-/

namespace BasinRegister

/-- Why a store does not do what it is asked. -/
inductive StorageError where
  /-- What the request builds on is not there. -/
  | notFound
  /-- The record is there already. -/
  | conflict (text : String)
  /-- The record cannot be stored. -/
  | invalid (text : String)
  /-- What should be one thing is several. -/
  | integrity (violation : IntegrityViolation)
  /-- The store itself failed. -/
  | internal (text : String)
  deriving DecidableEq, Repr

namespace StorageError

/-- The wording of the error. -/
def message : StorageError → String
  | .notFound => "not found"
  | .conflict text => "conflict: " ++ text
  | .invalid text => "invalid record: " ++ text
  | .integrity violation => violation.message
  | .internal text => "internal storage error: " ++ text

/-- The failure of a page as an error of the store. -/
def ofPageFailure : PageFailure StorageError → StorageError
  | .source cause => cause
  | .offsetOverflow => .internal "attempt to add with overflow"

end StorageError

end BasinRegister
