import BasinRegister.Format.Payload
import BasinRegister.Media.ContentType

/-!
# Formatters

A formatter writes payloads of the kinds that it declares as documents of one content type.
-/

namespace BasinRegister

/-- A payload that a formatter could not write. -/
structure FormattingError where
  /-- The content type of the formatter. -/
  contentType : String
  /-- The kind that could not be written. -/
  kind : Kind
  /-- What went wrong. -/
  cause : String
  deriving DecidableEq, Repr

/-- The wording of the error. -/
def FormattingError.message (e : FormattingError) : String :=
  s!"could not format {e.kind.name} as {e.contentType}: {e.cause}"

/-- Why there is no document for a request. -/
inductive FormatError where
  /-- Nothing in the request is a format that is registered. -/
  | notAcceptable (requested : String) (kind : Kind)
  /-- No requested format has a formatter for the kind. -/
  | notImplemented (contentType : String) (kind : Kind)
  /-- The formatter failed. -/
  | formatting (error : FormattingError)
  deriving DecidableEq, Repr

namespace FormatError

/-- The wording of the error. -/
def message : FormatError → String
  | .notAcceptable requested kind =>
    "requested format " ++ Text.quoted requested ++ " is not acceptable for " ++ kind.name
  | .notImplemented contentType kind => "format " ++ contentType ++ " is not implemented for " ++ kind.name
  | .formatting error => error.message

/-- The error with the names of its fields. -/
def described : FormatError → String
  | .notAcceptable requested kind =>
    "NotAcceptable \x7b requested: " ++ Text.quoted requested ++ ", kind: " ++ kind.name ++ " \x7d"
  | .notImplemented contentType kind =>
    "NotImplemented \x7b content_type: " ++ Text.quoted contentType ++ ", kind: " ++ kind.name ++ " \x7d"
  | .formatting error =>
    "Formatting(FormattingError \x7b content_type: " ++ Text.quoted error.contentType ++ ", kind: " ++
      error.kind.name ++ ", message: " ++ Text.quoted error.cause ++ " \x7d)"

end FormatError

/-- A formatter. -/
structure Formatter where
  /-- The name of the formatter. -/
  name : String
  /-- The content type of its documents. -/
  contentType : ContentType
  /-- The kinds that it declares. -/
  kinds : List Kind
  /-- Writes a payload. -/
  format : Payload → Except FormattingError String

namespace Formatter

/-- Whether a formatter declares a kind. -/
def supports (f : Formatter) (kind : Kind) : Bool := f.kinds.contains kind

end Formatter

/-- What tells a formatter of the register apart. -/
structure FormatterTag where
  /-- The name of the formatter. -/
  name : String
  /-- The content type of its documents. -/
  contentType : ContentType
  /-- The kinds that it declares. -/
  kinds : List Kind

namespace FormatterTag

/-- The failure of a formatter that is given a kind it does not declare. -/
def undeclared (tag : FormatterTag) (kind : Kind) : FormattingError :=
  { contentType := tag.contentType.text, kind, cause := tag.name ++ " does not declare " ++ kind.name }

/-- The formatter that refuses payloads of other kinds and writes the rest with `write`. -/
def formatter (tag : FormatterTag) (write : Payload → Except FormattingError String) : Formatter :=
  { name := tag.name
    contentType := tag.contentType
    kinds := tag.kinds
    format := fun payload =>
      if tag.kinds.contains payload.kind then write payload else .error (tag.undeclared payload.kind) }

end FormatterTag

end BasinRegister
