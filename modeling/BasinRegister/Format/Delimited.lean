import BasinRegister.Format.Formatter

/-!
# Delimited documents

Offices as records of four fields, one record a line, with a header in front. A field that holds the delimiter, a
quote or a line break stands between quotes, and quotes inside it are doubled.
-/

namespace BasinRegister.Delimited

/-- Whether a field has to stand between quotes. -/
def needsQuotes (delimiter : Char) (field : List Char) : Bool :=
  field.any fun c => c == delimiter || c == '\x22' || c == '\n' || c == '\r'

/-- A field with its quotes doubled. -/
def doubleQuotes (field : List Char) : List Char :=
  field.flatMap fun c => if c = '\x22' then ['\x22', '\x22'] else [c]

/-- A field as it is written. -/
def writeField (delimiter : Char) (field : List Char) : List Char :=
  if needsQuotes delimiter field then '\x22' :: doubleQuotes field ++ ['\x22'] else field

/-- A record as it is written, with the end of its line. -/
def writeRecord (delimiter : Char) (fields : List String) : List Char :=
  [delimiter].intercalate (fields.map fun field => writeField delimiter field.toList) ++ ['\n']

/-- The names of the fields. -/
def header : List String := ["#Office Name", "Long Name", "Office Type", "Reports To Office"]

/-- The fields of an office. -/
def officeFields (o : Office) : List String :=
  [o.name, o.longName, o.officeType, o.reportsTo.getD ""]

/-- The document of offices. -/
def document (delimiter : Char) (offices : List Office) : String :=
  String.ofList ((header :: offices.map officeFields).flatMap (writeRecord delimiter))

/-- The offices of a payload; the kind of the first record that is none. -/
def offices : List Entity → Except Kind (List Office)
  | [] => .ok []
  | .office o :: items => (offices items).map (o :: ·)
  | item :: _ => .error item.kind

/-- The formatter of a name, a content type and a delimiter. -/
def formatter (name base : String) (delimiter : Char) : Formatter :=
  let tag : FormatterTag := { name, contentType := .versioned base "1", kinds := [.office] }
  tag.formatter fun payload =>
    match offices payload.items with
    | .ok offices => .ok (document delimiter offices)
    | .error kind => .error (tag.undeclared kind)

/-- The formatter with commas. -/
def commaFormatter : Formatter := formatter "CsvV1" "text/csv" ','

/-- The formatter with tabs. -/
def tabFormatter : Formatter := formatter "TabV1" "text/tab-separated-values" '\t'

end BasinRegister.Delimited
