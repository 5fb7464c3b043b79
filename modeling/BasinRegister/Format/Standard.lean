import BasinRegister.Format.Delimited
import BasinRegister.Format.GeoJson
import BasinRegister.Format.JsonDocument
import BasinRegister.Format.Registry
import BasinRegister.Format.XmlDocument

/-!
# The standard formats

The formatters of the register and the other names of their content types. The unversioned types and the short names are
aliases; `json` means version 1, and `application/json`, which is also the default, means version 2.
-/

namespace BasinRegister.Standard

/-- The formatters. -/
def formatters : List Formatter :=
  [JsonDocument.formatter1, JsonDocument.formatter2, XmlDocument.formatter1, XmlDocument.formatter2,
    Delimited.commaFormatter, Delimited.tabFormatter, GeoJson.formatter]

/-- The aliases. -/
def aliases : List (String × String) :=
  [("application/json", "application/json;version=2"), ("json", "application/json;version=1"),
    ("application/xml", "application/xml;version=2"), ("xml", "application/xml"),
    ("text/csv", "text/csv;version=1"), ("csv", "text/csv"),
    ("text/tab-separated-values", "text/tab-separated-values;version=1"), ("tab", "text/tab-separated-values"),
    ("application/geo+json", "application/geo+json;version=1"), ("geojson", "application/geo+json")]

/-- What the standard registry is built from. -/
def blueprint : Blueprint :=
  { formatters, aliases, defaultType := some "application/json" }

/-- The standard registry. -/
def registry : Except RegistryError Registry := blueprint.build

end BasinRegister.Standard
