import BasinRegister.Json.Printer

/-!
# XML elements

A tree of elements and its text. An element is a single tag, or it holds a text or other elements between two tags, never
both. Elements are the only way to make markup, so tags match and nest by construction. Each element starts on a line of
its own, two spaces deeper than the one that holds it.
-/

namespace BasinRegister

/-- An XML element. -/
inductive Xml where
  /-- An element with a text. -/
  | leaf (name : String) (text : String)
  /-- A single tag with attributes. -/
  | empty (name : String) (attributes : List (String × String))
  /-- An element with attributes and with elements in it. -/
  | node (name : String) (attributes : List (String × String)) (children : List Xml)
  deriving Repr

namespace Xml

/-- How a character stands in a text or in the value of an attribute. -/
def escapeChar (c : Char) : List Char :=
  match c with
  | '<' => ['&', 'l', 't', ';']
  | '>' => ['&', 'g', 't', ';']
  | '&' => ['&', 'a', 'm', 'p', ';']
  | '\x22' => ['&', 'q', 'u', 'o', 't', ';']
  | '\x27' => ['&', 'a', 'p', 'o', 's', ';']
  | c => [c]

/-- A text with its markup characters escaped. -/
def escape (s : String) : List Char := s.toList.flatMap escapeChar

/-- The blanks in front of an element at a depth. -/
def indent (depth : Nat) : List Char := List.replicate (2 * depth) ' '

/-- An opening tag without its end. -/
def openTag (name : String) (attributes : List (String × String)) : List Char :=
  '<' :: name.toList ++
    attributes.flatMap fun (key, value) => ' ' :: key.toList ++ ['=', '\x22'] ++ escape value ++ ['\x22']

/-- A closing tag with the end of its line. -/
def closeTag (name : String) : List Char := ['<', '/'] ++ name.toList ++ ['>', '\n']

mutual

/-- The lines of an element at a depth. -/
def render (depth : Nat) : Xml → List Char
  | .leaf name text => indent depth ++ openTag name [] ++ '>' :: escape text ++ closeTag name
  | .empty name attributes => indent depth ++ openTag name attributes ++ ['/', '>', '\n']
  | .node name attributes children =>
    indent depth ++ openTag name attributes ++ ['>', '\n'] ++ renderAll (depth + 1) children ++ indent depth ++
      closeTag name

/-- The lines of elements at a depth. -/
def renderAll (depth : Nat) : List Xml → List Char
  | [] => []
  | x :: xs => render depth x ++ renderAll depth xs

end

/-- The declaration in front of a document. -/
def declaration : String := "<?xml version=\"1.0\" encoding=\"UTF-8\"?>\n"

/-- The document of a root element. -/
def document (root : Xml) : String :=
  declaration ++ String.ofList (render 0 root)

/-- The characters in front of a suffix. -/
def stripSuffix? (suffix : String) (cs : List Char) : Option (List Char) :=
  if suffix.toList.isSuffixOf cs then some (cs.take (cs.length - suffix.length)) else none

/-- The name of an item of a collection: its singular, or the name with `-item` where it is no plural. -/
def singular (name : String) : String :=
  let cs := name.toList
  let sibilant (stem : List Char) : Bool := stem.getLast? == some 's' || stem.getLast? == some 'x'
  match stripSuffix? "ies" cs, (stripSuffix? "es" cs).filter sibilant, stripSuffix? "s" cs with
  | some stem, _, _ => String.ofList (stem ++ ['y'])
  | none, some stem, _ => String.ofList stem
  | none, none, some stem => String.ofList stem
  | none, none, none => name ++ "-item"

mutual

/-- The elements of a JSON value under a name: none for `null`, one for everything else. An array holds its items under
the singular of its name and is a single tag without any, an object holds its members under their names. -/
def ofJson (name : String) : Json → List Xml
  | .null => []
  | .unreadable => []
  | .bool b => [.leaf name (if b then "true" else "false")]
  | .whole n => [.leaf name (Json.integerText n)]
  | .real x => [.leaf name (Json.doubleText x)]
  | .text s => [.leaf name s]
  | .array items => if items.isEmpty then [.empty name []] else [.node name [] (ofItems (singular name) items)]
  | .object members => [.node name [] (ofMembers members)]

/-- The elements of the items of an array. -/
def ofItems (name : String) : List Json → List Xml
  | [] => []
  | v :: vs => ofJson name v ++ ofItems name vs

/-- The elements of the members of an object. -/
def ofMembers : List (String × Json) → List Xml
  | [] => []
  | (name, v) :: ms => ofJson name v ++ ofMembers ms

end

end Xml

end BasinRegister
