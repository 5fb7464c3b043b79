import BasinRegister.Proofs.Format.XmlGrammar
import BasinRegister.Proofs.Format.XmlReading
import BasinRegister.Proofs.Json.Numeric

/-!
# When documents are well-formed

The text of an element whose names are words is a well-formed document exactly when all texts and values in it are made of legal
characters (`Xml.isDocument_iff`). Escaping takes care of markup: what is left in a text or a value is no markup, whatever the
text is. It leaves every other character as it is, so a character that no document may hold makes the document ill-formed. For
the documents of a payload these texts are the strings of its records and the tokens of a page
(`XmlDocument.isDocument_iff_legal`).
-/

namespace BasinRegister

namespace Xml

variable {allowed : Char → Bool}

/-- The texts and values of an element and of those in it hold only allowed characters. -/
inductive Clean (allowed : Char → Bool) : Xml → Prop where
  /-- An element with a text. -/
  | leaf {name text : String} (htext : Within allowed text.toList) : Clean allowed (.leaf name text)
  /-- A single tag. -/
  | empty {name : String} {attributes : List (String × String)} (hvalues : ∀ a ∈ attributes, Within allowed a.2.toList) :
      Clean allowed (.empty name attributes)
  /-- An element of elements. -/
  | node {name : String} {attributes : List (String × String)} {children : List Xml}
      (hvalues : ∀ a ∈ attributes, Within allowed a.2.toList) (hchildren : ∀ x ∈ children, Clean allowed x) :
      Clean allowed (.node name attributes children)

/-- An element with a text is clean if its text is. -/
theorem clean_leaf {name text : String} : (leaf name text).Clean allowed ↔ Within allowed text.toList :=
  ⟨fun h => by cases h; assumption, .leaf⟩

/-- A single tag is clean if the values of its attributes are. -/
theorem clean_empty {name : String} {attributes : List (String × String)} :
    (empty name attributes).Clean allowed ↔ ∀ a ∈ attributes, Within allowed a.2.toList :=
  ⟨fun h => by cases h; assumption, .empty⟩

/-- An element with elements in it is clean if the values of its attributes and the elements are. -/
theorem clean_node {name : String} {attributes : List (String × String)} {children : List Xml} :
    (node name attributes children).Clean allowed ↔
      (∀ a ∈ attributes, Within allowed a.2.toList) ∧ ∀ x ∈ children, x.Clean allowed :=
  ⟨fun h => by cases h; exact ⟨by assumption, by assumption⟩, fun h => .node h.1 h.2⟩

/-- Where every character is allowed, every element is clean. -/
theorem Worded.clean {x : Xml} (hwords : x.Worded) : x.Clean fun _ => true := by
  induction hwords with
  | leaf _ => exact .leaf fun _ _ => rfl
  | empty _ _ _ => exact .empty fun _ _ _ _ => rfl
  | node _ _ _ _ _ ih => exact .node (fun _ _ _ _ => rfl) ih

/-! ## Names -/

/-- A small letter starts a name. -/
theorem isNameStart_of_isLower {c : Char} (h : c.isLower = true) : isNameStart c = true := by
  obtain ⟨hge, hle⟩ := Bool.and_eq_true_iff.mp h
  have hlow : 97 ≤ c.toNat := of_decide_eq_true hge
  have hhigh : c.toNat ≤ 122 := of_decide_eq_true hle
  simp only [isNameStart, Text.inRanges, List.any_cons, List.any_nil, Bool.or_false, Bool.or_eq_true, Bool.and_eq_true,
    decide_eq_true_eq]
  omega

/-- Words are names. -/
theorem isName_of_isWord {name : String} (h : isWord name = true) : IsName name.toList := by
  obtain ⟨c, cs, hcs, hc⟩ := exists_letter h
  refine ⟨by rw [hcs]; exact isNameStart_of_isLower hc, ?_⟩
  intro d hd
  have hword := isWordChar_of_mem h d hd
  rw [isWordChar, Bool.or_eq_true, beq_iff_eq] at hword
  rcases hword with hlower | rfl
  · rw [isNameChar, isNameStart_of_isLower hlower, Bool.true_or]
  · decide

/-! ## Escaped texts -/

/-- A text of allowed characters none of which belongs to markup. -/
def Plain (allowed : Char → Bool) (cs : List Char) : Prop :=
  ∀ c ∈ cs, allowed c = true ∧ c ≠ '<' ∧ c ≠ '&' ∧ c ≠ '>'

/-- Plain characters are character data. -/
theorem Plain.isData {cs : List Char} (h : Plain allowed cs) : IsData allowed cs := by
  refine ⟨fun c hc => (h c hc).1, fun c hc => ⟨(h c hc).2.1, (h c hc).2.2.1⟩, ?_⟩
  intro hend
  exact (h '>' (hend.subset (by decide))).2.2.2 rfl

/-- Plain characters stay plain one after the other. -/
theorem Plain.append {xs ys : List Char} (hxs : Plain allowed xs) (hys : Plain allowed ys) : Plain allowed (xs ++ ys) :=
  List.forall_mem_append.mpr ⟨hxs, hys⟩

/-- A character stands for itself and is no markup, or a reference stands for it. -/
theorem escapeChar_cases (c : Char) :
    escapeChar c = [c] ∧ c ≠ '<' ∧ c ≠ '&' ∧ c ≠ '>' ∧ c ≠ '\x22' ∨
      (∀ allowed, IsReference allowed (escapeChar c)) ∧ isLegal c = true := by
  unfold escapeChar
  split
  · exact .inr ⟨fun _ => .entity "lt" (by decide), by decide⟩
  · exact .inr ⟨fun _ => .entity "gt" (by decide), by decide⟩
  · exact .inr ⟨fun _ => .entity "amp" (by decide), by decide⟩
  · exact .inr ⟨fun _ => .entity "quot" (by decide), by decide⟩
  · exact .inr ⟨fun _ => .entity "apos" (by decide), by decide⟩
  · exact .inl ⟨rfl, by assumption, by assumption, by assumption, by assumption⟩

/-- An escaped text is content, behind any text without markup. -/
theorem derives_escape {cs : List Char} (hcs : Within allowed cs) {ds : List Char} (hds : Plain allowed ds) :
    Derives allowed .content (ds ++ cs.flatMap escapeChar) := by
  induction cs generalizing ds with
  | nil =>
    rw [List.flatMap_nil, List.append_nil]
    exact .data hds.isData
  | cons c cs ih =>
    obtain ⟨hc, hcs⟩ := within_cons.mp hcs
    rw [List.flatMap_cons]
    rcases escapeChar_cases c with ⟨heq, hlt, hamp, hgt, -⟩ | ⟨hr, -⟩
    · rw [heq, ← List.append_assoc]
      exact ih hcs (hds.append (List.forall_mem_singleton.mpr ⟨hc, hlt, hamp, hgt⟩))
    · exact .reference hds.isData (hr _) (ih hcs (List.forall_mem_nil _))

/-- An escaped text is the value of an attribute. -/
theorem isValue_escape {cs : List Char} (hcs : Within allowed cs) : IsValue allowed '\x22' (cs.flatMap escapeChar) := by
  induction cs with
  | nil => exact .nil
  | cons c cs ih =>
    obtain ⟨hc, hcs⟩ := within_cons.mp hcs
    rw [List.flatMap_cons]
    rcases escapeChar_cases c with ⟨heq, hlt, hamp, -, hquote⟩ | ⟨hr, -⟩
    · rw [heq]
      exact .char hc ⟨hlt, hamp, hquote⟩ (ih hcs)
    · exact .reference (hr _) (ih hcs)

/-- Escaping leaves every character that is not legal as it is. -/
theorem legal_of_legal_escape {s : String} (h : Within isLegal (escape s)) : Within isLegal s.toList := by
  intro c hc
  rcases escapeChar_cases c with ⟨heq, -⟩ | ⟨-, hlegal⟩
  · exact h c (List.mem_flatMap.mpr ⟨c, hc, by rw [heq]; exact List.mem_singleton_self c⟩)
  · exact hlegal

/-! ## Elements -/

/-- The attributes of an element are attributes of the grammar. -/
theorem isAttributes_flatMap {as : List (String × String)} (hkeys : ∀ a ∈ as, isWord a.1 = true)
    (hvalues : ∀ a ∈ as, Within allowed a.2.toList) :
    IsAttributes allowed (as.map fun a => a.1.toList) (as.flatMap attributeText) := by
  induction as with
  | nil => exact .nil (List.forall_mem_nil _)
  | cons a as ih =>
    obtain ⟨hkey, hkeys⟩ := List.forall_mem_cons.mp hkeys
    obtain ⟨hvalue, hvalues⟩ := List.forall_mem_cons.mp hvalues
    have hnil : IsBlank [] := List.forall_mem_nil _
    have hblank : IsBlank [' '] := List.forall_mem_singleton.mpr (by decide)
    have hcons := IsAttributes.cons hblank (List.cons_ne_nil _ _) (isName_of_isWord hkey) hnil hnil (.inl rfl)
      (isValue_escape hvalue) (ih hkeys hvalues)
    simpa [attributeText, escape] using hcons

/-- The text of an element, without its indentation and its line end, is an element of the grammar. -/
def Renders (allowed : Char → Bool) (x : Xml) : Prop :=
  ∀ depth, ∃ element, render depth x = indent depth ++ (element ++ ['\n']) ∧ Derives allowed .element element

/-- The characters between elements are allowed. -/
structure AllowsLines (allowed : Char → Bool) : Prop where
  /-- Blanks are. -/
  blank : allowed ' ' = true
  /-- Line ends are. -/
  lineEnd : allowed '\n' = true

/-- The blanks in front of an element are plain. -/
theorem AllowsLines.plain_indent (h : AllowsLines allowed) (depth : Nat) : Plain allowed (indent depth) := by
  intro c hc
  rw [List.eq_of_mem_replicate hc]
  exact ⟨h.blank, by decide, by decide, by decide⟩

/-- So is the end of a line. -/
theorem AllowsLines.plain_lineEnd (h : AllowsLines allowed) : Plain allowed ['\n'] :=
  List.forall_mem_singleton.mpr ⟨h.lineEnd, by decide, by decide, by decide⟩

/-- The texts of elements are content between blanks. -/
theorem derives_renderAll (hlines : AllowsLines allowed) {xs : List Xml} (hxs : ∀ x ∈ xs, x.Renders allowed) (depth : Nat)
    {ds ds' : List Char} (hds : Plain allowed ds) (hds' : Plain allowed ds') :
    Derives allowed .content (ds ++ (renderAll depth xs ++ ds')) := by
  induction xs generalizing ds with
  | nil => exact .data (hds.append hds').isData
  | cons x xs ih =>
    obtain ⟨hx, hxs⟩ := List.forall_mem_cons.mp hxs
    obtain ⟨element, hrender, helement⟩ := hx depth
    have hcontent := Derives.element (hds.append (hlines.plain_indent depth)).isData helement (ih hxs hlines.plain_lineEnd)
    simpa [renderAll, hrender] using hcontent

/-- Elements whose names are words and whose texts are clean are elements of the grammar. -/
theorem renders_of_clean (hlines : AllowsLines allowed) {x : Xml} (hwords : x.Worded) (hclean : x.Clean allowed) :
    x.Renders allowed := by
  have hnil : IsBlank [] := List.forall_mem_nil _
  have hnames {attributes : List (String × String)} (hdistinct : (attributes.map Prod.fst).Nodup) :
      (attributes.map fun a => a.1.toList).Nodup := by
    have hmap := List.Pairwise.map (S := (· ≠ ·)) String.toList (fun _ _ => mt String.toList_inj.mp) hdistinct
    rwa [List.map_map] at hmap
  induction hwords with
  | @leaf name text hname =>
    intro depth
    have hplain : Plain allowed [] := List.forall_mem_nil _
    have hcontent := derives_escape (clean_leaf.mp hclean) hplain
    refine ⟨_, ?_, .tags (isName_of_isWord hname) (.nil hnil) List.nodup_nil hcontent hnil⟩
    simp [render, openTag_eq, escape, closeTag]
  | @empty name attributes hname hkeys hdistinct =>
    intro depth
    have hattributes := isAttributes_flatMap hkeys (clean_empty.mp hclean)
    refine ⟨_, ?_, .empty (isName_of_isWord hname) hattributes (hnames hdistinct)⟩
    simp [render, openTag_eq]
  | @node name attributes children hname hkeys hdistinct hfull hchildren ih =>
    intro depth
    obtain ⟨hvalues, hcleans⟩ := clean_node.mp hclean
    have hattributes := isAttributes_flatMap hkeys hvalues
    have hcontent := derives_renderAll hlines (fun x hx => ih x hx (hcleans x hx)) (depth + 1) hlines.plain_lineEnd
      (hlines.plain_indent depth)
    refine ⟨_, ?_, .tags (isName_of_isWord hname) hattributes (hnames hdistinct) hcontent hnil⟩
    simp [render, openTag_eq, closeTag]

/-- Where the text of elements is legal, so is the text of each. -/
theorem legal_renderAll {xs : List Xml} {depth : Nat} (h : Within isLegal (renderAll depth xs)) :
    ∀ x ∈ xs, Within isLegal (render depth x) := by
  induction xs with
  | nil => exact List.forall_mem_nil _
  | cons x xs ih =>
    rw [renderAll, within_append] at h
    exact List.forall_mem_cons.mpr ⟨h.1, ih h.2⟩

/-- Where the text of attributes is legal, so are their values. -/
theorem legal_values {as : List (String × String)} (h : Within isLegal (as.flatMap attributeText)) :
    ∀ a ∈ as, Within isLegal a.2.toList := by
  intro a ha
  have hattribute : Within isLegal (attributeText a) := fun c hc => h c (List.mem_flatMap.mpr ⟨a, ha, hc⟩)
  simp only [attributeText, within_append] at hattribute
  exact legal_of_legal_escape hattribute.1.2

/-- An element with only legal characters in its text has only legal ones in its texts and values. -/
theorem clean_of_legal {x : Xml} (hwords : x.Worded) {depth : Nat} (h : Within isLegal (render depth x)) :
    x.Clean isLegal := by
  induction hwords generalizing depth with
  | @leaf name text hname =>
    rw [render_eq] at h
    simp only [behindTag, within_append, within_cons] at h
    obtain ⟨-, -, -, htext, -⟩ := h
    exact .leaf (legal_of_legal_escape htext)
  | @empty name attributes hname hkeys hdistinct =>
    rw [render_eq] at h
    simp only [openTag_eq, within_append, within_cons] at h
    obtain ⟨-, ⟨-, hattributes⟩, -⟩ := h
    exact .empty (legal_values hattributes)
  | @node name attributes children hname hkeys hdistinct hfull hchildren ih =>
    rw [render_eq] at h
    simp only [openTag_eq, behindTag, within_append, within_cons] at h
    obtain ⟨-, ⟨-, hattributes⟩, -, -, hlegal, -⟩ := h
    exact .node (legal_values hattributes) fun x hx => ih x hx (legal_renderAll hlegal x hx)

/-- A clean element makes a document. -/
theorem isDocument_of_clean (hlines : AllowsLines allowed) {x : Xml} (hwords : x.Worded) (hclean : x.Clean allowed) :
    IsDocument allowed x.document.toList := by
  have hdeclaration : declaration.toList = "<?xml version=\"1.0\" encoding=\"UTF-8\"?>".toList ++ ['\n'] := by decide
  obtain ⟨element, hrender, helement⟩ := renders_of_clean hlines hwords hclean 0
  have hline : IsMargin allowed ['\n'] := .blank (by decide) .nil
  refine ⟨['\n'], element, ['\n'], ?_, hline, helement, hline⟩
  rw [document, String.toList_append, String.toList_ofList, hdeclaration, List.append_assoc, hrender, indent, Nat.mul_zero,
    List.replicate_zero, List.nil_append]

/-- Whatever its texts hold, the text of an element whose names are words is a document but for its characters. -/
theorem isDocument_true {x : Xml} (hwords : x.Worded) : IsDocument (fun _ => true) x.document.toList :=
  isDocument_of_clean ⟨rfl, rfl⟩ hwords hwords.clean

/-- The element of a well-formed document has only legal characters in its text. -/
theorem IsDocument.legal_render {x : Xml} (h : IsDocument isLegal x.document.toList) : Within isLegal (render 0 x) := by
  have hlegal := h.legal
  rw [document, String.toList_append, String.toList_ofList, within_append] at hlegal
  exact hlegal.2

/-- The text of an element whose names are words is a well-formed document when the texts and values in it are legal. -/
theorem isDocument_iff {x : Xml} (hwords : x.Worded) : IsDocument isLegal x.document.toList ↔ x.Clean isLegal := by
  constructor
  · exact fun h => clean_of_legal hwords h.legal_render
  · exact isDocument_of_clean ⟨by decide, by decide⟩ hwords

end Xml

/-! ## Records -/

namespace Json

mutual

/-- The strings in a value. -/
def strings : Json → List String
  | .text s => [s]
  | .array items => stringsOfItems items
  | .object members => stringsOfMembers members
  | .null | .bool _ | .whole _ | .real _ | .unreadable => []

/-- The strings in the items of an array. -/
def stringsOfItems : List Json → List String
  | [] => []
  | v :: vs => strings v ++ stringsOfItems vs

/-- The strings in the members of an object. -/
def stringsOfMembers : List (String × Json) → List String
  | [] => []
  | (_, v) :: ms => strings v ++ stringsOfMembers ms

end

/-- The characters of numbers are legal. -/
theorem WrittenNumber.legal {cs : List Char} (h : WrittenNumber cs) : Xml.Within Xml.isLegal cs := by
  have hdigits {ds : List Char} (hds : IsDigits ds) : Xml.Within Xml.isLegal ds := by
    intro c hc
    exact Xml.isLegal_of_isDigit (hds.2 c hc)
  have hnil : Xml.Within Xml.isLegal [] := List.forall_mem_nil _
  cases h with
  | @parts sign whole fraction exponent hsign hwhole hfraction hexponent =>
    simp only [Xml.within_append]
    refine ⟨?_, hdigits hwhole, ?_, ?_⟩
    · rcases hsign with rfl | rfl <;> decide
    · cases hfraction with
      | none => exact hnil
      | some hds => exact Xml.within_cons.mpr ⟨by decide, hdigits hds⟩
    · cases hexponent with
      | none => exact hnil
      | some hsign hds =>
        refine Xml.within_cons.mpr ⟨by decide, Xml.within_cons.mpr ⟨?_, hdigits hds⟩⟩
        rcases hsign with rfl | rfl <;> decide

/-- The text of a number is legal. -/
theorem legal_doubleText (x : Number.Double) : Xml.Within Xml.isLegal (doubleText x).toList := by
  rcases doubleText_written x with hnull | hnumber
  · rw [hnull]
    decide
  · exact hnumber.legal

/-- So is the text of an integer. -/
theorem legal_integerText (n : Int) : Xml.Within Xml.isLegal (integerText n).toList := (integerText_written n).legal

end Json

namespace Xml

mutual

/-- The elements of a value are clean when its strings are legal. -/
theorem clean_ofJson (name : String) :
    (v : Json) → ((∀ x ∈ ofJson name v, x.Clean isLegal) ↔ ∀ s ∈ v.strings, Within isLegal s.toList)
  | .null => by simp [ofJson, Json.strings]
  | .unreadable => by simp [ofJson, Json.strings]
  | .bool b => by cases b <;> simp [ofJson, Json.strings, clean_leaf] <;> decide
  | .whole n => by simp [ofJson, Json.strings, clean_leaf, Json.legal_integerText]
  | .real d => by simp [ofJson, Json.strings, clean_leaf, Json.legal_doubleText]
  | .text s => by simp [ofJson, Json.strings, clean_leaf]
  | .array [] => by simp [ofJson, Json.strings, Json.stringsOfItems, clean_empty]
  | .array (v :: vs) => by
    simpa [ofJson, Json.strings, clean_node] using clean_ofItems (singular name) (v :: vs)
  | .object members => by
    simpa [ofJson, Json.strings, clean_node] using clean_ofMembers members

/-- The elements of an array are clean exactly where the strings of its items are legal. -/
theorem clean_ofItems (name : String) :
    (vs : List Json) → ((∀ x ∈ ofItems name vs, x.Clean isLegal) ↔ ∀ s ∈ Json.stringsOfItems vs, Within isLegal s.toList)
  | [] => by simp [ofItems, Json.stringsOfItems]
  | v :: vs => by
    rw [ofItems, Json.stringsOfItems, List.forall_mem_append, List.forall_mem_append, clean_ofJson, clean_ofItems]

/-- The elements of an object are clean exactly where the strings of its members are legal. -/
theorem clean_ofMembers :
    (ms : List (String × Json)) →
      ((∀ x ∈ ofMembers ms, x.Clean isLegal) ↔ ∀ s ∈ Json.stringsOfMembers ms, Within isLegal s.toList)
  | [] => by simp [ofMembers, Json.stringsOfMembers]
  | (name, v) :: ms => by
    rw [ofMembers, Json.stringsOfMembers, List.forall_mem_append, List.forall_mem_append, clean_ofJson, clean_ofMembers]

end

end Xml

namespace Payload

/-- The strings of the records. -/
def strings (payload : Payload) : List String := payload.items.flatMap fun item => item.toJson.strings

/-- The tokens of a page. -/
def tokens : Payload → List String
  | .page _ _ info => info.page :: info.nextPage.toList
  | _ => []

end Payload

namespace XmlDocument

open Xml

/-- The element of a record is clean exactly where the strings of the record are legal. -/
theorem clean_recordElement (kind : Kind) (item : Entity) :
    (recordElement kind item).Clean isLegal ↔ ∀ s ∈ item.toJson.strings, Within isLegal s.toList := by
  rw [recordElement, clean_node, clean_ofMembers, item.toJson_eq, Json.strings]
  simp

/-- That of a collection is clean exactly where the values of its attributes and the strings of its records are legal. -/
theorem clean_collection (kind : Kind) (items : List Entity) (attributes : List (String × String)) :
    (collection kind items attributes).Clean isLegal ↔ (∀ a ∈ attributes, Within isLegal a.2.toList) ∧
      ∀ s ∈ items.flatMap fun item => item.toJson.strings, Within isLegal s.toList := by
  rw [collection_eq]
  cases items with
  | nil => simp [clean_empty]
  | cons item items =>
    rw [List.isEmpty_cons, if_neg Bool.false_ne_true, clean_node, List.forall_mem_map]
    simp only [clean_recordElement, List.forall_mem_flatMap]

/-- Of the paging fields only the tokens can hold characters that are not legal. -/
theorem legal_pageAttributes (info : PageInfo) :
    (∀ a ∈ pageAttributes info, Within isLegal a.2.toList) ↔
      ∀ s ∈ info.page :: info.nextPage.toList, Within isLegal s.toList := by
  have hnumeral (n : Nat) : Within isLegal (Text.numeral n).toList := by
    rw [Text.numeral, String.toList_ofList]
    exact fun c hc => isLegal_of_isDigit (Text.isDigit_of_mem_decimal hc)
  have htotal : ∀ s ∈ info.totalText.toList, Within isLegal s.toList := by
    unfold PageInfo.totalText
    cases info.total with
    | none => simp
    | some total => exact List.forall_mem_singleton.mpr (hnumeral total.toNat)
  simp only [pageAttributes, List.forall_mem_append, List.forall_mem_map, List.forall_mem_cons]
  constructor
  · rintro ⟨⟨⟨⟨hpage, -⟩, hnext⟩, -⟩, -⟩
    exact ⟨hpage, hnext⟩
  · rintro ⟨hpage, hnext⟩
    exact ⟨⟨⟨⟨hpage, by simp⟩, hnext⟩, htotal⟩, hnumeral _, by simp⟩

/-- The element of one record is clean when the strings of the record are legal. -/
theorem clean_one_iff (kind : Kind) (item : Entity) :
    (recordElement kind item).Clean isLegal ↔ ∀ s ∈ (Payload.one item).strings, Within isLegal s.toList := by
  rw [clean_recordElement, Payload.strings, Payload.items, List.flatMap_singleton]

/-- A collection without attributes is clean when the strings of its records are legal. -/
theorem clean_collection_nil_iff (kind : Kind) (items : List Entity) :
    (collection kind items []).Clean isLegal ↔
      ∀ s ∈ items.flatMap fun item => item.toJson.strings, Within isLegal s.toList := by
  rw [clean_collection]
  exact and_iff_right (List.forall_mem_nil _)

/-- The element of version 1 is clean exactly where the strings of the records are legal. -/
theorem clean_root1_iff (payload : Payload) :
    (root1 payload).Clean isLegal ↔ ∀ s ∈ payload.strings, Within isLegal s.toList := by
  cases payload with
  | one item =>
    cases item with
    | office o => exact clean_collection_nil_iff _ _
    | location l => exact clean_one_iff _ _
    | ratingTemplate t => exact clean_one_iff _ _
    | waterUser u => exact clean_one_iff _ _
  | many kind items => exact clean_collection_nil_iff _ _
  | page kind items info => exact clean_collection_nil_iff _ _

/-- That of version 2 is clean exactly where the strings of the records and the tokens are legal. -/
theorem clean_root2_iff (payload : Payload) :
    (root2 payload).Clean isLegal ↔ ∀ s ∈ payload.strings ++ payload.tokens, Within isLegal s.toList := by
  cases payload with
  | one item =>
    show _ ↔ ∀ s ∈ (Payload.one item).strings ++ [], Within isLegal s.toList
    rw [List.append_nil]
    exact clean_one_iff _ _
  | many kind items =>
    show _ ↔ ∀ s ∈ (Payload.many kind items).strings ++ [], Within isLegal s.toList
    rw [List.append_nil]
    exact clean_collection_nil_iff _ _
  | page kind items info =>
    rw [root2, clean_collection, legal_pageAttributes, List.forall_mem_append]
    exact and_comm

/-- Every document is one but for its characters: whatever the strings of the records and the tokens are, there is the
declaration and one element, tags match and nest, attributes have different names, and no text or value holds markup. It is
well-formed exactly when these strings and, in version 2, the tokens hold legal characters only. -/
theorem isDocument_iff_legal {payload : Payload} (hkind : payload.kind ∈ kinds) :
    (∃ document, formatter1.format payload = .ok document ∧ IsDocument (fun _ => true) document.toList ∧
        (IsDocument isLegal document.toList ↔ ∀ s ∈ payload.strings, Within isLegal s.toList)) ∧
      ∃ document, formatter2.format payload = .ok document ∧ IsDocument (fun _ => true) document.toList ∧
        (IsDocument isLegal document.toList ↔ ∀ s ∈ payload.strings ++ payload.tokens, Within isLegal s.toList) := by
  have hwords1 := root1_worded payload
  have hwords2 := root2_worded payload
  exact ⟨⟨_, format1_eq hkind, isDocument_true hwords1, (isDocument_iff hwords1).trans (clean_root1_iff payload)⟩,
    ⟨_, format2_eq hkind, isDocument_true hwords2, (isDocument_iff hwords2).trans (clean_root2_iff payload)⟩⟩

/-- A page of an office whose strings hold markup. -/
def markupOffice : Payload :=
  .page .office [.office { name := "SWT", longName := "Tulsa & <District>", officeType := "DIS", reportsTo := none }]
    { page := "\"0\"", nextPage := none, total := some 1, pageSize := 20 }

theorem isDocument_iff_legal_markupOffice :
    markupOffice.kind ∈ kinds ∧ ∃ document, formatter2.format markupOffice = .ok document ∧
      IsDocument isLegal document.toList := by
  have hkind : markupOffice.kind ∈ kinds := by decide
  obtain ⟨-, document, hformat, -, hiff⟩ := isDocument_iff_legal hkind
  exact ⟨hkind, document, hformat, hiff.mpr (by decide +kernel)⟩

/-- A location whose name ends in a control character. -/
def controlLocation : Payload :=
  .one (.location
    { officeId := "SWT", name := "KEYS\x01", latitude := none, longitude := none, horizontalDatum := none, timezoneName := none
      locationKind := none, publicName := none, active := true, aliases := [] })

/-- Neither version keeps a control character out of its documents, and no document may hold one. -/
theorem not_isDocument_controlLocation :
    controlLocation.kind ∈ kinds ∧ ∀ formatter ∈ [formatter1, formatter2], ∃ document,
      formatter.format controlLocation = .ok document ∧ ¬ IsDocument isLegal document.toList := by
  have hkind : controlLocation.kind ∈ kinds := by decide
  have hillegal : ¬ Within isLegal (render 0 (root2 controlLocation)) := by decide +kernel
  refine ⟨hkind, List.forall_mem_cons.mpr ⟨?_, List.forall_mem_singleton.mpr ?_⟩⟩
  · exact ⟨_, format1_eq hkind, fun h => hillegal h.legal_render⟩
  · exact ⟨_, format2_eq hkind, fun h => hillegal h.legal_render⟩

end XmlDocument

end BasinRegister
