import BasinRegister.Format.XmlDocument

/-!
# The trees of documents

An XML document is the text of one element (`XmlDocument.format1_eq`, `XmlDocument.format2_eq`). Whatever the strings of its
records are, the names of its elements and attributes are words, the attributes of an element have different names, and two tags
always have something between them (`XmlDocument.root1_worded`, `XmlDocument.root2_worded`): all names come from the register,
none from the records.
-/

namespace BasinRegister

open Json (member?)

namespace Xml

/-- The name of an element. -/
def name : Xml → String
  | .leaf name _ => name
  | .empty name _ => name
  | .node name _ _ => name

/-- The attributes of an element. -/
def attributes : Xml → List (String × String)
  | .leaf _ _ => []
  | .empty _ attributes => attributes
  | .node _ attributes _ => attributes

/-- Whether a name is a word: lower-case letters and hyphens behind a letter. -/
def isWord (name : String) : Bool :=
  name.toList.head?.any Char.isLower && name.toList.all fun c => c.isLower || c == '-'

/-- The names of an element and of those in it are words, the attributes of each have different names, and an element of
elements has some. -/
inductive Worded : Xml → Prop where
  /-- An element with a text. -/
  | leaf {name text : String} (hname : isWord name = true) : Worded (.leaf name text)
  /-- A single tag. -/
  | empty {name : String} {attributes : List (String × String)} (hname : isWord name = true)
      (hkeys : ∀ a ∈ attributes, isWord a.1 = true) (hdistinct : (attributes.map Prod.fst).Nodup) :
      Worded (.empty name attributes)
  /-- An element of elements. -/
  | node {name : String} {attributes : List (String × String)} {children : List Xml} (hname : isWord name = true)
      (hkeys : ∀ a ∈ attributes, isWord a.1 = true) (hdistinct : (attributes.map Prod.fst).Nodup)
      (hfull : children ≠ []) (hchildren : ∀ x ∈ children, Worded x) : Worded (.node name attributes children)

/-- The name of the element is a word. -/
theorem Worded.name {x : Xml} (hx : x.Worded) : isWord x.name = true := by
  cases hx with
  | leaf hname => exact hname
  | empty hname _ _ => exact hname
  | node hname _ _ _ _ => exact hname

/-- The names of its attributes are words. -/
theorem Worded.attributes {x : Xml} (hx : x.Worded) : ∀ a ∈ x.attributes, isWord a.1 = true := by
  cases hx with
  | leaf _ => exact fun a ha => absurd ha List.not_mem_nil
  | empty _ hkeys _ => exact hkeys
  | node _ hkeys _ _ _ => exact hkeys

/-- The elements of a JSON value under a name have words for names. -/
def OfWords (name : String) (v : Json) : Prop := ∀ x ∈ ofJson name v, x.Worded

/-! ## Elements of JSON values -/

variable {name : String}

/-- A string makes an element of its name. -/
theorem ofWords_text (hname : isWord name = true) (s : String) : OfWords name (.text s) := by
  intro x hx
  rw [List.mem_singleton.mp hx]
  exact .leaf hname

/-- So does a truth value. -/
theorem ofWords_bool (hname : isWord name = true) (b : Bool) : OfWords name (.bool b) := by
  intro x hx
  rw [List.mem_singleton.mp hx]
  exact .leaf hname

/-- So does a double, unless it is left out. -/
theorem ofWords_ofDouble (hname : isWord name = true) (d : Number.Double) : OfWords name (.ofDouble d) := by
  intro x hx
  unfold Json.ofDouble at hx
  split at hx
  · rw [List.mem_singleton.mp hx]
    exact .leaf hname
  · cases hx

/-- The elements of items are those of each. -/
theorem mem_ofItems {x : Xml} {vs : List Json} : x ∈ ofItems name vs ↔ ∃ v ∈ vs, x ∈ ofJson name v := by
  induction vs with
  | nil => simp [ofItems]
  | cons v vs ih => simp [ofItems, ih]

/-- The elements of members are those of each. -/
theorem mem_ofMembers {x : Xml} {ms : List (String × Json)} : x ∈ ofMembers ms ↔ ∃ m ∈ ms, x ∈ ofJson m.1 m.2 := by
  induction ms with
  | nil => simp [ofMembers]
  | cons m ms ih => simp [ofMembers, ih]

/-- An array has words for names when its items have them under the singular and none of them is left out. -/
theorem ofWords_array {vs : List Json} (hname : isWord name = true)
    (h : ∀ v ∈ vs, OfWords (singular name) v ∧ ofJson (singular name) v ≠ []) : OfWords name (.array vs) := by
  intro x hx
  cases vs with
  | nil =>
    rw [List.mem_singleton.mp hx]
    exact .empty hname (by simp) (by simp)
  | cons v vs =>
    rw [List.mem_singleton.mp hx]
    refine .node hname (by simp) (by simp) ?_ ?_
    · rw [ofItems]
      exact List.append_ne_nil_of_left_ne_nil (h v List.mem_cons_self).2 _
    · intro y hy
      obtain ⟨w, hw, hy⟩ := mem_ofItems.mp hy
      exact (h w hw).1 y hy

/-- An object has words for names when its members have them and are not all left out. -/
theorem ofWords_object {ms : List (String × Json)} (hname : isWord name = true) (hfull : ofMembers ms ≠ [])
    (h : ∀ m ∈ ms, OfWords m.1 m.2) : OfWords name (.object ms) := by
  intro x hx
  rw [List.mem_singleton.mp hx]
  refine .node hname (by simp) (by simp) hfull ?_
  intro y hy
  obtain ⟨m, hm, hy⟩ := mem_ofMembers.mp hy
  exact h m hm y hy

/-- Strings make elements under the singular of their name. -/
theorem ofWords_texts {xs : List String} (hname : isWord name = true) (hsingular : isWord (singular name) = true) :
    OfWords name (.ofTexts xs) := by
  refine ofWords_array hname ?_
  intro v hv
  obtain ⟨s, -, rfl⟩ := List.mem_map.mp hv
  exact ⟨ofWords_text hsingular s, List.cons_ne_nil _ _⟩

/-- A member that may be missing has words for names if its value has them whenever it is there. -/
theorem ofWords_member? {α : Type} {write : α → Json} (h : ∀ a, OfWords name (write a)) (v : Option α) :
    ∀ m ∈ member? name (v.map write), OfWords m.1 m.2 := by
  cases v with
  | none => exact fun m hm => absurd hm (List.not_mem_nil)
  | some a => exact List.forall_mem_singleton.mpr (h a)

end Xml

/-! ## Elements of records -/

namespace Entity

open Xml

/-- The members of the record as a JSON object. -/
def members (item : Entity) : List (String × Json) :=
  match item.toJson with
  | .object ms => ms
  | _ => []

/-- A record is written as an object. -/
theorem toJson_eq (item : Entity) : item.toJson = .object item.members := by
  cases item <;> rfl

/-- No record is without elements. -/
theorem ofMembers_ne_nil (item : Entity) : ofMembers item.members ≠ [] := by
  cases item <;> exact List.cons_ne_nil _ _

/-- The names in a record are words. -/
theorem ofWords_members (item : Entity) : ∀ m ∈ item.members, OfWords m.1 m.2 := by
  cases item with
  | office o =>
    simp only [members, toJson, Office.toJson, List.forall_mem_append, List.forall_mem_cons, List.not_mem_nil, false_imp_iff,
      implies_true, and_true, and_assoc]
    exact ⟨ofWords_text rfl _, ofWords_text rfl _, ofWords_member? (ofWords_text rfl) _, ofWords_text rfl _⟩
  | location l =>
    simp only [members, toJson, Location.toJson, List.forall_mem_append, List.forall_mem_cons, List.not_mem_nil, false_imp_iff,
      implies_true, and_true, and_assoc]
    exact ⟨ofWords_bool rfl _, ofWords_texts rfl rfl, ofWords_member? (ofWords_text rfl) _,
      ofWords_member? (ofWords_ofDouble rfl) _, ofWords_member? (ofWords_text rfl) _, ofWords_member? (ofWords_ofDouble rfl) _,
      ofWords_text rfl _, ofWords_text rfl _, ofWords_member? (ofWords_text rfl) _, ofWords_member? (ofWords_text rfl) _⟩
  | ratingTemplate t =>
    have hspec (s : ParameterSpec) : OfWords (singular "independent-parameter-specs") s.toJson := by
      refine ofWords_object rfl (List.cons_ne_nil _ _) ?_
      simp only [List.forall_mem_cons, List.not_mem_nil, false_imp_iff, implies_true, and_true]
      exact ⟨ofWords_text rfl _, ofWords_text rfl _, ofWords_text rfl _, ofWords_text rfl _⟩
    simp only [members, toJson, RatingTemplate.toJson, List.forall_mem_append, List.forall_mem_cons, List.not_mem_nil,
      false_imp_iff, implies_true, and_true, and_assoc]
    exact ⟨ofWords_text rfl _, ofWords_member? (ofWords_text rfl) _, ofWords_text rfl _,
      ofWords_array rfl (List.forall_mem_map.mpr fun s _ => ⟨hspec s, List.cons_ne_nil _ _⟩), ofWords_text rfl _, ofWords_texts rfl rfl,
      ofWords_text rfl _⟩
  | waterUser u =>
    have hproject : OfWords "project-id" u.projectId.toJson := by
      refine ofWords_object rfl (List.cons_ne_nil _ _) ?_
      simp only [List.forall_mem_cons, List.not_mem_nil, false_imp_iff, implies_true, and_true]
      exact ⟨ofWords_text rfl _, ofWords_text rfl _⟩
    simp only [members, toJson, WaterUser.toJson, List.forall_mem_append, List.forall_mem_cons, List.not_mem_nil, false_imp_iff,
      implies_true, and_true, and_assoc]
    exact ⟨ofWords_text rfl _, hproject, ofWords_member? (ofWords_text rfl) _⟩

end Entity

namespace XmlDocument

open Xml

/-! ## Roots -/

/-- The element of a record of a payload of some kind. -/
def recordElement (kind : Kind) (item : Entity) : Xml :=
  .node kind.element [] (ofMembers item.members)

/-- The root element of version 1. -/
def root1 (payload : Payload) : Xml :=
  match payload with
  | .one (.office o) => collection .office [.office o] []
  | .one item => recordElement item.kind item
  | _ => collection payload.kind payload.items []

/-- The root element of version 2. -/
def root2 : Payload → Xml
  | .one item => recordElement item.kind item
  | .many kind items => collection kind items []
  | .page kind items info => collection kind items (pageAttributes info)

/-- A record makes one element. -/
theorem record_eq (kind : Kind) (item : Entity) : record kind item = [recordElement kind item] := by
  rw [record, item.toJson_eq]
  rfl

/-- A collection of records is the element of theirs. -/
theorem collection_eq (kind : Kind) (items : List Entity) (attributes : List (String × String)) :
    collection kind items attributes =
      if items.isEmpty then .empty kind.plural attributes
      else .node kind.plural attributes (items.map (recordElement kind)) := by
  have hrecords : items.flatMap (record kind) = items.map (recordElement kind) := by
    rw [List.map_eq_flatMap]
    exact congrArg (List.flatMap · items) (funext (record_eq kind))
  rw [collection, hrecords]

/-- A collection is named after its kind, also where it is a single tag. -/
theorem name_collection (kind : Kind) (items : List Entity) (attributes : List (String × String)) :
    (collection kind items attributes).name = kind.plural := by
  cases items with
  | nil => rfl
  | cons item items => rfl

/-- A collection has the attributes it is given. -/
theorem attributes_collection (kind : Kind) (items : List Entity) (attributes : List (String × String)) :
    (collection kind items attributes).attributes = attributes := by
  cases items with
  | nil => rfl
  | cons item items => rfl

/-- Version 1 has one root element. -/
theorem version1_eq (payload : Payload) : version1 payload = [root1 payload] := by
  cases payload with
  | one item =>
    cases item with
    | office o => rfl
    | location l => exact record_eq _ _
    | ratingTemplate t => exact record_eq _ _
    | waterUser u => exact record_eq _ _
  | many kind items => cases kind <;> rfl
  | page kind items info => cases kind <;> rfl

/-- Version 2 has one root element. -/
theorem version2_eq (payload : Payload) : version2 payload = [root2 payload] := by
  cases payload with
  | one item => exact record_eq _ _
  | many kind items => rfl
  | page kind items info => rfl

/-- The text of one root element is its document. -/
theorem text_singleton (root : Xml) : text [root] = root.document := by
  rw [text, document, renderAll, renderAll, List.append_nil]

/-- The document of version 1 is the text of its root element. -/
theorem format1_eq {payload : Payload} (hkind : payload.kind ∈ kinds) :
    formatter1.format payload = .ok (root1 payload).document := by
  rw [← text_singleton, ← version1_eq]
  exact if_pos (List.contains_iff_mem.mpr hkind)

/-- The document of version 2 is the text of its root element. -/
theorem format2_eq {payload : Payload} (hkind : payload.kind ∈ kinds) :
    formatter2.format payload = .ok (root2 payload).document := by
  rw [← text_singleton, ← version2_eq]
  exact if_pos (List.contains_iff_mem.mpr hkind)

/-- The names in the element of a record are words. -/
theorem recordElement_worded (kind : Kind) (item : Entity) : (recordElement kind item).Worded := by
  refine .node (by cases kind <;> rfl) (by simp) (by simp) item.ofMembers_ne_nil ?_
  intro x hx
  obtain ⟨m, hm, hx⟩ := mem_ofMembers.mp hx
  exact item.ofWords_members m hm x hx

/-- Those in a collection are if those of its attributes are. -/
theorem collection_worded (kind : Kind) (items : List Entity) {attributes : List (String × String)}
    (hkeys : ∀ a ∈ attributes, isWord a.1 = true) (hdistinct : (attributes.map Prod.fst).Nodup) :
    (collection kind items attributes).Worded := by
  have hname : isWord kind.plural = true := by cases kind <;> rfl
  rw [collection_eq]
  cases items with
  | nil => exact .empty hname hkeys hdistinct
  | cons item items =>
    exact .node hname hkeys hdistinct (List.cons_ne_nil _ _)
      (List.forall_mem_map.mpr fun item _ => recordElement_worded kind item)

/-- The paging fields are attributes of different names. -/
theorem pageAttributes_worded (info : PageInfo) :
    (∀ a ∈ pageAttributes info, isWord a.1 = true) ∧ ((pageAttributes info).map Prod.fst).Nodup := by
  have hkeys : List.Sublist ((pageAttributes info).map Prod.fst) ["page", "next-page", "total", "page-size"] := by
    unfold pageAttributes
    cases info.nextPage <;> cases info.totalText <;> simp
  have hwords : ∀ key ∈ ["page", "next-page", "total", "page-size"], isWord key = true := by decide
  refine ⟨?_, hkeys.nodup (by decide)⟩
  intro a ha
  exact hwords a.1 (hkeys.subset (List.mem_map_of_mem ha))

/-- The names in a document of version 1 are words. -/
theorem root1_worded (payload : Payload) : (root1 payload).Worded := by
  unfold root1
  split
  · exact collection_worded _ _ (by simp) (by simp)
  · exact recordElement_worded _ _
  · exact collection_worded _ _ (by simp) (by simp)

/-- The names in a document of version 2 are words. -/
theorem root2_worded (payload : Payload) : (root2 payload).Worded := by
  cases payload with
  | one item => exact recordElement_worded _ _
  | many kind items => exact collection_worded _ _ (by simp) (by simp)
  | page kind items info =>
    obtain ⟨hkeys, hdistinct⟩ := pageAttributes_worded info
    exact collection_worded _ _ hkeys hdistinct

end XmlDocument

end BasinRegister
