import BasinRegister.Proofs.Format.XmlReading
import BasinRegister.Proofs.Number.Notation

/-!
# XML documents lose nothing

Every field of an office or a location stands in an element of its own name, and the paging fields stand in attributes, so the
root element of a document of version 2 tells its payload. As its text tells the root element, there is a decoder for these
documents (`XmlDocument.format2_decodable`). A coordinate that is not finite is left out of a document like one that is missing;
apart from that, no field is lost.
-/

namespace BasinRegister

open Number (Double)

namespace Json

/-- The text of the element of a value, where that has a text. -/
def leafText? : Json → Option String
  | .bool b => some (if b then "true" else "false")
  | .whole n => some (integerText n)
  | .real x => some (doubleText x)
  | .text s => some s
  | _ => none

@[simp] theorem leafText?_text (s : String) : leafText? (.text s) = some s := rfl

@[simp] theorem leafText?_bool (b : Bool) : leafText? (.bool b) = some (if b then "true" else "false") := rfl

/-- The words for the truth values are different. -/
theorem bool_leafText?_inj {b b' : Bool} (h : (if b then "true" else "false") = if b' then "true" else "false") : b = b' := by
  cases b <;> cases b' <;> first | rfl | exact absurd h (by decide)

@[simp] theorem leafText?_ofTexts (xs : List String) : leafText? (ofTexts xs) = none := rfl

/-- Strings that may be missing stand in elements as they are. -/
@[simp] theorem text_leafText? (v : Option String) : ((v.map Json.text).bind fun w => w.leafText?) = v := by
  cases v <;> rfl

/-- A search in a member that may be absent is a search in its value. -/
theorem findSome?_member? {α : Type} (name : String) (v : Option Json) (f : String × Json → Option α) :
    (member? name v).findSome? f = v.bind fun w => f (name, w) := by
  cases v with
  | none => rfl
  | some w => exact List.findSome?_singleton

/-- Finite doubles that may be missing have the same texts only if they are the same. -/
theorem ofDouble_leafText?_inj {x y : Option Double} (hx : ∀ d ∈ x, d.isFinite = true) (hy : ∀ d ∈ y, d.isFinite = true)
    (h : (x.map ofDouble).bind leafText? = (y.map ofDouble).bind leafText?) : x = y := by
  have htext {z : Option Double} (hz : ∀ d ∈ z, d.isFinite = true) :
      (z.map ofDouble).bind leafText? = z.map doubleText := by
    cases z with
    | none => rfl
    | some d => simp [ofDouble, hz d rfl, leafText?]
  rw [htext hx, htext hy] at h
  cases x with
  | none => exact (Option.map_eq_none_iff.mp h.symm).symm
  | some d =>
    cases y with
    | none => cases h
    | some e => rw [doubleText_inj (hx d rfl) (hy e rfl) (Option.some.inj h)]

end Json

namespace Xml

/-- The text of an element that has a text and a name. -/
def textOf? (name : String) : Xml → Option String
  | .leaf name' text => if name' = name then some text else none
  | .empty _ _ => none
  | .node _ _ _ => none

/-- The texts in an element that has elements and a name; a single tag has none. -/
def textsIn? (name : String) : Xml → Option (List String)
  | .empty name' _ => if name' = name then some [] else none
  | .node name' _ children => if name' = name then some (children.filterMap (textOf? (singular name))) else none
  | .leaf _ _ => none

/-- The text of an element is found under its own name only. -/
theorem textOf?_ofJson (name name' : String) (v : Json) :
    (ofJson name' v).findSome? (textOf? name) = if name' = name then v.leafText? else none := by
  cases v with
  | array items => cases items <;> simp [ofJson, textOf?, Json.leafText?]
  | _ => simp [ofJson, textOf?, Json.leafText?]

/-- The texts of a list are found under its name, where it is a single tag too. -/
theorem textsIn?_ofTexts (name : String) (xs : List String) :
    (ofJson name (.ofTexts xs)).findSome? (textsIn? name) = some xs := by
  have hitems : ofItems (singular name) (xs.map .text) = xs.map (.leaf (singular name)) := by
    induction xs with
    | nil => rfl
    | cons x xs ih => rw [List.map_cons, ofItems, ih]; rfl
  cases xs with
  | nil => simp [Json.ofTexts, ofJson, textsIn?]
  | cons x xs =>
    rw [Json.ofTexts, ofJson, List.map_cons, List.isEmpty_cons, if_neg Bool.false_ne_true, List.findSome?_singleton, textsIn?,
      if_pos rfl, ← List.map_cons, hitems]
    simp [textOf?, Function.comp_def]

/-- A search in the elements of members is a search member by member. -/
theorem findSome?_ofMembers {α : Type} (f : Xml → Option α) (ms : List (String × Json)) :
    (ofMembers ms).findSome? f = ms.findSome? fun m => (ofJson m.1 m.2).findSome? f := by
  induction ms with
  | nil => rfl
  | cons m ms ih =>
    rw [ofMembers, List.findSome?_append, ih, List.findSome?_cons]
    cases (ofJson m.1 m.2).findSome? f <;> rfl

end Xml

namespace Office

/-- The elements of an office tell its fields. -/
theorem eq_of_elements {o o' : Office}
    (h : Xml.ofMembers (Entity.office o).members = Xml.ofMembers (Entity.office o').members) : o = o' := by
  have hfield (name : String) := congrArg (List.findSome? (Xml.textOf? name)) h
  simp only [Xml.findSome?_ofMembers, Xml.textOf?_ofJson, Entity.members, Entity.toJson, toJson, List.findSome?_append,
    List.findSome?_cons, List.findSome?_nil, Json.findSome?_member?] at hfield
  have hname : o.name = o'.name := by simpa using hfield "name"
  have hlongName : o.longName = o'.longName := by simpa using hfield "long-name"
  have hofficeType : o.officeType = o'.officeType := by simpa using hfield "type"
  have hreportsTo : o.reportsTo = o'.reportsTo := by simpa using hfield "reports-to"
  cases o
  simp_all

end Office

namespace Location

/-- The coordinates of a location are finite if they are there. -/
def Placed (l : Location) : Prop := (∀ x ∈ l.latitude, x.isFinite = true) ∧ ∀ x ∈ l.longitude, x.isFinite = true

/-- The elements of a location tell its fields. -/
theorem eq_of_elements {l l' : Location} (hl : l.Placed) (hl' : l'.Placed)
    (h : Xml.ofMembers (Entity.location l).members = Xml.ofMembers (Entity.location l').members) : l = l' := by
  have hfield (name : String) := congrArg (List.findSome? (Xml.textOf? name)) h
  have htexts := congrArg (List.findSome? (Xml.textsIn? "aliases")) h
  simp only [Xml.findSome?_ofMembers, Xml.textOf?_ofJson, Entity.members, Entity.toJson, toJson, List.findSome?_append,
    List.findSome?_cons, List.findSome?_nil, Json.findSome?_member?] at hfield htexts
  have hactive : l.active = l'.active := Json.bool_leafText?_inj (by simpa using hfield "active")
  have haliases : l.aliases = l'.aliases := by
    simp only [Xml.textsIn?_ofTexts] at htexts
    simpa [Xml.ofJson, Xml.textsIn?] using htexts
  have hhorizontalDatum : l.horizontalDatum = l'.horizontalDatum := by simpa using hfield "horizontal-datum"
  have hlatitude : l.latitude = l'.latitude := Json.ofDouble_leafText?_inj hl.1 hl'.1 (by simpa using hfield "latitude")
  have hlocationKind : l.locationKind = l'.locationKind := by simpa using hfield "location-kind"
  have hlongitude : l.longitude = l'.longitude := Json.ofDouble_leafText?_inj hl.2 hl'.2 (by simpa using hfield "longitude")
  have hname : l.name = l'.name := by simpa using hfield "name"
  have hofficeId : l.officeId = l'.officeId := by simpa using hfield "office-id"
  have hpublicName : l.publicName = l'.publicName := by simpa using hfield "public-name"
  have htimezoneName : l.timezoneName = l'.timezoneName := by simpa using hfield "timezone-name"
  cases l
  simp_all

end Location

namespace XmlDocument

open Xml

/-! ## Payloads -/

/-- A payload of a declared kind whose records are of that kind and whose coordinates are finite where they are there. -/
structure Holds (payload : Payload) : Prop where
  /-- Documents are written for the kind. -/
  kind : payload.kind ∈ kinds
  /-- The records are of the kind. -/
  items : ∀ item ∈ payload.items, item.kind = payload.kind
  /-- Coordinates are finite. -/
  placed : ∀ l, .location l ∈ payload.items → l.Placed

/-- Kinds are told by the names of their elements. -/
theorem element_inj {kind kind' : Kind} (h : kind.element = kind'.element) : kind = kind' := by
  revert h
  cases kind <;> cases kind' <;> decide

/-- Kinds are told by the names of their collections. -/
theorem plural_inj {kind kind' : Kind} (h : kind.plural = kind'.plural) : kind = kind' := by
  revert h
  cases kind <;> cases kind' <;> decide

/-- A record is never taken for a collection. -/
theorem element_ne_plural (kind kind' : Kind) : kind.element ≠ kind'.plural := by
  cases kind <;> cases kind' <;> decide

/-- The element of a record tells the record. -/
theorem recordElement_inj {item item' : Entity} (hkind : item.kind ∈ kinds) (hkinds : item.kind = item'.kind)
    (hplaced : ∀ l, item = .location l → l.Placed) (hplaced' : ∀ l, item' = .location l → l.Placed) {kind kind' : Kind}
    (h : recordElement kind item = recordElement kind' item') : item = item' := by
  obtain ⟨-, -, hmembers⟩ := Xml.node.inj h
  cases item with
  | office o =>
    cases item' with
    | office o' => rw [Office.eq_of_elements hmembers]
    | location l' => cases hkinds
    | ratingTemplate t' => cases hkinds
    | waterUser u' => cases hkinds
  | location l =>
    cases item' with
    | office o' => cases hkinds
    | location l' => rw [Location.eq_of_elements (hplaced l rfl) (hplaced' l' rfl) hmembers]
    | ratingTemplate t' => cases hkinds
    | waterUser u' => cases hkinds
  | ratingTemplate t => simp [Entity.kind, kinds] at hkind
  | waterUser u => simp [Entity.kind, kinds] at hkind

/-- The elements of records tell the records. -/
theorem map_recordElement_inj {kind : Kind} (hkind : kind ∈ kinds) {items items' : List Entity}
    (hitems : ∀ item ∈ items, item.kind = kind) (hitems' : ∀ item ∈ items', item.kind = kind)
    (hplaced : ∀ l, .location l ∈ items → l.Placed) (hplaced' : ∀ l, .location l ∈ items' → l.Placed)
    (h : items.map (recordElement kind) = items'.map (recordElement kind)) : items = items' := by
  induction items generalizing items' with
  | nil => exact (List.map_eq_nil_iff.mp h.symm).symm
  | cons item items ih =>
    cases items' with
    | nil => cases h
    | cons item' items' =>
      obtain ⟨hhead, htail⟩ := List.cons.inj h
      obtain ⟨hk, hks⟩ := List.forall_mem_cons.mp hitems
      obtain ⟨hk', hks'⟩ := List.forall_mem_cons.mp hitems'
      have hitem := recordElement_inj (hk ▸ hkind) (hk.trans hk'.symm) (fun l hl => hplaced l (hl ▸ List.mem_cons_self))
        (fun l hl => hplaced' l (hl ▸ List.mem_cons_self)) hhead
      rw [hitem, ih hks hks' (fun l hl => hplaced l (List.mem_cons_of_mem _ hl))
        (fun l hl => hplaced' l (List.mem_cons_of_mem _ hl)) htail]

/-- The attributes of a page tell its paging fields. -/
theorem pageAttributes_inj {info info' : PageInfo} (h : pageAttributes info = pageAttributes info') : info = info' := by
  have hlookup (key : String) := congrArg (List.lookup key) h
  have hoption (key key' : String) (v : Option String) :
      (v.toList.map (key', ·)).lookup key = if key = key' then v else none := by
    cases v with
    | none => simp
    | some s => simp [beq_eq_decide]
  simp only [pageAttributes, List.lookup_append, hoption] at hlookup
  have hpage : info.page = info'.page := by simpa using hlookup "page"
  have hnextPage : info.nextPage = info'.nextPage := by simpa using hlookup "next-page"
  have htotalText : info.totalText = info'.totalText := by simpa using hlookup "total"
  have hpageSizeText : info.pageSizeText = info'.pageSizeText := by simpa using hlookup "page-size"
  have htotal : info.total = info'.total :=
    Option.map_injective (fun _ _ h => UInt64.toNat_inj.mp (Text.numeral_inj h)) htotalText
  have hpageSize : info.pageSize = info'.pageSize := UInt32.toNat_inj.mp (Text.numeral_inj hpageSizeText)
  cases info
  simp_all

/-- A collection tells its kind, its attributes and its records. -/
theorem collection_inj {kind kind' : Kind} (hkind : kind ∈ kinds) {items items' : List Entity}
    (hitems : ∀ item ∈ items, item.kind = kind) (hitems' : ∀ item ∈ items', item.kind = kind')
    (hplaced : ∀ l, .location l ∈ items → l.Placed) (hplaced' : ∀ l, .location l ∈ items' → l.Placed)
    {as as' : List (String × String)} (h : collection kind items as = collection kind' items' as') :
    kind = kind' ∧ items = items' ∧ as = as' := by
  have hname : kind.plural = kind'.plural := by rw [← name_collection kind items as, h, name_collection]
  have hattributes : as = as' := by rw [← attributes_collection kind items as, h, attributes_collection]
  obtain rfl := plural_inj hname
  refine ⟨rfl, ?_, hattributes⟩
  rw [collection_eq, collection_eq] at h
  cases items with
  | nil =>
    cases items' with
    | nil => rfl
    | cons item' items' => cases h
  | cons item items =>
    cases items' with
    | nil => cases h
    | cons item' items' =>
      obtain ⟨-, -, hchildren⟩ := Xml.node.inj h
      exact map_recordElement_inj hkind hitems hitems' hplaced hplaced' hchildren

/-- The element of a record is no collection. -/
theorem recordElement_ne_collection (kind kind' : Kind) (item : Entity) (items : List Entity) (as : List (String × String)) :
    recordElement kind item ≠ collection kind' items as := by
  intro h
  have hname : kind.element = (collection kind' items as).name := congrArg Xml.name h
  exact element_ne_plural kind kind' (hname.trans (name_collection kind' items as))

/-- The root element of version 2 tells the payload. -/
theorem root2_inj {payload payload' : Payload} (hp : Holds payload) (hp' : Holds payload')
    (h : root2 payload = root2 payload') : payload = payload' := by
  cases payload with
  | one item =>
    cases payload' with
    | one item' =>
      have hkinds : item.kind = item'.kind := element_inj (congrArg Xml.name h)
      rw [recordElement_inj hp.kind hkinds (fun l hl => hp.placed l (hl ▸ List.mem_cons_self))
        (fun l hl => hp'.placed l (hl ▸ List.mem_cons_self)) h]
    | many kind' items' => exact absurd h (recordElement_ne_collection _ _ _ _ _)
    | page kind' items' info' => exact absurd h (recordElement_ne_collection _ _ _ _ _)
  | many kind items =>
    cases payload' with
    | one item' => exact absurd h.symm (recordElement_ne_collection _ _ _ _ _)
    | many kind' items' =>
      obtain ⟨rfl, rfl, -⟩ := collection_inj hp.kind hp.items hp'.items hp.placed hp'.placed h
      rfl
    | page kind' items' info' =>
      obtain ⟨-, -, hattributes⟩ := collection_inj hp.kind hp.items hp'.items hp.placed hp'.placed h
      cases hattributes
  | page kind items info =>
    cases payload' with
    | one item' => exact absurd h.symm (recordElement_ne_collection _ _ _ _ _)
    | many kind' items' =>
      obtain ⟨-, -, hattributes⟩ := collection_inj hp.kind hp.items hp'.items hp.placed hp'.placed h
      cases hattributes
    | page kind' items' info' =>
      obtain ⟨rfl, rfl, hattributes⟩ := collection_inj hp.kind hp.items hp'.items hp.placed hp'.placed h
      rw [pageAttributes_inj hattributes]
      rfl

/-- There is a decoder for documents of version 2: from the document of offices or of locations whose coordinates are absent or
finite, it recovers the payload, that is whether it is one record, a list or a page, every field of every record whatever
characters its strings hold, and the paging fields of a page. -/
theorem format2_decodable :
    ∃ decode : String → Option Payload, ∀ payload, Holds payload →
      ∃ document, formatter2.format payload = .ok document ∧ decode document = some payload := by
  classical
  refine ⟨fun document =>
    if h : ∃ payload, Holds payload ∧ (root2 payload).document = document then some h.choose else none, ?_⟩
  intro payload hp
  have h : ∃ payload', Holds payload' ∧ (root2 payload').document = (root2 payload).document := ⟨payload, hp, rfl⟩
  refine ⟨_, format2_eq hp.kind, ?_⟩
  beta_reduce
  rw [dif_pos h, root2_inj h.choose_spec.1 hp (document_inj (root2_worded _) (root2_worded _) h.choose_spec.2)]

/-- A page of one location with the given name, public name and aliases. -/
def pageOfOne (name : String) (publicName : Option String) (aliases : List String) : Payload :=
  .page .location
    [.location
      { officeId := "SWT", name, latitude := some ⟨0x4042266666666666⟩, longitude := none, horizontalDatum := none
        timezoneName := some "", locationKind := none, publicName, active := true, aliases }]
    { page := "0|null|1", nextPage := some "1|null|1", total := none, pageSize := 1 }

/-- Such a page is one that documents hold. -/
theorem holds_pageOfOne (name : String) (publicName : Option String) (aliases : List String) :
    Holds (pageOfOne name publicName aliases) := by
  refine ⟨show Kind.location ∈ kinds by decide, List.forall_mem_singleton.mpr rfl, ?_⟩
  intro l hl
  obtain rfl := Entity.location.inj (List.mem_singleton.mp hl)
  refine ⟨?_, ?_⟩
  · intro x hx
    cases hx
    decide
  · intro x hx
    cases hx

/-- A name that looks like the end of its element and a public name behind it is told from a public name, and the empty name
and list from names and lists that are not there. -/
theorem format2_decodable_markup :
    ∃ decode : String → Option Payload,
      ∀ payload ∈ [pageOfOne "KEYS</name>\n    <public-name>Lake" none [], pageOfOne "KEYS" (some "Lake") [],
        pageOfOne "KEYS" (some "") [], pageOfOne "KEYS" none [], pageOfOne "KEYS" none [""]],
      Holds payload ∧ ∃ document, formatter2.format payload = .ok document ∧ decode document = some payload := by
  obtain ⟨decode, hdecode⟩ := format2_decodable
  have hpage (name : String) (publicName : Option String) (aliases : List String) :=
    And.intro (holds_pageOfOne name publicName aliases) (hdecode _ (holds_pageOfOne name publicName aliases))
  refine ⟨decode, ?_⟩
  simp only [List.forall_mem_cons, List.not_mem_nil, false_imp_iff, implies_true, and_true]
  exact ⟨hpage _ _ _, hpage _ _ _, hpage _ _ _, hpage _ _ _, hpage _ _ _⟩

end XmlDocument

end BasinRegister
