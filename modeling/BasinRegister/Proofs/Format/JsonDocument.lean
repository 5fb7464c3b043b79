import BasinRegister.Proofs.Format.Envelope
import BasinRegister.Proofs.Record.Json

/-!
# Documents of version 2 that come back

Whoever reads a document of version 2 with a reader that is faithful to JSON gets the record, the list or the page that it was
written for (`JsonDocument.format2_readBack`). Records have readers of their own; the paging fields of an envelope are read here
(`PageInfo.ofJson`), with nothing for those that the page did not have.
-/

namespace BasinRegister

open Json
open Number (Double)

variable {isExact : Double → Prop} {kind : Kind}

/-! ## Paging fields -/

/-- A whole number that fits 64 bits. -/
def Json.readWord64 : Json → Option UInt64
  | .whole n => if 0 ≤ n && n < UInt64.size then some (UInt64.ofNat n.toNat) else none
  | _ => none

/-- The paging fields of an envelope; a page that has no next one and a listing that was not counted have none for it. -/
def PageInfo.ofJson (v : Json) : Option PageInfo := do
  match ← v.slots? ["page", "next-page", "total", "page-size"] with
  | [page, nextPage, total, pageSize] =>
    some {
      page := ← page.required readText
      nextPage := ← nextPage.optional readText
      total := ← total.optional readWord64
      pageSize := ← pageSize.required readWord32 }
  | _ => none

theorem readWord64_ofNat (w : UInt64) : readWord64 (.ofNat w.toNat) = some w := by
  have hw := w.toNat_lt
  rw [ofNat, readWord64, if_pos (by simp; omega)]
  simp

theorem readWord32_ofNat (w : UInt32) : readWord32 (.ofNat w.toNat) = some w := by
  have hw := w.toNat_lt
  rw [ofNat, readWord32, if_pos (by simp; omega)]
  simp

theorem ofNat_ne_null (n : Nat) : Json.ofNat n ≠ .null := by
  rw [ofNat]
  exact Json.noConfusion

namespace JsonDocument

/-- The paging fields of an envelope are read back, whatever stands beside them. -/
theorem ofJson_envelope_of_beside (info : PageInfo) {members : List (String × Json)} (hbeside : Beside members) :
    PageInfo.ofJson (envelope info members) = some info := by
  have hslots : (envelope info members).slots? ["page", "next-page", "total", "page-size"] =
      some ([some (.text info.page), info.nextPage.map .text, info.total.map fun total => .ofNat total.toNat,
        some (.ofNat info.pageSize.toNat)].map Slot.ofOption) := by
    refine slots?_object _ (.cons ?_ (.cons ?_ (.cons ?_ (.cons ?_ .nil))))
    all_goals exact filter_envelope (fun m hm => hbeside.ne hm (by simp)) (by simp [pageMembers])
  have htotal : Slot.optional readWord64 (Slot.ofOption (info.total.map fun total => .ofNat total.toNat)) = some info.total :=
    optional_ofOption fun w _ => ⟨readWord64_ofNat w, ofNat_ne_null _⟩
  have hsize : Slot.required readWord32 (Slot.ofOption (some (.ofNat info.pageSize.toNat))) = some info.pageSize := by
    rw [required_ofOption_some, readWord32_ofNat]
  have hpage : Slot.required readText (Slot.ofOption (some (.text info.page))) = some info.page := rfl
  rw [PageInfo.ofJson, hslots]
  simp only [List.map_cons, List.map_nil, Option.bind_eq_bind, Option.bind_some, hpage, optional_readText, htotal, hsize]

theorem ofJson_envelope (kind : Kind) (info : PageInfo) (v : Json) :
    PageInfo.ofJson (envelope info [(kind.plural, v)]) = some info :=
  ofJson_envelope_of_beside info (beside_plural kind v)

/-! ## Documents -/

/-- A document of version 2 is the text of its value. -/
theorem format2_eq (payload : Payload) : formatter2.format payload = .ok (version2 payload).render :=
  if_pos (by cases payload.kind <;> decide)

/-- Legible records of a kind are read back from their array. -/
theorem readList_values {items : List Entity} (h : ∀ e ∈ items, e.kind = kind ∧ e.Legible isExact) :
    readList (Entity.ofJson kind) (.array (items.map Entity.toJson)) = some items := by
  refine readList_array fun e he => ?_
  obtain ⟨rfl, hlegible⟩ := h e he
  exact Entity.ofJson_toJson hlegible

/-- Whoever reads a document of version 2 with a reader that is faithful to JSON gets what was written: the record, the records of
a list, and the records of a page with the paging fields. -/
theorem format2_readBack {read : String → Option Json} (hread : Faithful read isExact) :
    (∀ e : Entity, e.Legible isExact →
      ∃ doc, formatter2.format (.one e) = .ok doc ∧ (read doc).bind (Entity.ofJson e.kind) = some e) ∧
    (∀ (kind : Kind) (items : List Entity), (∀ e ∈ items, e.kind = kind ∧ e.Legible isExact) →
      ∃ doc, formatter2.format (.many kind items) = .ok doc ∧
        (read doc).bind (readList (Entity.ofJson kind)) = some items) ∧
    ∀ (kind : Kind) (items : List Entity) (info : PageInfo), (∀ e ∈ items, e.kind = kind ∧ e.Legible isExact) →
      ∃ doc v, formatter2.format (.page kind items info) = .ok doc ∧ read doc = some v ∧
        (v.get? kind.plural).bind (readList (Entity.ofJson kind)) = some items ∧ PageInfo.ofJson v = some info := by
  refine ⟨?_, ?_, ?_⟩
  · intro e he
    refine ⟨_, format2_eq _, ?_⟩
    rw [version2, hread _ (Entity.kept_toJson he), Option.bind_some, Entity.ofJson_toJson he]
  · intro kind items hitems
    refine ⟨_, format2_eq _, ?_⟩
    have hkept : Kept isExact (.array (items.map Entity.toJson)) := kept_array fun e he => Entity.kept_toJson (hitems e he).2
    rw [version2, values, Payload.items, hread _ hkept, Option.bind_some, readList_values hitems]
  · intro kind items info hitems
    have hkept : Kept isExact (.array (items.map Entity.toJson)) := kept_array fun e he => Entity.kept_toJson (hitems e he).2
    refine ⟨_, _, format2_eq _, hread _ (kept_envelope kind info hkept), ?_, ofJson_envelope kind info _⟩
    rw [version2, values, Payload.items, get?_envelope, Option.bind_some, readList_values hitems]

/-- A lake at 36.15 degrees north and 96.25 degrees west that is not in use, with some of its fields left out. -/
def keysLake : Location :=
  { officeId := "SWT"
    name := "KEYS"
    latitude := some ⟨0x4042133333333333⟩
    longitude := some ⟨0xC058100000000000⟩
    horizontalDatum := none
    timezoneName := some "US/Central"
    locationKind := none
    publicName := some ""
    active := false
    aliases := ["Keystone \x22Lake\x22"] }

/-- The coordinates of the lake are read as they were written. -/
theorem legible_keysLake : (Entity.location keysLake).Legible ReadsBack := by
  have hnorth : ReadsBack ⟨0x4042133333333333⟩ := by
    have htext : doubleText ⟨0x4042133333333333⟩ = "36.15" := by decide +kernel
    have hscale : NumberText.scaleDown (Double.ofNat 3615) 2 = ⟨0x4042133333333333⟩ := by
      rw [NumberText.scaleDown, if_pos (by decide)]
      decide +kernel
    exact readsBack_of_take (n := ⟨false, ['3', '6'], ['1', '5'], none⟩) (by rw [htext]; rfl) (congrArg Json.real hscale)
  have hwest : ReadsBack ⟨0xC058100000000000⟩ := by
    have htext : doubleText ⟨0xC058100000000000⟩ = "-96.25" := by decide +kernel
    have hscale : (NumberText.scaleDown (Double.ofNat 9625) 2).neg = ⟨0xC058100000000000⟩ := by
      rw [NumberText.scaleDown, if_pos (by decide)]
      decide +kernel
    exact readsBack_of_take (n := ⟨true, ['9', '6'], ['2', '5'], none⟩) (by rw [htext]; rfl) (congrArg Json.real hscale)
  have hcoordinates : (Entity.location keysLake).coordinates = [⟨0x4042133333333333⟩, ⟨0xC058100000000000⟩] := rfl
  rw [Entity.Legible, hcoordinates, List.forall_mem_cons, List.forall_mem_singleton]
  exact ⟨⟨by decide, hnorth⟩, by decide, hwest⟩

/-- The reader of documents gets a page with the lake back, and that no page follows. -/
theorem format2_readBack_keysLake :
    ∃ doc v, formatter2.format (.page .location [.location keysLake] ⟨"0|1|20", none, some 1, 20⟩) = .ok doc ∧
      read? doc = some v ∧
      (v.get? "locations").bind (readList (Entity.ofJson .location)) = some [.location keysLake] ∧
      PageInfo.ofJson v = some ⟨"0|1|20", none, some 1, 20⟩ := by
  obtain ⟨-, -, hpages⟩ := format2_readBack faithful_read?
  refine hpages .location [.location keysLake] ⟨"0|1|20", none, some 1, 20⟩ ?_
  rw [List.forall_mem_singleton]
  exact ⟨rfl, legible_keysLake⟩

end JsonDocument

end BasinRegister
