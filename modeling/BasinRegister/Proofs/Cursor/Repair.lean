import BasinRegister.Proofs.Cursor

/-!
# Repaired tokens

A token with at least three fields is read field by field: a field counts when it states a number that fits, and gives way to
its fallback otherwise, whatever the other fields are (`Cursor.repairs_ofFields`). Any other text is the start of the listing.
What comes out is valid, so its own token needs no repair any more (`Cursor.decode_repairs`).
-/

namespace BasinRegister.Cursor

/-- The fields of a token that count. -/
structure Fields where
  /-- The field of the offset. -/
  offset : String
  /-- The field of the total. -/
  total : String
  /-- The field of the page size. -/
  pageSize : String

/-- A token has these fields: they stand in front of its other fields, if it has any. -/
def HasFields (token : String) (f : Fields) : Prop :=
  ∃ others, Text.splitAll delimiter token = f.offset :: f.total :: f.pageSize :: others

/-- The cursor that fields are repaired to under a page size for a fallback. -/
structure Repairs (f : Fields) (default : UInt32) (c : Cursor) : Prop where
  /-- An offset that is stated is taken. -/
  offset : ∀ n : UInt64, Text.States f.offset n.toNat → c.offset = n
  /-- Without one the listing starts again. -/
  no_offset : (∀ n : UInt64, ¬Text.States f.offset n.toNat) → c.offset = 0
  /-- The total is the one that is stated, unless the offset has passed it. -/
  total : ∀ n : UInt64, c.total = some n ↔ Text.States f.total n.toNat ∧ c.offset ≤ n
  /-- A positive page size that is stated is taken. -/
  pageSize : ∀ n : UInt32, 0 < n → Text.States f.pageSize n.toNat → c.pageSize = n
  /-- Without one the fallback is taken, and a fallback of zero is one. -/
  no_pageSize : (∀ n : UInt32, 0 < n → ¬Text.States f.pageSize n.toNat) → c.pageSize = max default 1

/-! ## Reading one field -/

theorem readOffset_of_states {field : String} {n : UInt64} (h : Text.States field n.toNat) : readOffset field = n := by
  rw [readOffset, Text.readUInt64_trim_eq_some_iff.mpr h, Option.getD_some]

theorem readOffset_of_not_states {field : String} (h : ∀ n : UInt64, ¬Text.States field n.toNat) :
    readOffset field = 0 := by
  rw [readOffset]
  cases hread : Text.readUInt64 (Text.trim field) with
  | none => rfl
  | some n => exact absurd (Text.readUInt64_trim_eq_some_iff.mp hread) (h n)

/-- The spelling of an uncounted total states no number. -/
theorem readTotal_eq_some_iff {field : String} {n : UInt64} : readTotal field = some n ↔ Text.States field n.toNat := by
  rw [← Text.readUInt64_trim_eq_some_iff, readTotal]
  by_cases h : Text.trim field = unknownTotal
  · have hnone : Text.readUInt64 unknownTotal = none := by decide
    simp [h, hnone]
  · simp [h]

theorem readPageSize_of_states {default : UInt32} {field : String} {n : UInt32} (hpos : 0 < n)
    (h : Text.States field n.toNat) : readPageSize default field = n := by
  rw [readPageSize, Text.readUInt32_trim_eq_some_iff.mpr h]
  exact if_pos hpos

theorem readPageSize_of_not_states {default : UInt32} {field : String}
    (h : ∀ n : UInt32, 0 < n → ¬Text.States field n.toNat) : readPageSize default field = max default 1 := by
  rw [readPageSize]
  split
  · rename_i n hread
    by_cases hpos : 0 < n
    · exact absurd (Text.readUInt32_trim_eq_some_iff.mp hread) (h n hpos)
    · exact if_neg hpos
  · rfl

/-- Each field is repaired on its own. -/
theorem repairs_ofFields (f : Fields) (default : UInt32) :
    Repairs f default (ofFields default f.offset f.total f.pageSize) := by
  generalize hc : ofFields default f.offset f.total f.pageSize = c
  have hoffset : c.offset = readOffset f.offset := by rw [← hc, ofFields]
  have htotal : c.total = (readTotal f.total).filter (c.offset ≤ ·) := by rw [← hc, ofFields]
  have hsize : c.pageSize = readPageSize default f.pageSize := by rw [← hc, ofFields]
  refine ⟨?_, ?_, ?_, ?_, ?_⟩
  · intro n h
    rw [hoffset, readOffset_of_states h]
  · intro h
    rw [hoffset, readOffset_of_not_states h]
  · intro n
    rw [htotal, Option.filter_eq_some_iff, readTotal_eq_some_iff, decide_eq_true_eq]
  · intro n hpos h
    rw [hsize, readPageSize_of_states hpos h]
  · intro h
    rw [hsize, readPageSize_of_not_states h]

/-! ## Taking a token apart -/

/-- Blanks at the ends of fields do not count. -/
theorem ofFields_congr {default : UInt32} {offset total pageSize offset' total' pageSize' : String}
    (hoffset : Text.trim offset = Text.trim offset') (htotal : Text.trim total = Text.trim total')
    (hsize : Text.trim pageSize = Text.trim pageSize') :
    ofFields default offset total pageSize = ofFields default offset' total' pageSize' := by
  have hstart : readOffset offset = readOffset offset' := by rw [readOffset, hoffset, readOffset]
  have hend : readTotal total = readTotal total' := by rw [readTotal, htotal, readTotal]
  have hheld : readPageSize default pageSize = readPageSize default pageSize' := by
    rw [readPageSize, hsize, readPageSize]
  rw [ofFields, ofFields, hstart, hend, hheld]

/-- Blanks at the ends of a token stand at the ends of its fields. -/
theorem map_trim_fields (token : String) :
    (Text.splitAll delimiter (Text.trim token)).map Text.trim = (Text.splitAll delimiter token).map Text.trim :=
  Text.map_trim_splitAll_trim (by decide) token

/-- A token with three fields is read as these, whatever comes behind them. -/
theorem decode_of_hasFields {token : String} {f : Fields} (h : HasFields token f) (default : UInt32) :
    decode (some token) default = ofFields default f.offset f.total f.pageSize := by
  obtain ⟨others, hfields⟩ := h
  have htrim := map_trim_fields token
  rw [hfields, List.map_cons, List.map_cons, List.map_cons] at htrim
  obtain ⟨offset, rest, hsplit, hoffset, hrest⟩ := List.map_eq_cons_iff.mp htrim
  obtain ⟨total, rest, rfl, htotal, hrest⟩ := List.map_eq_cons_iff.mp hrest
  obtain ⟨pageSize, rest, rfl, hsize, -⟩ := List.map_eq_cons_iff.mp hrest
  -- a text with three fields is not blank
  have hstated : statedToken (some token) = some (Text.trim token) := by
    have hne : (Text.trim token).isEmpty = false := by
      rw [Bool.eq_false_iff, ne_eq, String.isEmpty_iff]
      intro hempty
      rw [hempty] at hsplit
      cases hsplit
    simp [statedToken, Option.filter, hne]
  rw [decode, hstated]
  simp only [hsplit]
  exact ofFields_congr hoffset htotal hsize

/-- A text with fewer than three fields is the start of the listing. -/
theorem decode_of_few_fields {token : String} (h : (Text.splitAll delimiter token).length < 3) (default : UInt32) :
    decode (some token) default = first default := by
  have hfew : (Text.splitAll delimiter (Text.trim token)).length < 3 := by
    rwa [← List.length_map Text.trim, map_trim_fields, List.length_map]
  rw [decode]
  split
  · rfl
  · rename_i text hstated
    have htext : text = Text.trim token := by
      rw [statedToken, Option.map_some, Option.filter_eq_some_iff] at hstated
      exact (Option.some.inj hstated.1).symm
    split
    · rename_i hsplit
      rw [← htext, hsplit] at hfew
      simp only [List.length_cons] at hfew
      omega
    · rfl

/-- Whatever a text is, it decodes to a valid cursor. Its first three fields are repaired each on its own, with the offset to
tell whether the total is out of date; what comes behind them does not count, and with fewer fields it is the start of the
listing. The cursor that comes out is the one that its own token stands for under every page size for a fallback. -/
theorem decode_repairs :
    (∀ (token : Option String) (default : UInt32), (decode token default).Valid) ∧
    (∀ {token : String} {f : Fields}, HasFields token f → ∀ default, Repairs f default (decode (some token) default)) ∧
    (∀ {token : String}, (Text.splitAll delimiter token).length < 3 →
      ∀ default, decode (some token) default = first default) ∧
    (∀ {token token' : String} {f f' : Fields}, HasFields token f → HasFields token' f' → ∀ default default',
      (f.offset = f'.offset → (decode (some token) default).offset = (decode (some token') default').offset) ∧
      (f.offset = f'.offset → f.total = f'.total →
        (decode (some token) default).total = (decode (some token') default').total) ∧
      (f.pageSize = f'.pageSize → default = default' →
        (decode (some token) default).pageSize = (decode (some token') default').pageSize) ∧
      (f = f' → default = default' → decode (some token) default = decode (some token') default')) ∧
    ∀ (token : Option String) (default default' : UInt32),
      decode (some (decode token default).encode) default' = decode token default := by
  refine ⟨decode_valid, ?_, decode_of_few_fields, ?_, ?_⟩
  · intro token f h default
    rw [decode_of_hasFields h]
    exact repairs_ofFields f default
  · intro token token' f f' h h' default default'
    rw [decode_of_hasFields h, decode_of_hasFields h']
    refine ⟨?_, ?_, ?_, ?_⟩
    · intro hoffset
      simp only [ofFields, hoffset]
    · intro hoffset htotal
      simp only [ofFields, hoffset, htotal]
    · intro hsize hdefault
      simp only [ofFields, hsize, hdefault]
    · rintro rfl rfl
      rfl
  · intro token default default'
    exact decode_encode (decode_valid token default) default'

/-- A sign, zeros and blanks do not change the offset that two tokens share; the total that it has passed in the second is
dropped, and a page size of zero gives way to the fallback. -/
theorem decode_repairs_seven :
    let token := " +007 |99|0|x"
    let other := " +007 |5|12"
    HasFields token ⟨" +007 ", "99", "0"⟩ ∧ HasFields other ⟨" +007 ", "5", "12"⟩ ∧ Text.States " +007 " 7 ∧
    (Text.splitAll delimiter "7|99").length < 3 ∧ decode (some "7|99") 50 = first 50 ∧
    (decode (some token) 50).Valid ∧ (decode (some token) 50).offset = 7 ∧
    (decode (some token) 50).offset = (decode (some other) 20).offset ∧ (decode (some other) 20).total = none ∧
    decode (some (decode (some token) 50).encode) 20 = decode (some token) 50 := by
  intro token other
  have hfields : HasFields token ⟨" +007 ", "99", "0"⟩ := ⟨["x"], by decide⟩
  have hother : HasFields other ⟨" +007 ", "5", "12"⟩ := ⟨[], by decide⟩
  have hseven : Text.States " +007 " 7 := ⟨['+'], ['0', '0', '7'], by decide, .inr rfl, by decide, by simp, rfl⟩
  have hfew : (Text.splitAll delimiter "7|99").length < 3 := by decide
  obtain ⟨hvalid, hrepairs, hstart, hfield, hfixed⟩ := decode_repairs
  have hoffset : (decode (some other) 20).offset = 7 := (hrepairs hother 20).offset 7 hseven
  have hpassed : (decode (some other) 20).total = none := by
    rw [Option.eq_none_iff_forall_ne_some]
    intro n hn
    obtain ⟨hfive, hle⟩ := ((hrepairs hother 20).total n).mp hn
    have hn : some n = some 5 := (readTotal_eq_some_iff.mpr hfive).symm.trans (by decide)
    rw [hoffset, Option.some.inj hn] at hle
    exact absurd hle (by decide)
  exact ⟨hfields, hother, hseven, hfew, hstart hfew 50, hvalid _ _, (hrepairs hfields 50).offset 7 hseven,
    (hfield hfields hother 50 20).1 rfl, hpassed, hfixed _ _ _⟩

end BasinRegister.Cursor
