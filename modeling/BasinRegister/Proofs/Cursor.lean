import BasinRegister.Cursor
import BasinRegister.Proofs.Text.Numeral
import BasinRegister.Proofs.Text.Split

/-!
# Tokens of cursors

Every text decodes to a valid cursor (`Cursor.decode_valid`), and a valid cursor, but no other, comes back out of its token
whatever page size is the fallback (`Cursor.decode_encode`). What is lost of others is a total that the offset has passed
(`Cursor.decode_encode_of_pos`).
-/

namespace BasinRegister.Cursor

/-- A page holds at least one parent, and a total is no smaller than the offset. -/
structure Valid (c : Cursor) : Prop where
  /-- A page holds at least one parent. -/
  pageSize_pos : 0 < c.pageSize
  /-- A total that is known has not been passed. -/
  offset_le : ∀ total, c.total = some total → c.offset ≤ total

/-! ## Every text decodes to a valid cursor -/

/-- A size that is raised to one is positive. -/
theorem pos_max_one (n : UInt32) : 0 < max n 1 := by
  show 0 < if n ≤ 1 then 1 else n
  split
  · decide
  · rename_i h
    exact UInt32.lt_trans (by decide) (UInt32.not_le.mp h)

/-- The cursor of the first page is valid. -/
theorem first_valid (pageSize : UInt32) : (first pageSize).Valid :=
  ⟨pos_max_one pageSize, by simp [first]⟩

/-- A page size that is read is positive. -/
theorem readPageSize_pos (default : UInt32) (field : String) : 0 < readPageSize default field := by
  unfold readPageSize
  split
  · split
    · assumption
    · exact pos_max_one default
  · exact pos_max_one default

/-- The cursor of any three fields is valid. -/
theorem ofFields_valid (default : UInt32) (offset total pageSize : String) :
    (ofFields default offset total pageSize).Valid := by
  refine ⟨readPageSize_pos default pageSize, ?_⟩
  intro t ht
  simp only [ofFields, Option.filter_eq_some_iff, decide_eq_true_eq] at ht ⊢
  exact ht.2

/-- Whatever a client sends, the cursor read from it is valid. -/
theorem decode_valid (token : Option String) (default : UInt32) : (decode token default).Valid := by
  unfold decode
  split
  · exact first_valid default
  · split
    · exact ofFields_valid default _ _ _
    · exact first_valid default

/-! ## A valid cursor comes back out of its token -/

/-- The characters that tokens are made of. -/
def isTokenChar (c : Char) : Bool := c.isDigit || c = delimiter || c ∈ unknownTotal.toList

/-- The characters of tokens are no blanks. -/
theorem isBlank_of_isTokenChar {c : Char} (h : isTokenChar c = true) : Text.isBlank c = false := by
  rw [isTokenChar, Bool.or_eq_true, Bool.or_eq_true, decide_eq_true_eq, decide_eq_true_eq] at h
  rcases h with (h | rfl) | h
  · rw [Char.isDigit_iff_toNat] at h
    have h48 : 48 ≤ c.toNat := h.1
    have h57 : c.toNat ≤ 57 := h.2
    simp [Text.isBlank]
    omega
  · decide
  · have hletter : c = 'n' ∨ c = 'u' ∨ c = 'l' := by simpa [unknownTotal] using h
    rcases hletter with rfl | rfl | rfl <;> decide

/-- There is no delimiter in a numeral. -/
theorem not_mem_numeral (n : Nat) : delimiter ∉ (Text.numeral n).toList := by
  intro h
  rw [Text.numeral, String.toList_ofList] at h
  exact absurd (Text.isDigit_of_mem_decimal h) (by decide)

/-- There is no delimiter in the text of a total. -/
theorem not_mem_totalText (total : Option UInt64) : delimiter ∉ (totalText total).toList := by
  cases total with
  | none => decide
  | some t => exact not_mem_numeral t.toNat

/-- A numeral is made of characters of tokens. -/
theorem isTokenChar_of_mem_numeral {n : Nat} {c : Char} (h : c ∈ (Text.numeral n).toList) : isTokenChar c = true := by
  rw [Text.numeral, String.toList_ofList] at h
  simp [isTokenChar, Text.isDigit_of_mem_decimal h]

/-- So is the text of a total. -/
theorem isTokenChar_of_mem_totalText {total : Option UInt64} {c : Char} (h : c ∈ (totalText total).toList) :
    isTokenChar c = true := by
  cases total with
  | none => simp [isTokenChar, show c ∈ unknownTotal.toList from h]
  | some t => exact isTokenChar_of_mem_numeral h

/-- So is a whole token. -/
theorem isTokenChar_of_mem_encode {c : Cursor} {x : Char} (h : x ∈ c.encode.toList) : isTokenChar x = true := by
  simp only [encode, String.toList_intercalate, List.map_cons, List.map_nil, List.intercalate_cons_cons,
    List.intercalate_singleton, List.mem_append] at h
  rcases h with (h | h) | (h | h) | h
  · exact isTokenChar_of_mem_numeral h
  · simp_all [isTokenChar, delimiter]
  · exact isTokenChar_of_mem_totalText h
  · simp_all [isTokenChar, delimiter]
  · exact isTokenChar_of_mem_numeral h

/-- A token has no blanks. -/
theorem isBlank_of_mem_encode {c : Cursor} {x : Char} (h : x ∈ c.encode.toList) : Text.isBlank x = false :=
  isBlank_of_isTokenChar (isTokenChar_of_mem_encode h)

/-- There is nothing to trim off a numeral. -/
theorem trim_numeral (n : Nat) : Text.trim (Text.numeral n) = Text.numeral n :=
  Text.trim_of_no_blank fun _ hc => isBlank_of_isTokenChar (isTokenChar_of_mem_numeral hc)

/-- A token is not empty. -/
theorem isEmpty_encode (c : Cursor) : c.encode.isEmpty = false := by
  rw [Bool.eq_false_iff, ne_eq, String.isEmpty_iff]
  intro h
  have hlen := congrArg (fun s => s.toList.length) h
  simp [encode] at hlen

/-- A token is no blank text, and is taken as it is. -/
theorem statedToken_encode (c : Cursor) : statedToken (some c.encode) = some c.encode := by
  rw [statedToken, Option.map_some, Text.trim_of_no_blank fun _ => isBlank_of_mem_encode]
  simp [Option.filter, isEmpty_encode]

/-- A token has at most so many characters: those of two numbers of 64 bits and one of 32 and two delimiters. -/
theorem length_encode_le (c : Cursor) : c.encode.toList.length ≤ 52 := by
  have hnumeral : ∀ n : UInt64, (Text.numeral n.toNat).toList.length ≤ 20 := by
    intro n
    rw [Text.numeral, String.toList_ofList]
    exact Text.length_decimal_le (by decide) (Nat.lt_trans n.toNat_lt (by decide))
  have hoffset := hnumeral c.offset
  have hsize : (Text.numeral c.pageSize.toNat).toList.length ≤ 10 := by
    rw [Text.numeral, String.toList_ofList]
    exact Text.length_decimal_le (by decide) (Nat.lt_trans c.pageSize.toNat_lt (by decide))
  have htotal : (totalText c.total).toList.length ≤ 20 := by
    cases c.total with
    | none => decide
    | some t => exact hnumeral t
  simp only [encode, String.toList_intercalate, List.map_cons, List.map_nil, List.intercalate_cons_cons,
    List.intercalate_singleton, List.length_append]
  have hdelimiter : "|".toList.length = 1 := by decide
  omega

/-- A token falls apart into the texts of its three fields. -/
theorem splitAll_encode (c : Cursor) :
    Text.splitAll delimiter c.encode =
      [Text.numeral c.offset.toNat, totalText c.total, Text.numeral c.pageSize.toNat] := by
  apply Text.splitAll_intercalate (by simp)
  intro s hs
  simp only [List.mem_cons, List.not_mem_nil, or_false] at hs
  rcases hs with rfl | rfl | rfl
  · exact not_mem_numeral _
  · exact not_mem_totalText _
  · exact not_mem_numeral _

/-- A total is read back from its text. -/
theorem readTotal_totalText (total : Option UInt64) : readTotal (totalText total) = total := by
  cases total with
  | none => decide
  | some t =>
    have hne : Text.numeral t.toNat ≠ unknownTotal := by
      intro h
      have hn : 'n' ∈ (Text.numeral t.toNat).toList := by
        rw [h]
        decide
      rw [Text.numeral, String.toList_ofList] at hn
      exact absurd (Text.isDigit_of_mem_decimal hn) (by decide)
    rw [totalText, readTotal, trim_numeral]
    simp only [hne, if_false]
    exact Text.readUInt64_numeral t

/-- A cursor without a total that its offset has passed. -/
def withoutPassedTotal (c : Cursor) : Cursor := { c with total := c.total.filter (c.offset ≤ ·) }

/-- A total goes if the offset is past it. -/
theorem withoutPassedTotal_eq_ite (c : Cursor) :
    c.withoutPassedTotal = if c.total.any (· < c.offset) then { c with total := none } else c := by
  obtain ⟨offset, total, pageSize⟩ := c
  cases total with
  | none => rfl
  | some t =>
    by_cases h : t < offset
    · simp [withoutPassedTotal, Option.filter, h, UInt64.not_le.mpr h]
    · simp [withoutPassedTotal, Option.filter, h, UInt64.not_lt.mp h]

/-- A valid cursor keeps its total. -/
theorem Valid.withoutPassedTotal_eq {c : Cursor} (h : c.Valid) : c.withoutPassedTotal = c := by
  have htotal : c.total.filter (c.offset ≤ ·) = c.total := by
    cases ht : c.total with
    | none => rfl
    | some t => simp [Option.filter, h.offset_le t ht]
  rw [withoutPassedTotal, htotal]

/-- A cursor whose pages hold something comes back out of its token, but for a total that its offset has passed. -/
theorem decode_encode_of_pos {c : Cursor} (h : 0 < c.pageSize) (default : UInt32) :
    decode (some c.encode) default = c.withoutPassedTotal := by
  have hoffset : readOffset (Text.numeral c.offset.toNat) = c.offset := by
    rw [readOffset, trim_numeral, Text.readUInt64_numeral]
    rfl
  have hsize : readPageSize default (Text.numeral c.pageSize.toNat) = c.pageSize := by
    rw [readPageSize, trim_numeral, Text.readUInt32_numeral]
    exact if_pos h
  rw [decode, statedToken_encode]
  simp only [splitAll_encode, ofFields, hoffset, hsize, readTotal_totalText, withoutPassedTotal]

/-- A valid cursor comes back out of its token, whatever page size is the fallback. -/
theorem decode_encode {c : Cursor} (h : c.Valid) (default : UInt32) : decode (some c.encode) default = c := by
  rw [decode_encode_of_pos h.pageSize_pos, h.withoutPassedTotal_eq]

/-- Reading a token undoes writing it for the valid cursors and for no others: a cursor comes back out of its token under every
page size for a fallback exactly when it is valid. So two valid cursors never share a token, and a token of one reads the same
under every fallback. -/
theorem decode_encode_iff_valid :
    (∀ c : Cursor, (∀ default, decode (some c.encode) default = c) ↔ c.Valid) ∧
    (∀ c c' : Cursor, c.Valid → c'.Valid → c ≠ c' → c.encode ≠ c'.encode) ∧
    ∀ c : Cursor, c.Valid → ∀ default default', decode (some c.encode) default = decode (some c.encode) default' := by
  refine ⟨?_, ?_, ?_⟩
  · intro c
    constructor
    · intro h
      rw [← h 1]
      exact decode_valid _ _
    · exact fun h default => decode_encode h default
  · intro c c' h h' hne hencode
    have hsame := decode_encode h 1
    rw [hencode, decode_encode h' 1] at hsame
    exact hne hsame.symm
  · intro c h default default'
    rw [decode_encode h default, decode_encode h default']

/-- At the ends of the ranges: the greatest offset with itself for a total and with the greatest page size, and the start of an
empty listing with the least. -/
theorem decode_encode_iff_valid_at_ends :
    let last : Cursor := { offset := 18446744073709551615, total := some 18446744073709551615, pageSize := 4294967295 }
    let start : Cursor := { offset := 0, total := some 0, pageSize := 1 }
    last.Valid ∧ start.Valid ∧ last ≠ start ∧ (∀ default, decode (some last.encode) default = last) ∧
      last.encode ≠ start.encode ∧ decode (some start.encode) 0 = decode (some start.encode) 4294967295 := by
  intro last start
  have hlast : last.Valid := ⟨by decide, fun total htotal => by cases htotal; decide⟩
  have hstart : start.Valid := ⟨by decide, fun total htotal => by cases htotal; decide⟩
  obtain ⟨hiff, hdistinct, hfallback⟩ := decode_encode_iff_valid
  exact ⟨hlast, hstart, by decide, (hiff last).mpr hlast, hdistinct last start hlast hstart (by decide),
    hfallback start hstart 0 4294967295⟩

/-! ## Moving on -/

/-- The cursor behind a page, as long as the offset fits 64 bits. -/
theorem advance?_eq {c : Cursor} {n : Nat} (h : c.offset.toNat + n < UInt64.size) :
    c.advance? n = some { c with offset := UInt64.ofNat (c.offset.toNat + n) } := by
  simp only [advance?, if_pos h]

/-- Moving on changes nothing of a cursor but its offset. -/
theorem of_advance? {c behind : Cursor} {n : Nat} (h : c.advance? n = some behind) :
    behind.offset.toNat = c.offset.toNat + n ∧ behind.total = c.total ∧ behind.pageSize = c.pageSize := by
  simp only [advance?, Option.ite_none_right_eq_some, Option.some.injEq] at h
  obtain ⟨hsmall, rfl⟩ := h
  exact ⟨UInt64.toNat_ofNat_of_lt' hsmall, rfl, rfl⟩

/-- A cursor is exhausted where it knows a total and has reached it. -/
theorem isExhausted_iff {c : Cursor} : c.isExhausted = true ↔ ∃ total, c.total = some total ∧ total ≤ c.offset := by
  simp only [isExhausted, Option.any_eq_true, decide_eq_true_eq]

end BasinRegister.Cursor
