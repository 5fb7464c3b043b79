import BasinRegister.Proofs.Text.Case
import BasinRegister.Proofs.Text.Split
import BasinRegister.Proofs.Text.Utf8
import BasinRegister.Text.Percent

/-!
# Forms are read back

The pairs of a form come back out of it (`formDecodePairs_formEncodePairs`): a name or a value is written with plain ASCII
characters, none of which divides anything (`isFormChar`).
-/

namespace BasinRegister.Text

/-! ## Characters -/

/-- The characters with which names and values are written. -/
def isFormChar (c : Char) : Bool :=
  c.isAlphanum || c ∈ ['*', '-', '.', '_', '+', '%']

/-- A hexadecimal digit is a letter or a digit. -/
theorem isAlphanum_upperHexDigit {n : Nat} (h : n < 16) : (upperHexDigit n).isAlphanum = true := by
  have hall : ∀ k < 16, (upperHexDigit k).isAlphanum = true := by decide
  exact hall n h

/-- The code of a byte is made of form characters. -/
theorem isFormChar_of_mem_percentCode {b : UInt8} {c : Char} (h : c ∈ percentCode b) : isFormChar c = true := by
  have hb := b.toNat_lt
  simp only [percentCode, List.mem_cons, List.not_mem_nil, or_false] at h
  rcases h with rfl | rfl | rfl
  · decide
  · rw [isFormChar, isAlphanum_upperHexDigit (by omega), Bool.true_or]
  · rw [isFormChar, isAlphanum_upperHexDigit (by omega), Bool.true_or]

/-- So is a byte as a form writes it. -/
theorem isFormChar_of_mem_formEncodeByte {b : UInt8} {c : Char} (h : c ∈ formEncodeByte b) : isFormChar c = true := by
  unfold formEncodeByte at h
  simp only at h
  split at h
  · rename_i hplain
    rw [List.mem_singleton.mp h]
    simp only [Bool.or_eq_true, beq_iff_eq] at hplain
    rcases hplain with (((hplain | hplain) | hplain) | hplain) | hplain
    · rw [isFormChar, hplain, Bool.true_or]
    all_goals
      rw [hplain]
      decide
  · split at h
    · rw [List.mem_singleton.mp h]
      decide
    · exact isFormChar_of_mem_percentCode h

/-- So is a text as a form writes it. -/
theorem isFormChar_of_mem_formEncode {s : String} {c : Char} (h : c ∈ (formEncode s).toList) : isFormChar c = true := by
  rw [formEncode, String.toList_ofList] at h
  obtain ⟨b, -, hb⟩ := List.mem_flatMap.mp h
  exact isFormChar_of_mem_formEncodeByte hb

/-- Form characters are ASCII. -/
theorem toNat_lt_of_isFormChar {c : Char} (h : isFormChar c = true) : c.toNat < 0x80 := by
  rw [isFormChar, Bool.or_eq_true] at h
  rcases h with h | h
  · rw [Char.isAlphanum, Bool.or_eq_true, isAlpha_iff, Char.isDigit_iff_toNat] at h
    rcases h with h | ⟨-, h⟩
    · omega
    · exact Nat.lt_of_le_of_lt h (by decide)
  · simp only [List.mem_cons, List.not_mem_nil, or_false, decide_eq_true_eq] at h
    rcases h with rfl | rfl | rfl | rfl | rfl | rfl <;> decide

/-! ## Bytes -/

/-- An ASCII character is one byte. -/
theorem utf8EncodeChar_ascii {c : Char} (h : c.toNat < 0x80) : String.utf8EncodeChar c = [UInt8.ofNat c.toNat] := by
  have hval : c.val.toNat = c.toNat := rfl
  unfold String.utf8EncodeChar
  simp only [hval]
  rw [if_pos (by omega)]

/-- A byte other than a percent sign stands for itself. -/
theorem percentDecode_plain {b : UInt8} (h : b ≠ 37) (bs : List UInt8) : percentDecode (b :: bs) = b :: percentDecode bs := by
  rw [percentDecode]
  exact fun _ _ _ hb _ => h hb

/-- A hexadecimal digit is read back. -/
theorem hexByte?_upperHexDigit {n : Nat} (h : n < 16) :
    hexByte? (UInt8.ofNat (upperHexDigit n).toNat) = some (UInt8.ofNat n) := by
  have hall : ∀ k < 16, hexByte? (UInt8.ofNat (upperHexDigit k).toNat) = some (UInt8.ofNat k) := by decide
  exact hall n h

/-- A percent sign with two hexadecimal digits is a byte. -/
theorem percentDecode_code {h l m n : UInt8} (hh : hexByte? h = some m) (hl : hexByte? l = some n) (bs : List UInt8) :
    percentDecode (37 :: h :: l :: bs) = (m * 16 + n) :: percentDecode bs := by
  rw [percentDecode, hh, hl]

/-- The byte of a percent code comes back. -/
theorem percentDecode_percentCode (b : UInt8) (bs : List UInt8) :
    percentDecode ((percentCode b).flatMap String.utf8EncodeChar ++ bs) = b :: percentDecode bs := by
  have hb := b.toNat_lt
  have hhigh : b.toNat / 16 < 16 := by omega
  have hlow : b.toNat % 16 < 16 := by omega
  have hdigit : ∀ {n : Nat}, n < 16 → String.utf8EncodeChar (upperHexDigit n) = [UInt8.ofNat (upperHexDigit n).toNat] := by
    intro n hn
    apply utf8EncodeChar_ascii
    apply toNat_lt_of_isFormChar
    rw [isFormChar, isAlphanum_upperHexDigit hn, Bool.true_or]
  have hbytes : (percentCode b).flatMap String.utf8EncodeChar ++ bs = 37 ::
      UInt8.ofNat (upperHexDigit (b.toNat / 16)).toNat :: UInt8.ofNat (upperHexDigit (b.toNat % 16)).toNat :: bs := by
    simp only [percentCode, List.flatMap_cons, List.flatMap_nil, hdigit hhigh, hdigit hlow]
    rfl
  have hvalue : UInt8.ofNat (b.toNat / 16) * 16 + UInt8.ofNat (b.toNat % 16) = b := by
    rw [← UInt8.toNat_inj, UInt8.toNat_add, UInt8.toNat_mul, toNat_byte (by omega), toNat_byte (by omega)]
    have h16 : (16 : UInt8).toNat = 16 := rfl
    rw [h16]
    omega
  rw [hbytes, percentDecode_code (hexByte?_upperHexDigit hhigh) (hexByte?_upperHexDigit hlow), hvalue]

/-! ## Names and values -/

/-- How a character of a form is read before its percent codes are. -/
def spaced (c : Char) : Char := if c = '+' then ' ' else c

/-- A character other than a plus sign stands for itself. -/
theorem spaced_of_ne {c : Char} (h : c ≠ '+') : spaced c = c := if_neg h

/-- A byte keeps its number as a character. -/
theorem toNat_char_of_byte (b : UInt8) : (Char.ofNat b.toNat).toNat = b.toNat := by
  have hb := b.toNat_lt
  have hvalid : b.toNat.isValidChar := .inl (by omega)
  rw [Char.ofNat, dif_pos hvalid]
  rfl

/-- There is no plus sign in the code of a byte. -/
theorem spaced_percentCode (b : UInt8) : (percentCode b).map spaced = percentCode b := by
  have hb := b.toNat_lt
  have hdigit : ∀ {n : Nat}, n < 16 → spaced (upperHexDigit n) = upperHexDigit n := by
    intro n hn
    apply spaced_of_ne
    intro h
    have hplus := isAlphanum_upperHexDigit hn
    rw [h] at hplus
    exact absurd hplus (by decide)
  have hpercent : spaced '%' = '%' := by decide
  rw [percentCode, List.map_cons, List.map_cons, List.map_singleton, hpercent, hdigit (by omega), hdigit (by omega)]

/-- The byte that a piece of a form stands for comes back. -/
theorem percentDecode_formEncodeByte (b : UInt8) (bs : List UInt8) :
    percentDecode (((formEncodeByte b).map spaced).flatMap String.utf8EncodeChar ++ bs) = b :: percentDecode bs := by
  have htoNat := toNat_char_of_byte b
  unfold formEncodeByte
  simp only
  generalize Char.ofNat b.toNat = c at htoNat
  split
  · rename_i hplain
    have hclear : isFormChar c = true ∧ c ≠ '+' ∧ c ≠ '%' := by
      simp only [Bool.or_eq_true, beq_iff_eq] at hplain
      rcases hplain with (((hplain | rfl) | rfl) | rfl) | rfl
      · refine ⟨by rw [isFormChar, hplain, Bool.true_or], ?_, ?_⟩ <;> rintro rfl <;> exact absurd hplain (by decide)
      all_goals decide
    obtain ⟨hform, hplus, hpercent⟩ := hclear
    have hbyte : b ≠ 37 := by
      rintro rfl
      exact hpercent (Char.toNat_inj.mp htoNat)
    rw [List.map_singleton, spaced_of_ne hplus, List.flatMap_singleton, utf8EncodeChar_ascii (toNat_lt_of_isFormChar hform),
      htoNat, UInt8.ofNat_toNat, List.singleton_append, percentDecode_plain hbyte]
  · split
    · rename_i hspace
      have hbyte : b = 32 := UInt8.toNat_inj.mp (htoNat.symm.trans (congrArg Char.toNat hspace))
      subst hbyte
      exact percentDecode_plain (by decide) bs
    · rw [spaced_percentCode, percentDecode_percentCode]

/-- A name or a value comes back. -/
theorem formDecode_formEncode (s : String) : formDecode (formEncode s).toList = s := by
  have hbytes : ∀ bs : List UInt8,
      percentDecode (((bs.flatMap formEncodeByte).map spaced).flatMap String.utf8EncodeChar) = bs := by
    intro bs
    induction bs with
    | nil => rfl
    | cons b bs ih =>
      rw [List.flatMap_cons, List.map_append, List.flatMap_append, percentDecode_formEncodeByte, ih]
  have hspaced : (fun c => if c = '+' then ' ' else c) = spaced := rfl
  simp only [formDecode, formEncode, utf8Bytes, String.toList_ofList, hspaced, hbytes]
  exact utf8Lenient_utf8Bytes s

/-! ## Pairs -/

/-- A form writes its own delimiters in codes. -/
theorem not_mem_formEncode {d : Char} (h : isFormChar d = false) (s : String) : d ∉ (formEncode s).toList := by
  intro hd
  rw [isFormChar_of_mem_formEncode hd] at h
  cases h

/-- A pair as it stands in a form. -/
def pairChars (p : String × String) : List Char := (formEncode p.1).toList ++ '=' :: (formEncode p.2).toList

/-- A pair is read back from its text. -/
theorem formPair_pairChars (p : String × String) : formPair (pairChars p) = p := by
  rw [formPair, pairChars, cutAt_append (not_mem_formEncode (by decide) _)]
  simp only [formDecode_formEncode]

/-- So are pairs one by one. -/
theorem map_formPair_pairChars (pairs : List (String × String)) : (pairs.map pairChars).map formPair = pairs := by
  induction pairs with
  | nil => rfl
  | cons p ps ih => rw [List.map_cons, List.map_cons, formPair_pairChars, ih]

/-- The text of pairs is the text of each, with ampersands in between. -/
theorem toList_formEncodePairs (pairs : List (String × String)) :
    (formEncodePairs pairs).toList = ['&'].intercalate (pairs.map pairChars) := by
  have hdelimiter : "&".toList = ['&'] := by decide
  rw [formEncodePairs, String.toList_intercalate, List.map_map, hdelimiter]
  refine congrArg _ (List.map_congr_left ?_)
  intro p _
  rw [Function.comp_apply, String.toList_append, String.toList_append, List.append_assoc]
  rfl

/-- A form is read as the pairs that it was written from. -/
theorem formDecodePairs_formEncodePairs (pairs : List (String × String)) :
    formDecodePairs (formEncodePairs pairs) = pairs := by
  cases pairs with
  | nil => rfl
  | cons p ps =>
    have hclear : ∀ cs ∈ (p :: ps).map pairChars, '&' ∉ cs := by
      intro cs hcs
      obtain ⟨q, -, rfl⟩ := List.mem_map.mp hcs
      have hname := not_mem_formEncode (d := '&') (by decide) q.1
      have hvalue := not_mem_formEncode (d := '&') (by decide) q.2
      simp [pairChars, hname, hvalue]
    have hfull : ((p :: ps).map pairChars).filter (!·.isEmpty) = (p :: ps).map pairChars := by
      rw [List.filter_eq_self]
      intro cs hcs
      obtain ⟨q, -, rfl⟩ := List.mem_map.mp hcs
      simp [pairChars]
    have hpieces : pieces '&' (formEncodePairs (p :: ps)).toList = (p :: ps).map pairChars := by
      rw [toList_formEncodePairs]
      exact pieces_intercalate (List.cons_ne_nil _ _) hclear
    rw [formDecodePairs, hpieces, hfull, map_formPair_pairChars]

/-! ## Sizes -/

/-- Plain ASCII characters take a byte each. -/
theorem utf8ByteSize_of_ascii {s : String} (h : ∀ c ∈ s.toList, c.toNat < 0x80) : s.utf8ByteSize = s.toList.length := by
  have hlist : ∀ cs : List Char, (∀ c ∈ cs, c.toNat < 0x80) → (String.ofList cs).utf8ByteSize = cs.length := by
    intro cs
    induction cs with
    | nil => intro _; rfl
    | cons c cs ih =>
      intro hcs
      have hsplit : String.ofList (c :: cs) = String.singleton c ++ String.ofList cs := by
        rw [← String.toList_inj]
        simp
      have hc : c.utf8Size = 1 := by
        have hascii : c.val.toNat ≤ 0x7F := Nat.le_of_lt_succ (hcs c List.mem_cons_self)
        exact if_pos (UInt32.le_iff_toNat_le.mpr hascii)
      rw [hsplit, String.utf8ByteSize_append, String.utf8ByteSize_singleton, hc,
        ih fun d hd => hcs d (List.mem_cons_of_mem c hd), List.length_cons, Nat.add_comm]
  rw [← hlist s.toList h, String.ofList_toList]

/-- An ASCII text has as many bytes as characters. -/
theorem length_utf8Bytes_of_ascii {s : String} (h : ∀ c ∈ s.toList, c.toNat < 0x80) :
    (utf8Bytes s).length = s.toList.length := by
  unfold utf8Bytes
  generalize s.toList = cs at h
  induction cs with
  | nil => rfl
  | cons c cs ih =>
    rw [List.flatMap_cons, List.length_append, utf8EncodeChar_ascii (h c List.mem_cons_self),
      ih fun d hd => h d (List.mem_cons_of_mem c hd), List.length_singleton, List.length_cons, Nat.add_comm]

/-- A byte takes three characters at most. -/
theorem length_formEncodeByte_le (b : UInt8) : (formEncodeByte b).length ≤ 3 := by
  unfold formEncodeByte
  simp only
  split
  · simp
  · split <;> simp [percentCode]

/-- A text takes three characters at most for each of its bytes. -/
theorem length_formEncode_le (s : String) : (formEncode s).toList.length ≤ 3 * (utf8Bytes s).length := by
  rw [formEncode, String.toList_ofList]
  induction utf8Bytes s with
  | nil => simp
  | cons b bs ih =>
    have hb := length_formEncodeByte_le b
    rw [List.flatMap_cons, List.length_append, List.length_cons]
    omega

/-- The characters of a form are those of its names and values and its dividers. -/
theorem of_mem_formEncodePairs {pairs : List (String × String)} {c : Char} (h : c ∈ (formEncodePairs pairs).toList) :
    isFormChar c = true ∨ c = '=' ∨ c = '&' := by
  rw [toList_formEncodePairs] at h
  induction pairs with
  | nil =>
    rw [List.map_nil] at h
    cases h
  | cons p ps ih =>
    have hpair : c ∈ pairChars p → isFormChar c = true ∨ c = '=' ∨ c = '&' := by
      intro hc
      rw [pairChars, List.mem_append, List.mem_cons] at hc
      rcases hc with hc | rfl | hc
      · exact .inl (isFormChar_of_mem_formEncode hc)
      · exact .inr (.inl rfl)
      · exact .inl (isFormChar_of_mem_formEncode hc)
    cases ps with
    | nil =>
      rw [List.map_singleton, List.intercalate_singleton] at h
      exact hpair h
    | cons q qs =>
      rw [List.map_cons, List.map_cons, List.intercalate_cons_cons, List.append_assoc, List.mem_append, List.mem_append,
        List.mem_singleton, ← List.map_cons] at h
      rcases h with h | h | h
      · exact hpair h
      · exact .inr (.inr h)
      · exact ih h

/-- A bound on the size of a pair in a form with the divider before it. -/
def pairSize (p : String × String) : Nat := 3 * (utf8Bytes p.1).length + 3 * (utf8Bytes p.2).length + 2

/-- A bound on the size of a form. -/
def formSize : List (String × String) → Nat
  | [] => 0
  | p :: ps => pairSize p + formSize ps

/-- The sizes of pairs add up. -/
theorem formSize_append (ps qs : List (String × String)) : formSize (ps ++ qs) = formSize ps + formSize qs := by
  induction ps with
  | nil => rw [List.nil_append, formSize, Nat.zero_add]
  | cons p ps ih => rw [List.cons_append, formSize, formSize, ih, Nat.add_assoc]

/-- The text of pairs is no longer than their size. -/
theorem length_formEncodePairs_le (pairs : List (String × String)) : (formEncodePairs pairs).toList.length ≤ formSize pairs := by
  rw [toList_formEncodePairs]
  induction pairs with
  | nil => simp
  | cons p ps ih =>
    have hpair : (pairChars p).length + 1 ≤ pairSize p := by
      have hname := length_formEncode_le p.1
      have hvalue := length_formEncode_le p.2
      rw [pairChars, pairSize, List.length_append, List.length_cons]
      omega
    rw [formSize]
    cases ps with
    | nil =>
      rw [List.map_singleton, List.intercalate_singleton]
      omega
    | cons q qs =>
      rw [List.map_cons, List.map_cons, List.intercalate_cons_cons, List.length_append, List.length_append, List.length_singleton]
      rw [List.map_cons] at ih
      omega

/-- A form is no larger than its pairs allow. -/
theorem utf8ByteSize_formEncodePairs_le (pairs : List (String × String)) :
    (formEncodePairs pairs).utf8ByteSize ≤ formSize pairs := by
  rw [utf8ByteSize_of_ascii]
  · exact length_formEncodePairs_le pairs
  · intro c hc
    rcases of_mem_formEncodePairs hc with hc | rfl | rfl
    · exact toNat_lt_of_isFormChar hc
    · decide
    · decide

end BasinRegister.Text
