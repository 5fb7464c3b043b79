import BasinRegister.Text.Utf8

/-!
# Texts come back out of their bytes

A decoder that stands before a character reads the bytes of a character as that character (`utf8Decode_utf8EncodeChar`), so the
bytes of a text are read as the text (`utf8Lenient_utf8Bytes`).
-/

namespace BasinRegister.Text

theorem toNat_byte {n : Nat} (h : n < 256) : (UInt8.ofNat n).toNat = n := UInt8.toNat_ofNat_of_lt' h

/-- A byte that ends a sequence gives its character. -/
theorem utf8Decode_ends {p : Utf8Pending} {n : Nat} (hmissing : p.missing = 1) (hlow : p.low ≤ n) (hhigh : n ≤ p.high)
    (hbyte : n < 256) (bs : List UInt8) :
    utf8Decode (some p) (UInt8.ofNat n :: bs) = some (Char.ofNat (p.bits * 64 + (n - 0x80))) :: utf8Decode none bs := by
  rw [utf8Decode, toNat_byte hbyte]
  simp [hlow, hhigh, hmissing]

/-- A byte in the midst of a sequence leaves one byte less to come. -/
theorem utf8Decode_goes_on {p : Utf8Pending} {n : Nat} (hmissing : p.missing ≠ 1) (hlow : p.low ≤ n) (hhigh : n ≤ p.high)
    (hbyte : n < 256) (bs : List UInt8) :
    utf8Decode (some p) (UInt8.ofNat n :: bs) =
      utf8Decode (some ⟨p.missing - 1, 0x80, 0xBF, p.bits * 64 + (n - 0x80)⟩) bs := by
  rw [utf8Decode, toNat_byte hbyte]
  simp [hlow, hhigh, hmissing]

/-- A byte that begins a sequence. -/
theorem utf8Decode_begins {n : Nat} {p : Utf8Pending} (h : utf8Start (UInt8.ofNat n) = .pending p)
    (bs : List UInt8) : utf8Decode none (UInt8.ofNat n :: bs) = utf8Decode (some p) bs := by
  rw [utf8Decode, h]

theorem utf8Start_two {n : Nat} (hlow : 0xC2 ≤ n) (hhigh : n < 0xE0) :
    utf8Start (UInt8.ofNat n) = .pending ⟨1, 0x80, 0xBF, n - 0xC0⟩ := by
  have hn : (UInt8.ofNat n).toNat = n := toNat_byte (by omega)
  simp only [utf8Start, hn]
  rw [if_neg (by omega), if_neg (by omega), if_pos (by omega)]

theorem utf8Start_three {n : Nat} (hlow : 0xE0 ≤ n) (hhigh : n < 0xF0) :
    utf8Start (UInt8.ofNat n) =
      .pending ⟨2, if n = 0xE0 then 0xA0 else 0x80, if n = 0xED then 0x9F else 0xBF, n - 0xE0⟩ := by
  have hn : (UInt8.ofNat n).toNat = n := toNat_byte (by omega)
  simp only [utf8Start, hn]
  rw [if_neg (by omega), if_neg (by omega), if_neg (by omega), if_pos (by omega)]

theorem utf8Start_four {n : Nat} (hlow : 0xF0 ≤ n) (hhigh : n < 0xF5) :
    utf8Start (UInt8.ofNat n) =
      .pending ⟨3, if n = 0xF0 then 0x90 else 0x80, if n = 0xF4 then 0x8F else 0xBF, n - 0xF0⟩ := by
  have hn : (UInt8.ofNat n).toNat = n := toNat_byte (by omega)
  simp only [utf8Start, hn]
  rw [if_neg (by omega), if_neg (by omega), if_neg (by omega), if_neg (by omega), if_pos (by omega)]

/-- The bytes of a character are read as that character, whatever follows. -/
theorem utf8Decode_utf8EncodeChar (c : Char) (bs : List UInt8) :
    utf8Decode none (String.utf8EncodeChar c ++ bs) = some c :: utf8Decode none bs := by
  have hvalid : c.toNat < 0xD800 ∨ (0xDFFF < c.toNat ∧ c.toNat < 0x110000) := c.valid
  have hback : Char.ofNat c.toNat = c := Char.ofNat_toNat c
  have hval : c.val.toNat = c.toNat := rfl
  unfold String.utf8EncodeChar
  simp only [hval]
  generalize hv : c.toNat = v at hvalid hback
  split
  · -- one byte
    have hn : (UInt8.ofNat v).toNat = v := toNat_byte (by omega)
    rw [List.singleton_append, utf8Decode]
    have hstart : utf8Start (UInt8.ofNat v) = .char c := by
      simp only [utf8Start, hn]
      rw [if_pos (by omega), hback]
    rw [hstart]
  · split
    · -- two bytes
      simp only [List.cons_append, List.nil_append]
      rw [utf8Decode_begins (utf8Start_two (by omega) (by omega)),
        utf8Decode_ends rfl (by simp) (by simp; omega) (by omega)]
      have hbits : (v / 64 % 32 + 192 - 0xC0) * 64 + (v % 64 + 128 - 0x80) = v := by omega
      rw [hbits, hback]
    · split
      · -- three bytes
        simp only [List.cons_append, List.nil_append]
        rw [utf8Decode_begins (utf8Start_three (by omega) (by omega)),
          utf8Decode_goes_on (by simp) ?_ ?_ (by omega), utf8Decode_ends rfl (by simp) (by simp; omega) (by omega)]
        · have hbits : ((v / 4096 % 16 + 224 - 0xE0) * 64 + (v / 64 % 64 + 128 - 0x80)) * 64 + (v % 64 + 128 - 0x80) = v := by
            omega
          rw [hbits, hback]
        · show (if _ then _ else _) ≤ _
          split <;> omega
        · show _ ≤ (if _ then _ else _)
          split <;> omega
      · -- four bytes
        simp only [List.cons_append, List.nil_append]
        rw [utf8Decode_begins (utf8Start_four (by omega) (by omega)),
          utf8Decode_goes_on (by simp) ?_ ?_ (by omega), utf8Decode_goes_on (by simp) (by simp) (by simp; omega) (by omega),
          utf8Decode_ends rfl (by simp) (by simp; omega) (by omega)]
        · have hbits : (((v / 262144 % 8 + 240 - 0xF0) * 64 + (v / 4096 % 64 + 128 - 0x80)) * 64 +
              (v / 64 % 64 + 128 - 0x80)) * 64 + (v % 64 + 128 - 0x80) = v := by
            omega
          rw [hbits, hback]
        · show (if _ then _ else _) ≤ _
          split <;> omega
        · show _ ≤ (if _ then _ else _)
          split <;> omega

theorem utf8Decode_utf8Bytes (s : String) : utf8Decode none (utf8Bytes s) = s.toList.map some := by
  unfold utf8Bytes
  induction s.toList with
  | nil => rfl
  | cons c cs ih => rw [List.flatMap_cons, utf8Decode_utf8EncodeChar, ih, List.map_cons]

/-- The bytes of a text are read as the text. -/
theorem utf8Lenient_utf8Bytes (s : String) : utf8Lenient (utf8Bytes s) = s := by
  rw [utf8Lenient, utf8Decode_utf8Bytes, List.map_map]
  have hsome : ((fun x : Option Char => x.getD '\uFFFD') ∘ some) = id := rfl
  rw [hsome, List.map_id, String.ofList_toList]

end BasinRegister.Text
