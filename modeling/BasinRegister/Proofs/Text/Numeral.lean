import BasinRegister.Text.Basic
import BasinRegister.Text.Numeral
import Mathlib.Data.Nat.Digits.Defs

/-!
# Numerals are read back

A written number is made of digits only, and reading it gives the number (`readUInt64_numeral`, `readUInt32_numeral`). What is
read is a sign and digits between blanks, and nothing else (`readBelow_trim_eq_some_iff`).
-/

namespace BasinRegister.Text

/-- The number of a digit character. -/
theorem toNat_digitChar (d : Nat) : (digitChar d).toNat = 48 + d % 10 := by
  have hdigits : ∀ k < 10, (Char.ofNat (48 + k)).toNat = 48 + k := by decide
  exact hdigits (d % 10) (Nat.mod_lt _ (by decide))

/-- A digit character is a digit. -/
theorem isDigit_digitChar (d : Nat) : (digitChar d).isDigit = true := by
  rw [Char.isDigit_iff_toNat, toNat_digitChar]
  have h : d % 10 < 10 := Nat.mod_lt _ (by decide)
  constructor
  · show 48 ≤ _
    omega
  · show _ ≤ 57
    omega

/-- A digit is read back from its character. -/
theorem digitValue_digitChar (d : Nat) : digitValue (digitChar d) = d % 10 := by
  rw [digitValue, toNat_digitChar]
  omega

/-- A written number is made of digits only. -/
theorem isDigit_of_mem_decimal {n : Nat} {c : Char} (h : c ∈ decimal n) : c.isDigit = true := by
  induction n using decimal.induct with
  | case1 n hn =>
    rw [decimal, if_pos hn, List.mem_singleton] at h
    exact h ▸ isDigit_digitChar n
  | case2 n hn ih =>
    rw [decimal, if_neg hn, List.mem_append, List.mem_singleton] at h
    rcases h with h | rfl
    · exact ih h
    · exact isDigit_digitChar _

/-- Every number has a digit. -/
theorem decimal_ne_nil (n : Nat) : decimal n ≠ [] := by
  rw [decimal]
  split <;> simp

/-- A number below a power of ten has at most so many digits. -/
theorem length_decimal_le {n k : Nat} (hk : 0 < k) (h : n < Nat.pow 10 k) : (decimal n).length ≤ k := by
  induction n using decimal.induct generalizing k with
  | case1 n hn =>
    rw [decimal, if_pos hn]
    exact hk
  | case2 n hn ih =>
    obtain ⟨j, rfl⟩ := Nat.exists_eq_add_of_le' hk
    have hj : 0 < j := by
      rw [Nat.pos_iff_ne_zero]
      rintro rfl
      exact hn h
    have hpower : n < Nat.pow 10 j * 10 := h
    have hdigits := ih hj (by omega)
    rw [decimal, if_neg hn, List.length_append, List.length_singleton]
    omega

/-- Reading goes on behind digits that were read. -/
theorem readDigits_append (acc : Nat) (xs ys : List Char) :
    readDigits acc (xs ++ ys) = (readDigits acc xs).bind fun n => readDigits n ys := by
  induction xs generalizing acc with
  | nil => rfl
  | cons c xs ih =>
    rw [List.cons_append, readDigits, readDigits]
    split
    · exact ih _
    · rfl

/-- A number is read back from its digits. -/
theorem readDigits_decimal (n : Nat) : readDigits 0 (decimal n) = some n := by
  induction n using decimal.induct with
  | case1 n hn =>
    rw [decimal, if_pos hn, readDigits, if_pos (isDigit_digitChar n), readDigits, digitValue_digitChar]
    congr 1
    omega
  | case2 n hn ih =>
    rw [decimal, if_neg hn, readDigits_append, ih, Option.bind_some, readDigits, if_pos (isDigit_digitChar _), readDigits,
      digitValue_digitChar]
    congr 1
    omega

/-- No zero stands in front of the digits of a number but zero. -/
theorem head?_decimal {n : Nat} (hn : n ≠ 0) : (decimal n).head? ≠ some '0' := by
  induction n using decimal.induct with
  | case1 n hsmall =>
    rw [decimal, if_pos hsmall, List.head?_cons]
    intro hzero
    have hdigit := toNat_digitChar n
    rw [Option.some.inj hzero, Nat.mod_eq_of_lt hsmall] at hdigit
    exact hn (by simpa using hdigit)
  | case2 n hlarge ih =>
    obtain ⟨c, cs, hdigits⟩ := List.exists_cons_of_ne_nil (decimal_ne_nil (n / 10))
    have hhead := ih (by omega)
    rw [hdigits] at hhead
    rwa [decimal, if_neg hlarge, hdigits]

/-- Reading digits behind a number gives no smaller one. -/
theorem le_of_readDigits {acc n : Nat} {cs : List Char} (h : readDigits acc cs = some n) : acc ≤ n := by
  induction cs generalizing acc with
  | nil => exact Nat.le_of_eq (Option.some.inj h)
  | cons c cs ih =>
    rw [readDigits] at h
    split at h
    · have hnext := ih h
      omega
    · cases h

/-- Numbers written alike are the same. -/
theorem numeral_inj {m n : Nat} (h : numeral m = numeral n) : m = n := by
  have hread := readDigits_decimal m
  rw [String.ofList_injective h, readDigits_decimal] at hread
  exact (Option.some.inj hread).symm

/-- What begins with a digit has no sign. -/
theorem readNumeral_of_isDigit {c : Char} (hc : c.isDigit = true) (cs : List Char) :
    readNumeral (c :: cs) = readDigits 0 (c :: cs) := by
  have hplus : c ≠ '+' := by
    rintro rfl
    exact absurd hc (by decide)
  rw [readNumeral]
  · simp
  · exact fun h => hplus (List.cons.inj h).1
  · exact fun _ h => hplus (List.cons.inj h).1

/-- A written number does not begin with a sign. -/
theorem readNumeral_decimal (n : Nat) : readNumeral (decimal n) = some n := by
  obtain ⟨c, cs, hdigits⟩ := List.exists_cons_of_ne_nil (decimal_ne_nil n)
  have hc : c.isDigit = true := isDigit_of_mem_decimal (hdigits ▸ List.mem_cons_self)
  rw [hdigits, readNumeral_of_isDigit hc, ← hdigits, readDigits_decimal]

/-- A number is read back from its numeral wherever it is below the limit. -/
theorem readBelow_numeral {limit n : Nat} (h : n < limit) : readBelow limit (numeral n) = some n := by
  rw [readBelow, numeral, String.toList_ofList, readNumeral_decimal]
  simp [Option.filter, h]

/-- A 64-bit number is read back from its numeral. -/
theorem readUInt64_numeral (n : UInt64) : readUInt64 (numeral n.toNat) = some n := by
  rw [readUInt64, readBelow_numeral n.toNat_lt]
  simp

/-- A 32-bit number is read back from its numeral. -/
theorem readUInt32_numeral (n : UInt32) : readUInt32 (numeral n.toNat) = some n := by
  rw [readUInt32, readBelow_numeral n.toNat_lt]
  simp

/-! ## Which texts are read -/

/-- The number that digits stand for, the first one in the highest place. -/
def valueOf (digits : List Char) : Nat := Nat.ofDigits 10 (digits.reverse.map digitValue)

/-- A text states a number: between blanks it has an optional plus sign and digits of that value, which may begin with zeros. -/
def States (s : String) (n : Nat) : Prop :=
  ∃ sign digits, (trim s).toList = sign ++ digits ∧ (sign = [] ∨ sign = ['+']) ∧ digits ≠ [] ∧
    (∀ c ∈ digits, c.isDigit = true) ∧ valueOf digits = n

/-- Reading succeeds on digits and on nothing else. -/
theorem readDigits_eq_some_iff {acc n : Nat} {cs : List Char} :
    readDigits acc cs = some n ↔ (∀ c ∈ cs, c.isDigit = true) ∧ acc * 10 ^ cs.length + valueOf cs = n := by
  induction cs generalizing acc with
  | nil => simp [readDigits, valueOf]
  | cons c cs ih =>
    have hvalue : valueOf (c :: cs) = digitValue c * 10 ^ cs.length + valueOf cs := by
      simp only [valueOf, List.reverse_cons, List.map_append, Nat.ofDigits_append, List.length_map, List.length_reverse,
        List.map_singleton, Nat.ofDigits_singleton]
      ring
    rw [readDigits, List.forall_mem_cons, hvalue, List.length_cons]
    by_cases hc : c.isDigit = true
    · rw [if_pos hc, ih]
      have hshift : (acc * 10 + digitValue c) * 10 ^ cs.length + valueOf cs =
          acc * 10 ^ (cs.length + 1) + (digitValue c * 10 ^ cs.length + valueOf cs) := by ring
      simp only [hc, true_and, hshift]
    · simp [hc]

/-- A numeral is an optional plus sign and at least one digit. -/
theorem readNumeral_eq_some_iff {cs : List Char} {n : Nat} :
    readNumeral cs = some n ↔ ∃ sign digits, cs = sign ++ digits ∧ (sign = [] ∨ sign = ['+']) ∧ digits ≠ [] ∧
      (∀ c ∈ digits, c.isDigit = true) ∧ valueOf digits = n := by
  have hread (digits : List Char) : readDigits 0 digits = some n ↔
      (∀ c ∈ digits, c.isDigit = true) ∧ valueOf digits = n := by
    rw [readDigits_eq_some_iff, Nat.zero_mul, Nat.zero_add]
  constructor
  · intro h
    unfold readNumeral at h
    split at h
    · cases h
    · cases h
    · rename_i digits hne
      exact ⟨['+'], digits, rfl, .inr rfl, hne, (hread digits).mp h⟩
    · rename_i hne _ _
      exact ⟨[], cs, rfl, .inl rfl, hne, (hread cs).mp h⟩
  · rintro ⟨sign, digits, rfl, hsign, hne, hdigits⟩
    obtain ⟨c, ds, rfl⟩ := List.exists_cons_of_ne_nil hne
    rw [← hread] at hdigits
    rcases hsign with rfl | rfl
    · rw [List.nil_append, readNumeral_of_isDigit (((hread _).mp hdigits).1 c List.mem_cons_self)]
      exact hdigits
    · exact hdigits

/-- The texts that are read, blanks aside, are those that state a number below the limit. -/
theorem readBelow_trim_eq_some_iff {limit n : Nat} {s : String} :
    readBelow limit (trim s) = some n ↔ States s n ∧ n < limit := by
  rw [readBelow, Option.filter_eq_some_iff, readNumeral_eq_some_iff, decide_eq_true_eq]
  rfl

/-- The texts that are read as a 64-bit number are those that state it. -/
theorem readUInt64_trim_eq_some_iff {s : String} {n : UInt64} :
    readUInt64 (trim s) = some n ↔ States s n.toNat := by
  rw [readUInt64, Option.map_eq_some_iff]
  constructor
  · rintro ⟨m, hm, rfl⟩
    obtain ⟨hstates, hsmall⟩ := readBelow_trim_eq_some_iff.mp hm
    rwa [UInt64.toNat_ofNat_of_lt' hsmall]
  · intro h
    exact ⟨n.toNat, readBelow_trim_eq_some_iff.mpr ⟨h, n.toNat_lt⟩, UInt64.ofNat_toNat⟩

/-- The texts that are read as a 32-bit number are those that state it. -/
theorem readUInt32_trim_eq_some_iff {s : String} {n : UInt32} :
    readUInt32 (trim s) = some n ↔ States s n.toNat := by
  rw [readUInt32, Option.map_eq_some_iff]
  constructor
  · rintro ⟨m, hm, rfl⟩
    obtain ⟨hstates, hsmall⟩ := readBelow_trim_eq_some_iff.mp hm
    rwa [UInt32.toNat_ofNat_of_lt' hsmall]
  · intro h
    exact ⟨n.toNat, readBelow_trim_eq_some_iff.mpr ⟨h, n.toNat_lt⟩, UInt32.ofNat_toNat⟩

end BasinRegister.Text
