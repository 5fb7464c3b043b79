import BasinRegister.Text.Basic

/-!
# Lower case and upper case

Folding to lower case and folding to upper case tell the same texts apart (`map_toLower_eq_iff`): in both only ASCII letters
change, and a letter of one case is nothing but itself in the other.
-/

namespace BasinRegister.Text

/-! ## Characters -/

/-- Lower-casing moves capital letters by 32 and nothing else. -/
theorem toNat_toLower (c : Char) :
    c.toLower.toNat = if 65 ≤ c.toNat ∧ c.toNat ≤ 90 then c.toNat + 32 else c.toNat := by
  have hupper : (c.val ≥ 'A'.val ∧ c.val ≤ 'Z'.val) ↔ 65 ≤ c.toNat ∧ c.toNat ≤ 90 := Iff.rfl
  unfold Char.toLower
  by_cases h : 65 ≤ c.toNat ∧ c.toNat ≤ 90
  · rw [dif_pos (hupper.mpr h), if_pos h]
    show (c.val + ('a'.val - 'A'.val)).toNat = c.val.toNat + 32
    have hc : c.val.toNat ≤ 90 := h.2
    have hstep : ('a'.val - 'A'.val).toNat = 32 := rfl
    rw [UInt32.toNat_add, hstep]
    omega
  · rw [dif_neg (mt hupper.mp h), if_neg h]

/-- Upper-casing moves small letters by 32 and nothing else. -/
theorem toNat_toUpper (c : Char) :
    c.toUpper.toNat = if 97 ≤ c.toNat ∧ c.toNat ≤ 122 then c.toNat - 32 else c.toNat := by
  have hlower : ('a'.val ≤ c.val ∧ c.val ≤ 'z'.val) ↔ 97 ≤ c.toNat ∧ c.toNat ≤ 122 := Iff.rfl
  unfold Char.toUpper
  by_cases h : 97 ≤ c.toNat ∧ c.toNat ≤ 122
  · rw [dif_pos (hlower.mpr h), if_pos h]
    show (c.val + ('A'.val - 'a'.val)).toNat = c.val.toNat - 32
    have hc : 97 ≤ c.val.toNat ∧ c.val.toNat ≤ 122 := h
    -- the step down is one up that wraps around
    have hstep : ('A'.val - 'a'.val).toNat = 4294967264 := rfl
    rw [UInt32.toNat_add, hstep]
    omega
  · rw [dif_neg (mt hlower.mp h), if_neg h]

/-- The letters by their numbers. -/
theorem isAlpha_iff (c : Char) :
    c.isAlpha = true ↔ 65 ≤ c.toNat ∧ c.toNat ≤ 90 ∨ 97 ≤ c.toNat ∧ c.toNat ≤ 122 := by
  have hupper : c.isUpper = true ↔ 65 ≤ c.toNat ∧ c.toNat ≤ 90 := decide_eq_true_iff
  have hlower : c.isLower = true ↔ 97 ≤ c.toNat ∧ c.toNat ≤ 122 := by
    show (decide (c.val ≥ 'a'.val) && decide (c.val ≤ 'z'.val)) = true ↔ _
    rw [Bool.and_eq_true, decide_eq_true_eq, decide_eq_true_eq]
    rfl
  show (c.isUpper || c.isLower) = true ↔ _
  rw [Bool.or_eq_true, hupper, hlower]

/-- Two characters are the same in lower case when they are in upper case. -/
theorem toLower_eq_iff_toUpper_eq (a b : Char) : a.toLower = b.toLower ↔ a.toUpper = b.toUpper := by
  rw [← Char.toNat_inj, ← Char.toNat_inj, toNat_toLower, toNat_toLower, toNat_toUpper, toNat_toUpper]
  split <;> split <;> split <;> split <;> omega

/-- No other character becomes one that is not a letter. -/
theorem toLower_eq_iff_of_not_isAlpha {c : Char} (h : c.isAlpha = false) (x : Char) :
    x.toLower = c.toLower ↔ x = c := by
  have hc := mt (isAlpha_iff c).mpr (by simp [h])
  rw [← Char.toNat_inj, ← Char.toNat_inj, toNat_toLower, toNat_toLower]
  split <;> split <;> omega

/-- A letter stays one in lower case. -/
theorem isAlpha_toLower {c : Char} (h : c.isAlpha = true) : c.toLower.isAlpha = true := by
  rw [isAlpha_iff] at h ⊢
  rw [toNat_toLower]
  split <;> omega

/-- A letter stays one in upper case. -/
theorem isAlpha_toUpper {c : Char} (h : c.isAlpha = true) : c.toUpper.isAlpha = true := by
  rw [isAlpha_iff] at h ⊢
  rw [toNat_toUpper]
  split <;> omega

/-- The characters that are the same in lower case are the two cases of one. -/
theorem toLower_eq_iff (x c : Char) : x.toLower = c.toLower ↔ x = c.toLower ∨ x = c.toUpper := by
  rw [← Char.toNat_inj, ← Char.toNat_inj, ← Char.toNat_inj, toNat_toLower, toNat_toLower, toNat_toUpper]
  split <;> split <;> split <;> omega

/-- What is in lower case stays as it is. -/
theorem toLower_toLower (c : Char) : c.toLower.toLower = c.toLower := by
  rw [← Char.toNat_inj, toNat_toLower c.toLower, toNat_toLower]
  grind

/-- A character that changes in lower case becomes a letter. -/
theorem toLower_eq_or_isAlpha (c : Char) : c.toLower = c ∨ c.toLower.isAlpha = true := by
  rw [← Char.toNat_inj, isAlpha_iff, toNat_toLower]
  split <;> omega

/-! ## Texts -/

/-- Two texts are the same in lower case when they are in upper case. -/
theorem map_toLower_eq_iff (xs ys : List Char) :
    xs.map Char.toLower = ys.map Char.toLower ↔ xs.map Char.toUpper = ys.map Char.toUpper := by
  induction xs generalizing ys with
  | nil => simp [eq_comm]
  | cons x xs ih =>
    cases ys with
    | nil => simp
    | cons y ys => simp only [List.map_cons, List.cons.injEq, toLower_eq_iff_toUpper_eq, ih]

/-- Texts are the same up to case if they are the same in lower case. -/
theorem sameFolded_iff (a b : String) :
    sameFolded a b = true ↔ a.toList.map Char.toLower = b.toList.map Char.toLower := by
  rw [sameFolded, beq_iff_eq, fold, fold, String.ofList_inj]

/-- A text is the same as itself. -/
theorem sameFolded_self (a : String) : sameFolded a a = true := BEq.rfl

/-- It does not matter which of two texts comes first. -/
theorem sameFolded_comm (a b : String) : sameFolded a b = sameFolded b a := BEq.comm

/-- Two texts that are the same as a third are the same. -/
theorem sameFolded_of_both {a b c : String} (ha : sameFolded a c = true) (hb : sameFolded b c = true) :
    sameFolded a b = true := by
  rw [sameFolded, beq_iff_eq] at ha hb ⊢
  rw [ha, hb]

end BasinRegister.Text
