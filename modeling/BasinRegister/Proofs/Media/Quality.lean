import BasinRegister.Media.Quality

/-!
# Qualities that are stated

Which number literals make a quality greater than zero (`Quality.isPositive_ofLiteral`), and how qualities greater than zero
compare: they are numbers, so any two of them do (`Quality.compare?_of_isPositive`).
-/

namespace BasinRegister

open Number (BinaryFormat Literal Magnitude)

namespace Number.Magnitude

/-- What is too large becomes infinity, and nothing becomes more than that. -/
theorem nearest_le_infinity (f : BinaryFormat) (digits : Nat) (exponent : Int) : nearest f digits exponent ≤ f.infinity := by
  rw [nearest]
  split
  · exact Nat.zero_le _
  · split
    · exact Nat.le_refl _
    · rw [BinaryFormat.nearest]
      split
      · exact Nat.zero_le _
      · exact Nat.min_le_left _ _

end Number.Magnitude

namespace Quality

/-- A literal that is greater than zero in single precision. -/
def Exceeds (l : Literal) : Prop :=
  l.negative = false ∧
    (l.magnitude = .infinite ∨
      ∃ digits exponent, l.magnitude = .decimal digits exponent ∧ 0 < Magnitude.nearest .single digits exponent)

/-- The word of a magnitude leaves the sign alone. -/
theorem magnitudeWord_lt (m : Magnitude) : magnitudeWord m < 0x80000000 := by
  cases m with
  | decimal digits exponent =>
    exact Nat.lt_of_le_of_lt (Magnitude.nearest_le_infinity .single digits exponent) (by decide)
  | infinite => decide
  | undefined => decide

/-- A magnitude is greater than zero when its word is neither that of zero nor beyond infinity. -/
theorem magnitudeWord_iff (m : Magnitude) :
    (0 < magnitudeWord m ∧ magnitudeWord m ≤ BinaryFormat.single.infinity) ↔
      (m = .infinite ∨ ∃ digits exponent, m = .decimal digits exponent ∧ 0 < Magnitude.nearest .single digits exponent) := by
  cases m with
  | decimal digits exponent =>
    have hle := Magnitude.nearest_le_infinity .single digits exponent
    constructor
    · exact fun h => .inr ⟨digits, exponent, rfl, h.1⟩
    · rintro (h | ⟨_, _, h, hpos⟩)
      · cases h
      · cases h
        exact ⟨hpos, hle⟩
  | infinite => simp [magnitudeWord, BinaryFormat.single]
  | undefined => simp [magnitudeWord, BinaryFormat.single]

/-- A stated quality is greater than zero when its literal is, so not when it is negative, no number or too small. -/
theorem isPositive_ofLiteral (l : Literal) : (ofLiteral l).isPositive = true ↔ Exceeds l := by
  have hlt := magnitudeWord_lt l.magnitude
  rw [Exceeds, ← magnitudeWord_iff]
  cases hnegative : l.negative with
  | true =>
    have hbits : (ofLiteral l).bits.toNat = magnitudeWord l.magnitude + 0x80000000 := by
      rw [ofLiteral, hnegative, if_pos rfl, UInt32.toNat_ofNat_of_lt' (by simp only [UInt32.size]; omega)]
    have hrank : (ofLiteral l).rank ≤ 0 := by
      rw [rank, hbits, if_neg (by omega)]
      omega
    simp [isPositive, hrank]
  | false =>
    have hbits : (ofLiteral l).bits.toNat = magnitudeWord l.magnitude := by
      rw [ofLiteral, hnegative, if_neg Bool.false_ne_true, Nat.add_zero,
        UInt32.toNat_ofNat_of_lt' (by simp only [UInt32.size]; omega)]
    have hmagnitude : (ofLiteral l).magnitude = magnitudeWord l.magnitude := by
      rw [magnitude, hbits, Nat.mod_eq_of_lt hlt]
    rw [isPositive, isNaN, rank, hbits, hmagnitude, if_pos hlt]
    simp [and_comm]

/-- Two qualities compare by their ranks if both are numbers. -/
theorem compare?_eq_some {q p : Quality} {o : Ordering} :
    compare? q p = some o ↔ (q.isNaN = false ∧ p.isNaN = false) ∧ compare q.rank p.rank = o := by
  rw [compare?]
  split
  · rename_i hnan
    rw [Bool.or_eq_true] at hnan
    rcases hnan with hnan | hnan <;> simp [hnan]
  · rename_i hnumbers
    rw [Bool.or_eq_true, not_or, Bool.not_eq_true, Bool.not_eq_true] at hnumbers
    rw [Option.some_inj, and_iff_right hnumbers]

/-- Qualities greater than zero are numbers, so they compare by their ranks. -/
theorem compare?_of_isPositive {q p : Quality} (hq : q.isPositive = true) (hp : p.isPositive = true) :
    compare? q p = some (compare q.rank p.rank) := by
  simp only [isPositive, Bool.and_eq_true, Bool.not_eq_true'] at hq hp
  exact compare?_eq_some.mpr ⟨⟨hq.1, hp.1⟩, rfl⟩

end Quality

end BasinRegister
