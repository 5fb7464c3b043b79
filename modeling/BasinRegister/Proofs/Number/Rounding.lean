import BasinRegister.Number.Shortest
import BasinRegister.Number.Double
import Mathlib.Algebra.Order.Field.Power
import Mathlib.Algebra.Order.Ring.Rat
import Mathlib.Tactic.FieldSimp
import Mathlib.Tactic.Linarith
import Mathlib.Tactic.NormNum
import Mathlib.Tactic.Positivity
import Mathlib.Tactic.Ring

/-!
# Rounding intervals

The reals that round to a double form an interval around it. The upper end of the interval of a magnitude word is the lower end
of that of the next word, and of two neighbours only the even one holds the end they share. So no number lies in the intervals
of two words (`BinaryFormat.eq_of_contains`): whatever lies in the interval of a double tells which double it is.
-/

namespace BasinRegister.Number

namespace RoundingInterval

/-- Whether a number lies in the interval. -/
def Contains (i : RoundingInterval) (v : ℚ) : Prop :=
  if i.closed then i.low * 2 ^ i.unit ≤ v ∧ v ≤ i.high * 2 ^ i.unit
  else i.low * 2 ^ i.unit < v ∧ v < i.high * 2 ^ i.unit

/-- The ends bound what the interval contains. -/
theorem Contains.bounds {i : RoundingInterval} {v : ℚ} (h : i.Contains v) :
    i.low * 2 ^ i.unit ≤ v ∧ v ≤ i.high * 2 ^ i.unit := by
  unfold Contains at h
  split at h
  · exact h
  · exact ⟨h.1.le, h.2.le⟩

/-- An open interval does not contain its ends. -/
theorem Contains.strict {i : RoundingInterval} {v : ℚ} (h : i.Contains v) (hopen : i.closed = false) :
    i.low * 2 ^ i.unit < v ∧ v < i.high * 2 ^ i.unit := by
  rwa [Contains, hopen, if_neg (by decide)] at h

end RoundingInterval

namespace BinaryFormat

/-- The `m` of a magnitude word. -/
def significand (word : Nat) : Nat :=
  if word / 4503599627370496 = 0 then word else word % 4503599627370496 + 4503599627370496

/-- The `q` of a magnitude word. -/
def exponent (word : Nat) : Int := -1074 + (word / 4503599627370496 - 1 : Nat)

/-- The rounding interval of a magnitude word. -/
def interval (word : Nat) : RoundingInterval := RoundingInterval.ofParts (significand word) (exponent word)

theorem parts?_double {word : Nat} (h : word < double.infinity) :
    double.parts? word = some (significand word, exponent word) := by
  have himplied : double.implied = 4503599627370496 := by decide
  rw [parts?, if_neg (Nat.not_le.mpr h), himplied, significand, exponent]
  split
  · rename_i hzero
    rw [hzero, if_pos rfl, Nat.mod_eq_of_lt (by omega)]
    rfl
  · rename_i hpos
    rw [if_neg hpos]
    rfl

theorem significand_pos {word : Nat} (h : 0 < word) : 0 < significand word := by
  unfold significand
  split <;> omega

theorem significand_lt (word : Nat) : significand word < 9007199254740992 := by
  unfold significand
  split <;> omega

/-- A word and its `m` are both even or both odd. -/
theorem significand_mod_two (word : Nat) : significand word % 2 = word % 2 := by
  unfold significand
  split <;> omega

/-- The next word has the next `m`, unless `m` is the greatest one: then it has the least `m` of the next `q`. -/
theorem significand_succ (word : Nat) :
    (significand (word + 1) = significand word + 1 ∧ exponent (word + 1) = exponent word ∧
      ¬(significand (word + 1) = 4503599627370496 ∧ -1074 < exponent (word + 1))) ∨
    (significand word = 9007199254740991 ∧ significand (word + 1) = 4503599627370496 ∧
      exponent (word + 1) = exponent word + 1 ∧ -1074 < exponent (word + 1)) := by
  unfold significand exponent
  split <;> split <;> omega

/-- The interval of a word ends where that of the next word begins. -/
theorem high_eq_low_succ (word : Nat) :
    ((interval word).high * 2 ^ (interval word).unit : ℚ) =
      (interval (word + 1)).low * 2 ^ (interval (word + 1)).unit := by
  have himplied : double.implied = 4503599627370496 := by decide
  have hleast : double.leastExponent = -1074 := rfl
  simp only [interval, RoundingInterval.ofParts, himplied, hleast]
  rcases significand_succ word with ⟨hm, hq, hwide⟩ | ⟨hm, hm', hq, hleast⟩
  · have hlow : 4 * (significand word + 1) - 2 = 4 * significand word + 2 := by omega
    rw [if_neg (by simpa using hwide), hm, hq, hlow]
  · have hpower : (2 : ℚ) ^ (exponent word + 1 - 2) = 2 * 2 ^ (exponent word - 2) := by
      rw [show exponent word + 1 - 2 = exponent word - 2 + 1 by omega, zpow_add_one₀ (by norm_num), mul_comm]
    rw [if_pos (by simpa using ⟨hm', hleast⟩), hm, hm', hq, hpower]
    push_cast
    ring

/-- An interval begins before it ends. -/
theorem low_lt_high (word : Nat) :
    ((interval word).low * 2 ^ (interval word).unit : ℚ) < (interval word).high * 2 ^ (interval word).unit := by
  have hlow : (interval word).low < (interval word).high := by
    simp only [interval, RoundingInterval.ofParts]
    split <;> omega
  have hscale : (0 : ℚ) < 2 ^ (interval word).unit := by positivity
  exact mul_lt_mul_of_pos_right (by exact_mod_cast hlow) hscale

/-- The interval of a word ends no later than that of a greater one begins. -/
theorem high_le_low {word word' : Nat} (h : word < word') :
    ((interval word).high * 2 ^ (interval word).unit : ℚ) ≤ (interval word').low * 2 ^ (interval word').unit := by
  induction word', h using Nat.le_induction with
  | base => exact (high_eq_low_succ word).le
  | succ word' _ ih => exact ih.trans ((low_lt_high word').trans_eq (high_eq_low_succ word')).le

/-- No number lies in the intervals of two words. -/
theorem not_contains_of_lt {word word' : Nat} (h : word < word') {v : ℚ} (hv : (interval word).Contains v) :
    ¬(interval word').Contains v := by
  intro hv'
  have hparity (w : Nat) : (interval w).closed = (w % 2 == 0) := by
    rw [interval, RoundingInterval.ofParts, significand_mod_two]
  by_cases hnext : word' = word + 1
  · -- the two share an end, which the odd one of them does not contain
    subst hnext
    have hends := high_eq_low_succ word
    by_cases heven : word % 2 = 0
    · have hopen := hv'.strict (by rw [hparity]; simp; omega)
      linarith [hv.bounds.2]
    · have hopen := hv.strict (by rw [hparity]; simpa using heven)
      linarith [hv'.bounds.1]
  · have hbetween := (high_eq_low_succ word).trans_lt (low_lt_high (word + 1))
    linarith [hv.bounds.2, hv'.bounds.1, high_le_low (show word + 1 < word' by omega)]

/-- A number that lies in the interval of a word lies in that of no other. -/
theorem eq_of_contains {word word' : Nat} {v : ℚ} (hv : (interval word).Contains v) (hv' : (interval word').Contains v) :
    word = word' := by
  rcases Nat.lt_trichotomy word word' with h | h | h
  · exact absurd hv' (not_contains_of_lt h hv)
  · exact h
  · exact absurd hv (not_contains_of_lt h hv')

end BinaryFormat

end BasinRegister.Number
