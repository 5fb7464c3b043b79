import BasinRegister.Proofs.Number.Rounding

/-!
# Shortest digits lie in the rounding interval

Every finite double other than zero has shortest digits, and they stand for a number in its rounding interval
(`Double.shortest?_contains`). Seventeen digits are enough because the steps of that grid are narrower than the interval on
either side of the number.
-/

namespace BasinRegister.Number

namespace Fraction

/-- The fraction as a rational number. -/
def toRat (x : Fraction) : ℚ := x.num / x.den

/-- A power with an integer for its exponent, as a quotient of two with natural numbers. -/
theorem zpow_eq_div (b : ℚ) (k : Int) : b ^ k = b ^ k.toNat / b ^ (-k).toNat := by
  rcases le_total 0 k with h | h
  · rw [show (-k).toNat = 0 by omega, pow_zero, div_one, ← zpow_natCast, Int.toNat_of_nonneg h]
  · rw [show k.toNat = 0 by omega, pow_zero, one_div, ← zpow_natCast, Int.toNat_of_nonneg (by omega), zpow_neg, inv_inv]

theorem toRat_scaleTwo (x : Fraction) (k : Int) : (x.scaleTwo k).toRat = x.toRat * 2 ^ k := by
  rw [toRat, toRat, scaleTwo, zpow_eq_div, div_mul_div_comm]
  simp only [Nat.pow_eq]
  push_cast
  rfl

theorem toRat_scaleTen (x : Fraction) (k : Int) : (x.scaleTen k).toRat = x.toRat * 10 ^ k := by
  rw [toRat, toRat, scaleTen, zpow_eq_div, div_mul_div_comm]
  simp only [Nat.pow_eq]
  push_cast
  rfl

end Fraction

namespace Decimal

/-- The number that a decimal stands for. -/
def value (d : Decimal) : ℚ := d.digits * 10 ^ d.exponent

/-- Zeros are taken off the end without a change of the number. -/
theorem value_strip (digits : Nat) (exponent : Int) (fuel : Nat) :
    (strip digits exponent fuel).value = digits * 10 ^ exponent := by
  induction fuel generalizing digits exponent with
  | zero => rfl
  | succ fuel ih =>
    rw [strip]
    split
    · rename_i hzero
      have hdigits : (digits : ℚ) = (digits / 10 : Nat) * 10 := by
        exact_mod_cast (Nat.div_mul_cancel (Nat.dvd_of_mod_eq_zero hzero)).symm
      rw [ih, zpow_add_one₀ (by norm_num), hdigits]
      ring
    · rfl

theorem digits_strip_pos {digits : Nat} {exponent : Int} {fuel : Nat} (h : 0 < digits) :
    0 < (strip digits exponent fuel).digits := by
  induction fuel generalizing digits exponent with
  | zero => exact h
  | succ fuel ih =>
    rw [strip]
    split
    · exact ih (by omega)
    · exact h

end Decimal

namespace RoundingInterval

variable {i : RoundingInterval} {k : Int} {c : Nat}

/-! ## Grids -/

theorem den_step_pos (i : RoundingInterval) (k : Int) : 0 < (i.step k).den := by
  simp only [step, Fraction.scaleTwo, Fraction.scaleTen, Nat.pow_eq]
  positivity

/-- One unit in steps of the grid. -/
theorem toRat_step (i : RoundingInterval) (k : Int) : (i.step k).toRat * 10 ^ k = 2 ^ i.unit := by
  rw [step, Fraction.toRat_scaleTen, Fraction.toRat_scaleTwo, mul_assoc, ← zpow_add₀ (by norm_num), neg_add_cancel, zpow_zero]
  simp [Fraction.toRat]

/-- Comparing steps of the grid with units, in natural numbers and in rational ones. -/
theorem mul_num_le_iff (i : RoundingInterval) (k : Int) (n c : Nat) :
    n * (i.step k).num ≤ c * (i.step k).den ↔ (n * 2 ^ i.unit : ℚ) ≤ c * 10 ^ k := by
  have hden : (0 : ℚ) < (i.step k).den := by exact_mod_cast den_step_pos i k
  have hten : (0 : ℚ) < 10 ^ k := by positivity
  rw [← toRat_step i k, ← mul_assoc, mul_le_mul_iff_left₀ hten, Fraction.toRat, mul_div_assoc', div_le_iff₀ hden]
  exact_mod_cast Iff.rfl

theorem le_mul_num_iff (i : RoundingInterval) (k : Int) (n c : Nat) :
    c * (i.step k).den ≤ n * (i.step k).num ↔ (c * 10 ^ k : ℚ) ≤ n * 2 ^ i.unit := by
  have hden : (0 : ℚ) < (i.step k).den := by exact_mod_cast den_step_pos i k
  have hten : (0 : ℚ) < 10 ^ k := by positivity
  rw [← toRat_step i k, ← mul_assoc, mul_le_mul_iff_left₀ hten, Fraction.toRat, mul_div_assoc', le_div_iff₀ hden]
  exact_mod_cast Iff.rfl

/-- A point of the grid is held when it lies in the interval. -/
theorem holds_iff : i.holds (i.step k) c = true ↔ i.Contains (c * 10 ^ k) := by
  rw [holds, Contains]
  split
  · rw [Bool.and_eq_true, decide_eq_true_eq, decide_eq_true_eq, mul_num_le_iff, le_mul_num_iff]
  · rw [Bool.and_eq_true, decide_eq_true_eq, decide_eq_true_eq, ← Nat.not_le, ← Nat.not_le, le_mul_num_iff, mul_num_le_iff,
      not_le, not_le]

/-- A multiple that is nearest to a number is no more than half a step away from it. -/
theorem nearest_bounds {x d : Nat} (hd : 0 < d) :
    let rest := 2 * (x % d)
    let nearer := if rest < d then x / d else if d < rest then x / d + 1 else x / d + x / d % 2
    2 * x ≤ 2 * (nearer * d) + d ∧ 2 * (nearer * d) ≤ 2 * x + d := by
  have hdivision : x / d * d + x % d = x := Nat.div_add_mod' x d
  have hrest : x % d < d := Nat.mod_lt x hd
  intro rest nearer
  simp only [nearer, rest]
  split
  · omega
  · split
    · rw [Nat.add_mul]
      omega
    · rcases Nat.mod_two_eq_zero_or_one (x / d) with heven | hodd
      · rw [heven, Nat.add_zero]
        omega
      · rw [hodd, Nat.add_mul]
        omega

/-- On a grid a nearest point is tried, and then another one. -/
theorem onGrid_eq (i : RoundingInterval) (k : Int) :
    ∃ nearer farther, (2 * (i.mid * (i.step k).num) ≤ 2 * (nearer * (i.step k).den) + (i.step k).den ∧
        2 * (nearer * (i.step k).den) ≤ 2 * (i.mid * (i.step k).num) + (i.step k).den) ∧
      i.onGrid k = if 0 < nearer && i.holds (i.step k) nearer then some nearer
        else if 0 < farther && i.holds (i.step k) farther then some farther else none :=
  ⟨_, _, nearest_bounds (den_step_pos i k), rfl⟩

/-- What is found on a grid is positive and lies in the interval. -/
theorem onGrid_contains (h : i.onGrid k = some c) : 0 < c ∧ i.Contains (c * 10 ^ k) := by
  have hfound {c' : Nat} (h' : (0 < c' && i.holds (i.step k) c') = true) : 0 < c' ∧ i.Contains (c' * 10 ^ k) := by
    rw [Bool.and_eq_true, decide_eq_true_eq] at h'
    exact ⟨h'.1, holds_iff.mp h'.2⟩
  obtain ⟨nearer, farther, -, hgrid⟩ := onGrid_eq i k
  rw [hgrid] at h
  split at h
  · rename_i hnearer
    cases h
    exact hfound hnearer
  · split at h
    · rename_i hfarther
      cases h
      exact hfound hfarther
    · cases h

/-- A grid whose steps are narrower than the interval on either side of the number has a point in the interval. -/
theorem isSome_onGrid (hlow : 2 * (i.low * (i.step k).num) + (i.step k).den < 2 * (i.mid * (i.step k).num))
    (hhigh : 2 * (i.mid * (i.step k).num) + (i.step k).den < 2 * (i.high * (i.step k).num)) : (i.onGrid k).isSome := by
  obtain ⟨nearer, farther, hbounds, hgrid⟩ := onGrid_eq i k
  have hpos : 0 < nearer := by
    rw [Nat.pos_iff_ne_zero]
    rintro rfl
    omega
  have hholds : i.holds (i.step k) nearer = true := by
    unfold holds
    simp only
    split
    · simp only [Bool.and_eq_true, decide_eq_true_eq]
      omega
    · simp only [Bool.and_eq_true, decide_eq_true_eq]
      omega
  rw [hgrid, if_pos (by simp [hpos, hholds])]
  rfl

/-! ## The search -/

/-- What the search finds is positive and lies in the interval. -/
theorem search_contains {leading : Int} {n fuel : Nat} {d : Decimal} (h : i.search leading n fuel = some d) :
    0 < d.digits ∧ i.Contains d.value := by
  induction fuel generalizing n with
  | zero => cases h
  | succ fuel ih =>
    simp only [search] at h
    split at h
    · rename_i digits hdigits
      cases h
      obtain ⟨hpos, hcontains⟩ := onGrid_contains hdigits
      rw [Decimal.value_strip]
      exact ⟨Decimal.digits_strip_pos hpos, hcontains⟩
    · exact ih h

/-- The search finds something when the last grid it tries has a point in the interval. -/
theorem isSome_search {leading : Int} {n fuel : Nat} (h : (i.onGrid (leading - (n + fuel : Nat) + 1)).isSome) :
    (i.search leading n (fuel + 1)).isSome := by
  induction fuel generalizing n with
  | zero =>
    obtain ⟨digits, hdigits⟩ := Option.isSome_iff_exists.mp h
    simp only [search, show i.onGrid (leading - n + 1) = some digits from hdigits]
    rfl
  | succ fuel ih =>
    rw [search]
    split
    · rfl
    · exact ih (by rwa [show n + 1 + fuel = n + (fuel + 1) by omega])

/-- A power of ten is no greater than a power of two whose exponent is large enough. -/
theorem ten_zpow_le_two_zpow {a b : Int} (h : 196 * a ≤ 59 * b) (h' : 93 * a ≤ 28 * b) : (10 : ℚ) ^ a ≤ 2 ^ b := by
  rcases le_or_gt 0 a with ha | ha
  · -- `10 ^ 59` is a little less than `2 ^ 196`
    have hroot : ((10 : ℚ) ^ a) ^ 59 ≤ (2 ^ b) ^ 59 := by
      calc ((10 : ℚ) ^ a) ^ 59 = (10 ^ 59) ^ a := by rw [← zpow_natCast, ← zpow_natCast, zpow_comm]
        _ ≤ (2 ^ 196) ^ a := zpow_le_zpow_left₀ ha (by norm_num) (by norm_num)
        _ = 2 ^ (196 * a) := by rw [zpow_mul]; rfl
        _ ≤ 2 ^ (59 * b) := zpow_le_zpow_right₀ (by norm_num) h
        _ = (2 ^ b) ^ 59 := by rw [mul_comm, zpow_mul]; rfl
    exact le_of_pow_le_pow_left₀ (by norm_num) (by positivity) hroot
  · -- `2 ^ 93` is a little less than `10 ^ 28`
    have hroot : ((10 : ℚ) ^ a) ^ 93 ≤ (2 ^ b) ^ 93 := by
      rcases le_or_gt 0 b with hb | hb
      · calc ((10 : ℚ) ^ a) ^ 93 ≤ 1 := pow_le_one₀ (by positivity) (zpow_le_one_of_nonpos₀ (by norm_num) ha.le)
          _ ≤ (2 ^ b) ^ 93 := one_le_pow₀ (one_le_zpow₀ (by norm_num) hb)
      · calc ((10 : ℚ) ^ a) ^ 93 = 10 ^ (93 * a) := by rw [mul_comm, zpow_mul]; rfl
          _ ≤ 10 ^ (28 * b) := zpow_le_zpow_right₀ (by norm_num) h'
          _ = ((10 ^ 28) ^ (-b))⁻¹ := by rw [← zpow_neg, neg_neg, zpow_mul]; rfl
          _ ≤ ((2 ^ 93) ^ (-b))⁻¹ :=
            inv_anti₀ (by positivity) (zpow_le_zpow_left₀ (by omega) (by norm_num) (by norm_num))
          _ = (2 ^ b) ^ 93 := by rw [← zpow_neg, neg_neg, ← zpow_natCast, ← zpow_natCast, zpow_comm]
    exact le_of_pow_le_pow_left₀ (by norm_num) (by positivity) hroot

/-- The number is not below the power of ten of its first digit. -/
theorem ten_zpow_leadingExponent_le (hmid : 0 < i.mid) (hleast : -2000 ≤ (Nat.log2 i.mid : Int) + i.unit)
    (hgreatest : (Nat.log2 i.mid : Int) + i.unit ≤ 2000) :
    (10 : ℚ) ^ i.leadingExponent ≤ i.mid * 2 ^ i.unit := by
  have habove {e : Int} (h : (i.step e).den ≤ i.mid * (i.step e).num) : (10 : ℚ) ^ e ≤ i.mid * 2 ^ i.unit := by
    have hone := (le_mul_num_iff i e i.mid 1).mp (by rwa [Nat.one_mul])
    rwa [Nat.cast_one, one_mul] at hone
  simp only [leadingExponent]
  rw [Int.fdiv_eq_ediv_of_nonneg _ (by norm_num)]
  generalize hguess : ((Nat.log2 i.mid : Int) + i.unit) * 30103 / 100000 = guess
  split
  · have hpower : (2 : ℚ) ^ ((Nat.log2 i.mid : Int) + i.unit) ≤ i.mid * 2 ^ i.unit := by
      rw [zpow_add₀ (by norm_num), zpow_natCast]
      gcongr
      exact_mod_cast Nat.log2_self_le hmid.ne'
    refine le_trans (ten_zpow_le_two_zpow ?_ ?_) hpower
    · omega
    · omega
  · rename_i hnot
    split
    · rename_i h
      exact habove (of_decide_eq_true h)
    · exact habove (of_decide_eq_true (by simpa using hnot))

/-- A step of a grid of seventeen digits is less than twice a gap that the number is less than `2 · 10 ^ 16` times of. -/
theorem step_lt_gap {mid num den lower upper : Nat} (hden : 0 < den)
    (hsteps : 10000000000000000 * den ≤ mid * num)
    (hgap : mid + 20000000000000000 * lower < 20000000000000000 * upper) :
    2 * (lower * num) + den < 2 * (upper * num) := by
  obtain ⟨gap, rfl⟩ := Nat.exists_eq_add_of_lt (show lower < upper by omega)
  have hmid : mid < 20000000000000000 * (gap + 1) := by omega
  have hscaled : mid * den < mid * (2 * (gap + 1) * num) := by
    calc mid * den < 20000000000000000 * (gap + 1) * den := Nat.mul_lt_mul_of_pos_right hmid hden
      _ = 2 * (gap + 1) * (10000000000000000 * den) := by ring
      _ ≤ 2 * (gap + 1) * (mid * num) := Nat.mul_le_mul_left _ hsteps
      _ = mid * (2 * (gap + 1) * num) := by ring
  have hstep := Nat.lt_of_mul_lt_mul_left hscaled
  calc 2 * (lower * num) + den < 2 * (lower * num) + 2 * (gap + 1) * num := Nat.add_lt_add_left hstep _
    _ = 2 * ((lower + gap + 1) * num) := by ring

/-- Seventeen digits are enough where the number is less than `2 · 10 ^ 16` times as far from zero as from either end. -/
theorem isSome_onGrid_seventeen {leading : Int} (hleading : (10 : ℚ) ^ leading ≤ i.mid * 2 ^ i.unit)
    (hlow : i.mid + 20000000000000000 * i.low < 20000000000000000 * i.mid)
    (hhigh : i.mid + 20000000000000000 * i.mid < 20000000000000000 * i.high) : (i.onGrid (leading - 16)).isSome := by
  have hsteps : 10000000000000000 * (i.step (leading - 16)).den ≤ i.mid * (i.step (leading - 16)).num := by
    rw [le_mul_num_iff]
    refine le_trans (le_of_eq ?_) hleading
    rw [zpow_sub₀ (by norm_num)]
    norm_num
    ring
  exact isSome_onGrid (step_lt_gap (den_step_pos i _) hsteps hlow) (step_lt_gap (den_step_pos i _) hsteps hhigh)

end RoundingInterval

namespace BinaryFormat

/-- The interval of a word other than zero reaches far enough on both sides for seventeen digits. -/
theorem interval_gaps {word : Nat} (h : 0 < word) :
    (interval word).mid + 20000000000000000 * (interval word).low < 20000000000000000 * (interval word).mid ∧
      (interval word).mid + 20000000000000000 * (interval word).mid < 20000000000000000 * (interval word).high := by
  have himplied : double.implied = 4503599627370496 := by decide
  have hpos := significand_pos h
  have hlt := significand_lt word
  simp only [interval, RoundingInterval.ofParts, himplied]
  split
  · rename_i hnarrow
    have hleast : significand word = 4503599627370496 := by simpa using And.left (by simpa using hnarrow)
    omega
  · omega

/-- The exponents of the formats stay far within the reach of the estimate of the first digit. -/
theorem log2_interval_bounds {word : Nat} (hpos : 0 < word) (h : word < double.infinity) :
    -2000 ≤ (Nat.log2 (interval word).mid : Int) + (interval word).unit ∧
      (Nat.log2 (interval word).mid : Int) + (interval word).unit ≤ 2000 := by
  have hinfinity : double.infinity = 9218868437227405312 := rfl
  have hlog : Nat.log2 (4 * significand word) < 55 := by
    have hsignificand := significand_pos hpos
    have hlt := significand_lt word
    rw [Nat.log2_lt (by omega)]
    omega
  have hmid : (interval word).mid = 4 * significand word := rfl
  have hunit : (interval word).unit = -1074 + (word / 4503599627370496 - 1 : Nat) - 2 := rfl
  rw [hmid, hunit]
  omega

end BinaryFormat

/-- Every finite double other than zero has shortest digits, and they stand for a number in its rounding interval. -/
theorem Double.shortest?_contains {x : Double} (hfinite : x.isFinite = true) (hzero : x.magnitude ≠ 0) :
    ∃ d, x.shortest? = some d ∧ 0 < d.digits ∧ (BinaryFormat.interval x.magnitude).Contains d.value := by
  have hlt : x.magnitude < BinaryFormat.double.infinity := of_decide_eq_true hfinite
  have hpos : 0 < x.magnitude := Nat.pos_of_ne_zero hzero
  have hsignificand := BinaryFormat.significand_pos hpos
  have hsearch : x.shortest? = (BinaryFormat.interval x.magnitude).search (BinaryFormat.interval x.magnitude).leadingExponent
      1 17 := by
    rw [shortest?, parts?, BinaryFormat.parts?_double hlt]
    exact if_neg hsignificand.ne'
  obtain ⟨hleast, hgreatest⟩ := BinaryFormat.log2_interval_bounds hpos hlt
  obtain ⟨hlow, hhigh⟩ := BinaryFormat.interval_gaps hpos
  have hleading := RoundingInterval.ten_zpow_leadingExponent_le (i := BinaryFormat.interval x.magnitude)
    (show 0 < 4 * BinaryFormat.significand x.magnitude by omega) hleast hgreatest
  have hgrid : ((BinaryFormat.interval x.magnitude).onGrid
      ((BinaryFormat.interval x.magnitude).leadingExponent - (1 + 16 : Nat) + 1)).isSome := by
    rw [show (BinaryFormat.interval x.magnitude).leadingExponent - (1 + 16 : Nat) + 1 =
      (BinaryFormat.interval x.magnitude).leadingExponent - 16 by omega]
    exact RoundingInterval.isSome_onGrid_seventeen hleading hlow hhigh
  obtain ⟨d, hd⟩ := Option.isSome_iff_exists.mp (RoundingInterval.isSome_search hgrid)
  exact ⟨d, hsearch.trans hd, RoundingInterval.search_contains hd⟩

end BasinRegister.Number
