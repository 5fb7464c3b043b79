import BasinRegister.Number.Literal
import BasinRegister.Proofs.Json.Numeric
import BasinRegister.Proofs.Number.Shortest
import BasinRegister.Proofs.Text.Case

/-!
# Written numbers are read back

The text of a finite double, in any layout, is a literal of the double's sign for a number in its rounding interval
(`Double.read_text?`). So two doubles with one text are one double (`Double.text?_inj`).
-/

namespace BasinRegister.Text

/-- Zeros behind a number shift its digits. -/
theorem readDigits_zeros (acc n : Nat) : readDigits acc (List.replicate n '0') = some (acc * 10 ^ n) := by
  induction n generalizing acc with
  | zero => rw [List.replicate_zero, readDigits, pow_zero, mul_one]
  | succ n ih =>
    rw [List.replicate_succ, readDigits, if_pos (by decide), ih, pow_succ']
    congr 1
    show (acc * 10 + 0) * 10 ^ n = _
    ring

/-- Zeros in front of a number change nothing. -/
theorem readDigits_zeros_append (n : Nat) (cs : List Char) :
    readDigits 0 (List.replicate n '0' ++ cs) = readDigits 0 cs := by
  rw [readDigits_append, readDigits_zeros, Nat.zero_mul, Option.bind_some]

end BasinRegister.Text

namespace BasinRegister.Number

namespace Literal

/-! ## Reading -/

variable {whole fraction rest : List Char} {n : Nat} {e : Int}

theorem readDecimal_of_parts {cs : List Char} (hne : whole ≠ []) (hwhole : ∀ c ∈ whole, c.isDigit = true)
    (hcs : ∀ c ∈ cs.head?, c.isDigit = false) (hfraction : takeFraction cs = (fraction, rest))
    (hdigits : Text.readDigits 0 (whole ++ fraction) = some n) (hexponent : readExponent rest = some e) :
    readDecimal (whole ++ cs) = some (.decimal n (e - (fraction.length : Int))) := by
  obtain ⟨htake, hdrop⟩ := Text.span_append hwhole hcs
  have hsome : (whole.isEmpty && fraction.isEmpty) = false := by
    rw [Bool.and_eq_false_iff]
    exact .inl (by simpa using hne)
  rw [readDecimal, htake, hdrop, hfraction]
  simp only [hsome, Bool.false_eq_true, if_false, hdigits, hexponent]
  rfl

/-- A number with a point is read as its digits on both sides. -/
theorem readDecimal_point (hne : whole ≠ []) (hwhole : ∀ c ∈ whole, c.isDigit = true)
    (hfraction : ∀ c ∈ fraction, c.isDigit = true) (hrest : ∀ c ∈ rest.head?, c.isDigit = false)
    (hdigits : Text.readDigits 0 (whole ++ fraction) = some n) (hexponent : readExponent rest = some e) :
    readDecimal (whole ++ '.' :: (fraction ++ rest)) = some (.decimal n (e - (fraction.length : Int))) := by
  obtain ⟨htake, hdrop⟩ := Text.span_append hfraction hrest
  refine readDecimal_of_parts hne hwhole ?_ ?_ hdigits hexponent
  · intro c hc
    cases hc
    decide
  · rw [takeFraction, htake, hdrop]

/-- What begins with a digit has no sign. -/
theorem takeSign_of_digits {cs : List Char} (hne : whole ≠ []) (hwhole : ∀ c ∈ whole, c.isDigit = true) :
    takeSign (whole ++ cs) = (false, whole ++ cs) := by
  obtain ⟨c, whole, rfl⟩ := List.exists_cons_of_ne_nil hne
  have hdigit := hwhole c List.mem_cons_self
  unfold takeSign
  split
  · rename_i heq
    cases heq
    cases hdigit
  · rename_i heq
    cases heq
    cases hdigit
  · rfl

/-- What begins with a digit is no word. -/
theorem readMagnitude_of_digits {cs : List Char} (hne : whole ≠ []) (hwhole : ∀ c ∈ whole, c.isDigit = true) :
    readMagnitude (whole ++ cs) = readDecimal (whole ++ cs) := by
  obtain ⟨c, whole, rfl⟩ := List.exists_cons_of_ne_nil hne
  have hhead {letter : Char} (hletter : 57 < letter.toNat) : c.toLower ≠ letter := by
    have hdigit := (Char.isDigit_iff_toNat.mp (hwhole c List.mem_cons_self)).2
    rintro rfl
    rw [Text.toNat_toLower] at hletter
    split at hletter
    · rename_i hupper
      exact absurd hdigit (by show ¬ c.toNat ≤ 57; omega)
    · exact absurd hdigit (by show ¬ c.toNat ≤ 57; omega)
  have hword (word : String) (letter : Char) (letters : List Char) (hletters : word.toList = letter :: letters)
      (hletter : 57 < letter.toNat) : String.ofList ((c :: whole ++ cs).map Char.toLower) ≠ word := by
    rintro rfl
    rw [String.toList_ofList] at hletters
    exact hhead hletter (List.cons.inj hletters).1
  unfold readMagnitude
  split
  · rename_i heq
    exact absurd heq (hword _ _ _ rfl (by decide))
  · rename_i heq
    exact absurd heq (hword _ _ _ rfl (by decide))
  · rename_i heq
    exact absurd heq (hword _ _ _ rfl (by decide))
  · rfl

/-- A written exponent is read back. -/
theorem readExponent_scientific (leading : Int) :
    readExponent ('e' :: (if leading < 0 then '-' else '+') :: Text.decimal leading.natAbs) = some leading := by
  have hdigits := Text.readDigits_decimal leading.natAbs
  have hne : (Text.decimal leading.natAbs).isEmpty = false := by simpa using Text.decimal_ne_nil _
  rw [readExponent, if_pos (by decide)]
  by_cases hneg : leading < 0
  · rw [if_pos hneg]
    simp only [takeSign, hne, Bool.false_eq_true, if_false, hdigits, if_true]
    exact congrArg some (show -(leading.natAbs : Int) = leading by omega)
  · rw [if_neg hneg]
    simp only [takeSign, hne, Bool.false_eq_true, if_false, hdigits]
    exact congrArg some (show (leading.natAbs : Int) = leading by omega)

end Literal

namespace DecimalLayout

open Literal

/-! ## The layouts -/

/-- The number of what is read is the one that was written. -/
def ReadsAs (cs : List Char) (v : ℚ) : Prop :=
  ∃ n e, readDecimal cs = some (.decimal n e) ∧ (n * 10 ^ e : ℚ) = v

/-- A number with a point is that of its digits, moved down by the places behind the point. -/
theorem readsAs_point {whole fraction : List Char} {n : Nat} (hne : whole ≠ []) (hwhole : ∀ c ∈ whole, c.isDigit = true)
    (hfraction : ∀ c ∈ fraction, c.isDigit = true) (hdigits : Text.readDigits 0 (whole ++ fraction) = some n) :
    ReadsAs (whole ++ '.' :: fraction) (n * 10 ^ (-(fraction.length : Int))) := by
  have hnil : ∀ c ∈ ([] : List Char).head?, c.isDigit = false := fun _ h => by cases h
  have hread := readDecimal_point hne hwhole hfraction hnil hdigits (e := 0) rfl
  rw [List.append_nil, zero_sub] at hread
  exact ⟨n, _, hread, rfl⟩

/-- Digits with zeros behind them and nothing behind the point. -/
theorem readsAs_whole {digits : List Char} {n : Nat} (hne : digits ≠ []) (hall : ∀ c ∈ digits, c.isDigit = true)
    (hdigits : Text.readDigits 0 digits = some n) (zeros : Nat) :
    ReadsAs (digits ++ List.replicate zeros '0' ++ ['.', '0']) (n * 10 ^ (zeros : Int)) := by
  have hread : Text.readDigits 0 (digits ++ List.replicate zeros '0' ++ ['0']) = some (n * 10 ^ (zeros + 1)) := by
    rw [List.append_assoc, ← List.replicate_succ', Text.readDigits_append, hdigits, Option.bind_some, Text.readDigits_zeros]
  have hwhole := List.forall_mem_append.mpr ⟨hall, fun _ => Json.isDigit_of_mem_zeros (n := zeros)⟩
  have hpoint := readsAs_point (List.append_ne_nil_of_left_ne_nil hne _) hwhole
    (List.forall_mem_singleton.mpr (by decide)) hread
  have hvalue : ((n * 10 ^ (zeros + 1) : Nat) * 10 ^ (-((['0'] : List Char).length : Int)) : ℚ) = n * 10 ^ (zeros : Int) := by
    push_cast
    rw [List.length_singleton, Nat.cast_one, zpow_neg, zpow_one, zpow_natCast, pow_succ]
    field_simp
  rwa [hvalue] at hpoint

/-- Digits on both sides of the point. -/
theorem readsAs_split {digits : List Char} {n places : Nat} (hall : ∀ c ∈ digits, c.isDigit = true)
    (hdigits : Text.readDigits 0 digits = some n) (hshort : places < digits.length) :
    ReadsAs (digits.take (digits.length - places) ++ '.' :: digits.drop (digits.length - places))
      (n * 10 ^ (-(places : Int))) := by
  have hwhole : digits.take (digits.length - places) ≠ [] := by
    rw [ne_eq, ← List.length_eq_zero_iff, List.length_take]
    omega
  have hplaces : (digits.drop (digits.length - places)).length = places := by
    rw [List.length_drop]
    omega
  have hpoint := readsAs_point hwhole (fun c hc => hall c (List.mem_of_mem_take hc))
    (fun c hc => hall c (List.mem_of_mem_drop hc)) (by rwa [List.take_append_drop])
  rwa [hplaces] at hpoint

/-- Digits behind the point, with zeros in front of them. -/
theorem readsAs_fraction {digits : List Char} {n : Nat} (hall : ∀ c ∈ digits, c.isDigit = true)
    (hdigits : Text.readDigits 0 digits = some n) {places : Nat} (hlong : digits.length ≤ places) :
    ReadsAs (['0', '.'] ++ List.replicate (places - digits.length) '0' ++ digits) (n * 10 ^ (-(places : Int))) := by
  have hread : Text.readDigits 0 (['0'] ++ (List.replicate (places - digits.length) '0' ++ digits)) = some n := by
    rw [show ['0'] = List.replicate 1 '0' from rfl, Text.readDigits_zeros_append, Text.readDigits_zeros_append, hdigits]
  have hplaces : (List.replicate (places - digits.length) '0' ++ digits).length = places := by
    rw [List.length_append, List.length_replicate]
    omega
  have hpoint := readsAs_point (List.cons_ne_nil _ _) (List.forall_mem_singleton.mpr (by decide))
    (List.forall_mem_append.mpr ⟨fun _ => Json.isDigit_of_mem_zeros, hall⟩) hread
  rw [hplaces] at hpoint
  rwa [List.append_assoc]

theorem readsAs_positional (d : Decimal) : ReadsAs (positional d) d.value := by
  have hdigits := Text.readDigits_decimal d.digits
  have hall : ∀ c ∈ Text.decimal d.digits, c.isDigit = true := fun _ => Text.isDigit_of_mem_decimal
  rw [Decimal.value]
  unfold positional
  simp only
  split
  · rename_i hexponent
    have hwhole := readsAs_whole (Text.decimal_ne_nil _) hall hdigits d.exponent.toNat
    rwa [Int.toNat_of_nonneg hexponent] at hwhole
  · rename_i hexponent
    have hplaces : -((-d.exponent).toNat : Int) = d.exponent := by omega
    split
    · rename_i hshort
      have hsplit := readsAs_split hall hdigits hshort
      rwa [hplaces] at hsplit
    · rename_i hlong
      have hfraction := readsAs_fraction hall hdigits (Nat.not_lt.mp hlong)
      rwa [hplaces] at hfraction

theorem readsAs_scientific (d : Decimal) :
    ReadsAs (scientific (Text.decimal d.digits) (d.exponent + ((Text.decimal d.digits).length : Int) - 1)) d.value := by
  have hdigits := Text.readDigits_decimal d.digits
  have hall : ∀ c ∈ Text.decimal d.digits, c.isDigit = true := fun _ => Text.isDigit_of_mem_decimal
  have hne := Text.decimal_ne_nil d.digits
  have hexponent := readExponent_scientific (d.exponent + ((Text.decimal d.digits).length : Int) - 1)
  have he (cs : List Char) : ∀ c ∈ ('e' :: cs).head?, c.isDigit = false := by
    intro c hc
    cases hc
    decide
  rw [Decimal.value]
  unfold scientific
  generalize Text.decimal d.digits = ds at *
  match ds, hne with
  | [c], _ =>
    have hwhole := readDecimal_of_parts (List.cons_ne_nil _ _) hall (he _) rfl hdigits hexponent
    have hplace : d.exponent + (([c] : List Char).length : Int) - 1 - (([] : List Char).length : Int) = d.exponent := by simp
    rw [hplace] at hwhole
    exact ⟨d.digits, d.exponent, hwhole, rfl⟩
  | c :: c' :: cs, _ =>
    have hpoint := readDecimal_point (List.cons_ne_nil _ _)
      (List.forall_mem_singleton.mpr (hall c List.mem_cons_self)) (List.forall_mem_cons.mp hall).2 (he _) hdigits hexponent
    have hplace : d.exponent + ((c :: c' :: cs).length : Int) - 1 - ((c' :: cs).length : Int) = d.exponent := by
      simp only [List.length_cons]
      omega
    rw [hplace] at hpoint
    refine ⟨d.digits, d.exponent, ?_, rfl⟩
    simp only [List.append_assoc]
    exact hpoint

theorem readsAs_write (l : DecimalLayout) (d : Decimal) : ReadsAs (l.write d) d.value := by
  unfold write
  simp only
  split
  · exact readsAs_positional d
  · exact readsAs_scientific d

/-- A written decimal, with or without a sign, is a literal of that sign for its number. -/
theorem read_write (l : DecimalLayout) (d : Decimal) (negative : Bool) :
    ∃ n e, read (String.ofList ((if negative then ['-'] else []) ++ l.write d)) = some ⟨negative, .decimal n e⟩ ∧
      (n * 10 ^ e : ℚ) = d.value := by
  obtain ⟨n, e, hread, hvalue⟩ := readsAs_write l d
  obtain ⟨whole, fraction, exponent, hform, hwhole, -, -⟩ := Json.write_written l d
  have hmagnitude : readMagnitude (l.write d) = some (.decimal n e) := by
    rw [← hread, hform]
    exact readMagnitude_of_digits hwhole.1 hwhole.2
  have hsign : takeSign ((if negative then ['-'] else []) ++ l.write d) = (negative, l.write d) := by
    cases negative with
    | true => rfl
    | false =>
      rw [if_neg (by decide), List.nil_append, hform]
      exact takeSign_of_digits hwhole.1 hwhole.2
  refine ⟨n, e, ?_, hvalue⟩
  rw [Literal.read, String.toList_ofList, hsign]
  exact congrArg (Option.map (Literal.mk negative)) hmagnitude

end DecimalLayout

namespace Double

/-- What a literal says of a double: its sign, and a number that is zero with it and else rounds to it. -/
def StatedBy (x : Double) (literal : Literal) : Prop :=
  literal.negative = x.isNegative ∧ ∃ n e, literal.magnitude = .decimal n e ∧
    (x.magnitude = 0 ∧ n = 0 ∨ 0 < n ∧ (BinaryFormat.interval x.magnitude).Contains (n * 10 ^ e))

/-- A double is its sign and its magnitude. -/
theorem eq_of_magnitude {x y : Double} (hsign : x.isNegative = y.isNegative) (hmagnitude : x.magnitude = y.magnitude) :
    x = y := by
  obtain ⟨bits⟩ := x
  obtain ⟨bits'⟩ := y
  simp only [isNegative, magnitude, decide_eq_decide] at hsign hmagnitude
  congr 1
  apply UInt64.toNat_inj.mp
  have hlt := bits.toNat_lt
  have hlt' := bits'.toNat_lt
  omega

/-- A literal says which double it is. -/
theorem StatedBy.unique {x y : Double} {literal : Literal} (hx : x.StatedBy literal) (hy : y.StatedBy literal) : x = y := by
  obtain ⟨hsign, n, e, hform, hx⟩ := hx
  obtain ⟨hsign', n', e', hform', hy⟩ := hy
  obtain ⟨rfl, rfl⟩ := Magnitude.decimal.inj (hform.symm.trans hform')
  refine eq_of_magnitude (hsign.symm.trans hsign') ?_
  rcases hx with ⟨hx, hn⟩ | ⟨hn, hx⟩
  · rcases hy with ⟨hy, -⟩ | ⟨hn', -⟩
    · exact hx.trans hy.symm
    · omega
  · rcases hy with ⟨-, hn'⟩ | ⟨-, hy⟩
    · omega
    · exact BinaryFormat.eq_of_contains hx hy

/-- The text of a finite double is a literal that states it. -/
theorem read_text? (l : DecimalLayout) {x : Double} (hfinite : x.isFinite = true) :
    ∃ cs literal, x.text? l = some cs ∧ Literal.read (String.ofList cs) = some literal ∧ x.StatedBy literal := by
  rw [text?, hfinite]
  by_cases hzero : x.magnitude = 0
  · have hnone : x.shortest? = none := by
      rw [shortest?, parts?, hzero]
      rfl
    rw [hnone]
    refine ⟨_, ⟨x.isNegative, .decimal 0 (-1)⟩, rfl, ?_, rfl, 0, -1, rfl, .inl ⟨hzero, rfl⟩⟩
    cases x.isNegative
    · decide
    · decide
  · obtain ⟨d, hd, hpos, hcontains⟩ := shortest?_contains hfinite hzero
    obtain ⟨n, e, hread, hvalue⟩ := l.read_write d x.isNegative
    rw [hd]
    refine ⟨_, _, rfl, hread, rfl, n, e, rfl, .inr ⟨?_, hvalue ▸ hcontains⟩⟩
    rw [Nat.pos_iff_ne_zero]
    rintro rfl
    have hvalue_pos : 0 < d.value := mul_pos (by exact_mod_cast hpos) (by positivity)
    rw [← hvalue, Nat.cast_zero, zero_mul] at hvalue_pos
    exact absurd hvalue_pos (lt_irrefl 0)

/-- Finite doubles with one text are one double. -/
theorem text?_inj {l : DecimalLayout} {x y : Double} (hx : x.isFinite = true) (hy : y.isFinite = true)
    (h : x.text? l = y.text? l) : x = y := by
  obtain ⟨cs, literal, htext, hread, hstated⟩ := read_text? l hx
  obtain ⟨cs', literal', htext', hread', hstated'⟩ := read_text? l hy
  obtain rfl : cs = cs' := Option.some.inj (htext.symm.trans (h.trans htext'))
  obtain rfl : literal = literal' := Option.some.inj (hread.symm.trans hread')
  exact hstated.unique hstated'

end Double

end BasinRegister.Number

namespace BasinRegister.Json

open Number (Double DecimalLayout)

/-- Finite doubles with one text in documents are one double. -/
theorem doubleText_inj {x y : Double} (hx : x.isFinite = true) (hy : y.isFinite = true)
    (h : doubleText x = doubleText y) : x = y := by
  obtain ⟨cs, -, htext, -⟩ := Double.read_text? .document hx
  obtain ⟨cs', -, htext', -⟩ := Double.read_text? .document hy
  rw [doubleText, doubleText, htext, htext'] at h
  refine Double.text?_inj (l := .document) hx hy ?_
  rw [htext, htext', String.ofList_injective h]

end BasinRegister.Json
