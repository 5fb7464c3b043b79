import BasinRegister.Json.Numeric
import BasinRegister.Json.Printer
import BasinRegister.Proofs.Text.Numeral
import BasinRegister.Proofs.Text.Split

/-!
# Numbers in documents

The numbers that documents are written with have the form that readers know (`doubleText_written`, `integerText_written`), so
that a reader that takes one at the front of a text leaves exactly what stands behind it (`WrittenNumber.rest_of_take`).
-/

namespace BasinRegister.Json

open Number (Double Decimal DecimalLayout)

/-! ## Forms -/

/-- One or more digits. -/
def IsDigits (ds : List Char) : Prop := ds ≠ [] ∧ ∀ c ∈ ds, c.isDigit = true

/-- Nothing, or a point and digits. -/
inductive WrittenFraction : List Char → Prop where
  /-- There is no fraction. -/
  | none : WrittenFraction []
  /-- The digits stand behind a point. -/
  | some {ds : List Char} (hds : IsDigits ds) : WrittenFraction ('.' :: ds)

/-- Nothing, or the digits of an exponent with its sign. -/
inductive WrittenExponent : List Char → Prop where
  /-- There is no exponent. -/
  | none : WrittenExponent []
  /-- The digits stand behind a sign. -/
  | some {sign : Char} {ds : List Char} (hsign : sign = '-' ∨ sign = '+') (hds : IsDigits ds) :
      WrittenExponent ('e' :: sign :: ds)

/-- A number as documents are written with it. -/
inductive WrittenNumber : List Char → Prop where
  /-- The parts of a number stand one behind the other. -/
  | parts {sign whole fraction exponent : List Char} (hsign : sign = [] ∨ sign = ['-']) (hwhole : IsDigits whole)
      (hfraction : WrittenFraction fraction) (hexponent : WrittenExponent exponent) :
      WrittenNumber (sign ++ (whole ++ (fraction ++ exponent)))

/-- What may stand behind a value: nothing, a comma or a closing bracket. -/
def Closes (rest : List Char) : Prop := ∀ c ∈ rest.head?, c = ',' ∨ c = ']' ∨ c = '\x7d'

/-! ## Reading -/

/-- Digits go on as long as they can. -/
theorem takeDigits_append {ds rest : List Char} (hds : IsDigits ds) (hrest : ∀ c ∈ rest.head?, c.isDigit = false) :
    NumberText.takeDigits (ds ++ rest) = some (ds, rest) := by
  obtain ⟨htake, hdrop⟩ := Text.span_append hds.2 hrest
  have hne : ds.isEmpty = false := by simpa using hds.1
  unfold NumberText.takeDigits
  rw [htake, hdrop]
  simp only [hne, Bool.false_eq_true, if_false]

/-- A zero in front of other digits is not read. -/
def LeadingZero (ds : List Char) : Prop := ds.head? = some '0' ∧ ds ≠ ['0']

instance (ds : List Char) : Decidable (LeadingZero ds) := inferInstanceAs (Decidable (_ ∧ _))

/-- The digits before the point are taken as a whole, unless a zero stands before others. -/
theorem takeWhole_append {ds rest : List Char} (hds : IsDigits ds) (hrest : ∀ c ∈ rest.head?, c.isDigit = false) :
    NumberText.takeWhole (ds ++ rest) = if LeadingZero ds then none else some (ds, rest) := by
  obtain ⟨hne, hdigits⟩ := hds
  cases ds with
  | nil => exact absurd rfl hne
  | cons d ds =>
    by_cases hzero : d = '0'
    · subst hzero
      rw [List.cons_append, NumberText.takeWhole]
      cases ds with
      | nil =>
        have hclosed : rest.head?.any Char.isDigit = false := by
          rw [Option.any_eq_false]
          exact hrest
        simp [hclosed, LeadingZero]
      | cons e es => simp [hdigits e (by simp), LeadingZero]
    · have htake : NumberText.takeWhole (d :: ds ++ rest) = NumberText.takeDigits (d :: ds ++ rest) := by
        rw [List.cons_append]
        unfold NumberText.takeWhole
        split
        · rename_i heq
          exact absurd (List.cons.inj heq).1 hzero
        · rfl
      rw [htake, takeDigits_append ⟨hne, hdigits⟩ hrest, if_neg (by simp [LeadingZero, hzero])]

/-- The digits of a fraction are taken behind its point. -/
theorem takeFraction_append {fraction rest : List Char} (h : WrittenFraction fraction)
    (hrest : ∀ c ∈ rest.head?, c.isDigit = false ∧ c ≠ '.') :
    NumberText.takeFraction (fraction ++ rest) = some (fraction.tail, rest) := by
  cases h with
  | none =>
    unfold NumberText.takeFraction
    split
    · rename_i cs heq
      exact absurd rfl (hrest '.' (by rw [← List.nil_append rest, heq]; rfl)).2
    · rfl
  | some hds => exact takeDigits_append hds fun c hc => (hrest c hc).1

/-- The sign and the digits of a written exponent. -/
def exponentParts : List Char → Option (Bool × List Char)
  | _ :: sign :: ds => some (sign == '-', ds)
  | _ => none

/-- An exponent is read in front of what does not go on with it. -/
theorem takeExponent_append {exponent rest : List Char} (h : WrittenExponent exponent)
    (hrest : ∀ c ∈ rest.head?, c.isDigit = false ∧ c ≠ 'e' ∧ c ≠ 'E') :
    NumberText.takeExponent (exponent ++ rest) = some (exponentParts exponent, rest) := by
  cases h with
  | none =>
    unfold NumberText.takeExponent
    split
    · rename_i cs heq
      exact absurd rfl (hrest 'e' (by rw [← List.nil_append rest, heq]; rfl)).2.1
    · rename_i cs heq
      exact absurd rfl (hrest 'E' (by rw [← List.nil_append rest, heq]; rfl)).2.2
    · rfl
  | @some sign ds hsign hds =>
    have hdigits := takeDigits_append hds fun c hc => (hrest c hc).1
    rcases hsign with rfl | rfl <;>
      simp only [List.cons_append, NumberText.takeExponent, NumberText.takeExponentDigits, hdigits] <;> rfl

/-- What closes a value is no digit. -/
theorem Closes.isDigit {rest : List Char} (h : Closes rest) {c : Char} (hc : c ∈ rest.head?) : c.isDigit = false := by
  rcases h c hc with rfl | rfl | rfl <;> decide

/-- What stands behind the digits before the point is no digit. -/
theorem head_fraction_exponent {fraction exponent rest : List Char} (hfraction : WrittenFraction fraction)
    (hexponent : WrittenExponent exponent) (hrest : Closes rest) :
    ∀ c ∈ (fraction ++ (exponent ++ rest)).head?, c.isDigit = false := by
  intro c hc
  cases hfraction with
  | some _ =>
    cases hc
    decide
  | none =>
    cases hexponent with
    | some _ _ =>
      cases hc
      decide
    | none => exact hrest.isDigit hc

/-- An exponent does not start like digits or a fraction. -/
theorem head_exponent {exponent rest : List Char} (hexponent : WrittenExponent exponent) (hrest : Closes rest) :
    ∀ c ∈ (exponent ++ rest).head?, c.isDigit = false ∧ c ≠ '.' := by
  intro c hc
  cases hexponent with
  | some _ _ =>
    cases hc
    decide
  | none => rcases hrest c hc with rfl | rfl | rfl <;> decide

/-- A number is taken part by part from the front of a text, unless its first digit is a zero before others. -/
theorem take_parts {sign whole fraction exponent rest : List Char} (hsign : sign = [] ∨ sign = ['-'])
    (hwhole : IsDigits whole) (hfraction : WrittenFraction fraction) (hexponent : WrittenExponent exponent)
    (hrest : Closes rest) :
    NumberText.take (sign ++ (whole ++ (fraction ++ exponent)) ++ rest) =
      if LeadingZero whole then none
      else some (⟨!sign.isEmpty, whole, fraction.tail, exponentParts exponent⟩, rest) := by
  have hcloses : ∀ c ∈ rest.head?, c.isDigit = false ∧ c ≠ 'e' ∧ c ≠ 'E' := by
    intro c hc
    rcases hrest c hc with rfl | rfl | rfl <;> decide
  have htakeWhole := takeWhole_append hwhole (head_fraction_exponent hfraction hexponent hrest)
  have htakeFraction := takeFraction_append hfraction (head_exponent hexponent hrest)
  have htakeExponent := takeExponent_append hexponent hcloses
  simp only [List.append_assoc]
  unfold NumberText.take
  rcases hsign with rfl | rfl
  · -- digits do not begin with a sign
    obtain ⟨d, ds, rfl⟩ := List.exists_cons_of_ne_nil hwhole.1
    have hd : d ≠ '-' := by
      rintro rfl
      exact absurd (hwhole.2 '-' List.mem_cons_self) (by decide)
    split
    rename_i negative unsigned hunsigned
    split at hunsigned
    · rename_i heq
      exact absurd (List.cons.inj heq).1 hd
    · cases hunsigned
      rw [List.nil_append, htakeWhole]
      split
      · rfl
      · simp only [Option.bind_eq_bind, Option.bind_some, htakeFraction, htakeExponent]
        rfl
  · simp only [List.cons_append, List.nil_append, htakeWhole]
    split
    · rfl
    · simp only [Option.bind_eq_bind, Option.bind_some, htakeFraction, htakeExponent]
      rfl

/-- What is taken of a written number is the same whatever stands behind it, and that is left. -/
theorem WrittenNumber.take_append {cs : List Char} (h : WrittenNumber cs) :
    ∃ n : Option NumberText, ∀ rest, Closes rest → NumberText.take (cs ++ rest) = n.map (·, rest) := by
  cases h with
  | @parts sign whole fraction exponent hsign hwhole hfraction hexponent =>
    refine ⟨if LeadingZero whole then none else some ⟨!sign.isEmpty, whole, fraction.tail, exponentParts exponent⟩, ?_⟩
    intro rest hrest
    rw [take_parts hsign hwhole hfraction hexponent hrest]
    split <;> rfl

/-- A number that is taken at the front of a text leaves what stands behind it. -/
theorem WrittenNumber.rest_of_take {cs rest left : List Char} {n : NumberText} (h : WrittenNumber cs) (hrest : Closes rest)
    (htake : NumberText.take (cs ++ rest) = some (n, left)) : left = rest := by
  obtain ⟨taken, htaken⟩ := h.take_append
  rw [htaken rest hrest] at htake
  obtain ⟨_, -, heq⟩ := Option.map_eq_some_iff.mp htake
  exact (Prod.mk.inj heq).2.symm

/-! ## Writing -/

/-- The digits of a number are digits. -/
theorem isDigits_decimal (n : Nat) : IsDigits (Text.decimal n) :=
  ⟨Text.decimal_ne_nil n, fun _ => Text.isDigit_of_mem_decimal⟩

/-- Digits stay digits with more of them behind. -/
theorem IsDigits.append {ds es : List Char} (hds : IsDigits ds) (hes : ∀ c ∈ es, c.isDigit = true) :
    IsDigits (ds ++ es) := by
  refine ⟨by simp [hds.1], ?_⟩
  intro c hc
  rcases List.mem_append.mp hc with hc | hc
  · exact hds.2 c hc
  · exact hes c hc

/-- A zero is a digit. -/
theorem isDigits_zero : IsDigits ['0'] := by
  refine ⟨List.cons_ne_nil _ _, ?_⟩
  intro c hc
  rw [List.mem_singleton.mp hc]
  decide

/-- So is every one of several zeros. -/
theorem isDigit_of_mem_zeros {n : Nat} {c : Char} (h : c ∈ List.replicate n '0') : c.isDigit = true := by
  rw [List.eq_of_mem_replicate h]
  decide

/-- The positional form has digits on both sides of a point. -/
theorem positional_written (d : Decimal) :
    ∃ whole fraction, DecimalLayout.positional d = whole ++ fraction ∧ IsDigits whole ∧ WrittenFraction fraction := by
  have hdigits := isDigits_decimal d.digits
  unfold DecimalLayout.positional
  simp only
  split
  · exact ⟨_, _, rfl, hdigits.append fun _ => isDigit_of_mem_zeros, .some isDigits_zero⟩
  · split
    · rename_i hwhole hplaces
      refine ⟨_, _, rfl, ⟨?_, fun c hc => hdigits.2 c (List.mem_of_mem_take hc)⟩,
        .some ⟨?_, fun c hc => hdigits.2 c (List.mem_of_mem_drop hc)⟩⟩
      · rw [ne_eq, ← List.length_eq_zero_iff, List.length_take]
        omega
      · rw [ne_eq, ← List.length_eq_zero_iff, List.length_drop]
        omega
    · refine ⟨['0'], _, rfl, isDigits_zero, .some ⟨by simp [hdigits.1], ?_⟩⟩
      intro c hc
      rcases List.mem_append.mp hc with hc | hc
      · exact isDigit_of_mem_zeros hc
      · exact hdigits.2 c hc

/-- Every layout has digits, perhaps a point with digits and perhaps an exponent. -/
theorem write_written (l : DecimalLayout) (d : Decimal) :
    ∃ whole fraction exponent, l.write d = whole ++ (fraction ++ exponent) ∧ IsDigits whole ∧ WrittenFraction fraction ∧
      WrittenExponent exponent := by
  unfold DecimalLayout.write
  simp only
  split
  · obtain ⟨whole, fraction, hform, hwhole, hfraction⟩ := positional_written d
    exact ⟨whole, fraction, [], by rw [hform, List.append_nil], hwhole, hfraction, .none⟩
  · obtain ⟨hne, hdigits⟩ := isDigits_decimal d.digits
    unfold DecimalLayout.scientific
    generalize d.exponent + ((Text.decimal d.digits).length : Int) - 1 = leading
    have hexponent : WrittenExponent ('e' :: (if leading < 0 then '-' else '+') :: Text.decimal leading.natAbs) := by
      refine .some ?_ (isDigits_decimal _)
      split
      · exact .inl rfl
      · exact .inr rfl
    cases hds : Text.decimal d.digits with
    | nil => exact absurd hds hne
    | cons e es =>
      rw [hds] at hdigits
      have he : IsDigits [e] := ⟨by simp, fun c hc => hdigits c (List.mem_singleton.mp hc ▸ List.mem_cons_self)⟩
      cases es with
      | nil => exact ⟨[e], [], _, by simp, he, .none, hexponent⟩
      | cons f fs =>
        exact ⟨[e], '.' :: f :: fs, _, by simp, he,
          .some ⟨by simp, fun c hc => hdigits c (List.mem_cons_of_mem e hc)⟩, hexponent⟩

/-- A double in a document is a number, or nothing stands for it. -/
theorem doubleText_written (x : Double) : doubleText x = "null" ∨ WrittenNumber (doubleText x).toList := by
  unfold doubleText
  cases htext : x.text? DecimalLayout.document with
  | none => exact .inl rfl
  | some cs =>
    refine .inr ?_
    simp only [String.toList_ofList]
    unfold Double.text? at htext
    split at htext
    · cases htext
    · have hsign : (if x.isNegative = true then ['-'] else []) = [] ∨ (if x.isNegative = true then ['-'] else []) = ['-'] := by
        cases x.isNegative <;> simp
      simp only at htext
      split at htext
      · rename_i d _
        cases htext
        obtain ⟨whole, fraction, exponent, hform, hwhole, hfraction, hexponent⟩ := write_written .document d
        rw [hform]
        exact .parts hsign hwhole hfraction hexponent
      · cases htext
        exact .parts hsign isDigits_zero (.some isDigits_zero) .none

/-- An integer is written as a number. -/
theorem integerText_written (n : Int) : WrittenNumber (integerText n).toList := by
  unfold integerText
  have hdigits := isDigits_decimal n.natAbs
  split
  · have hparts := WrittenNumber.parts (.inr rfl) hdigits .none .none
    simpa [Text.numeral, String.toList_append] using hparts
  · have hparts := WrittenNumber.parts (.inl rfl) hdigits .none .none
    simpa [Text.numeral] using hparts

end BasinRegister.Json
