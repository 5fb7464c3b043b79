import BasinRegister.Proofs.Json.Reading

/-!
# Values that come back

The reader of documents gets back every value that documents hold from its compact form, as long as its doubles come back, which
not all of them do (`faithful_read?`). What is shown of documents holds of every reader that is faithful in this way.
-/

namespace BasinRegister.Json

open Number (Double)

/-! ## Faithful readers -/

/-- What documents hold: words, those finite doubles that are exact, texts, and arrays and objects of such values, where no name
stands twice in an object. -/
inductive Kept (isExact : Double → Prop) : Json → Prop where
  /-- Nothing. -/
  | null : Kept isExact .null
  /-- A truth value. -/
  | bool (b : Bool) : Kept isExact (.bool b)
  /-- A number that fits a 64-bit word. -/
  | word {n : Nat} (h : n < UInt64.size) : Kept isExact (.ofNat n)
  /-- A double. -/
  | real {x : Double} (hfinite : x.isFinite = true) (hexact : isExact x) : Kept isExact (.real x)
  /-- A text. -/
  | text (s : String) : Kept isExact (.text s)
  /-- Values in a list. -/
  | array {items : List Json} (h : ∀ v ∈ items, Kept isExact v) : Kept isExact (.array items)
  /-- Values with names. -/
  | object {members : List (String × Json)} (hnames : (members.map Prod.fst).Nodup) (h : ∀ m ∈ members, Kept isExact m.2) :
    Kept isExact (.object members)

/-- A reader gets back what was written, as far as its doubles are exact. -/
def Faithful (read : String → Option Json) (isExact : Double → Prop) : Prop :=
  ∀ v, Kept isExact v → read (render v) = some v

/-- A double that is read as it was written. -/
def ReadsBack (x : Double) : Prop := read? (doubleText x) = some (.real x)

/-! ## Numbers -/

/-- The digits of a number that fits a word make that word. -/
theorem collect_eq {word n : Nat} {ds : List Char} (h : Text.readDigits word ds = some n) (hn : n < UInt64.size) :
    NumberText.collect word ds = (n, []) := by
  induction ds generalizing word with
  | nil =>
    obtain rfl := Option.some.inj h
    rfl
  | cons d ds ih =>
    rw [Text.readDigits] at h
    split at h
    · have hnext := Text.le_of_readDigits h
      rw [NumberText.collect, if_pos (by omega), ih h]
    · cases h

/-- The digits of a whole number in range are read as the number. -/
theorem value_decimal {n : Nat} (hn : n < UInt64.size) : NumberText.value ⟨false, Text.decimal n, [], none⟩ = .ofNat n := by
  unfold NumberText.value
  simp only [collect_eq (Text.readDigits_decimal n) hn]
  rfl

/-- A natural number is written in its digits. -/
theorem toList_render_ofNat (n : Nat) : (render (.ofNat n)).toList = Text.decimal n := by
  rw [ofNat, render, integerText, if_neg (by omega)]
  simp [Text.numeral]

/-- A word comes back in front of whatever closes it. -/
theorem takeValue_word {n : Nat} (hn : n < UInt64.size) (fuel : Nat) {rest : List Char} (hrest : Closes rest) :
    takeValue (fuel + 1) ((render (.ofNat n)).toList ++ rest) = some (.ofNat n, rest) := by
  have hrender : render (.ofNat n) = integerText n := by rw [ofNat, render]
  have htext : (integerText n).toList = [] ++ (Text.decimal n ++ ([] ++ [])) := by
    rw [← hrender, toList_render_ofNat]
    simp
  have hzero : ¬LeadingZero (Text.decimal n) := by
    rintro ⟨hhead, hmore⟩
    by_cases hn : n = 0
    · subst hn
      exact hmore (by simp [Text.decimal, Text.digitChar])
    · exact Text.head?_decimal hn hhead
  have htake := take_parts (.inl rfl) (isDigits_decimal n) .none .none hrest
  rw [if_neg hzero, ← htext] at htake
  rw [hrender, takeValue_number (integerText_written n), htake]
  exact congrArg (fun v => some (v, rest)) (value_decimal hn)

/-- A double that is read as it was written comes back in front of whatever closes it. -/
theorem takeValue_real {x : Double} (h : ReadsBack x) (fuel : Nat) {rest : List Char} (hrest : Closes rest) :
    takeValue (fuel + 1) ((render (.real x)).toList ++ rest) = some (.real x, rest) := by
  obtain ⟨fuel', left, htake⟩ := takeValue_of_read? h
  rw [← List.append_nil (doubleText x).toList] at htake
  rcases doubleText_written x with hx | hx
  · rw [hx, takeValue_null] at htake
    cases htake
  · obtain ⟨taken, htaken⟩ := hx.take_append
    rw [takeValue_number hx, htaken [] (by simp [Closes])] at htake
    rw [render, takeValue_number hx, htaken rest hrest]
    cases taken with
    | none => cases htake
    | some n =>
      obtain ⟨hvalue, -⟩ := Prod.mk.inj (Option.some.inj htake)
      simp only [Option.map_some, hvalue]

/-- A double is read as it was written if its text is a number with that value. -/
theorem readsBack_of_take {x : Double} {n : NumberText} (htake : NumberText.take (doubleText x).toList = some (n, []))
    (hvalue : n.value = .real x) : ReadsBack x := by
  rcases doubleText_written x with hx | hx
  · rw [hx] at htake
    cases htake
  · have hread := @takeValue_number _ [] hx (2 * (doubleText x).toList.length + 1)
    rw [List.append_nil, htake] at hread
    rw [ReadsBack, read?, hread]
    simp only [Option.map_some, hvalue]
    rfl

/-! ## Values -/

/-- An item in front of a closing bracket is the last one. -/
theorem takeItems_last {fuel : Nat} {cs rest : List Char} {v : Json} (h : takeValue fuel cs = some (v, ']' :: rest)) :
    takeItems (fuel + 1) cs = some ([v], rest) := by
  rw [takeItems, h]
  simp only [Option.bind_eq_bind, Option.bind_some, skipSpace_cons (c := ']') (by decide)]

/-- An item in front of a comma is followed by others. -/
theorem takeItems_next {fuel : Nat} {cs rest : List Char} {v : Json} (h : takeValue fuel cs = some (v, ',' :: rest)) :
    takeItems (fuel + 1) cs = (takeItems fuel rest).map fun (vs, left) => (v :: vs, left) := by
  rw [takeItems, h]
  simp only [Option.bind_eq_bind, Option.bind_some, skipSpace_cons (c := ',') (by decide)]
  cases takeItems fuel rest <;> rfl

/-- A member in front of a closing brace is the last one. -/
theorem takeMembers_last {fuel : Nat} {name : String} {cs rest : List Char} {v : Json}
    (h : takeValue fuel cs = some (v, '\x7d' :: rest)) :
    takeMembers (fuel + 1) ((quote name).toList ++ ':' :: cs) = some ([(some name, v)], rest) := by
  rw [takeMembers_quote, h]
  simp only [Option.bind_some, skipSpace_cons (c := '\x7d') (by decide)]

/-- A member in front of a comma is followed by others. -/
theorem takeMembers_next {fuel : Nat} {name : String} {cs rest : List Char} {v : Json}
    (h : takeValue fuel cs = some (v, ',' :: rest)) :
    takeMembers (fuel + 1) ((quote name).toList ++ ':' :: cs) =
      (takeMembers fuel rest).map fun (ms, left) => ((some name, v) :: ms, left) := by
  rw [takeMembers_quote, h]
  simp only [Option.bind_some, skipSpace_cons (c := ',') (by decide)]
  cases takeMembers fuel rest <;> rfl

/-- Members whose names are all texts make an object. -/
theorem ofMembers_map_some (ms : List (String × Json)) : ofMembers (ms.map fun m => (some m.1, m.2)) = .object ms := by
  have hread : (ms.map fun m => (some m.1, m.2)).mapM (fun m : Option String × Json => m.1.map (·, m.2)) = some ms := by
    induction ms with
    | nil => rfl
    | cons m ms ih => simp [List.mapM_cons, ih]
  unfold ofMembers
  split
  · rename_i members hmembers
    rw [Option.some.inj (hmembers.symm.trans hread)]
  · rename_i hmembers
    cases hmembers.symm.trans hread

/-- Readers of a depth get back what is short enough for it. -/
structure Returns (fuel : Nat) : Prop where
  /-- A value comes back in front of whatever closes it. -/
  value : ∀ {v : Json} {rest : List Char}, Kept ReadsBack v → 2 * (render v).toList.length ≤ fuel → Closes rest →
    takeValue fuel ((render v).toList ++ rest) = some (v, rest)
  /-- Items come back in front of the bracket that closes them. -/
  items : ∀ {v : Json} {vs : List Json} (rest : List Char), (∀ w ∈ v :: vs, Kept ReadsBack w) →
    2 * (renderItems (v :: vs)).toList.length < fuel →
    takeItems fuel ((renderItems (v :: vs)).toList ++ ']' :: rest) = some (v :: vs, rest)
  /-- Members come back in front of the brace that closes them. -/
  members : ∀ {m : String × Json} {ms : List (String × Json)} (rest : List Char), (∀ n ∈ m :: ms, Kept ReadsBack n.2) →
    2 * (renderMembers (m :: ms)).toList.length < fuel →
    takeMembers fuel ((renderMembers (m :: ms)).toList ++ '\x7d' :: rest) =
      some ((m :: ms).map fun m => (some m.1, m.2), rest)

/-- If the reader gives back what is written with some fuel, it gives back a value with one more. -/
theorem Returns.value_succ {fuel : Nat} (hreturns : Returns fuel) {v : Json} {rest : List Char} (hv : Kept ReadsBack v)
    (hfuel : 2 * (render v).toList.length ≤ fuel + 1) (hrest : Closes rest) :
    takeValue (fuel + 1) ((render v).toList ++ rest) = some (v, rest) := by
  cases hv with
  | null => exact takeValue_null fuel rest
  | bool b => exact takeValue_bool b fuel rest
  | word hn => exact takeValue_word hn fuel hrest
  | real _ hexact => exact takeValue_real hexact fuel hrest
  | text s => exact takeValue_text s fuel rest
  | @array items hitems =>
    cases items with
    | nil => exact takeValue_noItems fuel rest
    | cons v vs =>
      have hlength : (render (.array (v :: vs))).toList.length = (renderItems (v :: vs)).toList.length + 2 := by
        simp [render, String.toList_append]
      rw [takeValue_array, hreturns.items rest hitems (by omega), Option.map_some]
  | @object members _ hmembers =>
    cases members with
    | nil => exact takeValue_noMembers fuel rest
    | cons m ms =>
      have hlength : (render (.object (m :: ms))).toList.length = (renderMembers (m :: ms)).toList.length + 2 := by
        simp [render, String.toList_append]
      rw [takeValue_object, hreturns.members rest hmembers (by omega)]
      exact congrArg (fun v => some (v, rest)) (ofMembers_map_some (m :: ms))

/-- It gives back the items of an array. -/
theorem Returns.items_succ {fuel : Nat} (hreturns : Returns fuel) {v : Json} {vs : List Json} (rest : List Char)
    (hkept : ∀ w ∈ v :: vs, Kept ReadsBack w) (hfuel : 2 * (renderItems (v :: vs)).toList.length < fuel + 1) :
    takeItems (fuel + 1) ((renderItems (v :: vs)).toList ++ ']' :: rest) = some (v :: vs, rest) := by
  rw [List.forall_mem_cons] at hkept
  cases vs with
  | nil =>
    rw [renderItems] at hfuel ⊢
    exact takeItems_last (hreturns.value hkept.1 (by omega) (closes_cons (.inr (.inl rfl)) rest))
  | cons w ws =>
    rw [toList_renderItems_cons, List.length_append, List.length_cons] at hfuel
    rw [toList_renderItems_cons, List.append_assoc, List.cons_append,
      takeItems_next (hreturns.value hkept.1 (by omega) (closes_cons (.inl rfl) _)),
      hreturns.items rest hkept.2 (by omega), Option.map_some]

/-- It gives back the members of an object. -/
theorem Returns.members_succ {fuel : Nat} (hreturns : Returns fuel) {m : String × Json} {ms : List (String × Json)}
    (rest : List Char) (hkept : ∀ n ∈ m :: ms, Kept ReadsBack n.2)
    (hfuel : 2 * (renderMembers (m :: ms)).toList.length < fuel + 1) :
    takeMembers (fuel + 1) ((renderMembers (m :: ms)).toList ++ '\x7d' :: rest) =
      some ((m :: ms).map fun m => (some m.1, m.2), rest) := by
  obtain ⟨name, v⟩ := m
  obtain ⟨hv, hkept⟩ := List.forall_mem_cons.mp hkept
  have hv : Kept ReadsBack v := hv
  cases ms with
  | nil =>
    rw [toList_renderMembers_singleton, List.length_append, List.length_cons] at hfuel
    rw [toList_renderMembers_singleton, List.append_assoc, List.cons_append]
    exact takeMembers_last (hreturns.value hv (by omega) (closes_cons (.inr (.inr rfl)) rest))
  | cons w ws =>
    rw [toList_renderMembers_cons, List.length_append, List.length_cons, List.length_append, List.length_cons] at hfuel
    rw [toList_renderMembers_cons, List.append_assoc, List.cons_append, List.append_assoc, List.cons_append,
      takeMembers_next (hreturns.value hv (by omega) (closes_cons (.inl rfl) _)),
      hreturns.members rest hkept (by omega), Option.map_some]
    rfl

/-- Readers of every depth get back what is short enough for it. -/
theorem returns (fuel : Nat) : Returns fuel := by
  induction fuel with
  | zero =>
    refine ⟨?_, fun _ _ hfuel => absurd hfuel (Nat.not_lt_zero _), fun _ _ hfuel => absurd hfuel (Nat.not_lt_zero _)⟩
    intro v rest _ hfuel _
    obtain ⟨c, cs, hcs, -⟩ := head_render v
    rw [hcs, List.length_cons] at hfuel
    omega
  | succ fuel ih => exact ⟨ih.value_succ, ih.items_succ, ih.members_succ⟩

/-- The reader of documents gets back what was written, as far as its doubles are read as they were written. -/
theorem faithful_read? : Faithful read? ReadsBack := by
  intro v hv
  have htake := (returns (2 * (render v).toList.length + 2)).value hv (by omega) (show Closes [] by simp [Closes])
  rw [List.append_nil] at htake
  rw [read?, htake]
  rfl

end BasinRegister.Json
