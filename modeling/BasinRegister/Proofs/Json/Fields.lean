import Mathlib.Data.List.Forall2
import BasinRegister.Json.Fields
import BasinRegister.Proofs.Json.RoundTrip

/-!
# Fields that come back

An object of which every member is written under a name of its own has for each field what was written for it, or nothing where
the member was left out (`slots?_object`), and the readers of fields make of it what was there.
-/

namespace BasinRegister.Json

open Number (Double)

variable {α : Type} {name : String} {members : List (String × Json)} {isExact : Double → Prop}

/-! ## Members -/

/-- What an object has for a field whose member is there if its value is. -/
def Slot.ofOption : Option Json → Slot
  | some v => .given v
  | none => .missing

@[simp] theorem member?_some (name : String) (v : Json) : member? name (some v) = [(name, v)] := rfl

/-- A member that may be absent is found under its own name only. -/
@[simp] theorem filter_member? (n name : String) (o : Option Json) :
    (member? n o).filter (·.1 = name) = if n = name then member? n o else [] := by
  cases o <;> by_cases h : n = name <;> simp [member?, h]

/-- An object has for a field what it has as its only member of that name. -/
theorem slotOf_eq {o : Option Json} (h : members.filter (·.1 = name) = member? name o) :
    slotOf members name = some (Slot.ofOption o) := by
  rw [slotOf, h]
  cases o <;> rfl

/-- An object has for its fields what it has as its only members of their names. -/
theorem slots?_object {names : List String} (values : List (Option Json))
    (h : List.Forall₂ (fun name o => members.filter (·.1 = name) = member? name o) names values) :
    (Json.object members).slots? names = some (values.map Slot.ofOption) := by
  rw [slots?]
  induction h with
  | nil => rfl
  | cons hfirst _ ih => rw [List.mapM_cons, slotOf_eq hfirst, ih]; rfl

/-- The first member of a name is the only one. -/
theorem get?_object {o : Option Json} (h : members.filter (·.1 = name) = member? name o) :
    (Json.object members).get? name = o := by
  have hfirst : ∀ ms : List (String × Json), ms.lookup name = (ms.filter (·.1 = name)).head?.map Prod.snd := by
    intro ms
    induction ms with
    | nil => rfl
    | cons m ms ih =>
      rw [List.lookup_cons, List.filter_cons]
      by_cases hm : m.1 = name
      · simp [hm]
      · have hother : (name == m.1) = false := beq_eq_false_iff_ne.mpr (Ne.symm hm)
        rw [hother, if_neg (by simpa using hm)]
        exact ih
  rw [get?, hfirst, h]
  cases o <;> rfl

/-! ## Readers -/

/-- A member that is there is read, where it must be there. -/
@[simp] theorem required_ofOption_some (read : Json → Option α) (v : Json) :
    Slot.required read (Slot.ofOption (some v)) = read v := rfl

/-- A member that is there is read, where there is a value for its absence. -/
@[simp] theorem defaulted_ofOption_some (value : α) (read : Json → Option α) (v : Json) :
    Slot.defaulted value read (Slot.ofOption (some v)) = read v := rfl

/-- A field that may be missing is read as what was written, where that is never `null`. -/
theorem optional_ofOption {write : α → Json} {read : Json → Option α} {o : Option α}
    (h : ∀ x ∈ o, read (write x) = some x ∧ write x ≠ .null) : Slot.optional read (Slot.ofOption (o.map write)) = some o := by
  cases o with
  | none => rfl
  | some x =>
    obtain ⟨hread, hnull⟩ := h x rfl
    rw [Option.map_some, Slot.ofOption, Slot.optional]
    · rw [hread, Option.map_some]
    · exact hnull

/-- A string that may be absent is read back. -/
@[simp] theorem optional_readText (o : Option String) : Slot.optional readText (Slot.ofOption (o.map .text)) = some o :=
  optional_ofOption fun _ _ => ⟨rfl, Json.noConfusion⟩

@[simp] theorem readText_text (s : String) : readText (.text s) = some s := rfl

@[simp] theorem readBool_bool (b : Bool) : readBool (.bool b) = some b := rfl

/-- A list is read as what was written. -/
theorem readList_array {write : α → Json} {read : Json → Option α} {xs : List α} (h : ∀ x ∈ xs, read (write x) = some x) :
    readList read (.array (xs.map write)) = some xs := by
  rw [readList]
  induction xs with
  | nil => rfl
  | cons x xs ih =>
    rw [List.forall_mem_cons] at h
    rw [List.map_cons, List.mapM_cons, h.1, ih h.2]
    rfl

/-- A list of strings is read back. -/
@[simp] theorem readList_ofTexts (xs : List String) : readList readText (ofTexts xs) = some xs :=
  readList_array fun _ _ => rfl

/-! ## What is written -/

/-- A member that may be absent is kept where its value is. -/
theorem kept_member? {o : Option Json} (h : ∀ v ∈ o, Kept isExact v) : ∀ m ∈ member? name o, Kept isExact m.2 := by
  cases o with
  | none => exact fun m hm => absurd hm List.not_mem_nil
  | some v =>
    intro m hm
    rw [List.mem_singleton.mp hm]
    exact h v rfl

/-- A string that may be absent is kept. -/
theorem kept_member?_text (o : Option String) : ∀ m ∈ member? name (o.map .text), Kept isExact m.2 := by
  refine kept_member? fun v hv => ?_
  obtain ⟨s, -, rfl⟩ := Option.map_eq_some_iff.mp hv
  exact .text s

/-- Values in a list are kept if each of them is. -/
theorem kept_array {write : α → Json} {xs : List α} (h : ∀ x ∈ xs, Kept isExact (write x)) :
    Kept isExact (.array (xs.map write)) := by
  refine .array fun v hv => ?_
  obtain ⟨x, hx, rfl⟩ := List.mem_map.mp hv
  exact h x hx

/-- A list of strings is kept. -/
theorem kept_ofTexts (xs : List String) : Kept isExact (ofTexts xs) := kept_array fun s _ => .text s

/-- A finite number is written as a number. -/
theorem ofDouble_eq_real {x : Double} (h : x.isFinite = true) : ofDouble x = .real x := if_pos h

/-- A double that is finite and exact is kept. -/
theorem kept_ofDouble {x : Double} (h : x.isFinite = true ∧ isExact x) : Kept isExact (ofDouble x) := by
  rw [ofDouble_eq_real h.1]
  exact .real h.1 h.2

/-- A member that may be left out has at most its own name. -/
theorem names_member? (o : Option Json) : ((member? name o).map Prod.fst).Sublist [name] := by
  cases o with
  | none => exact List.nil_sublist _
  | some v => exact List.Sublist.refl _

end BasinRegister.Json
