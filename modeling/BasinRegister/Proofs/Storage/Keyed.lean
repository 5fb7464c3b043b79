import BasinRegister.Storage.Keyed
import Mathlib.Data.List.Perm.Basic

/-!
# Keyed collections

What an insertion changes: the record under its key and nothing else (`Keyed.get?_insert`). It keeps the strict order of the
keys (`Keyed.Ordered.insert`), and under a new key it leaves the other records as they stand (`Keyed.sublist_insertEntry`).
-/

namespace BasinRegister

namespace Keyed

variable {α : Type}

/-- The keys of entries ascend, so that no key stands twice. -/
def Ordered (m : Keyed α) : Prop := m.entries.Pairwise fun a b => a.1 < b.1

/-- An empty collection is in order. -/
theorem ordered_empty : (empty : Keyed α).Ordered := List.Pairwise.nil

/-- A key that is neither before nor the same comes behind. -/
theorem lt_of_not_lt_of_ne {k l : Key} (h : ¬k < l) (hne : k ≠ l) : l < k := by
  by_contra h'
  exact hne (List.le_antisymm h' h)

/-! ## Entries -/

/-- Behind an insertion there are the new entry and the ones that were there. -/
theorem mem_insertEntry {k : Key} {v : α} {es : List (Key × α)} {e : Key × α} (h : e ∈ insertEntry k v es) :
    e = (k, v) ∨ e ∈ es := by
  induction es with
  | nil => exact Or.inl (List.mem_singleton.mp h)
  | cons d ds ih =>
    obtain ⟨l, w⟩ := d
    rw [insertEntry] at h
    split at h
    · rcases List.mem_cons.mp h with h | h
      · exact Or.inl h
      · exact Or.inr h
    · split at h
      · rcases List.mem_cons.mp h with h | h
        · exact Or.inl h
        · exact Or.inr (List.mem_cons_of_mem _ h)
      · rcases List.mem_cons.mp h with h | h
        · exact Or.inr (h ▸ List.mem_cons_self)
        · rcases ih h with h | h
          · exact Or.inl h
          · exact Or.inr (List.mem_cons_of_mem _ h)

/-- What holds of all entries and of a new one holds after its insertion. -/
theorem forall_mem_insert {m : Keyed α} {k : Key} {v : α} {P : Key × α → Prop} (hnew : P (k, v))
    (h : ∀ e ∈ m.entries, P e) : ∀ e ∈ (m.insert k v).entries, P e := by
  intro e he
  rcases mem_insertEntry he with rfl | he
  · exact hnew
  · exact h e he

/-- An insertion keeps the order. -/
theorem Ordered.insert {m : Keyed α} (h : m.Ordered) (k : Key) (v : α) : (m.insert k v).Ordered := by
  obtain ⟨es⟩ := m
  simp only [Ordered, Keyed.insert] at h ⊢
  induction es with
  | nil => simp [insertEntry]
  | cons d ds ih =>
    obtain ⟨l, w⟩ := d
    obtain ⟨hhead, htail⟩ := List.pairwise_cons.mp h
    rw [insertEntry]
    split
    · rename_i hlt
      refine List.pairwise_cons.mpr ⟨?_, h⟩
      intro e he
      rcases List.mem_cons.mp he with rfl | he
      · exact hlt
      · exact List.lt_trans hlt (hhead e he)
    · rename_i hnlt
      split
      · rename_i heq
        subst heq
        exact List.pairwise_cons.mpr ⟨hhead, htail⟩
      · rename_i hne
        refine List.pairwise_cons.mpr ⟨?_, ih htail⟩
        intro e he
        rcases mem_insertEntry he with rfl | he
        · exact lt_of_not_lt_of_ne hnlt hne
        · exact hhead e he

/-- A record under a new key is one entry more. -/
theorem perm_insertEntry {k : Key} {v : α} {es : List (Key × α)} (h : ∀ e ∈ es, e.1 ≠ k) :
    (insertEntry k v es).Perm ((k, v) :: es) := by
  induction es with
  | nil => exact List.Perm.refl _
  | cons d ds ih =>
    obtain ⟨l, w⟩ := d
    have hne : k ≠ l := (h (l, w) List.mem_cons_self).symm
    rw [insertEntry, if_neg hne]
    split
    · exact List.Perm.refl _
    · exact ((ih fun e he => h e (List.mem_cons_of_mem _ he)).cons _).trans (List.Perm.swap _ _ _)

/-- A record under a new key leaves the others as they stand. -/
theorem sublist_insertEntry {k : Key} {v : α} {es : List (Key × α)} (h : ∀ e ∈ es, e.1 ≠ k) :
    es.Sublist (insertEntry k v es) := by
  induction es with
  | nil => exact List.nil_sublist _
  | cons d ds ih =>
    obtain ⟨l, w⟩ := d
    have hne : k ≠ l := (h (l, w) List.mem_cons_self).symm
    rw [insertEntry, if_neg hne]
    split
    · exact List.sublist_cons_self _ _
    · exact (ih fun e he => h e (List.mem_cons_of_mem _ he)).cons_cons _

/-! ## Look-ups -/

/-- A look-up behind an insertion finds the new value under its key and the old ones under the others. -/
theorem get?_insert (m : Keyed α) (k l : Key) (v : α) :
    (m.insert k v).get? l = if l = k then some v else m.get? l := by
  obtain ⟨es⟩ := m
  simp only [get?, Keyed.insert]
  induction es with
  | nil => by_cases h : l = k <;> simp [insertEntry, h, eq_comm]
  | cons d ds ih =>
    obtain ⟨j, w⟩ := d
    rw [insertEntry]
    split
    · by_cases h : l = k <;> simp [List.find?_cons, h, eq_comm]
    · split
      · rename_i heq
        subst heq
        by_cases h : l = k
        · simp [h]
        · simp [Ne.symm h, h]
      · rename_i hne
        by_cases h : j = l
        · subst h
          simp [Ne.symm hne]
        · simpa [List.find?_cons, h] using ih

/-- What is found is an entry. -/
theorem mem_of_get? {m : Keyed α} {k : Key} {v : α} (h : m.get? k = some v) : (k, v) ∈ m.entries := by
  simp only [get?, Option.map_eq_some_iff] at h
  obtain ⟨e, he, rfl⟩ := h
  have hk : e.1 = k := by simpa using List.find?_some he
  rw [← hk]
  exact List.mem_of_find?_eq_some he

/-- A key is held where an entry has it. -/
theorem contains_iff {m : Keyed α} {k : Key} : m.contains k = true ↔ ∃ v, (k, v) ∈ m.entries := by
  constructor
  · intro h
    obtain ⟨v, hv⟩ := Option.isSome_iff_exists.mp h
    exact ⟨v, mem_of_get? hv⟩
  · rintro ⟨v, hv⟩
    rw [contains, get?, Option.isSome_map, List.find?_isSome]
    exact ⟨(k, v), hv, by simp⟩

/-- A key without a record is the key of no entry. -/
theorem ne_of_contains {m : Keyed α} {k : Key} (h : m.contains k = false) : ∀ e ∈ m.entries, e.1 ≠ k := by
  rintro ⟨l, v⟩ he rfl
  rw [contains_iff.mpr ⟨v, he⟩] at h
  cases h

/-- Where records stand under their own keys, a key has a record when a record has the key. -/
theorem contains_eq_any {m : Keyed α} {key : α → Key} (hkeys : ∀ e ∈ m.entries, e.1 = key e.2) (k : Key) :
    m.contains k = m.values.any fun v => key v = k := by
  rw [Bool.eq_iff_iff, contains_iff, List.any_eq_true]
  simp only [values, List.mem_map, decide_eq_true_eq]
  constructor
  · rintro ⟨v, hv⟩
    exact ⟨v, ⟨(k, v), hv, rfl⟩, (hkeys _ hv).symm⟩
  · rintro ⟨_, ⟨e, he, rfl⟩, rfl⟩
    exact ⟨e.2, hkeys e he ▸ he⟩

/-! ## Values -/

/-- The values are those of the entries. -/
theorem mem_values {m : Keyed α} {v : α} : v ∈ m.values ↔ ∃ k, (k, v) ∈ m.entries := by
  simp [values]

/-- A record under a new key is one record more. -/
theorem perm_values_insert {m : Keyed α} {k : Key} (h : m.contains k = false) (v : α) :
    (m.insert k v).values.Perm (m.values ++ [v]) := by
  rw [values, values, insert]
  exact ((perm_insertEntry (ne_of_contains h)).map _).trans (List.perm_append_singleton _ _).symm

/-- The records of an ordered collection ascend by their own keys. -/
theorem Ordered.values {m : Keyed α} (h : m.Ordered) {key : α → Key} (hkeys : ∀ e ∈ m.entries, e.1 = key e.2) :
    m.values.Pairwise fun a b => key a < key b := by
  rw [Keyed.values, List.pairwise_map]
  refine h.imp_of_mem ?_
  intro a b ha hb hab
  rwa [← hkeys a ha, ← hkeys b hb]

/-! ## Unique keys -/

/-- Among records that ascend by a key, no key stands twice. -/
theorem eq_of_key_eq {β : Type} {key : β → Key} {vs : List β} (h : vs.Pairwise fun a b => key a < key b) {a b : β}
    (ha : a ∈ vs) (hb : b ∈ vs) (hab : key a = key b) : a = b := by
  have hbefore : vs.Pairwise fun a b => key a = key b → a = b :=
    h.imp fun hlt heq => absurd (heq ▸ hlt) (List.lt_irrefl _)
  have hbehind : vs.Pairwise (flip fun a b => key a = key b → a = b) :=
    h.imp fun hlt heq => absurd (heq ▸ hlt) (List.lt_irrefl _)
  exact List.Pairwise.forall_of_forall_of_flip (fun _ _ _ => rfl) hbefore hbehind ha hb hab

/-- Records that ascend by a key are told apart by whatever tells the key. -/
theorem nodup_map_of_ascending {β γ : Type} {key : β → Key} {f : β → γ} {vs : List β}
    (h : vs.Pairwise fun a b => key a < key b) (hf : ∀ a b, f a = f b → key a = key b) : (vs.map f).Nodup := by
  rw [List.Nodup, List.pairwise_map]
  refine h.imp ?_
  intro a b hlt heq
  rw [hf a b heq] at hlt
  exact List.lt_irrefl _ hlt

end Keyed

/-! ## Sets of texts -/

/-- Texts that ascend, so that none stands twice. -/
def OrderedTexts (xs : List String) : Prop := xs.Pairwise (· < ·)

/-- A text is put among the ones that are there. -/
theorem mem_insertText {x y : String} {ys : List String} : y ∈ insertText x ys ↔ y = x ∨ y ∈ ys := by
  induction ys with
  | nil => simp [insertText]
  | cons z zs ih =>
    rw [insertText]
    split
    · simp
    · split
      · rename_i heq
        subst heq
        simp
      · rw [List.mem_cons, ih, List.mem_cons]
        tauto

/-- It is put where it keeps the order. -/
theorem OrderedTexts.insertText {ys : List String} (h : OrderedTexts ys) (x : String) :
    OrderedTexts (insertText x ys) := by
  induction ys with
  | nil => simp [OrderedTexts, BasinRegister.insertText]
  | cons y ys ih =>
    obtain ⟨hhead, htail⟩ := List.pairwise_cons.mp h
    rw [BasinRegister.insertText]
    split
    · rename_i hlt
      refine List.pairwise_cons.mpr ⟨?_, h⟩
      intro z hz
      rcases List.mem_cons.mp hz with rfl | hz
      · exact hlt
      · exact String.lt_trans hlt (hhead z hz)
    · rename_i hnlt
      split
      · exact h
      · rename_i hne
        refine List.pairwise_cons.mpr ⟨?_, ih htail⟩
        intro z hz
        rcases mem_insertText.mp hz with rfl | hz
        · by_contra h'
          exact hne (String.le_antisymm (String.not_lt.mp h') (String.not_lt.mp hnlt))
        · exact hhead z hz

/-- Texts are put among the ones that are there. -/
theorem mem_insertTexts {xs ys : List String} {y : String} : y ∈ insertTexts xs ys ↔ y ∈ xs ∨ y ∈ ys := by
  induction xs generalizing ys with
  | nil => simp [insertTexts]
  | cons x xs ih =>
    have hstep : insertTexts (x :: xs) ys = insertTexts xs (insertText x ys) := rfl
    rw [hstep, ih, mem_insertText, List.mem_cons]
    tauto

/-- They are put where they keep the order. -/
theorem OrderedTexts.insertTexts {ys : List String} (h : OrderedTexts ys) (xs : List String) :
    OrderedTexts (insertTexts xs ys) := by
  induction xs generalizing ys with
  | nil => exact h
  | cons x xs ih => exact ih (h.insertText x)

/-- In an ascending list no text stands twice. -/
theorem OrderedTexts.nodup {xs : List String} (h : OrderedTexts xs) : xs.Nodup := by
  refine h.imp ?_
  rintro a b hlt rfl
  exact String.lt_irrefl a hlt

end BasinRegister
