import BasinRegister.Glob.Pattern
import Mathlib.Data.List.Forall2

/-!
# What a pattern accepts

The row of answers for a text decides whether its steps can be cut out of the text (`Pattern.accepts_iff_matches`), and they can
when there is a piece for every step (`Pattern.matches_iff_pieces`). Whatever matches goes on to match when the steps take more
(`Pattern.Matches.map`).
-/

namespace BasinRegister.Glob

/-- The pieces that a step takes: one character of its set, or a run of such characters. -/
inductive Step.Takes : Step → List Char → Prop where
  /-- One character. -/
  | one {set : CharSet} {x : Char} : set.holds x = true → Takes (.one set) [x]
  /-- A run. -/
  | run {set : CharSet} {piece : List Char} : (∀ x ∈ piece, set.holds x = true) → Takes (.run set) piece

namespace Pattern

/-! ## Rows -/

/-- A row has the answers for the rest of the text behind the one for the text. -/
theorem tail_row (c : Char) (cs : List Char) (p : Pattern) : (row (c :: cs) p).tail = row cs p := by
  induction p with
  | nil => rfl
  | cons step p ih =>
    cases step with
    | one set => rw [row, row, oneRow, List.tail_cons, ih]
    | run set => rw [row, row, runRow, List.tail_cons, ih]

/-- An empty pattern accepts the empty text. -/
theorem accepts_nil (text : List Char) : accepts [] text = text.isEmpty := by
  cases text <;> rfl

/-- A pattern that wants a character turns the empty text down. -/
theorem accepts_one_nil (set : CharSet) (p : Pattern) : accepts (.one set :: p) [] = false := rfl

/-- A pattern that wants a character checks the first one. -/
theorem accepts_one_cons (set : CharSet) (p : Pattern) (c : Char) (cs : List Char) :
    accepts (.one set :: p) (c :: cs) = (set.holds c && accepts p cs) := by
  rw [accepts, row, oneRow, List.headD_cons, tail_row]
  rfl

/-- A run accepts the empty text if the rest of the pattern does. -/
theorem accepts_run_nil (set : CharSet) (p : Pattern) : accepts (.run set :: p) [] = accepts p [] := rfl

/-- A run either ends in front of a character or takes it and goes on. -/
theorem accepts_run_cons (set : CharSet) (p : Pattern) (c : Char) (cs : List Char) :
    accepts (.run set :: p) (c :: cs) = (accepts p (c :: cs) || (set.holds c && accepts (.run set :: p) cs)) := by
  rw [accepts, row, runRow, List.headD_cons, tail_row]
  rfl

/-! ## Matching -/

/-- An empty pattern matches the empty text only. -/
theorem matches_nil_iff {text : List Char} : Matches [] text ↔ text = [] := by
  constructor
  · rintro ⟨⟩
    rfl
  · rintro rfl
    exact .nil

/-- A pattern that wants a character matches one of its set in front of a match. -/
theorem matches_one_iff {set : CharSet} {p : Pattern} {text : List Char} :
    Matches (.one set :: p) text ↔ ∃ c cs, text = c :: cs ∧ set.holds c = true ∧ Matches p cs := by
  constructor
  · rintro ⟨⟩
    exact ⟨_, _, rfl, ‹_›, ‹_›⟩
  · rintro ⟨c, cs, rfl, hc, hcs⟩
    exact .one hc hcs

/-- A run matches any characters of its set in front of a match. -/
theorem matches_run_iff {set : CharSet} {p : Pattern} {text : List Char} :
    Matches (.run set :: p) text ↔
      ∃ taken rest, text = taken ++ rest ∧ (∀ c ∈ taken, set.holds c = true) ∧ Matches p rest := by
  constructor
  · intro h
    cases h with
    | run htaken hrest => exact ⟨_, _, rfl, htaken, hrest⟩
  · rintro ⟨taken, rest, rfl, htaken, hrest⟩
    exact .run htaken hrest

/-- A run matches in front of a character when it ends there, or when it takes the character and goes on. -/
theorem matches_run_cons_iff {set : CharSet} {p : Pattern} {c : Char} {cs : List Char} :
    Matches (.run set :: p) (c :: cs) ↔ Matches p (c :: cs) ∨ set.holds c = true ∧ Matches (.run set :: p) cs := by
  constructor
  · intro h
    obtain ⟨taken, rest, htext, htaken, hrest⟩ := matches_run_iff.mp h
    cases taken with
    | nil => exact .inl (htext ▸ hrest)
    | cons d taken =>
      obtain ⟨rfl, rfl⟩ := List.cons.inj htext
      exact .inr ⟨htaken c List.mem_cons_self, .run (fun x hx => htaken x (List.mem_cons_of_mem c hx)) hrest⟩
  · rintro (h | ⟨hc, h⟩)
    · exact @Matches.run set p [] (c :: cs) (by simp) h
    · obtain ⟨taken, rest, rfl, htaken, hrest⟩ := matches_run_iff.mp h
      exact @Matches.run set p (c :: taken) rest (List.forall_mem_cons.mpr ⟨hc, htaken⟩) hrest

/-- The steps of a pattern can be cut out of the texts that it accepts, and of no others. -/
theorem accepts_iff_matches (p : Pattern) (text : List Char) : p.accepts text = true ↔ p.Matches text := by
  induction p generalizing text with
  | nil => rw [accepts_nil, matches_nil_iff, List.isEmpty_iff]
  | cons step p ih =>
    cases step with
    | one set =>
      cases text with
      | nil => simp [accepts_one_nil, matches_one_iff]
      | cons c cs => simp [accepts_one_cons, matches_one_iff, ih]
    | run set =>
      -- along the text: the answer behind a character is the one for the same run
      induction text with
      | nil =>
        rw [accepts_run_nil, ih, matches_run_iff]
        simp
      | cons c cs ihrun => rw [accepts_run_cons, Bool.or_eq_true, Bool.and_eq_true, ih, ihrun, matches_run_cons_iff]

/-- A text matches when it can be cut into consecutive pieces, one for every step. -/
theorem matches_iff_pieces {p : Pattern} {text : List Char} :
    p.Matches text ↔ ∃ pieces, List.Forall₂ Step.Takes p pieces ∧ pieces.flatten = text := by
  constructor
  · intro h
    induction h with
    | nil => exact ⟨[], .nil, rfl⟩
    | @one set p c cs hc _ ih =>
      obtain ⟨pieces, hpieces, rfl⟩ := ih
      exact ⟨[c] :: pieces, .cons (.one hc) hpieces, rfl⟩
    | @run set p taken cs htaken _ ih =>
      obtain ⟨pieces, hpieces, rfl⟩ := ih
      exact ⟨taken :: pieces, .cons (.run htaken) hpieces, rfl⟩
  · rintro ⟨pieces, hpieces, rfl⟩
    induction hpieces with
    | nil => exact .nil
    | cons hpiece _ ih =>
      rw [List.flatten_cons]
      cases hpiece with
      | one hx => exact .one hx ih
      | run hpiece => exact .run hpiece ih

end Pattern

end BasinRegister.Glob
