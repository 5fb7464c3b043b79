import BasinRegister.Proofs.Glob.Matching
import BasinRegister.Proofs.Text.Case
import BasinRegister.Storage.Filter

/-!
# What a mask selects

A mask stands for the identifiers that can be cut into consecutive pieces, one for each of its characters (`Mask.Cuts`): any run
of characters for a `*`, any character for a `?`, and for every other character one that is equal to it up to ASCII case. It selects
those of them in which no wildcard takes a line feed (`Mask.selects_documented`).
-/

namespace BasinRegister

open Glob (CharSet Step Pattern)

namespace Mask

/-- The pieces that a character of a mask takes when its wildcards take the characters of one sort: a run of them for a `*`, one
of them for a `?`, and for every other character one that is equal to it up to ASCII case. -/
inductive Takes (wild : Char → Prop) : Char → List Char → Prop where
  /-- A run of characters. -/
  | run {piece : List Char} : (∀ x ∈ piece, wild x) → Takes wild '*' piece
  /-- One character. -/
  | one {x : Char} : wild x → Takes wild '?' [x]
  /-- The same character up to ASCII case. -/
  | same {c x : Char} : c ≠ '*' → c ≠ '?' → x.toLower = c.toLower → Takes wild c [x]

/-- An identifier can be cut into consecutive pieces, one for each character of a mask. -/
def Cuts (wild : Char → Prop) (mask id : String) : Prop :=
  ∃ pieces, List.Forall₂ (Takes wild) mask.toList pieces ∧ pieces.flatten = id.toList

variable {wild sort : Char → Prop}

/-! ## Wildcards -/

theorem Takes.mono {c : Char} {piece : List Char} (h : Takes wild c piece) (hsort : ∀ x ∈ piece, wild x → sort x) :
    Takes sort c piece := by
  cases h with
  | run hpiece => exact .run fun x hx => hsort x hx (hpiece x hx)
  | one hx => exact .one (hsort _ List.mem_cons_self hx)
  | same hstar hmark hx => exact .same hstar hmark hx

/-- What is cut stays cut when the wildcards take more of its characters. -/
theorem Cuts.mono {mask id : String} (h : Cuts wild mask id) (hsort : ∀ x ∈ id.toList, wild x → sort x) :
    Cuts sort mask id := by
  obtain ⟨pieces, hpieces, hid⟩ := h
  rw [← hid] at hsort
  refine ⟨pieces, ?_, hid⟩
  clear hid
  generalize mask.toList = cs at hpieces ⊢
  induction hpieces with
  | nil => exact .nil
  | cons hpiece _ ih =>
    simp only [List.flatten_cons, List.forall_mem_append] at hsort
    exact .cons (hpiece.mono hsort.1) (ih hsort.2)

/-- Of an identifier without line feeds wildcards that take none take as much as those that take every character. -/
theorem cuts_any_iff {mask id : String} (hid : '\n' ∉ id.toList) :
    Cuts (fun _ => True) mask id ↔ Cuts (· ≠ '\n') mask id := by
  constructor
  · intro h
    refine h.mono ?_
    rintro x hx - rfl
    exact hid hx
  · exact fun h => h.mono fun _ _ _ => trivial

/-- The step of a character of a mask takes the pieces of the character when its sets are the right ones. -/
theorem takes_step_iff {wildSet literal : CharSet} {c : Char} (hwild : ∀ x, wildSet.holds x = true ↔ wild x)
    (hliteral : ∀ x, literal.holds x = true ↔ x.toLower = c.toLower) (piece : List Char) :
    (if c = '*' then Step.run wildSet else if c = '?' then .one wildSet else .one literal).Takes piece ↔
      Takes wild c piece := by
  by_cases hstar : c = '*'
  · subst hstar
    rw [if_pos rfl]
    constructor
    · rintro ⟨hpiece⟩
      exact .run fun x hx => (hwild x).mp (‹∀ x ∈ piece, wildSet.holds x = true› x hx)
    · rintro (hpiece | _ | ⟨hstar, -⟩)
      · exact .run fun x hx => (hwild x).mpr (hpiece x hx)
      · exact absurd rfl hstar
  · rw [if_neg hstar]
    by_cases hmark : c = '?'
    · subst hmark
      rw [if_pos rfl]
      constructor
      · rintro ⟨hx⟩
        exact .one ((hwild _).mp ‹_›)
      · rintro (_ | hx | ⟨-, hmark⟩)
        · exact .one ((hwild _).mpr hx)
        · exact absurd rfl hmark
    · rw [if_neg hmark]
      constructor
      · rintro ⟨hx⟩
        exact .same hstar hmark ((hliteral _).mp ‹_›)
      · rintro (_ | _ | ⟨-, -, hx⟩)
        · exact absurd rfl hstar
        · exact absurd rfl hmark
        · exact .one ((hliteral _).mpr hx)

/-- The step of a character takes its pieces, with wildcards that take no line feed. -/
theorem takes_stepOf_iff (c : Char) (piece : List Char) : (stepOf c).Takes piece ↔ Takes (· ≠ '\n') c piece := by
  have hstep : stepOf c = if c = '*' then .run .exceptLineFeed else if c = '?' then .one .exceptLineFeed
      else .one (if c.isAlpha then .folded c else .exactly c) := by
    rw [stepOf, apply_ite Step.one]
  have hwild (x : Char) : CharSet.exceptLineFeed.holds x = true ↔ x ≠ '\n' := bne_iff_ne
  rw [hstep]
  refine takes_step_iff hwild (fun x => ?_) piece
  split
  · exact beq_iff_eq
  · rename_i halpha
    rw [CharSet.holds, beq_iff_eq, Text.toLower_eq_iff_of_not_isAlpha (Bool.eq_false_iff.mpr halpha)]

/-! ## Selecting -/

theorem compile_eq_ok {text : String} {m : Mask} (h : compile text = .ok m) : m = ⟨text⟩ := by
  unfold compile at h
  split at h
  · exact (Except.ok.inj h).symm
  · cases h

/-- Cutting pieces for the characters of a mask is cutting pieces for its steps. -/
theorem cuts_iff_matches {step : Char → Step} (hstep : ∀ c piece, (step c).Takes piece ↔ Takes wild c piece)
    (mask id : String) : Cuts wild mask id ↔ Pattern.Matches (mask.toList.map step) id.toList := by
  have htakes : (fun c piece => (step c).Takes piece) = Takes wild := by
    funext c piece
    exact propext (hstep c piece)
  simp only [Pattern.matches_iff_pieces, List.forall₂_map_left_iff, htakes, Cuts]

/-- A mask selects the identifiers that can be cut into pieces for its characters, with wildcards that take no line feed. -/
theorem selects_iff_cuts (text id : String) : (⟨text⟩ : Mask).selects id = true ↔ Cuts (· ≠ '\n') text id := by
  rw [selects, Pattern.accepts_iff_matches, pattern, cuts_iff_matches takes_stepOf_iff]

/-- The mask that is one star selects the identifiers without line feeds. -/
theorem selects_star_iff (id : String) : (⟨"*"⟩ : Mask).selects id = true ↔ '\n' ∉ id.toList := by
  rw [selects_iff_cuts]
  constructor
  · rintro ⟨pieces, hpieces, hid⟩ hmem
    obtain ⟨piece, rest, htakes, hrest, rfl⟩ := List.forall₂_cons_left_iff.mp hpieces
    cases hrest
    rw [List.flatten_cons, List.flatten_nil, List.append_nil] at hid
    rw [← hid] at hmem
    cases htakes with
    | run hpiece => exact hpiece '\n' hmem rfl
    | same hstar => exact absurd rfl hstar
  · intro hid
    refine ⟨[id.toList], .cons (.run ?_) .nil, by simp⟩
    rintro x hx rfl
    exact hid hx

/-- A mask that is accepted selects the identifiers that can be cut into consecutive pieces, one for each of its characters, such
that no wildcard takes a line feed. All of them are identifiers that it stands for, and it stands for no others without line feeds.
A filter with the mask that is one star therefore accepts what the filter without a mask does, but for identifiers with line
feeds. -/
theorem selects_documented {text : String} {m : Mask} (h : compile text = .ok m) (id : String) :
    (m.selects id = true ↔ Cuts (· ≠ '\n') text id) ∧
    (m.selects id = true → Cuts (fun _ => True) text id) ∧
    ('\n' ∉ id.toList → Cuts (fun _ => True) text id → m.selects id = true) ∧
    ∃ star, compile "*" = .ok star ∧ ∀ (office : Option String) (officeId : String),
      Filter.accepts ⟨office, some star⟩ officeId id = true ↔
        Filter.accepts ⟨office, none⟩ officeId id = true ∧ '\n' ∉ id.toList := by
  obtain rfl := compile_eq_ok h
  have hcuts := selects_iff_cuts text id
  refine ⟨hcuts, ?_, ?_, ⟨"*"⟩, by decide, ?_⟩
  · exact fun hselects => (hcuts.mp hselects).mono fun _ _ _ => trivial
  · exact fun hid hany => hcuts.mpr ((cuts_any_iff hid).mp hany)
  · intro office officeId
    have hoffice : Filter.acceptsOffice ⟨office, some ⟨"*"⟩⟩ officeId = Filter.acceptsOffice ⟨office, none⟩ officeId := rfl
    rw [Filter.accepts, Filter.accepts, hoffice, Bool.and_eq_true, Bool.and_eq_true, Option.all_some, Option.all_none,
      selects_star_iff]
    simp

/-- Letters in either case, one character beyond ASCII for the question mark and a run that holds a star and a backslash. -/
theorem selects_documented_keys :
    compile "k?y*s" = .ok ⟨"k?y*s"⟩ ∧ '\n' ∉ "KÉy*\\ LAKES".toList ∧ (⟨"k?y*s"⟩ : Mask).selects "KÉy*\\ LAKES" = true ∧
      Cuts (fun _ => True) "k?y*s" "KÉy*\\ LAKES" := by
  have hcompile : compile "k?y*s" = .ok ⟨"k?y*s"⟩ := by decide
  have hid : '\n' ∉ "KÉy*\\ LAKES".toList := by decide
  have hselects : (⟨"k?y*s"⟩ : Mask).selects "KÉy*\\ LAKES" = true := by decide
  obtain ⟨-, hmeant, hall, -⟩ := selects_documented hcompile "KÉy*\\ LAKES"
  exact ⟨hcompile, hid, hall hid (hmeant hselects), hmeant hselects⟩

/-- A star stands for a run with a line feed in it, but does not select it, which the filter without a mask accepts. -/
theorem not_selects_lineFeed :
    compile "*" = .ok ⟨"*"⟩ ∧
      ¬((⟨"*"⟩ : Mask).selects "A\nB" = true ↔ Cuts (fun _ => True) "*" "A\nB") ∧
      Filter.accepts ⟨none, none⟩ "SWT" "A\nB" = true ∧ Filter.accepts ⟨none, some ⟨"*"⟩⟩ "SWT" "A\nB" = false := by
  have hcuts : Cuts (fun _ => True) "*" "A\nB" :=
    ⟨[['A', '\n', 'B']], .cons (.run fun _ _ => trivial) .nil, rfl⟩
  have hrefused : (⟨"*"⟩ : Mask).selects "A\nB" = false := by decide
  refine ⟨by decide, fun hboth => ?_, by decide, by decide⟩
  rw [hboth.mpr hcuts] at hrefused
  cases hrefused

end Mask

end BasinRegister
