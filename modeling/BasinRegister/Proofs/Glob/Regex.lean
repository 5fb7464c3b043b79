import BasinRegister.Glob.Mask
import BasinRegister.Proofs.Glob.Matching
import BasinRegister.Proofs.Text.Case

/-!
# A mask and its regular expression

An expression has its items in one way only (`Reads.unique`), and those of the expression of a mask take what its steps take: a mask
selects the identifiers that its expression accepts (`Mask.selects_iff_accepts`).
-/

namespace BasinRegister

namespace Glob.Regex

/-! ## Reading an expression -/

/-- A character that stands for itself is no special one. -/
theorem Atom.ne_of_legal {c d : Char} (h : Atom.Legal (.same c)) (hd : d ∈ special) : c ≠ d := by
  rintro rfl
  exact h hd

/-- The first atom of a text, and what is behind it. -/
def Atom.read : List Char → Option (Atom × List Char)
  | '.' :: cs => some (.point, cs)
  | '[' :: a :: b :: ']' :: cs => some (.either a b, cs)
  | '\\' :: c :: cs => some (.escaped c, cs)
  | c :: cs => some (.same c, cs)
  | [] => none

/-- An atom is read back in front of anything. -/
theorem Atom.read_written {a : Atom} (h : a.Legal) (cs : List Char) : read (a.written ++ cs) = some (a, cs) := by
  cases a with
  | point => rfl
  | either a b => rfl
  | escaped c => rfl
  | same c =>
    have hpoint := ne_of_legal h (d := '.') (by decide)
    have hbracket := ne_of_legal h (d := '[') (by decide)
    have hescape := ne_of_legal h (d := '\\') (by decide)
    rw [written, List.singleton_append, read]
    all_goals simp_all

/-- The text of an atom tells which it is, and where it ends. -/
theorem Atom.written_append_inj {a b : Atom} (ha : a.Legal) (hb : b.Legal) {cs ds : List Char}
    (h : a.written ++ cs = b.written ++ ds) : a = b ∧ cs = ds := by
  have hread := congrArg read h
  rw [read_written ha, read_written hb] at hread
  exact Prod.mk.inj (Option.some.inj hread)

/-- The text of an atom begins neither like a repetition nor like the end. -/
theorem Atom.written_eq_cons {a : Atom} (h : a.Legal) : ∃ c cs, a.written = c :: cs ∧ c ≠ '*' ∧ c ≠ '$' := by
  cases a with
  | point => exact ⟨_, _, rfl, by decide, by decide⟩
  | either => exact ⟨_, _, rfl, by decide, by decide⟩
  | escaped => exact ⟨_, _, rfl, by decide, by decide⟩
  | same c => exact ⟨c, [], rfl, ne_of_legal h (by decide), ne_of_legal h (by decide)⟩

/-- The body of an expression is one item after the other. -/
theorem body_cons (item : Item) (items : List Item) : body (item :: items) = item.written ++ body items := by
  rw [body, body, List.flatMap_cons, List.append_assoc]

/-- An item is its atom, with a star or without. -/
theorem Item.written_eq (item : Item) :
    item.written = item.atom.written ∨ item.written = item.atom.written ++ ['*'] := by
  cases item with
  | one a => exact .inl rfl
  | run a => exact .inr rfl

/-- No expression goes on with a repetition of what stands in front of it. -/
theorem body_ne_star {items : List Item} (h : ∀ item ∈ items, item.atom.Legal) (cs : List Char) : body items ≠ '*' :: cs := by
  cases items with
  | nil => simp [body]
  | cons item items =>
    obtain ⟨c, rest, hwritten, hstar, -⟩ := Atom.written_eq_cons (h item List.mem_cons_self)
    rcases item.written_eq with hitem | hitem <;> simp [body_cons, hitem, hwritten, hstar]

/-- The text of an item tells which it is, and what is behind it. -/
theorem Item.written_append_inj {a b : Item} {as bs : List Item} (ha : a.atom.Legal) (hb : b.atom.Legal)
    (has : ∀ item ∈ as, item.atom.Legal) (hbs : ∀ item ∈ bs, item.atom.Legal)
    (h : a.written ++ body as = b.written ++ body bs) : a = b ∧ body as = body bs := by
  cases a with
  | one a =>
    cases b with
    | one b =>
      obtain ⟨rfl, hrest⟩ := Atom.written_append_inj ha hb h
      exact ⟨rfl, hrest⟩
    | run b =>
      rw [written, written, List.append_assoc] at h
      exact absurd (Atom.written_append_inj ha hb h).2 (body_ne_star has _)
  | run a =>
    cases b with
    | one b =>
      rw [written, written, List.append_assoc] at h
      exact absurd (Atom.written_append_inj ha hb h).2.symm (body_ne_star hbs _)
    | run b =>
      rw [written, written, List.append_assoc, List.append_assoc] at h
      obtain ⟨rfl, hrest⟩ := Atom.written_append_inj ha hb h
      exact ⟨rfl, (List.cons.inj hrest).2⟩

/-- The body of an expression tells its items, by induction on the first of them. -/
theorem body_inj {items others : List Item} (hitems : ∀ item ∈ items, item.atom.Legal) (hothers : ∀ item ∈ others, item.atom.Legal)
    (h : body items = body others) : items = others := by
  have hend {item : Item} (rest : List Item) (hitem : item.atom.Legal) : body [] ≠ body (item :: rest) := by
    obtain ⟨c, cs, hwritten, -, hend⟩ := Atom.written_eq_cons hitem
    rw [body_cons]
    rcases item.written_eq with hitem | hitem <;> simp [body, hitem, hwritten, hend.symm]
  induction items generalizing others with
  | nil =>
    cases others with
    | nil => rfl
    | cons other others => exact absurd h (hend others (hothers other List.mem_cons_self))
  | cons item items ih =>
    cases others with
    | nil => exact absurd h.symm (hend items (hitems item List.mem_cons_self))
    | cons other others =>
      rw [List.forall_mem_cons] at hitems hothers
      rw [body_cons, body_cons] at h
      obtain ⟨rfl, hrest⟩ := Item.written_append_inj hitems.1 hothers.1 hitems.2 hothers.2 h
      rw [ih hitems.2 hothers.2 hrest]

/-- An expression has its items in one way. -/
theorem Reads.unique {regex : String} {items others : List Item} (h : Reads regex items) (h' : Reads regex others) :
    items = others :=
  body_inj h.legal h'.legal (List.cons.inj (h.written.symm.trans h'.written)).2

/-! ## Matching -/

/-- The items cut a text when there is a piece for each of them. -/
theorem cut_iff_pieces {items : List Item} {text : List Char} :
    Cut items text ↔ ∃ pieces, List.Forall₂ Item.Takes items pieces ∧ pieces.flatten = text := by
  constructor
  · intro h
    induction h with
    | nil => exact ⟨[], .nil, rfl⟩
    | cons hpiece _ ih =>
      obtain ⟨pieces, hpieces, rfl⟩ := ih
      exact ⟨_ :: pieces, .cons hpiece hpieces, rfl⟩
  · rintro ⟨pieces, hpieces, rfl⟩
    induction hpieces with
    | nil => exact .nil
    | cons hpiece _ ih => exact .cons hpiece ih

/-- An expression accepts the texts that its items cut. -/
theorem accepts_iff_cut {regex : String} {items : List Item} (h : Reads regex items) (text : String) :
    Accepts regex text ↔ Cut items text.toList := by
  constructor
  · rintro ⟨others, hothers, hcut⟩
    rwa [h.unique hothers]
  · exact fun hcut => ⟨items, h, hcut⟩

/-! ## Escaping -/

/-- The atom of a character that is written to stand for itself. -/
def Atom.literal (c : Char) : Atom := if isEscaped c then .escaped c else .same c

/-- A literal is written as the escaped character. -/
theorem Atom.written_literal (c : Char) : (literal c).written = escape c := by
  unfold literal escape
  split <;> rfl

/-- Every special character is escaped, and no character that must not be. -/
theorem Atom.legal_literal (c : Char) : (literal c).Legal := by
  have hescapable : ∀ d ∈ special ++ ['#', '&', '-', '~'], isEscapable d = true := List.all_eq_true.mp rfl
  unfold literal
  split
  · rename_i hc
    exact hescapable c (List.contains_iff_mem.mp hc)
  · rename_i hc
    exact fun hspecial => hc (List.contains_iff_mem.mpr (List.mem_append_left _ hspecial))

/-- A literal holds its own character only. -/
theorem Atom.holds_literal (c x : Char) : (literal c).Holds x ↔ x = c := by
  unfold literal
  split <;> rfl

end Glob.Regex

open Glob (CharSet Step Pattern Regex.Atom Regex.Item)

namespace Mask

/-- The item that a character of a mask stands for. -/
def itemOf (c : Char) : Regex.Item :=
  if c = '*' then .run .point
  else if c = '?' then .one .point
  else if c.isAlpha then .one (.either c.toLower c.toUpper)
  else .one (.literal c)

/-- The item of a character is written as the mask is translated. -/
theorem written_itemOf (c : Char) : (itemOf c).written = regexChar c := by
  unfold itemOf regexChar
  split
  · rfl
  · split
    · rfl
    · split
      · rfl
      · exact Regex.Atom.written_literal c

/-- The item of a character is legal. -/
theorem legal_itemOf (c : Char) : (itemOf c).atom.Legal := by
  unfold itemOf
  split
  · trivial
  · split
    · trivial
    · split
      · rename_i halpha
        exact ⟨Text.isAlpha_toLower halpha, Text.isAlpha_toUpper halpha⟩
      · exact Regex.Atom.legal_literal c

/-- The regular expression of a mask has an item for each of its characters. -/
theorem reads_toRegex (m : Mask) : Glob.Regex.Reads m.toRegex (m.text.toList.map itemOf) where
  legal := by
    intro item hitem
    obtain ⟨c, -, rfl⟩ := List.mem_map.mp hitem
    exact legal_itemOf c
  written := by
    rw [toRegex, String.toList_ofList, Glob.Regex.body, List.flatMap_map]
    simp only [written_itemOf]

/-- An item takes what the step takes when its atom takes the same characters. -/
theorem takes_one_iff {a : Regex.Atom} {set : CharSet} (h : ∀ x, a.Holds x ↔ set.holds x = true) (piece : List Char) :
    (Regex.Item.one a).Takes piece ↔ (Step.one set).Takes piece := by
  constructor
  · rintro ⟨hx⟩
    exact .one ((h _).mp ‹_›)
  · rintro ⟨hx⟩
    exact .one ((h _).mpr ‹_›)

/-- A starred item takes what a run does if they hold the same characters. -/
theorem takes_run_iff {a : Regex.Atom} {set : CharSet} (h : ∀ x, a.Holds x ↔ set.holds x = true) (piece : List Char) :
    (Regex.Item.run a).Takes piece ↔ (Step.run set).Takes piece := by
  constructor
  · rintro ⟨hpiece⟩
    exact .run fun x hx => (h x).mp (‹∀ x ∈ piece, a.Holds x› x hx)
  · rintro ⟨hpiece⟩
    exact .run fun x hx => (h x).mpr (‹∀ x ∈ piece, set.holds x = true› x hx)

/-- The item of a character takes what its step takes. -/
theorem takes_itemOf_iff (c : Char) (piece : List Char) : (itemOf c).Takes piece ↔ (stepOf c).Takes piece := by
  have hpoint (x : Char) : Regex.Atom.point.Holds x ↔ CharSet.exceptLineFeed.holds x = true := bne_iff_ne.symm
  unfold itemOf stepOf
  split
  · exact takes_run_iff hpoint piece
  · split
    · exact takes_one_iff hpoint piece
    · split
      · refine takes_one_iff (fun x => ?_) piece
        exact (Text.toLower_eq_iff x c).symm.trans beq_iff_eq.symm
      · refine takes_one_iff (fun x => ?_) piece
        exact (Regex.Atom.holds_literal c x).trans beq_iff_eq.symm

/-- A mask selects the identifiers that its regular expression accepts. -/
theorem selects_iff_accepts (m : Mask) (id : String) : m.selects id = true ↔ Glob.Regex.Accepts m.toRegex id := by
  have htakes : (fun c piece => (stepOf c).Takes piece) = fun c piece => (itemOf c).Takes piece := by
    funext c piece
    exact propext (takes_itemOf_iff c piece).symm
  rw [selects, Pattern.accepts_iff_matches, pattern, Glob.Regex.accepts_iff_cut (reads_toRegex m), Glob.Regex.cut_iff_pieces,
    Pattern.matches_iff_pieces]
  simp only [List.forall₂_map_left_iff, htakes]

end Mask

end BasinRegister
