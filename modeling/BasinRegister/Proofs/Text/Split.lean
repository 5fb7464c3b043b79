import BasinRegister.Text.Basic
import BasinRegister.Text.Split

/-!
# Taking joined texts apart

Pieces that do not hold the delimiter come back out of their joined text (`splitAll_intercalate`), and a text without
blanks at its ends is left as it is (`trimChars_of_ends`). Where every piece loses the blanks at its ends, those at the ends of
the whole text do not matter (`map_trim_splitAll_trim`). A run of characters of one sort is told from what follows it
(`span_inj`).
-/

namespace BasinRegister.Text

/-! ## Runs -/

/-- A run of characters goes on to the first one that does not belong to it. -/
theorem span_append {p : Char → Bool} {run rest : List Char} (hrun : ∀ c ∈ run, p c = true)
    (hrest : ∀ c ∈ rest.head?, p c = false) :
    (run ++ rest).takeWhile p = run ∧ (run ++ rest).dropWhile p = rest := by
  rw [List.takeWhile_append_of_pos hrun, List.dropWhile_append_of_pos hrun]
  cases rest with
  | nil => simp
  | cons c cs => simp [hrest c rfl]

/-- Two runs with what follows them are the same text only if they are the same run. -/
theorem span_inj {p : Char → Bool} {run run' rest rest' : List Char} (hrun : ∀ c ∈ run, p c = true)
    (hrun' : ∀ c ∈ run', p c = true) (hrest : ∀ c ∈ rest.head?, p c = false) (hrest' : ∀ c ∈ rest'.head?, p c = false)
    (h : run ++ rest = run' ++ rest') : run = run' ∧ rest = rest' := by
  obtain ⟨htake, hdrop⟩ := span_append hrun hrest
  obtain ⟨htake', hdrop'⟩ := span_append hrun' hrest'
  rw [h] at htake hdrop
  exact ⟨htake.symm.trans htake', hdrop.symm.trans hdrop'⟩

/-! ## Pieces -/

/-- A text without the delimiter is one piece. -/
theorem pieces_of_not_mem {d : Char} {cs : List Char} (h : d ∉ cs) : pieces d cs = [cs] := by
  induction cs with
  | nil => rfl
  | cons c cs ih =>
    simp only [List.mem_cons, not_or] at h
    rw [pieces, if_neg (Ne.symm h.1), ih h.2]

/-- The piece in front of the first delimiter comes first. -/
theorem pieces_append_cons {d : Char} {cs : List Char} (h : d ∉ cs) (rest : List Char) :
    pieces d (cs ++ d :: rest) = cs :: pieces d rest := by
  induction cs with
  | nil => simp [pieces]
  | cons c cs ih =>
    simp only [List.mem_cons, not_or] at h
    rw [List.cons_append, pieces, if_neg (Ne.symm h.1), ih h.2]

/-- Pieces without the delimiter come back out of the joined text. -/
theorem pieces_intercalate {d : Char} {ps : List (List Char)} (hne : ps ≠ []) (h : ∀ p ∈ ps, d ∉ p) :
    pieces d ([d].intercalate ps) = ps := by
  induction ps with
  | nil => exact absurd rfl hne
  | cons p ps ih =>
    have hp : d ∉ p := h p List.mem_cons_self
    cases ps with
    | nil => rw [List.intercalate_singleton, pieces_of_not_mem hp]
    | cons q qs =>
      have hq : pieces d ([d].intercalate (q :: qs)) = q :: qs :=
        ih (by simp) (fun r hr => h r (List.mem_cons_of_mem p hr))
      rw [List.intercalate_cons_cons, List.append_assoc, List.singleton_append, pieces_append_cons hp, hq]

/-- Texts without the delimiter come back out of the joined text. -/
theorem splitAll_intercalate {d : Char} {ss : List String} (hne : ss ≠ []) (h : ∀ s ∈ ss, d ∉ s.toList) :
    splitAll d ((String.singleton d).intercalate ss) = ss := by
  rw [splitAll, String.toList_intercalate, String.toList_singleton, pieces_intercalate (by simpa using hne)]
  · simp [List.map_map, Function.comp_def]
  · intro p hp
    obtain ⟨s, hs, rfl⟩ := List.mem_map.mp hp
    exact h s hs

/-- A piece holds no delimiter, and only characters of the text. -/
theorem of_mem_pieces {d : Char} {cs p : List Char} (h : p ∈ pieces d cs) : d ∉ p ∧ ∀ c ∈ p, c ∈ cs := by
  induction cs generalizing p with
  | nil =>
    rw [pieces, List.mem_singleton] at h
    subst h
    simp
  | cons c cs ih =>
    have hrest : ∀ q ∈ pieces d cs, d ∉ q ∧ ∀ e ∈ q, e ∈ c :: cs := fun q hq =>
      ⟨(ih hq).1, fun e he => List.mem_cons_of_mem c ((ih hq).2 e he)⟩
    rw [pieces] at h
    split at h
    · rcases List.mem_cons.mp h with rfl | h
      · simp
      · exact hrest p h
    · rename_i hc
      split at h
      · rename_i hnone
        exact absurd hnone (pieces_ne_nil d cs)
      · rename_i q qs hq
        rw [hq] at hrest
        rcases List.mem_cons.mp h with rfl | h
        · obtain ⟨hd, hsub⟩ := hrest q List.mem_cons_self
          simp only [List.mem_cons, not_or]
          refine ⟨⟨Ne.symm hc, hd⟩, ?_⟩
          rintro e (rfl | he)
          · exact .inl rfl
          · exact List.mem_cons.mp (hsub e he)
        · exact hrest p (List.mem_cons_of_mem q h)

theorem of_mem_splitAll {d : Char} {s piece : String} (h : piece ∈ splitAll d s) :
    d ∉ piece.toList ∧ ∀ c ∈ piece.toList, c ∈ s.toList := by
  obtain ⟨p, hp, rfl⟩ := List.mem_map.mp h
  rw [String.toList_ofList]
  exact of_mem_pieces hp

/-- There is one more piece than there are delimiters. -/
theorem length_pieces (d : Char) (cs : List Char) : (pieces d cs).length = cs.count d + 1 := by
  induction cs with
  | nil => rfl
  | cons c cs ih =>
    rw [pieces, List.count_cons]
    by_cases hc : c = d
    · simp [hc, ih]
    · rw [if_neg hc]
      split
      · rename_i hnone
        exact absurd hnone (pieces_ne_nil d cs)
      · rename_i p ps hps
        rw [hps] at ih
        simpa [hc] using ih

theorem length_splitAll (d : Char) (s : String) : (splitAll d s).length = s.toList.count d + 1 := by
  rw [splitAll, List.length_map, length_pieces]

/-- A character that is no delimiter, put in front, belongs to the first piece. -/
theorem pieces_cons_of_ne {c d : Char} (h : c ≠ d) (cs : List Char) :
    ∃ p ps, pieces d cs = p :: ps ∧ pieces d (c :: cs) = (c :: p) :: ps := by
  obtain ⟨p, ps, hps⟩ := List.exists_cons_of_ne_nil (pieces_ne_nil d cs)
  refine ⟨p, ps, hps, ?_⟩
  rw [pieces, if_neg h, hps]

/-- A character that is no delimiter, put behind, belongs to the last piece. -/
theorem pieces_concat_of_ne {c d : Char} (h : c ≠ d) (cs : List Char) :
    ∃ front last, pieces d cs = front ++ [last] ∧ pieces d (cs ++ [c]) = front ++ [last ++ [c]] := by
  induction cs with
  | nil => exact ⟨[], [], rfl, by simp [pieces, h]⟩
  | cons b cs ih =>
    obtain ⟨front, last, hcs, hcsc⟩ := ih
    rw [List.cons_append, pieces, pieces]
    by_cases hb : b = d
    · rw [if_pos hb, if_pos hb, hcs, hcsc]
      exact ⟨[] :: front, last, rfl, rfl⟩
    · rw [if_neg hb, if_neg hb, hcs, hcsc]
      cases front with
      | nil => exact ⟨[], b :: last, rfl, rfl⟩
      | cons p ps => exact ⟨(b :: p) :: ps, last, rfl, rfl⟩

/-- The pieces are the texts without the delimiter that make up the text with delimiters between them. -/
theorem splitAll_eq_iff {d : Char} {s : String} {ss : List String} :
    splitAll d s = ss ↔ ss ≠ [] ∧ (∀ piece ∈ ss, d ∉ piece.toList) ∧ (String.singleton d).intercalate ss = s := by
  constructor
  · rintro rfl
    refine ⟨?_, fun piece hpiece => (of_mem_splitAll hpiece).1, ?_⟩
    · simpa [splitAll] using pieces_ne_nil d s.toList
    · apply String.toList_injective
      rw [String.toList_intercalate, String.toList_singleton, splitAll, List.map_map]
      simpa [Function.comp_def] using intercalate_pieces d s.toList
  · rintro ⟨hne, hpieces, rfl⟩
    exact splitAll_intercalate hne hpieces

/-! ## The first delimiter -/

/-- A text is cut at the first delimiter. -/
theorem cutAt_append {d : Char} {before : List Char} (h : d ∉ before) (after : List Char) :
    cutAt d (before ++ d :: after) = some (before, after) := by
  induction before with
  | nil => simp [cutAt]
  | cons c cs ih =>
    simp only [List.mem_cons, not_or] at h
    rw [List.cons_append, cutAt, if_neg (Ne.symm h.1), ih h.2]
    rfl

/-- A text without the delimiter is not cut. -/
theorem cutAt_of_not_mem {d : Char} {cs : List Char} (h : d ∉ cs) : cutAt d cs = none := by
  induction cs with
  | nil => rfl
  | cons c cs ih =>
    simp only [List.mem_cons, not_or] at h
    rw [cutAt, if_neg (Ne.symm h.1), ih h.2]
    rfl

/-! ## Blanks at the ends -/

/-- Nothing is taken off characters that begin and end with one that is not blank. -/
theorem trimChars_of_ends {cs : List Char} (hfirst : ∀ c ∈ cs.head?, isBlank c = false)
    (hlast : ∀ c ∈ cs.getLast?, isBlank c = false) : trimChars cs = cs := by
  have hkeep : ∀ ds : List Char, (∀ c ∈ ds.head?, isBlank c = false) → ds.dropWhile isBlank = ds := by
    intro ds hds
    cases ds with
    | nil => rfl
    | cons d ds => simp [hds d (by simp)]
  have hrev : ∀ c ∈ cs.reverse.head?, isBlank c = false := by
    rw [List.head?_reverse]
    exact hlast
  rw [trimChars, hkeep cs hfirst, hkeep cs.reverse hrev, List.reverse_reverse]

/-- Nothing is taken off a text without blanks. -/
theorem trim_of_no_blank {s : String} (h : ∀ c ∈ s.toList, isBlank c = false) : trim s = s := by
  have hends : trimChars s.toList = s.toList :=
    trimChars_of_ends (fun c hc => h c (List.mem_of_mem_head? hc)) (fun c hc => h c (List.mem_of_getLast? hc))
  rw [trim, hends, String.ofList_toList]

/-- Taking the blanks off leaves only characters of the text. -/
theorem mem_of_mem_trim {s : String} {c : Char} (h : c ∈ (trim s).toList) : c ∈ s.toList := by
  rw [trim, String.toList_ofList, trimChars, List.mem_reverse] at h
  exact (List.dropWhile_sublist _).subset (List.mem_reverse.mp ((List.dropWhile_sublist _).subset h))

/-- There is nothing more to be taken off a text without blanks at its ends. -/
theorem trim_trim (s : String) : trim (trim s) = trim s := by
  have hends : trimChars (trimChars s.toList) = trimChars s.toList := by
    have hfront (ds : List Char) : ∀ c ∈ (ds.dropWhile isBlank).head?, isBlank c = false := by
      intro c hc
      have hhead := List.head?_dropWhile_not isBlank ds
      rw [Option.mem_def.mp hc] at hhead
      exact hhead
    refine trimChars_of_ends ?_ ?_
    · -- what is left of the reversed characters still ends with the last of them
      intro c hc
      obtain ⟨front, hfronts⟩ := List.dropWhile_suffix (l := (s.toList.dropWhile isBlank).reverse) isBlank
      rw [trimChars, List.head?_reverse] at hc
      have hlast := congrArg List.getLast? hfronts
      rw [List.getLast?_append, Option.mem_def.mp hc, Option.some_or, List.getLast?_reverse] at hlast
      exact hfront _ c hlast.symm
    · intro c hc
      rw [trimChars, List.getLast?_reverse] at hc
      exact hfront _ c hc
  rw [trim, trim, String.toList_ofList, hends]

/-! ## Blanks beside delimiters -/

theorem trimChars_cons {c : Char} (hc : isBlank c = true) (cs : List Char) : trimChars (c :: cs) = trimChars cs := by
  simp [trimChars, hc]

theorem trimChars_concat {c : Char} (hc : isBlank c = true) (cs : List Char) : trimChars (cs ++ [c]) = trimChars cs := by
  rw [trimChars, trimChars, List.dropWhile_append]
  split
  · rename_i hempty
    simp [hc, List.isEmpty_iff.mp hempty]
  · simp [hc]

/-- Blanks at the ends of characters do not change the pieces but for blanks at their ends. -/
theorem map_trimChars_pieces {d : Char} (hd : isBlank d = false) (cs : List Char) :
    (pieces d (trimChars cs)).map trimChars = (pieces d cs).map trimChars := by
  have hne {c : Char} (hc : isBlank c = true) : c ≠ d := by
    rintro rfl
    rw [hd] at hc
    cases hc
  have hfront (cs : List Char) : (pieces d (cs.dropWhile isBlank)).map trimChars = (pieces d cs).map trimChars := by
    induction cs with
    | nil => rfl
    | cons c cs ih =>
      by_cases hc : isBlank c = true
      · obtain ⟨p, ps, hps, hcons⟩ := pieces_cons_of_ne (hne hc) cs
        rw [List.dropWhile_cons_of_pos hc, ih, hps, hcons, List.map_cons, List.map_cons, trimChars_cons hc]
      · rw [List.dropWhile_cons_of_neg hc]
  have hback (cs : List Char) :
      (pieces d (cs.dropWhile isBlank).reverse).map trimChars = (pieces d cs.reverse).map trimChars := by
    induction cs with
    | nil => rfl
    | cons c cs ih =>
      by_cases hc : isBlank c = true
      · obtain ⟨front, last, hcs, hcsc⟩ := pieces_concat_of_ne (hne hc) cs.reverse
        rw [List.dropWhile_cons_of_pos hc, ih, List.reverse_cons, hcs, hcsc, List.map_append, List.map_append,
          List.map_singleton, List.map_singleton, trimChars_concat hc]
      · rw [List.dropWhile_cons_of_neg hc]
  rw [trimChars, hback, List.reverse_reverse, hfront]

theorem map_trim_splitAll_trim {d : Char} (hd : isBlank d = false) (s : String) :
    (splitAll d (trim s)).map trim = (splitAll d s).map trim := by
  have hpieces := congrArg (List.map String.ofList) (map_trimChars_pieces hd s.toList)
  simpa [splitAll, trim, Function.comp_def] using hpieces

end BasinRegister.Text
