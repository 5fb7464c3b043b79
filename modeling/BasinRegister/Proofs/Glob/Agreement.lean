import BasinRegister.Glob.Like
import BasinRegister.Proofs.Glob.Meaning
import BasinRegister.Proofs.Glob.Regex
import Mathlib.Data.List.TakeWhile

/-!
# A mask and its `LIKE` pattern

The texts that are like the pattern of a mask are those that the mask stands for (`Mask.likes_toLike_iff`), so that the regular
expression of the mask accepts no others and misses only line feeds that its wildcards would have to take (`Mask.selects_likes`).
The operator ends a text at its first NUL and reads noncharacters as the replacement character; of texts without any of these a mask
and its pattern select the same (`Mask.selects_toLike`).
-/

namespace BasinRegister

namespace Glob

namespace Like

/-! ## Texts that are like a pattern -/

/-- A text is like a pattern: `%` takes any run of characters and `_` any one, the escape makes the next character stand for
itself, and a character that stands for itself takes one that is equal to it up to ASCII case. -/
inductive Likes : List Char → List Char → Prop where
  /-- No character is left on either side. -/
  | nil : Likes [] []
  /-- Any run of characters. -/
  | run {pattern text : List Char} (taken : List Char) : Likes pattern text → Likes ('%' :: pattern) (taken ++ text)
  /-- Any character. -/
  | one {pattern text : List Char} (x : Char) : Likes pattern text → Likes ('_' :: pattern) (x :: text)
  /-- A character behind the escape. -/
  | escaped {pattern text : List Char} {c x : Char} :
      x.toLower = c.toLower → Likes pattern text → Likes ('\\' :: c :: pattern) (x :: text)
  /-- A character without a meaning of its own. -/
  | same {pattern text : List Char} {c x : Char} :
      c ≠ '%' → c ≠ '_' → c ≠ '\\' → x.toLower = c.toLower → Likes pattern text → Likes (c :: pattern) (x :: text)

/-- A text is like a pattern when the steps of the pattern can be cut out of it. -/
theorem likes_iff {pattern text : List Char} :
    Likes pattern text ↔ ∃ p, steps pattern = some p ∧ Pattern.Matches p text := by
  have hcons {step : Step} {read : Option Pattern} {text : List Char} :
      (∃ p, read.map (step :: ·) = some p ∧ Pattern.Matches p text) ↔ ∃ p, read = some p ∧ Pattern.Matches (step :: p) text := by
    simp
  fun_induction steps pattern generalizing text with
  | case1 =>
    constructor
    · rintro ⟨⟩
      exact ⟨[], rfl, .nil⟩
    · rintro ⟨p, hp, hmatches⟩
      cases hp
      rw [Pattern.matches_nil_iff.mp hmatches]
      exact .nil
  | case2 =>
    constructor
    · intro h
      cases h with
      | same _ _ hescape => exact absurd rfl hescape
    · rintro ⟨p, hp, -⟩
      cases hp
  | case3 c cs ih =>
    simp only [hcons, Pattern.matches_one_iff]
    constructor
    · intro h
      cases h with
      | escaped hx h =>
        obtain ⟨p, hp, hmatches⟩ := ih.mp h
        exact ⟨p, hp, _, _, rfl, beq_iff_eq.mpr hx, hmatches⟩
      | same _ _ hescape => exact absurd rfl hescape
    · rintro ⟨p, hp, x, rest, rfl, hx, hmatches⟩
      exact .escaped (beq_iff_eq.mp hx) (ih.mpr ⟨p, hp, hmatches⟩)
  | case4 cs ih =>
    simp only [hcons, Pattern.matches_run_iff]
    constructor
    · intro h
      cases h with
      | run taken h =>
        obtain ⟨p, hp, hmatches⟩ := ih.mp h
        exact ⟨p, hp, taken, _, rfl, fun _ _ => rfl, hmatches⟩
      | same hrun => exact absurd rfl hrun
    · rintro ⟨p, hp, taken, rest, rfl, -, hmatches⟩
      exact .run taken (ih.mpr ⟨p, hp, hmatches⟩)
  | case5 cs ih =>
    simp only [hcons, Pattern.matches_one_iff]
    constructor
    · intro h
      cases h with
      | one x h =>
        obtain ⟨p, hp, hmatches⟩ := ih.mp h
        exact ⟨p, hp, x, _, rfl, rfl, hmatches⟩
      | same _ hone => exact absurd rfl hone
    · rintro ⟨p, hp, x, rest, rfl, -, hmatches⟩
      exact .one x (ih.mpr ⟨p, hp, hmatches⟩)
  | case6 c cs hlast hescape hrun hone ih =>
    simp only [hcons, Pattern.matches_one_iff]
    constructor
    · intro h
      cases h with
      | run => exact absurd rfl hrun
      | one => exact absurd rfl hone
      | escaped => exact absurd rfl (hescape _ _ rfl)
      | same _ _ _ hx h =>
        obtain ⟨p, hp, hmatches⟩ := ih.mp h
        exact ⟨p, hp, _, _, rfl, beq_iff_eq.mpr hx, hmatches⟩
    · rintro ⟨p, hp, x, rest, rfl, hx, hmatches⟩
      refine .same hrun hone ?_ (beq_iff_eq.mp hx) (ih.mpr ⟨p, hp, hmatches⟩)
      rintro rfl
      cases cs with
      | nil => exact hlast rfl rfl
      | cons d cs => exact hescape d cs rfl rfl

/-! ## Reading with the operator -/

/-- The step of a `LIKE` pattern that stands for a character of a mask. -/
def stepOf (c : Char) : Step :=
  if c = '*' then .run .any else if c = '?' then .one .any else .one (.folded c)

/-- The written characters of a mask are read as one step each. -/
theorem steps_flatMap_likeChar (cs : List Char) : steps (cs.flatMap Mask.likeChar) = some (cs.map stepOf) := by
  induction cs with
  | nil => rfl
  | cons c cs ih =>
    rw [List.flatMap_cons, Mask.likeChar, List.map_cons, stepOf]
    by_cases hstar : c = '*'
    · simp [hstar, steps, ih]
    · by_cases hmark : c = '?'
      · simp [hmark, steps, ih]
      · rw [if_neg hstar, if_neg hmark, if_neg hstar, if_neg hmark]
        by_cases hescaped : (c = '%' || c = '_' || c = '\\') = true
        · rw [if_pos hescaped, List.cons_append, List.cons_append, List.nil_append, steps, ih]
          rfl
        · rw [if_neg hescaped]
          simp only [Bool.or_eq_true, decide_eq_true_eq, not_or] at hescaped
          rw [List.cons_append, List.nil_append, steps, ih]
          · rfl
          all_goals simp_all

/-- A text without the noncharacters that the operator replaces. -/
structure Kept (s : String) : Prop where
  /-- There is no U+FFFE. -/
  fffe : '\uFFFE' ∉ s.toList
  /-- There is no U+FFFF. -/
  ffff : '\uFFFF' ∉ s.toList

/-- Of a text without NULs all characters are read. -/
theorem readText_eq_map {s : String} (hnul : '\x00' ∉ s.toList) : readText s = s.toList.map readChar := by
  have htake : s.toList.takeWhile (· != '\x00') = s.toList := by
    rw [List.takeWhile_eq_self_iff]
    intro c hc
    rw [bne_iff_ne]
    rintro rfl
    exact hnul hc
  rw [readText, htake]

/-- A text without NULs and noncharacters is read as it is. -/
theorem readText_of_kept {s : String} (hnul : '\x00' ∉ s.toList) (hkept : Kept s) : readText s = s.toList := by
  have hread : ∀ c ∈ s.toList, readChar c = c := by
    intro c hc
    have hne : ¬((c = '\uFFFE' || c = '\uFFFF') = true) := by
      rw [Bool.or_eq_true, decide_eq_true_eq, decide_eq_true_eq]
      rintro (rfl | rfl)
      · exact hkept.fffe hc
      · exact hkept.ffff hc
    rw [readChar, if_neg hne]
  rw [readText_eq_map hnul, List.map_congr_left hread, List.map_id']

/-- The operator selects the texts that are like the pattern once it has read both. -/
theorem selects_iff_likes (pattern text : String) :
    selects pattern text = true ↔ Likes (readText pattern) (readText text) := by
  rw [likes_iff, selects]
  cases steps (readText pattern) with
  | none => simp
  | some p => simp [Pattern.accepts_iff_matches]

theorem readChar_of_isAlpha {c : Char} (h : c.isAlpha = true) : readChar c = c := by
  rw [readChar, if_neg]
  rw [Bool.or_eq_true, decide_eq_true_eq, decide_eq_true_eq]
  rintro (rfl | rfl)
  all_goals revert h; decide

/-- No character is read as one that it is not, but for the replacement character. -/
theorem eq_of_readChar_eq {c d : Char} (hd : d ≠ '\uFFFD') (h : readChar c = d) : c = d := by
  unfold readChar at h
  split at h
  · exact absurd h.symm hd
  · exact h

/-- Characters that are equal up to ASCII case are read as such. -/
theorem toLower_readChar {x c : Char} (h : x.toLower = c.toLower) : (readChar x).toLower = (readChar c).toLower := by
  by_cases hx : x.isAlpha = true
  · by_cases hc : c.isAlpha = true
    · rw [readChar_of_isAlpha hx, readChar_of_isAlpha hc, h]
    · rw [(Text.toLower_eq_iff_of_not_isAlpha (Bool.eq_false_iff.mpr hc) x).mp h]
  · rw [(Text.toLower_eq_iff_of_not_isAlpha (Bool.eq_false_iff.mpr hx) c).mp h.symm]

/-- A text that is like a pattern stays like it when both are read by the operator. -/
theorem Likes.map_readChar {pattern text : List Char} (h : Likes pattern text) :
    Likes (pattern.map readChar) (text.map readChar) := by
  have hkeeps {c d : Char} (hd : d ≠ '\uFFFD') (hc : c ≠ d) : readChar c ≠ d := mt (eq_of_readChar_eq hd) hc
  induction h with
  | nil => exact .nil
  | run taken _ ih =>
    rw [List.map_append]
    exact .run _ ih
  | one x _ ih => exact .one _ ih
  | escaped hx _ ih => exact .escaped (toLower_readChar hx) ih
  | same hrun hone hescape hx _ ih =>
    exact .same (hkeeps (by decide) hrun) (hkeeps (by decide) hone) (hkeeps (by decide) hescape) (toLower_readChar hx) ih

end Like

end Glob

open Glob (CharSet Step Pattern)

namespace Mask

/-- The step of the operator for a character takes its pieces, with wildcards that take every character. -/
theorem takes_likeStep_iff (c : Char) (piece : List Char) :
    (Glob.Like.stepOf c).Takes piece ↔ Takes (fun _ => True) c piece :=
  takes_step_iff (fun _ => iff_of_true rfl trivial) (fun _ => beq_iff_eq) piece

/-- The names that are like the pattern of a mask are those that the mask stands for. -/
theorem likes_toLike_iff (text name : String) :
    Glob.Like.Likes (⟨text⟩ : Mask).toLike.toList name.toList ↔ Cuts (fun _ => True) text name := by
  rw [Glob.Like.likes_iff, toLike, String.toList_ofList, Glob.Like.steps_flatMap_likeChar,
    cuts_iff_matches takes_likeStep_iff]
  simp

theorem mem_likeChar {c d : Char} (h : d ∈ likeChar c) : d = c ∨ d = '%' ∨ d = '_' ∨ d = '\\' := by
  unfold likeChar at h
  split at h
  · simp_all
  · split at h
    · simp_all
    · split at h
      · rcases List.mem_cons.mp h with rfl | h
        · exact Or.inr (Or.inr (Or.inr rfl))
        · exact Or.inl (List.mem_singleton.mp h)
      · exact Or.inl (List.mem_singleton.mp h)

/-- The pattern of a mask holds nothing but the characters of the mask and those that the operator gives a meaning to. -/
theorem mem_toLike {m : Mask} {d : Char} (h : d ∈ m.toLike.toList) :
    d ∈ m.text.toList ∨ d = '%' ∨ d = '_' ∨ d = '\\' := by
  rw [toLike, String.toList_ofList] at h
  obtain ⟨c, hc, hd⟩ := List.mem_flatMap.mp h
  rcases mem_likeChar hd with rfl | hd
  · exact Or.inl hc
  · exact Or.inr hd

/-- A text without line feeds and NULs. -/
structure Plain (s : String) : Prop where
  /-- There is no line feed. -/
  lineFeed : '\n' ∉ s.toList
  /-- There is no NUL. -/
  nul : '\x00' ∉ s.toList

/-- The pattern of a mask without NULs has none. -/
theorem nul_not_mem_toLike {m : Mask} (h : '\x00' ∉ m.text.toList) : '\x00' ∉ m.toLike.toList :=
  fun hmem => by simpa [h] using mem_toLike hmem

/-- The pattern of a mask without noncharacters has none. -/
theorem kept_toLike {m : Mask} (h : Glob.Like.Kept m.text) : Glob.Like.Kept m.toLike :=
  ⟨fun hmem => by simpa [h.fffe] using mem_toLike hmem, fun hmem => by simpa [h.ffff] using mem_toLike hmem⟩

/-- The operator selects the names that are like the pattern of a mask, as long as it reads both as they are. -/
theorem like_selects_iff_likes {m : Mask} {name : String} (hm : '\x00' ∉ m.text.toList) (hmkept : Glob.Like.Kept m.text)
    (hname : '\x00' ∉ name.toList) (hkept : Glob.Like.Kept name) :
    Glob.Like.selects m.toLike name = true ↔ Glob.Like.Likes m.toLike.toList name.toList := by
  rw [Glob.Like.selects_iff_likes, Glob.Like.readText_of_kept (nul_not_mem_toLike hm) (kept_toLike hmkept),
    Glob.Like.readText_of_kept hname hkept]

/-- A mask and its pattern select the same texts that both read alike. -/
theorem selects_toLike {m : Mask} {text : String} (hm : Plain m.text) (hmkept : Glob.Like.Kept m.text) (ht : Plain text)
    (htkept : Glob.Like.Kept text) : Glob.Like.selects m.toLike text = m.selects text := by
  rw [Bool.eq_iff_iff, like_selects_iff_likes hm.nul hmkept ht.nul htkept, likes_toLike_iff, selects_iff_cuts,
    cuts_any_iff ht.lineFeed]

/-- An accepted mask selects the names that its regular expression accepts. They are like its pattern, and the operator selects
them. Of names without line feeds those that are like the pattern are all selected by the mask, and the operator selects no others,
unless the mask or the name holds a noncharacter that it replaces. -/
theorem selects_likes {text : String} {m : Mask} (h : compile text = .ok m) (htext : '\x00' ∉ text.toList) {name : String}
    (hname : '\x00' ∉ name.toList) :
    (m.selects name = true ↔ Glob.Regex.Accepts m.toRegex name) ∧
    (m.selects name = true → Glob.Like.Likes m.toLike.toList name.toList) ∧
    ('\n' ∉ name.toList → Glob.Like.Likes m.toLike.toList name.toList → m.selects name = true) ∧
    (Glob.Like.Likes m.toLike.toList name.toList → Glob.Like.selects m.toLike name = true) ∧
    (Glob.Like.Kept text → Glob.Like.Kept name → Glob.Like.selects m.toLike name = true →
      Glob.Like.Likes m.toLike.toList name.toList) := by
  obtain rfl := compile_eq_ok h
  refine ⟨selects_iff_accepts ⟨text⟩ name, ?_, ?_, ?_, ?_⟩
  · rw [selects_iff_cuts, likes_toLike_iff]
    exact fun hcuts => hcuts.mono fun _ _ _ => trivial
  · intro hfeeds
    rw [selects_iff_cuts, likes_toLike_iff, cuts_any_iff hfeeds]
    exact id
  · intro hlikes
    rw [Glob.Like.selects_iff_likes, Glob.Like.readText_eq_map (nul_not_mem_toLike htext), Glob.Like.readText_eq_map hname]
    exact hlikes.map_readChar
  · exact fun htextkept hkept => (like_selects_iff_likes htext htextkept hname hkept).mp

/-- A mask with characters that mean something else in an expression or to the operator, and both wildcards. -/
theorem selects_likes_escaped :
    compile "a.50%_*\\?" = .ok ⟨"a.50%_*\\?"⟩ ∧ (⟨"a.50%_*\\?"⟩ : Mask).toRegex = "^[aA]\\.50%_.*\\\\.$" ∧
      (⟨"a.50%_*\\?"⟩ : Mask).toLike = "a.50\\%\\_%\\\\_" ∧ '\x00' ∉ "a.50%_*\\?".toList ∧
      '\x00' ∉ "A.50%_ of\\É".toList ∧ '\n' ∉ "A.50%_ of\\É".toList ∧
      Glob.Regex.Accepts (⟨"a.50%_*\\?"⟩ : Mask).toRegex "A.50%_ of\\É" ∧
      Glob.Like.Likes (⟨"a.50%_*\\?"⟩ : Mask).toLike.toList "A.50%_ of\\É".toList ∧
      Glob.Like.selects (⟨"a.50%_*\\?"⟩ : Mask).toLike "A.50%_ of\\É" = true := by
  have hcompile : compile "a.50%_*\\?" = .ok ⟨"a.50%_*\\?"⟩ := by decide
  have htext : '\x00' ∉ "a.50%_*\\?".toList := by decide
  have hname : '\x00' ∉ "A.50%_ of\\É".toList := by decide
  have hfeeds : '\n' ∉ "A.50%_ of\\É".toList := by decide
  have hselects : (⟨"a.50%_*\\?"⟩ : Mask).selects "A.50%_ of\\É" = true := by decide
  obtain ⟨hregex, hlikes, hback, hoperator, hnomore⟩ := selects_likes hcompile htext hname
  have hlikely := hnomore ⟨by decide, by decide⟩ ⟨by decide, by decide⟩ (hoperator (hlikes hselects))
  exact ⟨hcompile, by decide, by decide, htext, hname, hfeeds, hregex.mp (hback hfeeds hlikely), hlikely, hoperator hlikely⟩

end Mask

end BasinRegister
