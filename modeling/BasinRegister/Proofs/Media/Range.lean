import BasinRegister.Media.Range
import BasinRegister.Proofs.Text.Case
import BasinRegister.Proofs.Text.Split

/-!
# Media ranges as texts

The essence of a media range that was read is a type and a subtype in lower case (`essence_of_parse?`), and such an essence is
read back as it is, alone or with a parameter whose value is a token behind it (`parse?_essence`, `parse?_parameter`).
-/

namespace BasinRegister.MediaRange

variable {s : String} {range : MediaRange} {c : Char} {type subtype name value : List Char}

/-! ## Tokens -/

theorem toNat_of_isTokenChar (h : isTokenChar c = true) : 33 ≤ c.toNat ∧ c.toNat ≤ 126 := by
  simp only [isTokenChar, Bool.or_eq_true, List.contains_iff_mem, beq_iff_eq] at h
  rcases h with (h | h) | rfl
  · rw [Char.isAlphanum, Bool.or_eq_true, Text.isAlpha_iff] at h
    rcases h with h | h
    · omega
    · simp only [Char.isDigit, Bool.and_eq_true, decide_eq_true_eq] at h
      have hdigit : 48 ≤ c.toNat ∧ c.toNat ≤ 57 := h
      omega
  · have hmarks : ∀ marks : List Char, (marks.all fun d => decide (33 ≤ d.toNat ∧ d.toNat ≤ 126)) = true → c ∈ marks →
        33 ≤ c.toNat ∧ c.toNat ≤ 126 := by
      intro marks hall hc
      exact of_decide_eq_true (List.all_eq_true.mp hall c hc)
    exact hmarks _ (by decide) h
  · decide

/-- No character of a token is blank. -/
theorem isBlank_of_isTokenChar (h : isTokenChar c = true) : Text.isBlank c = false := by
  have hrange := toNat_of_isTokenChar h
  simp [Text.isBlank]
  omega

/-- Tokens stay tokens in lower case. -/
theorem isTokenChar_toLower (h : isTokenChar c = true) : isTokenChar c.toLower = true := by
  rcases Text.toLower_eq_or_isAlpha c with hsame | hletter
  · rwa [hsame]
  · simp [isTokenChar, Char.isAlphanum, hletter]

/-- A token in lower case. -/
def IsFolded (cs : List Char) : Prop :=
  ∀ c ∈ cs, isTokenChar c = true ∧ c.toLower = c

theorem isFolded_map_toLower {cs : List Char} (h : ∀ c ∈ cs, isTokenChar c = true) : IsFolded (cs.map Char.toLower) := by
  intro c hc
  obtain ⟨d, hd, rfl⟩ := List.mem_map.mp hc
  exact ⟨isTokenChar_toLower (h d hd), Text.toLower_toLower d⟩

theorem IsFolded.map_toLower {cs : List Char} (h : IsFolded cs) : cs.map Char.toLower = cs := by
  have hsame : cs.map Char.toLower = cs.map id := List.map_congr_left fun c hc => (h c hc).2
  rw [hsame, List.map_id]

/-! ## Essences -/

/-- Type and subtype in lower case make up the essence. Only where no parameters follow may the subtype be empty. -/
structure IsEssence (range : MediaRange) (type subtype : List Char) : Prop where
  /-- The two with the slash between them. -/
  essence : range.essence = String.ofList (type ++ '/' :: subtype)
  /-- There is a type. -/
  stated : type ≠ []
  /-- The type is a token in lower case. -/
  typeFolded : IsFolded type
  /-- So is the subtype. -/
  subtypeFolded : IsFolded subtype
  /-- There is a subtype in front of parameters. -/
  parameters : range.parameters ≠ [] → subtype ≠ []

theorem of_mem_takeWhile {α : Type} {p : α → Bool} {xs : List α} {x : α} (h : x ∈ xs.takeWhile p) : p x = true :=
  List.all_eq_true.mp List.all_takeWhile x h

/-- The essence of a media range that was read. -/
theorem essence_of_parse? (h : parse? s = some range) : ∃ type subtype, IsEssence range type subtype := by
  rw [parse?] at h
  split at h
  · rename_i rest _
    split at h
    · cases h
    · rename_i htype
      have hessence : ∀ parameters, (parameters ≠ [] → rest.takeWhile isTokenChar ≠ []) →
          IsEssence ⟨String.ofList ((s.toList.takeWhile isTokenChar ++ '/' :: rest.takeWhile isTokenChar).map Char.toLower),
            parameters⟩ ((s.toList.takeWhile isTokenChar).map Char.toLower) ((rest.takeWhile isTokenChar).map Char.toLower) := by
        intro parameters hsubtype
        refine ⟨?_, ?_, ?_, ?_, ?_⟩
        · rw [List.map_append, List.map_cons]
          rfl
        · simpa using htype
        · exact isFolded_map_toLower fun c => of_mem_takeWhile
        · exact isFolded_map_toLower fun c => of_mem_takeWhile
        · simpa using hsubtype
      split at h
      · obtain rfl := Option.some.inj h
        exact ⟨_, _, hessence [] (by simp)⟩
      · dsimp only at h
        split at h
        · cases h
        · rename_i hsubtype
          obtain ⟨parameters, -, rfl⟩ := Option.map_eq_some_iff.mp h
          exact ⟨_, _, hessence parameters fun _ => by simpa using hsubtype⟩
      · cases h
  · cases h

/-- An essence is made of characters of tokens and the slash. -/
theorem IsEssence.token_or_slash (h : IsEssence range type subtype) :
    ∀ c ∈ range.essence.toList, isTokenChar c = true ∨ c = '/' := by
  rw [h.essence, String.toList_ofList]
  intro c hc
  rcases List.mem_append.mp hc with hc | hc
  · exact .inl (h.typeFolded c hc).1
  · rcases List.mem_cons.mp hc with rfl | hc
    · exact .inr rfl
    · exact .inl (h.subtypeFolded c hc).1

/-! ## Reading back -/

/-- Type and subtype are read up to what follows them. -/
theorem span_essence (rest : List Char) (htype : IsFolded type) (hsubtype : IsFolded subtype)
    (hrest : ∀ c ∈ rest.head?, isTokenChar c = false) :
    ((type ++ '/' :: (subtype ++ rest)).takeWhile isTokenChar = type ∧
      (type ++ '/' :: (subtype ++ rest)).dropWhile isTokenChar = '/' :: (subtype ++ rest)) ∧
    ((subtype ++ rest).takeWhile isTokenChar = subtype ∧ (subtype ++ rest).dropWhile isTokenChar = rest) ∧
    (type ++ '/' :: subtype).map Char.toLower = type ++ '/' :: subtype := by
  refine ⟨Text.span_append (fun c hc => (htype c hc).1) ?_, Text.span_append (fun c hc => (hsubtype c hc).1) hrest, ?_⟩
  · intro c hc
    obtain rfl : '/' = c := Option.some.inj hc
    decide
  · rw [List.map_append, List.map_cons, htype.map_toLower, hsubtype.map_toLower]
    rfl

/-- A media range without parameters is read back from its essence. -/
theorem parse?_essence (h : IsEssence range type subtype) : parse? range.essence = some ⟨range.essence, []⟩ := by
  obtain ⟨⟨htake, hdrop⟩, ⟨htake', hdrop'⟩, hfolded⟩ := span_essence [] h.typeFolded h.subtypeFolded (by simp)
  simp only [List.append_nil] at htake hdrop htake' hdrop'
  rw [h.essence, parse?, String.toList_ofList]
  simp only [htake, hdrop, htake', hdrop', hfolded]
  exact if_neg (by simpa using h.stated)

/-- Characters of a value without quotes are read one after another. -/
theorem foldlM_step_value (ps : List (String × String)) (n : String) (seen : List Char)
    (h : ∀ c ∈ value, isTokenChar c = true) :
    value.foldlM step (ps, .value n seen) = some (ps, .value n (value.reverse ++ seen)) := by
  induction value generalizing seen with
  | nil => rfl
  | cons c cs ih =>
    rw [List.forall_mem_cons] at h
    have hquote : c ≠ '\x22' := by rintro rfl; exact absurd h.1 (by decide)
    have hend : c ≠ ';' := by rintro rfl; exact absurd h.1 (by decide)
    have hstep : step (ps, .value n seen) c = some (ps, .value n (c :: seen)) := by
      simp [step, hquote, hend, h.1]
    rw [List.foldlM_cons, hstep, Option.bind_eq_bind, Option.bind_some, ih _ h.2, List.reverse_cons, List.append_assoc]
    rfl

/-- A name is read up to the equals sign. -/
theorem foldlM_step_name (ps : List (String × String)) (seen rest : List Char) (h : ∀ c ∈ name, isTokenChar c = true) :
    (name ++ '=' :: rest).foldlM step (ps, .name seen) =
      rest.foldlM step (ps, .value (String.ofList (seen.reverse ++ name)) []) := by
  induction name generalizing seen with
  | nil => simp [step]
  | cons c cs ih =>
    rw [List.forall_mem_cons] at h
    have hequals : c ≠ '=' := by rintro rfl; exact absurd h.1 (by decide)
    have hstep : step (ps, .name seen) c = some (ps, .name (c :: seen)) := by simp [step, hequals, h.1]
    rw [List.cons_append, List.foldlM_cons, hstep, Option.bind_eq_bind, Option.bind_some, ih _ h.2, List.reverse_cons,
      List.append_assoc]
    rfl

/-- A parameter whose value is a token. -/
theorem parseParameters_append (hname : ∀ c ∈ name, isTokenChar c = true) (hstated : name ≠ [])
    (hvalue : ∀ c ∈ value, isTokenChar c = true) :
    parseParameters (name ++ '=' :: value) = some [(String.ofList name, String.ofList value)] := by
  obtain ⟨c, cs, rfl⟩ := List.exists_cons_of_ne_nil hstated
  rw [List.forall_mem_cons] at hname
  have hblank : c ≠ ' ' := by rintro rfl; exact absurd hname.1 (by decide)
  have hstep : step ([], .before) c = some ([], .name [c]) := by simp [step, hblank, hname.1]
  rw [parseParameters, List.cons_append, List.foldlM_cons, hstep, Option.bind_eq_bind, Option.bind_eq_bind, Option.bind_some,
    foldlM_step_name _ _ _ hname.2, foldlM_step_value _ _ _ hvalue]
  simp [finish]

/-- A media range is read back from its essence with a parameter behind it. -/
theorem parse?_parameter {name value : String} (h : IsEssence range type subtype) (hsubtype : subtype ≠ [])
    (hname : ∀ c ∈ name.toList, isTokenChar c = true) (hstated : name ≠ "") (hvalue : ∀ c ∈ value.toList, isTokenChar c = true) :
    parse? (range.essence ++ ";" ++ name ++ "=" ++ value) = some ⟨range.essence, [(name, value)]⟩ := by
  have hparameters := parseParameters_append hname (by simpa using hstated) hvalue
  obtain ⟨⟨htake, hdrop⟩, ⟨htake', hdrop'⟩, hfolded⟩ := span_essence (';' :: (name.toList ++ '=' :: value.toList)) h.typeFolded
    h.subtypeFolded (by simp; decide)
  have htext : (range.essence ++ ";" ++ name ++ "=" ++ value).toList =
      type ++ '/' :: (subtype ++ ';' :: (name.toList ++ '=' :: value.toList)) := by
    simp [h.essence, String.toList_append]
  rw [parse?, htext, h.essence]
  simp only [htake, hdrop, htake', hdrop', hfolded, hparameters, String.ofList_toList]
  rw [if_neg (by simpa using h.stated), if_neg (by simpa using hsubtype)]
  rfl

end BasinRegister.MediaRange
