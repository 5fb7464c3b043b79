import BasinRegister.Media.ContentType
import BasinRegister.Proofs.Media.Range

/-!
# Content types in order and as texts

Content types are ordered by base and version, and no two are level (`le_iff`). One that was read is read back from its text if
its version is a token (`read?_text`); a version that needs quotes has lost them in the text.
-/

namespace BasinRegister.ContentType

variable {c : ContentType} {raw : String}

/-! ## Order -/

/-- One content type stands before another, by the base and then by the version, where no version comes first. -/
def Precedes (a b : ContentType) : Prop :=
  a.base < b.base ∨ a.base = b.base ∧ a.version < b.version

/-- The order of content types is transitive. -/
theorem Precedes.trans {a b c : ContentType} (hab : a.Precedes b) (hbc : b.Precedes c) : a.Precedes c := by
  obtain ⟨base, version⟩ := a
  obtain ⟨base', version'⟩ := b
  obtain ⟨base'', version''⟩ := c
  rcases hab with hab | ⟨rfl, hab⟩
  · rcases hbc with hbc | ⟨rfl, -⟩
    · exact .inl (String.lt_trans hab hbc)
    · exact .inl hab
  · rcases hbc with hbc | ⟨rfl, hbc⟩
    · exact .inl hbc
    · refine .inr ⟨rfl, ?_⟩
      cases version <;> cases version' <;> cases version'' <;>
        simp_all only [Option.some_lt_some, Option.not_lt_none, Option.none_lt_some]
      exact String.lt_trans hab hbc

/-- A text is at most another if it is less or the same. -/
theorem le_iff_lt_or_eq {s t : String} : s ≤ t ↔ s < t ∨ s = t := by
  constructor
  · intro h
    by_cases hlt : s < t
    · exact .inl hlt
    · exact .inr (String.le_antisymm h (String.not_lt.mp hlt))
  · rintro (h | rfl)
    · exact String.not_lt.mp fun h' => String.lt_irrefl s (String.lt_trans h h')
    · exact String.le_refl s

/-- What is not behind another content type stands before it or is the same. -/
theorem le_iff {a b : ContentType} : a.le b = true ↔ a.Precedes b ∨ a = b := by
  obtain ⟨base, version⟩ := a
  obtain ⟨base', version'⟩ := b
  rw [le, Precedes]
  by_cases hbase : base = base'
  · subst hbase
    simp only [String.lt_irrefl, false_or, true_and]
    cases version <;> cases version' <;> simp [le_iff_lt_or_eq]
  · simp [hbase, le_iff_lt_or_eq]

/-- The order that is computed is transitive. -/
theorem le_trans (a b c : ContentType) (hab : a.le b = true) (hbc : b.le c = true) : a.le c = true := by
  rw [le_iff] at *
  rcases hab with hab | rfl
  · rcases hbc with hbc | rfl
    · exact .inl (hab.trans hbc)
    · exact .inl hab
  · exact hbc

/-- Of two content types one is at most the other. -/
theorem le_total (a b : ContentType) : (a.le b || b.le a) = true := by
  obtain ⟨base, version⟩ := a
  obtain ⟨base', version'⟩ := b
  rw [Bool.or_eq_true, le, le]
  by_cases hbase : base = base'
  · subst hbase
    cases version <;> cases version' <;> simp [String.le_total]
  · simp [hbase, Ne.symm hbase, String.le_total]

/-! ## Texts -/

/-- A bare word in lower case. -/
def IsWord (base : String) : Prop :=
  base ≠ "" ∧ ∀ ch ∈ base.toList, isWordChar ch = true ∧ ch.toLower = ch

/-- The version, if there is one, is a token. -/
def TokenVersion (c : ContentType) : Prop :=
  ∀ version ∈ c.version, ∀ ch ∈ version.toList, MediaRange.isTokenChar ch = true

/-- Word characters stand in tokens. -/
theorem isTokenChar_of_isWordChar {ch : Char} (h : isWordChar ch = true) : MediaRange.isTokenChar ch = true := by
  simp only [isWordChar, Bool.or_eq_true, beq_iff_eq] at h
  rcases h with (((h | rfl) | rfl) | rfl) | rfl
  · simp [MediaRange.isTokenChar, h]
  all_goals decide

/-- A word character stays one in lower case. -/
theorem isWordChar_toLower {ch : Char} (h : isWordChar ch = true) : isWordChar ch.toLower = true := by
  rcases Text.toLower_eq_or_isAlpha ch with hsame | hletter
  · rwa [hsame]
  · simp [isWordChar, Char.isAlphanum, hletter]

/-- There is nothing to trim off a word. -/
theorem trim_of_isWordChar {word : String} (h : ∀ ch ∈ word.toList, isWordChar ch = true) : Text.trim word = word :=
  Text.trim_of_no_blank fun ch hch => MediaRange.isBlank_of_isTokenChar (isTokenChar_of_isWordChar (h ch hch))

/-- What is read as a bare word is one in lower case, without a version. -/
theorem isWord_of_ofWord (h : ofWord raw = some c) : IsWord c.base ∧ c.version = none := by
  rw [ofWord] at h
  generalize Text.trimChars (raw.toList.takeWhile (· != ';')) = word at h
  obtain ⟨hword, heq⟩ := Option.ite_none_right_eq_some.mp h
  obtain rfl := Option.some.inj heq
  simp only [Bool.and_eq_true, Bool.not_eq_true', List.isEmpty_eq_false_iff, List.all_eq_true] at hword
  refine ⟨⟨?_, ?_⟩, rfl⟩
  all_goals rw [unversioned, trim_of_isWordChar (by simpa using hword.2), Text.fold, String.toList_ofList]
  · rw [ne_eq, String.ofList_eq_empty_iff, List.map_eq_nil_iff]
    exact hword.1
  · intro ch hch
    rw [String.toList_ofList] at hch
    obtain ⟨d, hd, rfl⟩ := List.mem_map.mp hch
    exact ⟨isWordChar_toLower (hword.2 d hd), Text.toLower_toLower d⟩

/-- A content type that was read is a bare word without a version, or that of a media range with an essence. -/
theorem shape_of_parse? (h : parse? raw = some c) :
    (IsWord c.base ∧ c.version = none) ∨
      ∃ range type subtype, MediaRange.IsEssence range type subtype ∧ c = ofRange range := by
  obtain ⟨⟨_, range⟩, hread, rfl⟩ := Option.map_eq_some_iff.mp h
  rw [read?] at hread
  split at hread
  · obtain ⟨range, hrange, heq⟩ := Option.map_eq_some_iff.mp hread
    obtain ⟨rfl, rfl⟩ := Prod.mk.inj heq
    obtain ⟨type, subtype, hessence⟩ := MediaRange.essence_of_parse? hrange
    exact .inr ⟨range, type, subtype, hessence, rfl⟩
  · obtain ⟨word, hword, heq⟩ := Option.map_eq_some_iff.mp hread
    obtain ⟨rfl, rfl⟩ := Prod.mk.inj heq
    exact .inl (isWord_of_ofWord hword)

/-- A bare word in lower case is read back. -/
theorem ofWord_of_isWord {base : String} (h : IsWord base) : ofWord base = some ⟨base, none⟩ := by
  have htrim : Text.trim base = base := trim_of_isWordChar fun ch hch => (h.2 ch hch).1
  have hword : base.toList.takeWhile (· != ';') = base.toList := by
    have hchars : ∀ ch ∈ base.toList, (ch != ';') = true := by
      intro ch hch
      rw [bne_iff_ne]
      rintro rfl
      exact absurd (h.2 _ hch).1 (by decide)
    simpa using (@Text.span_append _ base.toList [] hchars (by simp)).1
  have hfold : Text.fold base = base := by
    have hsame : base.toList.map Char.toLower = base.toList.map id := List.map_congr_left fun ch hch => (h.2 ch hch).2
    rw [Text.fold, hsame, List.map_id, String.ofList_toList]
  have htrimmed : Text.trimChars base.toList = base.toList := by
    rw [← String.toList_ofList (l := Text.trimChars base.toList)]
    exact congrArg String.toList htrim
  have hall : (!base.toList.isEmpty && base.toList.all isWordChar) = true := by
    rw [Bool.and_eq_true, List.all_eq_true]
    exact ⟨by simpa using h.1, fun ch hch => (h.2 ch hch).1⟩
  rw [ofWord, hword, htrimmed]
  simp only [hall, if_true, String.ofList_toList, unversioned, htrim, hfold]

/-- There is no blank in an essence. -/
theorem isBlank_of_mem_essence {range : MediaRange} {type subtype : List Char} (h : MediaRange.IsEssence range type subtype) :
    ∀ ch ∈ range.essence.toList, Text.isBlank ch = false := by
  intro ch hch
  rcases h.token_or_slash ch hch with htoken | rfl
  · exact MediaRange.isBlank_of_isTokenChar htoken
  · decide

/-- A media range without blanks is read as it stands. -/
theorem read?_range {text : String} {range : MediaRange} (hblank : ∀ ch ∈ text.toList, Text.isBlank ch = false)
    (hslash : '/' ∈ text.toList) (hrange : MediaRange.parse? text = some range) :
    read? text = some (ofRange range, some range) := by
  have hcontains : text.toList.contains '/' = true := List.contains_iff_mem.mpr hslash
  rw [read?, Text.trim_of_no_blank hblank]
  simp only [hcontains, if_true, hrange, Option.map_some]

/-- A version that is a token has no quotes to lose. -/
theorem withoutQuotes_of_token {version : String} (h : ∀ ch ∈ version.toList, MediaRange.isTokenChar ch = true) :
    MediaRange.withoutQuotes version = version := by
  have hkeep : ∀ cs : List Char, (∀ ch ∈ cs, MediaRange.isTokenChar ch = true) → cs.dropWhile (· == '\x22') = cs := by
    intro cs hcs
    cases cs with
    | nil => rfl
    | cons ch cs =>
      have hquote : (ch == '\x22') = false := by
        rw [beq_eq_false_iff_ne]
        rintro rfl
        exact absurd (hcs _ List.mem_cons_self) (by decide)
      rw [List.dropWhile_cons_of_neg (by simp [hquote])]
  rw [MediaRange.withoutQuotes, hkeep _ h, hkeep _ (by simpa using h), List.reverse_reverse, String.ofList_toList]

/-- A content type with a token as its version, or with none, is read back from its text. -/
theorem read?_text (h : parse? raw = some c) (hversion : c.TokenVersion) :
    ∃ range, read? c.text = some (c, range) ∧ ∀ r ∈ range, r.parameter? "q" = none := by
  rcases shape_of_parse? h with ⟨hword, hnone⟩ | ⟨range, type, subtype, hessence, hc⟩
  · obtain ⟨base, version⟩ := c
    obtain rfl : version = none := hnone
    have hslash : base.toList.contains '/' = false := by
      rw [Bool.eq_false_iff, ne_eq, List.contains_iff_mem]
      exact fun hmem => absurd (hword.2 _ hmem).1 (by decide)
    refine ⟨none, ?_, by simp⟩
    rw [text, read?, trim_of_isWordChar fun ch hch => (hword.2 ch hch).1]
    simp only [hslash, ofWord_of_isWord hword]
    rfl
  · obtain ⟨base, version⟩ := c
    obtain ⟨rfl, hstated⟩ := ContentType.mk.inj hc
    have hslash : '/' ∈ range.essence.toList := by simp [hessence.essence]
    cases version with
    | none =>
      have hread := read?_range (isBlank_of_mem_essence hessence) hslash (MediaRange.parse?_essence hessence)
      exact ⟨_, hread, by simp [MediaRange.parameter?]⟩
    | some version =>
      have hsubtype : subtype ≠ [] := by
        refine hessence.parameters ?_
        rintro hnone
        simp [MediaRange.parameter?, hnone] at hstated
      have htoken := hversion version rfl
      have hname : ∀ ch ∈ "version".toList, MediaRange.isTokenChar ch = true := List.all_eq_true.mp (by decide)
      have hparse := MediaRange.parse?_parameter hessence hsubtype hname (by decide) htoken
      have htext : text ⟨range.essence, some version⟩ = range.essence ++ ";" ++ "version" ++ "=" ++ version := by
        rw [text, ← String.toList_inj]
        simp [String.toList_append]
      have hblank : ∀ ch ∈ (text ⟨range.essence, some version⟩).toList, Text.isBlank ch = false := by
        have hmiddle : ∀ ch ∈ ";version=".toList, (!Text.isBlank ch) = true := List.all_eq_true.mp (by decide)
        simp only [text, String.toList_append, List.forall_mem_append]
        exact ⟨⟨isBlank_of_mem_essence hessence, fun ch hch => by simpa using hmiddle ch hch⟩,
          fun ch hch => MediaRange.isBlank_of_isTokenChar (htoken ch hch)⟩
      have hread := read?_range hblank (by simp [text, String.toList_append, hslash]) (htext ▸ hparse)
      have hother : Text.sameFolded "version" "q" = false := by decide
      refine ⟨some ⟨range.essence, [("version", version)]⟩, hread.trans ?_, ?_⟩
      · simp [ofRange, MediaRange.parameter?, Text.sameFolded_self, withoutQuotes_of_token htoken]
      · simp [MediaRange.parameter?, hother]

/-- A comma cannot stand in the text of a content type that was read with a token as its version. -/
theorem comma_not_mem_text (h : parse? raw = some c) (hversion : c.TokenVersion) : ',' ∉ c.text.toList := by
  have hbase : ',' ∉ c.base.toList := by
    rcases shape_of_parse? h with ⟨hword, -⟩ | ⟨range, type, subtype, hessence, rfl⟩
    · exact fun hmem => absurd (hword.2 _ hmem).1 (by decide)
    · exact fun hmem => absurd (hessence.token_or_slash _ hmem) (by decide)
  cases hv : c.version with
  | none => rwa [text, hv]
  | some version =>
    have htoken : ',' ∉ version.toList := fun hmem => absurd (hversion version hv _ hmem) (by decide)
    simp [text, hv, String.toList_append, hbase, htoken]

end BasinRegister.ContentType
