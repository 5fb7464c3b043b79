import BasinRegister.Proofs.Media.Range
import BasinRegister.Proofs.Media.Ranking

/-!
# Qualities as they are written

An entry of an accept value writes its quality as a parameter `q`. That of a media range is heard, and candidates are ranked by
what was heard (`Accept.parse_heard`). A bare word has its parameters taken off unread, so that it counts as one even where it
writes that it is not wanted.
-/

namespace BasinRegister

variable {s entry : String} {range : MediaRange} {c : Candidate}

/-- The parameters of a media range stand behind the first semicolon. -/
theorem MediaRange.parameters_of_parse? (h : parse? s = some range) :
    (∃ before rest, Text.cutAt ';' s.toList = some (before, rest) ∧ parseParameters rest = some range.parameters) ∨
      (Text.cutAt ';' s.toList = none ∧ range.parameters = []) := by
  have htoken {cs : List Char} : ';' ∉ cs.takeWhile isTokenChar := fun hmem =>
    absurd (of_mem_takeWhile hmem) (by decide)
  rw [parse?] at h
  split at h
  · rename_i rest hslash
    split at h
    · cases h
    · have hfront : ';' ∉ s.toList.takeWhile isTokenChar ++ '/' :: rest.takeWhile isTokenChar := by
        simp [htoken]
      have hwhole : s.toList =
          s.toList.takeWhile isTokenChar ++ '/' :: rest.takeWhile isTokenChar ++ rest.dropWhile isTokenChar := by
        rw [List.append_assoc, List.cons_append, List.takeWhile_append_dropWhile, ← hslash, List.takeWhile_append_dropWhile]
      split at h
      · rename_i hrest
        obtain rfl := Option.some.inj h
        rw [hrest, List.append_nil] at hwhole
        exact .inr ⟨hwhole ▸ Text.cutAt_of_not_mem hfront, rfl⟩
      · rename_i parameters hrest
        dsimp only at h
        split at h
        · cases h
        · obtain ⟨read, hread, rfl⟩ := Option.map_eq_some_iff.mp h
          have hcut := Text.cutAt_append hfront parameters
          rw [← hrest, ← hwhole] at hcut
          exact .inl ⟨_, parameters, hcut, hread⟩
      · cases h
  · cases h

namespace Accept

/-- The parameters behind the first semicolon of an entry, if they are well formed. -/
def writtenParameters (entry : String) : List (String × String) :=
  match Text.cutAt ';' (Text.trim entry).toList with
  | some (_, rest) => (MediaRange.parseParameters rest).getD []
  | none => []

/-- The number that an entry writes as its quality. Where `q` comes more than once, the first one counts. -/
def writtenQuality (entry : String) : Option Quality :=
  ((writtenParameters entry).find? fun p => Text.sameFolded p.1 "q").bind fun p => Quality.read? p.2

/-- The number that an entry writes as its quality is the quality of its candidate. -/
def Honoured (entry : String) (c : Candidate) : Prop :=
  ∀ q, writtenQuality entry = some q → c.quality = q

/-- An entry with a slash, which is a media range or nothing. -/
def IsRange (entry : String) : Prop := '/' ∈ (Text.trim entry).toList

instance (entry : String) : Decidable (IsRange entry) := inferInstanceAs (Decidable (_ ∈ _))

/-- The quality that is made out of an entry: what it writes if it is a media range, and one otherwise. -/
def heardQuality (entry : String) : Quality :=
  if IsRange entry then (writtenQuality entry).getD Quality.one else Quality.one

/-- The parameters of a media range are those that are written. -/
theorem writtenParameters_of_parse? (h : MediaRange.parse? (Text.trim entry) = some range) :
    writtenParameters entry = range.parameters := by
  rw [writtenParameters]
  rcases MediaRange.parameters_of_parse? h with ⟨before, rest, hcut, hread⟩ | ⟨hcut, hnone⟩
  · rw [hcut]
    exact congrArg (Option.getD · []) hread
  · rw [hcut, hnone]

/-- The quality of a media range is the one that is written. -/
theorem qualityOf_eq_heard (hrange : IsRange entry) (h : MediaRange.parse? (Text.trim entry) = some range) :
    qualityOf (some range) = heardQuality entry := by
  rw [heardQuality, if_pos hrange, qualityOf, writtenQuality, writtenParameters_of_parse? h, Option.bind_some,
    MediaRange.parameter?, Option.bind_map]
  rfl

/-- A candidate is the content type of its entry with the quality that was heard. -/
theorem candidate?_eq_some_iff :
    candidate? entry = some c ↔ ContentType.parse? entry = some c.contentType ∧ c.quality = heardQuality entry := by
  obtain ⟨contentType, quality⟩ := c
  simp only [candidate?, ContentType.parse?, ContentType.read?, List.contains_iff_mem]
  by_cases hrange : IsRange entry
  · have hslash : '/' ∈ (Text.trim entry).toList := hrange
    rw [if_pos hslash]
    cases hread : MediaRange.parse? (Text.trim entry) with
    | none => simp
    | some range => simp [qualityOf_eq_heard hrange hread, eq_comm]
  · have hslash : '/' ∉ (Text.trim entry).toList := hrange
    rw [if_neg hslash, heardQuality, if_neg hrange]
    cases ContentType.ofWord (Text.trim entry) with
    | none => simp
    | some word => simp [qualityOf, eq_comm]

/-- A candidate has the quality that its entry writes exactly if the entry is a media range or writes none but one. -/
theorem honoured_iff (h : candidate? entry = some c) :
    Honoured entry c ↔ IsRange entry ∨ ∀ q, writtenQuality entry = some q → q = Quality.one := by
  rw [Honoured, (candidate?_eq_some_iff.mp h).2, heardQuality]
  by_cases hrange : IsRange entry
  · rw [if_pos hrange]
    refine iff_of_true ?_ (.inl hrange)
    intro q hq
    rw [hq, Option.getD_some]
  · rw [if_neg hrange, or_iff_right hrange]
    exact forall₂_congr fun q _ => eq_comm

/-- The qualities that media ranges write are their candidates' qualities; that of a bare word is one, so that what it writes is
honoured only if it writes one. The candidates of an accept value are the entries with a content type and with a quality that is
greater than zero as it was heard, by falling quality and level ones as they stand. -/
theorem parse_heard (raw : String) :
    (∀ entry c, candidate? entry = some c → c.quality = heardQuality entry ∧
      (Honoured entry c ↔ IsRange entry ∨ ∀ q, writtenQuality entry = some q → q = Quality.one)) ∧
    ∃ ranking : List (Candidate × Nat), parse raw = ranking.map Prod.fst ∧ ranking.Pairwise Outranks ∧
      ∀ e, e ∈ ranking ↔ ∃ entry, (Text.splitAll ',' raw)[e.2]? = some entry ∧
        ContentType.parse? entry = some e.1.contentType ∧ e.1.quality = heardQuality entry ∧
        (heardQuality entry).isPositive = true := by
  refine ⟨fun entry c h => ⟨(candidate?_eq_some_iff.mp h).2, honoured_iff h⟩, ?_⟩
  obtain ⟨ranking, hranks, hparse⟩ := parse_eq_iff.mp (rfl : parse raw = parse raw)
  refine ⟨ranking, hparse.symm, hranks.ordered, fun e => (hranks.wanted e).trans ?_⟩
  rw [WantedAt]
  refine exists_congr fun entry => and_congr_right fun _ => ?_
  rw [candidate?_eq_some_iff, and_assoc]
  refine and_congr_right fun _ => and_congr_right fun hquality => ?_
  rw [hquality]

/-- A media range that writes one half has that quality. -/
theorem parse_heard_half :
    candidate? "application/xml; q=0.5" = some ⟨⟨"application/xml", none⟩, ⟨0x3F000000⟩⟩ ∧
    Honoured "application/xml; q=0.5" ⟨⟨"application/xml", none⟩, ⟨0x3F000000⟩⟩ := by
  have hcandidate : candidate? "application/xml; q=0.5" = some ⟨⟨"application/xml", none⟩, ⟨0x3F000000⟩⟩ := by decide +kernel
  obtain ⟨hentries, -⟩ := parse_heard "application/xml; q=0.5"
  exact ⟨hcandidate, (hentries _ _ hcandidate).2.mpr (.inl (by decide +kernel))⟩

/-- A bare word that writes zero is a candidate all the same. -/
theorem not_honoured_word :
    writtenQuality "json;q=0" = some ⟨0⟩ ∧ parse "json;q=0" = [⟨⟨"json", none⟩, Quality.one⟩] ∧
    ¬∀ entry c, candidate? entry = some c → Honoured entry c := by
  have hwritten : writtenQuality "json;q=0" = some ⟨0⟩ := by decide +kernel
  have hcandidate : candidate? "json;q=0" = some ⟨⟨"json", none⟩, Quality.one⟩ := by decide +kernel
  refine ⟨hwritten, ?_, fun h => ?_⟩
  · rw [parse, stated_of_single (by decide) hcandidate (by decide), List.mergeSort_singleton]
  · exact absurd (h _ _ hcandidate _ hwritten) (by decide)

end Accept

end BasinRegister
