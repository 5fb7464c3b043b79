import BasinRegister.Proofs.Outcome
import BasinRegister.Proofs.Text.Split
import BasinRegister.Record.ParameterSpec

/-!
# Which columns are read as specs

Columns are read when there is a segment of methods for every parameter and each segment is a triple. Commas and slashes decide
that: there is one piece more than there are delimiters (`Text.length_splitAll`). What is read, and which of the two errors it is
otherwise, is said for one segment (`ParameterSpec.ofTriple_cases`) and then for the columns (`SpecColumns.specs_decided`).
-/

namespace BasinRegister

namespace ParameterSpec

/-- A spec is made of a parameter and of a triple of methods: the one below the table, the one within it and the one above it, in
this order. Blanks at the ends of the pieces are left out. -/
def MadeOf (s : ParameterSpec) (parameter segment : String) : Prop :=
  ∃ low inRange high, segment = low ++ "," ++ inRange ++ "," ++ high ∧
    (∀ piece ∈ [low, inRange, high], ',' ∉ piece.toList) ∧
    s.parameter = Text.trim parameter ∧ s.outRangeLowMethod = Text.trim low ∧ s.inRangeMethod = Text.trim inRange ∧
    s.outRangeHighMethod = Text.trim high

/-- A segment is a triple: it holds two commas. -/
def IsTriple (segment : String) : Prop := segment.toList.count ',' = 2

instance (segment : String) : Decidable (IsTriple segment) := inferInstanceAs (Decidable (_ = _))

/-- A triple gives a spec, and any other segment is refused. -/
theorem ofTriple_cases (parameter segment : String) :
    (IsTriple segment ∧ ∃ s, ofTriple parameter segment = .ok s ∧ MadeOf s parameter segment) ∨
      ¬IsTriple segment ∧ ofTriple parameter segment = .error (.incompleteMethods segment) := by
  have hlength := Text.length_splitAll ',' segment
  rw [ofTriple]
  split
  · rename_i low inRange high hpieces
    obtain ⟨-, hcommas, hjoined⟩ := Text.splitAll_eq_iff.mp hpieces
    rw [hpieces] at hlength
    refine .inl ⟨Nat.succ.inj hlength.symm, _, rfl, low, inRange, high, hjoined.symm, hcommas, rfl, rfl, rfl, rfl⟩
  · rename_i hpieces
    refine .inr ⟨?_, rfl⟩
    intro htriple
    rw [IsTriple] at htriple
    rw [htriple] at hlength
    obtain ⟨low, inRange, high, hthree⟩ := List.length_eq_three.mp hlength
    exact hpieces low inRange high hthree

theorem exists_ofTriple_iff {parameter segment : String} : (∃ s, ofTriple parameter segment = .ok s) ↔ IsTriple segment := by
  rcases ofTriple_cases parameter segment with ⟨htriple, s, hs, -⟩ | ⟨hother, hfails⟩
  · exact ⟨fun _ => htriple, fun _ => ⟨s, hs⟩⟩
  · constructor
    · rintro ⟨s, hs⟩
      rw [hfails] at hs
      cases hs
    · exact fun htriple => absurd htriple hother

theorem madeOf_of_ofTriple {parameter segment : String} {s : ParameterSpec} (h : ofTriple parameter segment = .ok s) :
    s.MadeOf parameter segment := by
  rcases ofTriple_cases parameter segment with ⟨-, t, ht, hmade⟩ | ⟨-, hfails⟩
  · rw [h] at ht
    cases ht
    exact hmade
  · rw [hfails] at h
    cases h

end ParameterSpec

namespace SpecColumns

open ParameterSpec

/-- The parameters of the columns, with their blanks. -/
def parameterPieces (columns : SpecColumns) : List String := Text.splitAll ',' columns.parameters

/-- The segments of methods. -/
def segments (columns : SpecColumns) : List String := Text.splitAll '/' columns.methods

/-- There are as many commas between the parameters as slashes between the methods. -/
def Balanced (columns : SpecColumns) : Prop :=
  columns.parameters.toList.count ',' = columns.methods.toList.count '/'

instance (columns : SpecColumns) : Decidable columns.Balanced := inferInstanceAs (Decidable (_ = _))

variable {columns : SpecColumns}

/-- Balanced columns have a segment for every parameter. -/
theorem balanced_iff : columns.Balanced ↔ columns.parameterPieces.length = columns.segments.length := by
  rw [Balanced, parameterPieces, segments, Text.length_splitAll, Text.length_splitAll]
  omega

theorem Balanced.specs_eq (h : columns.Balanced) :
    columns.specs = (columns.parameterPieces.zip columns.segments).mapM fun pair => ofTriple pair.1 pair.2 :=
  if_pos (balanced_iff.mp h)

theorem specs_of_not_balanced (h : ¬columns.Balanced) : columns.specs = .error (.countMismatch columns) :=
  if_neg (mt balanced_iff.mpr h)

theorem Balanced.map_snd (h : columns.Balanced) :
    (columns.parameterPieces.zip columns.segments).map Prod.snd = columns.segments :=
  List.map_snd_zip (Nat.le_of_eq (balanced_iff.mp h).symm)

/-- Columns that are not read have a wrong number of segments, or else a first segment that is no triple. -/
theorem of_specs_error {e : SpecError} (h : columns.specs = .error e) :
    ¬columns.Balanced ∧ e = .countMismatch columns ∨
      columns.Balanced ∧ ∃ before segment after, columns.segments = before ++ segment :: after ∧
        (∀ earlier ∈ before, IsTriple earlier) ∧ ¬IsTriple segment ∧ e = .incompleteMethods segment := by
  by_cases hbalanced : columns.Balanced
  · rw [hbalanced.specs_eq] at h
    obtain ⟨before, pair, after, hpairs, hbefore, hpair⟩ := mapM_eq_error.mp h
    refine .inr ⟨hbalanced, before.map Prod.snd, pair.2, after.map Prod.snd, ?_, ?_, ?_⟩
    · rw [← hbalanced.map_snd, hpairs, List.map_append, List.map_cons]
    · exact List.forall_mem_map.mpr fun earlier hearlier => exists_ofTriple_iff.mp (hbefore earlier hearlier)
    · rcases ofTriple_cases pair.1 pair.2 with ⟨-, s, hs, -⟩ | ⟨hother, hfails⟩
      · rw [hs] at hpair
        cases hpair
      · rw [hfails] at hpair
        cases hpair
        exact ⟨hother, rfl⟩
  · rw [specs_of_not_balanced hbalanced] at h
    cases h
    exact .inl ⟨hbalanced, rfl⟩

/-- What is read are as many specs as there are segments, each made of its parameter and its segment. -/
theorem of_specs_ok {specs : List ParameterSpec} (h : columns.specs = .ok specs) :
    columns.Balanced ∧ (∀ segment ∈ columns.segments, IsTriple segment) ∧ specs.length = columns.segments.length ∧
      List.Forall₂ (fun pair s => MadeOf s pair.1 pair.2) (columns.parameterPieces.zip columns.segments) specs := by
  by_cases hbalanced : columns.Balanced
  · rw [hbalanced.specs_eq, mapM_eq_ok] at h
    have hlength := congrArg List.length hbalanced.map_snd
    refine ⟨hbalanced, ?_, ?_, h.imp fun _ _ => madeOf_of_ofTriple⟩
    · rw [← hbalanced.map_snd, List.forall_mem_map]
      intro pair hpair
      obtain ⟨s, -, hs⟩ := (exists_of_forall₂ h).1 pair hpair
      exact exists_ofTriple_iff.mp ⟨s, hs⟩
    · rwa [List.length_map, h.length_eq] at hlength
  · rw [specs_of_not_balanced hbalanced] at h
    cases h

/-- Columns are read exactly when there are as many commas between the parameters as slashes between the methods and each segment
of methods holds two commas. There is one spec for each segment then, in order, of its parameter and its methods without their
blanks: the one below the table, the one within it and the one above it. Otherwise the numbers differ, which is told with both
columns, or else the first segment that does not hold two commas is told. -/
theorem specs_decided (columns : SpecColumns) :
    ((∃ specs, columns.specs = .ok specs) ↔ columns.Balanced ∧ ∀ segment ∈ columns.segments, IsTriple segment) ∧
    (∀ specs, columns.specs = .ok specs →
      specs.length = columns.segments.length ∧ columns.parameterPieces.length = columns.segments.length ∧
        List.Forall₂ (fun pair s => MadeOf s pair.1 pair.2) (columns.parameterPieces.zip columns.segments) specs) ∧
    ∀ e, columns.specs = .error e →
      ¬columns.Balanced ∧ e = .countMismatch columns ∨
        columns.Balanced ∧ ∃ before segment after, columns.segments = before ++ segment :: after ∧
          (∀ earlier ∈ before, IsTriple earlier) ∧ ¬IsTriple segment ∧ e = .incompleteMethods segment := by
  refine ⟨?_, ?_, fun e => of_specs_error⟩
  · constructor
    · rintro ⟨specs, hspecs⟩
      obtain ⟨hbalanced, htriples, -⟩ := of_specs_ok hspecs
      exact ⟨hbalanced, htriples⟩
    · rintro ⟨hbalanced, htriples⟩
      cases hspecs : columns.specs with
      | ok specs => exact ⟨specs, rfl⟩
      | error e =>
        rcases of_specs_error hspecs with ⟨hnot, -⟩ | ⟨-, before, segment, after, hsegments, -, hother, -⟩
        · exact absurd hbalanced hnot
        · refine absurd (htriples segment ?_) hother
          rw [hsegments]
          exact List.mem_append_cons_self
  · intro specs hspecs
    obtain ⟨hbalanced, -, hlength, hmade⟩ := of_specs_ok hspecs
    exact ⟨hlength, balanced_iff.mp hbalanced, hmade⟩

/-- Two parameters with two triples are read; with a pair for the second triple, that is told. -/
theorem specs_decided_pair :
    let whole : SpecColumns := ⟨" Elev ,Stor", "NULL,LINEAR,NEAREST/LOWER,LOGARITHMIC,ERROR"⟩
    let short : SpecColumns := ⟨" Elev ,Stor", "NULL,LINEAR,NEAREST/LOWER,ERROR"⟩
    whole.Balanced ∧ (∀ segment ∈ whole.segments, IsTriple segment) ∧
    (∃ specs, whole.specs = .ok specs ∧ specs.length = 2) ∧
    short.Balanced ∧ ¬IsTriple "LOWER,ERROR" ∧ short.specs = .error (.incompleteMethods "LOWER,ERROR") := by
  intro whole short
  have hbalanced : whole.Balanced := by decide
  have htriples : ∀ segment ∈ whole.segments, IsTriple segment := by decide
  obtain ⟨hread, hmade, -⟩ := specs_decided whole
  obtain ⟨specs, hspecs⟩ := hread.mpr ⟨hbalanced, htriples⟩
  have hshort : short.Balanced := by decide
  have hpair : ¬IsTriple "LOWER,ERROR" := by decide
  refine ⟨hbalanced, htriples, ⟨specs, hspecs, (hmade specs hspecs).1.trans (by decide)⟩, hshort, hpair, ?_⟩
  obtain ⟨hwhole, -, hfails⟩ := specs_decided short
  cases h : short.specs with
  | ok others => exact absurd ((hwhole.mp ⟨others, h⟩).2 "LOWER,ERROR" (by decide)) hpair
  | error e =>
    rcases hfails e h with ⟨hnot, -⟩ | ⟨-, before, segment, after, hsegments, -, hother, rfl⟩
    · exact absurd hshort hnot
    · have honly : ∀ segment ∈ short.segments, ¬IsTriple segment → segment = "LOWER,ERROR" := by decide
      have hmem : segment ∈ short.segments := by
        rw [hsegments]
        exact List.mem_append_cons_self
      rw [honly segment hmem hother]

end SpecColumns

end BasinRegister
