import BasinRegister.Proofs.Outcome
import BasinRegister.Proofs.Text.Split
import BasinRegister.Record.ParameterSpec

/-!
# Specs and their columns

Specs whose fields hold no delimiter and no blank at their ends come back out of their columns (`SpecColumns.specs_ofSpecs`),
and no others do (`SpecColumns.specs_ofSpecs_iff`): whatever is read from columns is of that kind.
-/

namespace BasinRegister

namespace ParameterSpec

/-- A spec that columns keep: its fields have no blanks at their ends, and none holds a delimiter of its column. -/
structure Columnar (s : ParameterSpec) : Prop where
  /-- The parameter holds no comma. -/
  parameter : Text.trim s.parameter = s.parameter ∧ ',' ∉ s.parameter.toList
  /-- The methods hold neither a comma nor a slash. -/
  methods : ∀ m ∈ [s.outRangeLowMethod, s.inRangeMethod, s.outRangeHighMethod],
    Text.trim m = m ∧ ',' ∉ m.toList ∧ '/' ∉ m.toList

theorem triple_eq (s : ParameterSpec) :
    s.triple = (String.singleton ',').intercalate [s.outRangeLowMethod, s.inRangeMethod, s.outRangeHighMethod] := rfl

/-- The parameter and the triple of a spec give the spec. -/
theorem ofTriple_triple {s : ParameterSpec} (h : s.Columnar) : ofTriple s.parameter s.triple = .ok s := by
  have hsplit : Text.splitAll ',' s.triple = [s.outRangeLowMethod, s.inRangeMethod, s.outRangeHighMethod] := by
    rw [triple_eq]
    exact Text.splitAll_intercalate (by simp) fun m hm => (h.methods m hm).2.1
  rw [ofTriple, hsplit]
  simp only [h.parameter.1, (h.methods s.outRangeLowMethod (by simp)).1, (h.methods s.inRangeMethod (by simp)).1,
    (h.methods s.outRangeHighMethod (by simp)).1]

/-- There is no slash in a triple. -/
theorem slash_not_mem_triple {s : ParameterSpec} (h : s.Columnar) : '/' ∉ s.triple.toList := by
  have hlow := (h.methods s.outRangeLowMethod (by simp)).2.2
  have hin := (h.methods s.inRangeMethod (by simp)).2.2
  have hhigh := (h.methods s.outRangeHighMethod (by simp)).2.2
  simp [triple, hlow, hin, hhigh]

/-- A spec that is read from a parameter and a triple is one that columns keep. -/
theorem columnar_of_ofTriple {parameter triple : String} {s : ParameterSpec} (hparameter : ',' ∉ parameter.toList)
    (htriple : '/' ∉ triple.toList) (h : ofTriple parameter triple = .ok s) : s.Columnar := by
  have htrim (piece : String) (hpiece : piece ∈ Text.splitAll ',' triple) :
      Text.trim (Text.trim piece) = Text.trim piece ∧ ',' ∉ (Text.trim piece).toList ∧
        '/' ∉ (Text.trim piece).toList := by
    obtain ⟨hcomma, hsub⟩ := Text.of_mem_splitAll hpiece
    exact ⟨Text.trim_trim piece, fun hmem => hcomma (Text.mem_of_mem_trim hmem),
      fun hmem => htriple (hsub _ (Text.mem_of_mem_trim hmem))⟩
  unfold ofTriple at h
  split at h
  · rename_i low inRange high hpieces
    rw [hpieces] at htrim
    cases h
    refine ⟨⟨Text.trim_trim parameter, fun hmem => hparameter (Text.mem_of_mem_trim hmem)⟩, ?_⟩
    simp only [List.forall_mem_cons]
    exact ⟨htrim low (by simp), htrim inRange (by simp), htrim high (by simp), by simp⟩
  · cases h

end ParameterSpec

namespace SpecColumns

open ParameterSpec

/-- Specs come back out of their columns. -/
theorem specs_ofSpecs {specs : List ParameterSpec} (hne : specs ≠ []) (h : ∀ s ∈ specs, s.Columnar) :
    (ofSpecs specs).specs = .ok specs := by
  have hparameters : Text.splitAll ',' (ofSpecs specs).parameters = specs.map (·.parameter) := by
    refine Text.splitAll_intercalate (by simpa using hne) ?_
    intro p hp
    obtain ⟨s, hs, rfl⟩ := List.mem_map.mp hp
    exact (h s hs).parameter.2
  have htriples : Text.splitAll '/' (ofSpecs specs).methods = specs.map triple := by
    refine Text.splitAll_intercalate (by simpa using hne) ?_
    intro m hm
    obtain ⟨s, hs, rfl⟩ := List.mem_map.mp hm
    exact slash_not_mem_triple (h s hs)
  rw [SpecColumns.specs]
  simp only [hparameters, htriples, List.length_map, if_pos]
  clear hparameters htriples hne
  induction specs with
  | nil => rfl
  | cons s specs ih =>
    have hrest := ih fun t ht => h t (List.mem_cons_of_mem s ht)
    rw [List.map_cons, List.map_cons, List.zip_cons_cons, List.mapM_cons, ofTriple_triple (h s List.mem_cons_self)]
    simp only [hrest]
    rfl

/-- Whatever is read from columns are specs that columns keep. -/
theorem columnar_of_specs {columns : SpecColumns} {specs : List ParameterSpec} (h : columns.specs = .ok specs) :
    ∀ s ∈ specs, s.Columnar := by
  have hpairs : ∀ pair ∈ (Text.splitAll ',' columns.parameters).zip (Text.splitAll '/' columns.methods),
      ',' ∉ pair.1.toList ∧ '/' ∉ pair.2.toList := fun pair hpair =>
    ⟨(Text.of_mem_splitAll (List.of_mem_zip hpair).1).1, (Text.of_mem_splitAll (List.of_mem_zip hpair).2).1⟩
  unfold SpecColumns.specs at h
  simp only at h
  split at h
  · generalize (Text.splitAll ',' columns.parameters).zip (Text.splitAll '/' columns.methods) = pairs at h hpairs
    have hread := mapM_eq_ok.mp h
    clear h
    induction hread with
    | nil => simp
    | cons hs _ ih =>
      rw [List.forall_mem_cons] at hpairs ⊢
      exact ⟨columnar_of_ofTriple hpairs.1.1 hpairs.1.2 hs, ih hpairs.2⟩
  · cases h

/-- Exactly the specs that columns keep come back out of their columns. -/
theorem specs_ofSpecs_iff {specs : List ParameterSpec} (hne : specs ≠ []) :
    (ofSpecs specs).specs = .ok specs ↔ ∀ s ∈ specs, s.Columnar :=
  ⟨columnar_of_specs, specs_ofSpecs hne⟩

end SpecColumns

end BasinRegister
