import BasinRegister.Proofs.Record.SpecColumns
import BasinRegister.Proofs.Record.SpecReading

/-!
# Columns that are stored again

Specs that columns keep come back out of their columns, and whatever is read from columns are such specs
(`SpecColumns.specs_columns_inverse`). So storing what was read takes the blanks off the pieces of the columns
(`SpecColumns.ofSpecs_eq_trimmed`), and storing it once more changes nothing.
-/

namespace BasinRegister

namespace ParameterSpec

/-- A segment of methods with the blanks taken off its pieces. -/
def trimmedSegment (segment : String) : String := ",".intercalate ((Text.splitAll ',' segment).map Text.trim)

/-- The triple of a spec that is made of a segment is the segment without the blanks of its pieces. -/
theorem MadeOf.triple_eq {s : ParameterSpec} {parameter segment : String} (h : s.MadeOf parameter segment) :
    s.triple = trimmedSegment segment := by
  obtain ⟨low, inRange, high, rfl, hcommas, -, hlow, hin, hhigh⟩ := h
  have hjoined : low ++ "," ++ inRange ++ "," ++ high = (String.singleton ',').intercalate [low, inRange, high] := rfl
  rw [ParameterSpec.triple_eq, hlow, hin, hhigh, trimmedSegment, hjoined, Text.splitAll_intercalate (by simp) hcommas]
  rfl

end ParameterSpec

namespace SpecColumns

open ParameterSpec

variable {columns : SpecColumns} {specs : List ParameterSpec}

/-- The columns with the blanks taken off every piece. -/
def trimmed (columns : SpecColumns) : SpecColumns :=
  { parameters := ",".intercalate (columns.parameterPieces.map Text.trim)
    methods := "/".intercalate (columns.segments.map trimmedSegment) }

/-- What is read from columns is one spec at least. -/
theorem ne_nil_of_specs (h : columns.specs = .ok specs) : specs ≠ [] := by
  obtain ⟨-, -, hlength, -⟩ := of_specs_ok h
  rintro rfl
  rw [segments, Text.length_splitAll] at hlength
  cases hlength

/-- Specs that are made of parameters and segments have these for their columns, without the blanks of the pieces. -/
theorem map_of_madeOf {pairs : List (String × String)} (h : List.Forall₂ (fun pair s => MadeOf s pair.1 pair.2) pairs specs) :
    specs.map (·.parameter) = (pairs.map Prod.fst).map Text.trim ∧
      specs.map triple = (pairs.map Prod.snd).map trimmedSegment := by
  induction h with
  | nil => exact ⟨rfl, rfl⟩
  | cons hs _ ih =>
    have htriple := hs.triple_eq
    obtain ⟨-, -, -, -, -, hparameter, -⟩ := hs
    constructor
    · rw [List.map_cons, List.map_cons, List.map_cons, hparameter, ih.1]
    · rw [List.map_cons, List.map_cons, List.map_cons, htriple, ih.2]

/-- The columns of the specs that were read are the columns without the blanks of their pieces. -/
theorem ofSpecs_eq_trimmed (h : columns.specs = .ok specs) : ofSpecs specs = columns.trimmed := by
  obtain ⟨hbalanced, -, -, hmade⟩ := of_specs_ok h
  have hfst : (columns.parameterPieces.zip columns.segments).map Prod.fst = columns.parameterPieces :=
    List.map_fst_zip (Nat.le_of_eq (balanced_iff.mp hbalanced))
  obtain ⟨hparameters, htriples⟩ := map_of_madeOf hmade
  rw [hfst] at hparameters
  rw [hbalanced.map_snd] at htriples
  rw [ofSpecs, trimmed, hparameters, htriples]

/-- The columns of what was read give the same specs again. -/
theorem specs_ofSpecs_of_specs (h : columns.specs = .ok specs) : (ofSpecs specs).specs = .ok specs :=
  specs_ofSpecs (ne_nil_of_specs h) (columnar_of_specs h)

/-- Specs and columns undo each other: the specs that come back out of their columns are those that columns keep, as long as
there are any, and whatever is read from columns comes back. Storing what was read takes the blanks off the pieces of the
columns; those columns are left as they are when they are read and stored in turn. -/
theorem specs_columns_inverse :
    (∀ specs, (ofSpecs specs).specs = .ok specs ↔ specs ≠ [] ∧ ∀ s ∈ specs, s.Columnar) ∧
    ∀ (columns : SpecColumns) (specs : List ParameterSpec), columns.specs = .ok specs →
      (ofSpecs specs).specs = .ok specs ∧ ofSpecs specs = columns.trimmed ∧ columns.trimmed.trimmed = columns.trimmed := by
  constructor
  · intro specs
    constructor
    · exact fun h => ⟨ne_nil_of_specs h, columnar_of_specs h⟩
    · exact fun ⟨hne, hcolumnar⟩ => specs_ofSpecs hne hcolumnar
  · intro columns specs h
    have hagain := specs_ofSpecs_of_specs h
    have hstored := ofSpecs_eq_trimmed h
    refine ⟨hagain, hstored, ?_⟩
    rw [← hstored]
    exact (ofSpecs_eq_trimmed hagain).symm

/-- Blanks around pieces and a piece of nothing but blanks: storing takes them off once. -/
theorem specs_columns_inverse_blanks :
    let columns : SpecColumns := ⟨" Elev ,\t", " NULL,LINEAR , NEAREST/,  ,ERROR"⟩
    let specs : List ParameterSpec := [⟨"Elev", "LINEAR", "NULL", "NEAREST"⟩, ⟨"", "", "", "ERROR"⟩]
    columns.specs = .ok specs ∧ (ofSpecs specs).specs = .ok specs ∧
      columns.trimmed = ⟨"Elev,", "NULL,LINEAR,NEAREST/,,ERROR"⟩ ∧ columns.trimmed.trimmed = columns.trimmed := by
  intro columns specs
  have hread : columns.specs = .ok specs := by cbv
  obtain ⟨hagain, -, honce⟩ := specs_columns_inverse.2 columns specs hread
  exact ⟨hread, hagain, by cbv, honce⟩

end SpecColumns

end BasinRegister
