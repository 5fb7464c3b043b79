import BasinRegister.Format.Delimited
import BasinRegister.Proofs.Format.Totality

/-!
# Delimited documents that come back

A reader of delimited text goes through it character by character (`Delimited.Reader.step`). What is written of a field brings it
to the end of that field, and what is written of a record to the start of the next one (`Delimited.Reader.run_writeRecord`),
whatever the fields hold. So the header and the fields of every office are read back from a document, and two documents are the
same only if these are (`Delimited.format_readBack`).
-/

namespace BasinRegister

namespace Delimited

/-! ## Reading -/

/-- Where a reader stands. -/
inductive Place where
  /-- At the start of a field. -/
  | start
  /-- In a field without quotes. -/
  | bare
  /-- In a field between quotes. -/
  | quoted
  /-- Behind a quote within such a field: it is the end of the field, or the first of two that stand for one. -/
  | behindQuote
  deriving DecidableEq, Repr

/-- A reader of delimited text. -/
structure Reader where
  /-- Where it stands. -/
  place : Place
  /-- What it has read of the field. -/
  field : List Char
  /-- The fields in front of this one in the record. -/
  fields : List String
  /-- The records in front of this one. -/
  records : List (List String)
  deriving DecidableEq, Repr

namespace Reader

/-- The reader at the start of a record. -/
def atRecord (records : List (List String)) : Reader := ⟨.start, [], [], records⟩

/-- The reader behind a character of the field. -/
def take (r : Reader) (place : Place) (c : Char) : Reader := { r with place, field := r.field ++ [c] }

/-- The reader behind a delimiter or the end of a line, where the field ends; nothing for another character. -/
def endField? (delimiter : Char) (r : Reader) (c : Char) : Option Reader :=
  let fields := r.fields ++ [String.ofList r.field]
  if c = delimiter then some { r with place := .start, field := [], fields }
  else if c = '\n' then some (atRecord (r.records ++ [fields]))
  else none

/-- The reader behind the next character. There is no quote in a field that does not begin with one, and nothing but the end of
the field behind a single quote in one that does. -/
def step (delimiter : Char) (r : Reader) (c : Char) : Option Reader :=
  match r.place with
  | .start => if c = '\x22' then some { r with place := .quoted } else r.endField? delimiter c <|> some (r.take .bare c)
  | .bare => if c = '\x22' then none else r.endField? delimiter c <|> some (r.take .bare c)
  | .quoted => if c = '\x22' then some { r with place := .behindQuote } else some (r.take .quoted c)
  | .behindQuote => if c = '\x22' then some (r.take .quoted c) else r.endField? delimiter c

/-- The reader behind a text. -/
def run (delimiter : Char) (r : Reader) (text : List Char) : Option Reader := text.foldlM (step delimiter) r

end Reader

/-- The records of a text; nothing when it is malformed or does not end where a line does. -/
def read (delimiter : Char) (text : String) : Option (List (List String)) :=
  ((Reader.atRecord []).run delimiter text.toList).bind fun r => if r = .atRecord r.records then some r.records else none

namespace Reader

variable {delimiter : Char} {fields : List String} {records : List (List String)}

theorem run_nil (r : Reader) : r.run delimiter [] = some r := rfl

theorem run_cons_of_step {r r' : Reader} {c : Char} (h : r.step delimiter c = some r') (rest : List Char) :
    r.run delimiter (c :: rest) = r'.run delimiter rest := by
  rw [run, List.foldlM_cons, h]
  rfl

/-! ## Fields -/

/-- Between quotes the reader takes a field that is written with its quotes doubled. -/
theorem run_doubleQuotes (field taken rest : List Char) :
    run delimiter ⟨.quoted, taken, fields, records⟩ (doubleQuotes field ++ rest) =
      run delimiter ⟨.quoted, taken ++ field, fields, records⟩ rest := by
  induction field generalizing taken with
  | nil => simp [doubleQuotes]
  | cons c cs ih =>
    rw [doubleQuotes, List.flatMap_cons, ← doubleQuotes, List.append_assoc]
    have htaken : taken ++ c :: cs = taken ++ [c] ++ cs := by simp
    rw [htaken, ← ih]
    by_cases hc : c = '\x22'
    · -- the first quote may end the field, the second one tells that it does not
      subst hc
      have hfirst : step delimiter ⟨.quoted, taken, fields, records⟩ '\x22' =
          some ⟨.behindQuote, taken, fields, records⟩ := rfl
      have hsecond : step delimiter ⟨.behindQuote, taken, fields, records⟩ '\x22' =
          some ⟨.quoted, taken ++ ['\x22'], fields, records⟩ := rfl
      rw [if_pos rfl, List.cons_append, List.cons_append, List.nil_append, run_cons_of_step hfirst, run_cons_of_step hsecond]
    · have hstep : step delimiter ⟨.quoted, taken, fields, records⟩ c =
          some ⟨.quoted, taken ++ [c], fields, records⟩ := if_neg hc
      rw [if_neg hc, List.cons_append, List.nil_append, run_cons_of_step hstep]

/-- A character that needs no quotes is taken as it is. -/
theorem step_plain {place : Place} {taken : List Char} {c : Char} (hplace : place = .start ∨ place = .bare)
    (hc : needsQuotes delimiter [c] = false) :
    step delimiter ⟨place, taken, fields, records⟩ c = some ⟨.bare, taken ++ [c], fields, records⟩ := by
  simp only [needsQuotes, List.any_cons, List.any_nil, Bool.or_false, Bool.or_eq_false_iff, beq_eq_false_iff_ne] at hc
  obtain ⟨⟨⟨hdelimiter, hquote⟩, hline⟩, -⟩ := hc
  rcases hplace with rfl | rfl
  all_goals simp [step, endField?, take, hdelimiter, hquote, hline]

/-- A field needs no quotes when none of its characters does. -/
theorem needsQuotes_cons_eq_false {c : Char} {cs : List Char} :
    needsQuotes delimiter (c :: cs) = false ↔ needsQuotes delimiter [c] = false ∧ needsQuotes delimiter cs = false := by
  simp [needsQuotes]

/-- Without quotes the reader takes a field that needs none. -/
theorem run_bare {field : List Char} (h : needsQuotes delimiter field = false) (taken rest : List Char) :
    run delimiter ⟨.bare, taken, fields, records⟩ (field ++ rest) =
      run delimiter ⟨.bare, taken ++ field, fields, records⟩ rest := by
  induction field generalizing taken with
  | nil => simp
  | cons c cs ih =>
    obtain ⟨hc, hcs⟩ := needsQuotes_cons_eq_false.mp h
    rw [List.cons_append, run_cons_of_step (step_plain (.inr rfl) hc), ih hcs, List.append_assoc]
    rfl

/-- What is written of a field brings the reader to where only the end of the field can follow. -/
theorem run_writeField (field : List Char) :
    ∃ place, place ≠ .quoted ∧ ∀ rest, run delimiter ⟨.start, [], fields, records⟩ (writeField delimiter field ++ rest) =
      run delimiter ⟨place, field, fields, records⟩ rest := by
  rw [writeField]
  split
  · refine ⟨.behindQuote, by decide, fun rest => ?_⟩
    have hopens : step delimiter ⟨.start, [], fields, records⟩ '\x22' = some ⟨.quoted, [], fields, records⟩ := rfl
    have hcloses : step delimiter ⟨.quoted, field, fields, records⟩ '\x22' =
        some ⟨.behindQuote, field, fields, records⟩ := rfl
    rw [List.cons_append, List.cons_append, run_cons_of_step hopens, List.append_assoc, run_doubleQuotes, List.nil_append,
      List.cons_append, List.nil_append, run_cons_of_step hcloses]
  · rename_i hquotes
    have hneeds : needsQuotes delimiter field = false := Bool.eq_false_iff.mpr hquotes
    cases field with
    | nil => exact ⟨.start, by decide, fun rest => rfl⟩
    | cons c cs =>
      refine ⟨.bare, by decide, fun rest => ?_⟩
      obtain ⟨hc, hcs⟩ := needsQuotes_cons_eq_false.mp hneeds
      rw [List.cons_append, run_cons_of_step (step_plain (.inl rfl) hc), run_bare hcs]
      rfl

/-- The end of a field is taken wherever the field may end. -/
theorem step_of_endField? {r r' : Reader} {c : Char} (hplace : r.place ≠ .quoted) (hc : c ≠ '\x22')
    (hends : r.endField? delimiter c = some r') : r.step delimiter c = some r' := by
  rw [step]
  split
  · rw [if_neg hc, hends]
    rfl
  · rw [if_neg hc, hends]
    rfl
  · exact absurd ‹_› hplace
  · rw [if_neg hc, hends]

/-! ## Records -/

/-- What is written of a record brings the reader to the start of the next one. -/
theorem run_writeRecord (hquote : delimiter ≠ '\x22') (hline : delimiter ≠ '\n') {row : List String} (hrow : row ≠ [])
    (fields : List String) (rest : List Char) :
    run delimiter ⟨.start, [], fields, records⟩ (writeRecord delimiter row ++ rest) =
      run delimiter (atRecord (records ++ [fields ++ row])) rest := by
  induction row generalizing fields with
  | nil => exact absurd rfl hrow
  | cons field row ih =>
    obtain ⟨place, hplace, hfield⟩ := @run_writeField delimiter fields records field.toList
    cases row with
    | nil =>
      have hends : endField? delimiter ⟨place, field.toList, fields, records⟩ '\n' =
          some (atRecord (records ++ [fields ++ [field]])) := by
        simp [endField?, Ne.symm hline]
      rw [writeRecord, List.map_singleton, List.intercalate_singleton, List.append_assoc, hfield, List.cons_append,
        List.nil_append, run_cons_of_step (step_of_endField? hplace (by decide) hends)]
    | cons next row =>
      have hends : endField? delimiter ⟨place, field.toList, fields, records⟩ delimiter =
          some ⟨.start, [], fields ++ [field], records⟩ := by
        simp [endField?]
      have hwritten : writeRecord delimiter (field :: next :: row) ++ rest =
          writeField delimiter field.toList ++ delimiter :: (writeRecord delimiter (next :: row) ++ rest) := by
        simp [writeRecord, List.intercalate_cons_cons]
      rw [hwritten, hfield, run_cons_of_step (step_of_endField? hplace hquote hends), ih (by simp)]
      simp

/-- What is written of records is read as these records. -/
theorem run_writeRecords (hquote : delimiter ≠ '\x22') (hline : delimiter ≠ '\n') {rows : List (List String)}
    (hrows : ∀ row ∈ rows, row ≠ []) (records : List (List String)) :
    run delimiter (atRecord records) (rows.flatMap (writeRecord delimiter)) = some (atRecord (records ++ rows)) := by
  induction rows generalizing records with
  | nil => simp [run_nil]
  | cons row rows ih =>
    obtain ⟨hrow, hrest⟩ := List.forall_mem_cons.mp hrows
    rw [List.flatMap_cons, atRecord, run_writeRecord hquote hline hrow, ih hrest]
    simp

end Reader

/-! ## Documents -/

/-- The header and the fields of every office are read back from a document. -/
theorem read_document {delimiter : Char} (hquote : delimiter ≠ '\x22') (hline : delimiter ≠ '\n') (offices : List Office) :
    read delimiter (document delimiter offices) = some (header :: offices.map officeFields) := by
  have hrows : ∀ row ∈ header :: offices.map officeFields, row ≠ [] := by
    simp [header, officeFields]
  rw [read, document, String.toList_ofList, Reader.run_writeRecords hquote hline hrows]
  simp [Reader.atRecord]

/-- The office with an empty name in place of the office it reports to when there is none. -/
def statedOffice (o : Office) : Office := { o with reportsTo := some (o.reportsTo.getD "") }

theorem officeFields_eq_iff {a b : Office} : officeFields a = officeFields b ↔ statedOffice a = statedOffice b := by
  cases a
  cases b
  simp [officeFields, statedOffice]

theorem map_officeFields_eq_iff {offices others : List Office} :
    others.map officeFields = offices.map officeFields ↔ others.map statedOffice = offices.map statedOffice := by
  induction offices generalizing others with
  | nil => simp
  | cons o offices ih =>
    cases others with
    | nil => simp
    | cons p others => simp only [List.map_cons, List.cons.injEq, officeFields_eq_iff, ih]

/-- Documents of offices are the same when the fields of the offices are. -/
theorem document_eq_iff {delimiter : Char} (hquote : delimiter ≠ '\x22') (hline : delimiter ≠ '\n')
    {offices others : List Office} :
    document delimiter others = document delimiter offices ↔ others.map officeFields = offices.map officeFields := by
  constructor
  · intro h
    have hread := read_document hquote hline others
    rw [h, read_document hquote hline offices] at hread
    exact (List.cons.inj (Option.some.inj hread)).2.symm
  · intro h
    rw [document, document, h]

theorem offices_map_office (offices : List Office) : Delimited.offices (offices.map .office) = .ok offices := by
  induction offices with
  | nil => rfl
  | cons o offices ih =>
    rw [List.map_cons, Delimited.offices, ih]
    rfl

/-- A payload of offices is written as their document. -/
theorem format_offices (name base : String) (delimiter : Char) {payload : Payload} {offices : List Office}
    (hkind : payload.kind = .office) (hitems : payload.items = offices.map .office) :
    (formatter name base delimiter).format payload = .ok (document delimiter offices) := by
  rw [formatter, FormatterTag.format_eq]
  · simp only [hitems, offices_map_office]
  · rw [hkind]
    rfl

/-- Offices are written as a document from which the header and one record of four fields for each office are read back, in order;
an office that reports to none has an empty field for it. Only offices that are the same but for that have the same document. -/
theorem format_readBack {f : Formatter} {delimiter : Char}
    (hf : (f, delimiter) ∈ [(commaFormatter, ','), (tabFormatter, '\t')]) {payload : Payload} {offices : List Office}
    (hkind : payload.kind = .office) (hitems : payload.items = offices.map .office) :
    ∃ doc, f.format payload = .ok doc ∧
      read delimiter doc = some (["#Office Name", "Long Name", "Office Type", "Reports To Office"] ::
        offices.map fun o => [o.name, o.longName, o.officeType, o.reportsTo.getD ""]) ∧
      ∀ (payload' : Payload) (others : List Office), payload'.kind = .office → payload'.items = others.map .office →
        (f.format payload' = .ok doc ↔ others.map statedOffice = offices.map statedOffice) := by
  have hwrites : ∃ name base, f = formatter name base delimiter ∧ delimiter ≠ '\x22' ∧ delimiter ≠ '\n' := by
    simp only [List.mem_cons, Prod.mk.injEq, List.not_mem_nil, or_false] at hf
    rcases hf with ⟨rfl, rfl⟩ | ⟨rfl, rfl⟩
    · exact ⟨_, _, rfl, by decide, by decide⟩
    · exact ⟨_, _, rfl, by decide, by decide⟩
  obtain ⟨name, base, rfl, hquote, hline⟩ := hwrites
  refine ⟨_, format_offices name base delimiter hkind hitems, read_document hquote hline offices, ?_⟩
  intro payload' others hkind' hitems'
  rw [format_offices name base delimiter hkind' hitems', Except.ok.injEq, document_eq_iff hquote hline,
    map_officeFields_eq_iff]

/-- Two offices whose fields hold the delimiter, quotes, line breaks and a hash, and one of them reports to none. -/
def markupOffices : List Office :=
  [⟨"#SPK", "Sacramento, \x22CA\x22", "DIS\n", none⟩, ⟨"\x22", "a\tb", "\r\n,", some ""⟩]

/-- They are read back from both documents, which they share with offices that state an empty name to report to. -/
theorem format_readBack_markup :
    (∃ doc, commaFormatter.format (.many .office (markupOffices.map .office)) = .ok doc ∧
      read ',' doc = some (header :: markupOffices.map officeFields) ∧
      commaFormatter.format (.many .office ((markupOffices.map statedOffice).map .office)) = .ok doc) ∧
    ∃ doc, tabFormatter.format (.many .office (markupOffices.map .office)) = .ok doc ∧
      read '\t' doc = some (header :: markupOffices.map officeFields) := by
  have hcomma : (commaFormatter, ',') ∈ [(commaFormatter, ','), (tabFormatter, '\t')] := List.mem_cons_self
  have htab : (tabFormatter, '\t') ∈ [(commaFormatter, ','), (tabFormatter, '\t')] := List.mem_cons_of_mem _ List.mem_cons_self
  obtain ⟨doc, hdoc, hread, hsame⟩ := format_readBack hcomma (rfl : (Payload.many .office _).kind = .office) rfl
  obtain ⟨tabDoc, htabDoc, htabRead, -⟩ := format_readBack htab (rfl : (Payload.many .office _).kind = .office) rfl
  have hstated : (markupOffices.map statedOffice).map statedOffice = markupOffices.map statedOffice := rfl
  exact ⟨⟨doc, hdoc, hread, (hsame _ _ rfl rfl).mpr hstated⟩, tabDoc, htabDoc, htabRead⟩

end Delimited

end BasinRegister
