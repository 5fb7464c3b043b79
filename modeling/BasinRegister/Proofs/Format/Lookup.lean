import BasinRegister.Proofs.Format.Resolution

/-!
# Requests for one content type

A request whose candidates all stand for one registered content type is answered by looking that type up
(`Registry.resolve_eq_lookup`): with the first formatter of its canonical type that declares the kind, or with a refusal by the
name of that type. The kinds of a content type are gathered from all its formatters, sorted and rid of repeats; they are those
for which the look-up finds a formatter (`Registry.exists_lookup_iff`).
-/

namespace BasinRegister

/-! ## Runs of equal elements -/

section

variable {α : Type} [BEq α]

theorem eraseRepsBy_loop (a : α) (xs acc : List α) :
    List.eraseRepsBy.loop (· == ·) a xs acc = acc.reverse ++ List.eraseRepsBy.loop (· == ·) a xs [] := by
  induction xs generalizing a acc with
  | nil => simp [List.eraseRepsBy.loop]
  | cons b xs ih =>
    rw [List.eraseRepsBy.loop, List.eraseRepsBy.loop]
    cases a == b with
    | true => exact ih a acc
    | false =>
      simp only [ih b (a :: acc), ih b [a], List.reverse_cons, List.reverse_nil, List.nil_append, List.append_assoc]

/-- An element in front goes if the next one is the same. -/
theorem eraseReps_cons_cons (a b : α) (xs : List α) :
    (a :: b :: xs).eraseReps = if a == b then (a :: xs).eraseReps else a :: (b :: xs).eraseReps := by
  simp only [List.eraseReps, List.eraseRepsBy]
  rw [List.eraseRepsBy.loop]
  cases a == b with
  | true => rfl
  | false => exact eraseRepsBy_loop b xs [a]

variable [LawfulBEq α]

/-- Every element is left once at least. -/
theorem mem_eraseReps {x : α} {xs : List α} : x ∈ xs.eraseReps ↔ x ∈ xs := by
  match xs with
  | [] => rfl
  | [a] => rfl
  | a :: b :: xs =>
    rw [eraseReps_cons_cons]
    by_cases hab : a = b
    · subst hab
      rw [beq_self_eq_true, if_pos rfl, mem_eraseReps]
      simp
    · rw [if_neg (by simpa using hab), List.mem_cons, mem_eraseReps]
      exact List.mem_cons.symm

/-- Where the elements stand in order, none is left twice. -/
theorem pairwise_eraseReps {r : α → α → Prop} (hantisymm : ∀ a b, r a b → r b a → a = b) {xs : List α} (h : xs.Pairwise r) :
    xs.eraseReps.Pairwise fun a b => r a b ∧ a ≠ b := by
  match xs with
  | [] => exact List.Pairwise.nil
  | [a] => exact List.pairwise_singleton _ a
  | a :: b :: xs =>
    obtain ⟨hfirst, hrest⟩ := List.pairwise_cons.mp h
    rw [eraseReps_cons_cons]
    by_cases hab : a = b
    · subst hab
      rw [beq_self_eq_true, if_pos rfl]
      exact pairwise_eraseReps hantisymm hrest
    · rw [if_neg (by simpa using hab), List.pairwise_cons]
      refine ⟨?_, pairwise_eraseReps hantisymm hrest⟩
      intro c hc
      have hmem : c ∈ b :: xs := mem_eraseReps.mp hc
      refine ⟨hfirst c hmem, ?_⟩
      rintro rfl
      -- a later one would stand behind `b` as well as in front of it
      rcases List.mem_cons.mp hmem with rfl | hlater
      · exact hab rfl
      · exact hab (hantisymm a b (hfirst b List.mem_cons_self) ((List.pairwise_cons.mp hrest).1 a hlater))

end

namespace Registry

variable {b : Blueprint} {r : Registry} {requested : String} {kind : Kind} {contentType canonical : ContentType}
  {chosen : Resolved}

/-- A format is its own canonical content type. -/
theorem canonical?_of_format (hbuild : b.build = .ok r) {d : Descriptor} (hd : d ∈ r.descriptors) (hformat : d.aliasOf = none) :
    r.canonical? d.contentType = some d.contentType := by
  have hfound := (Blueprint.describes_of_build hbuild).find?_eq_some.mpr ⟨hd, rfl⟩
  exact Blueprint.canonical?_eq_some.mpr (Descriptor.follow_format _ hfound hformat)

/-- So is the content type of a formatter. -/
theorem canonical?_of_formatter (hbuild : b.build = .ok r) {f : Formatter} (hf : f ∈ b.formatters) :
    r.canonical? f.contentType = some f.contentType :=
  canonical?_of_format hbuild (((Blueprint.describes_of_build hbuild).mem_iff ⟨f.contentType, none⟩).mpr (.inl ⟨f, hf, rfl⟩)) rfl

/-- What there is for a kind under a canonical content type: its formatter, or a refusal by its name. -/
def lookup (r : Registry) (canonical : ContentType) (kind : Kind) : Except FormatError Resolved :=
  match r.bind? kind canonical with
  | some chosen => .ok chosen
  | none => .error (.notImplemented canonical.text kind)

theorem lookup_eq_ok : r.lookup canonical kind = .ok chosen ↔ r.bind? kind canonical = some chosen := by
  rw [lookup]
  cases r.bind? kind canonical <;> simp

/-- The kinds of a content type are those that one of its formatters declares. -/
theorem mem_kindsOf :
    kind ∈ r.kindsOf contentType ↔ ∃ f ∈ r.formatters, f.contentType = contentType ∧ f.supports kind = true := by
  rw [kindsOf, mem_eraseReps, List.mem_mergeSort]
  simp only [List.mem_flatMap, mem_formattersOf, and_assoc, Formatter.supports, List.contains_iff_mem]

/-- They stand in their order, none twice. -/
theorem ascending_kindsOf : (r.kindsOf contentType).Pairwise fun a b => a.index < b.index := by
  have hsorted : (((r.formattersOf contentType).flatMap (·.kinds)).mergeSort fun a b => a.index ≤ b.index).Pairwise
      fun a b => decide (a.index ≤ b.index) = true :=
    List.pairwise_mergeSort (fun a b c hab hbc => by simp only [decide_eq_true_eq] at *; omega)
      (fun a b => by simp only [Bool.or_eq_true, decide_eq_true_eq]; omega) _
  have hantisymm (a b : Kind) (hab : a.index ≤ b.index) (hba : b.index ≤ a.index) : a = b :=
    Kind.index_inj (Nat.le_antisymm hab hba)
  refine (pairwise_eraseReps hantisymm (hsorted.imp of_decide_eq_true)).imp ?_
  rintro a b ⟨hle, hne⟩
  exact Nat.lt_of_le_of_ne hle fun heq => hne (Kind.index_inj heq)

/-- A formatter is found exactly for the kinds that are listed. -/
theorem exists_lookup_iff : (∃ chosen, r.lookup canonical kind = .ok chosen) ↔ kind ∈ r.kindsOf canonical := by
  simp only [lookup_eq_ok, ← Option.isSome_iff_exists, bind?, Option.isSome_map, isSome_formatterFor?, mem_kindsOf]

/-- A request is answered by a look-up if there are candidates and all of them stand for the same registered content type. -/
theorem resolve_eq_lookup (hne : r.candidates requested ≠ [])
    (hall : ∀ c ∈ r.candidates requested, r.canonical? (r.wanted c) = some canonical) :
    r.resolve requested kind = r.lookup canonical kind := by
  have hrecognised : ∀ entries : List Candidate, (∀ c ∈ entries, r.canonical? (r.wanted c) = some canonical) →
      (entries.filterMap fun c => r.canonical? (r.wanted c)) = List.replicate entries.length canonical := by
    intro entries h
    induction entries with
    | nil => rfl
    | cons c entries ih =>
      rw [List.forall_mem_cons] at h
      rw [List.filterMap_cons, h.1]
      simp only [ih h.2, List.length_cons, List.replicate_succ]
  obtain ⟨c, entries, hentries⟩ := List.exists_cons_of_ne_nil hne
  rw [resolve, recognised, hrecognised _ hall, hentries, List.length_cons, List.replicate_succ, List.findSome?_cons, lookup]
  cases hbind : r.bind? kind canonical with
  | some chosen => rfl
  | none =>
    have hnone : (List.replicate entries.length canonical).findSome? (r.bind? kind) = none := by
      rw [List.findSome?_eq_none_iff]
      intro x hx
      rw [List.eq_of_mem_replicate hx, hbind]
    simp only [hnone]

/-- The candidates of a blank request are the ones that the text of the default type states. -/
theorem candidates_of_blank (hblank : (Text.trim requested).isEmpty = true) :
    r.candidates requested = Accept.parse r.defaultType.text := by
  rw [candidates, hblank]
  rfl

/-- A request that is one entry for a registered content type is answered by a look-up of that type. -/
theorem resolve_single {c : Candidate} (hcomma : ',' ∉ requested.toList) (hc : Accept.candidate? requested = some c)
    (hpositive : c.quality.isPositive = true) (hcanonical : r.canonical? (r.wanted c) = some canonical) :
    r.resolve requested kind = r.lookup canonical kind := by
  have hcandidates : r.candidates requested = [c] := by
    rw [candidates_of_stated (Accept.isEmpty_trim_of_candidate? hc), Accept.parse, Accept.stated_of_single hcomma hc hpositive,
      List.mergeSort_singleton]
  refine resolve_eq_lookup (by simp [hcandidates]) ?_
  intro d hd
  rw [hcandidates, List.mem_singleton] at hd
  rwa [hd]

end Registry

end BasinRegister
