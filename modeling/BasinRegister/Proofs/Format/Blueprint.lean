import BasinRegister.Format.JsonDocument
import BasinRegister.Proofs.Format.Chains
import BasinRegister.Proofs.Outcome
import Mathlib.Data.List.Nodup

/-!
# What builds

Which blueprints a registry is built from (`Blueprint.Sound`), stated of the texts of the blueprint and not of the steps that
check them. What was built knows exactly the content types of the formatters and the aliases, and every one of them leads to the
content type of a formatter.
-/

namespace BasinRegister

/-! ## Sound blueprints -/

/-- Formatters that write no kind as the same content type. -/
def Formatter.Apart (f g : Formatter) : Prop :=
  f.contentType = g.contentType → ∀ kind, ¬(f.supports kind = true ∧ g.supports kind = true)

namespace Blueprint

variable {b : Blueprint} {r : Registry} {ds formats seen : List Descriptor} {contentType aliasType target : ContentType}

/-- Some entry states the one content type as an alias of the other. -/
def States (b : Blueprint) (aliasType target : ContentType) : Prop :=
  ∃ p ∈ b.aliases, ContentType.parse? p.1 = some aliasType ∧ ContentType.parse? p.2 = some target

/-- A content type is that of a formatter or an alias. -/
def Registers (b : Blueprint) (contentType : ContentType) : Prop :=
  (∃ f ∈ b.formatters, f.contentType = contentType) ∨
    ∃ p ∈ b.aliases, ContentType.parse? p.1 = some contentType

/-- The stated aliases lead from one content type to another, which is that of a formatter. -/
inductive Leads (b : Blueprint) : ContentType → ContentType → Prop
  /-- The content type of a formatter leads to itself. -/
  | format {f : Formatter} (h : f ∈ b.formatters) : Leads b f.contentType f.contentType
  /-- An alias leads to where its target leads. -/
  | link {aliasType target canonical : ContentType} (h : b.States aliasType target) (rest : Leads b target canonical) :
    Leads b aliasType canonical

/-- What a registry can be built from. -/
structure Sound (b : Blueprint) : Prop where
  /-- No two formatters write one kind as one content type. -/
  apart : b.formatters.Pairwise Formatter.Apart
  /-- Aliases and their targets are content types. -/
  parsed : ∀ p ∈ b.aliases, (ContentType.parse? p.1).isSome ∧ (ContentType.parse? p.2).isSome
  /-- No alias is the content type of a formatter. -/
  unshadowed : ∀ p ∈ b.aliases, ∀ f ∈ b.formatters, ContentType.parse? p.1 ≠ some f.contentType
  /-- No alias is stated twice. -/
  distinct : b.aliases.Pairwise fun p q => ContentType.parse? p.1 ≠ ContentType.parse? q.1
  /-- Every alias leads to the content type of a formatter. -/
  grounded : ∀ p ∈ b.aliases, ∀ aliasType, ContentType.parse? p.1 = some aliasType → ∃ canonical, b.Leads aliasType canonical
  /-- The default type is registered. -/
  defaultType : ∃ contentType, ContentType.parse? (b.defaultType.getD "application/json") = some contentType ∧
    b.Registers contentType

/-! ## Formatters -/

/-- A formatter clashes with none where it stands apart from each. -/
theorem clash?_eq_none {earlier : List Formatter} {f : Formatter} :
    clash? earlier f = none ↔ ∀ g ∈ earlier, g.Apart f := by
  simp only [clash?, List.find?_eq_none, Formatter.Apart, Formatter.supports, List.contains_iff_mem, List.any_eq_true,
    Bool.and_eq_true, decide_eq_true_eq]
  constructor
  · intro h g hg heq kind hkinds
    exact h kind hkinds.2 ⟨g, hg, heq, hkinds.1⟩
  · rintro h kind hkind ⟨g, hg, heq, hkind'⟩
    exact h g hg heq kind ⟨hkind', hkind⟩

/-- The formatters pass where each of them stands apart from the ones in front of it. -/
theorem checkBindings_eq_ok {earlier fs : List Formatter} :
    checkBindings earlier fs = .ok () ↔ (∀ g ∈ earlier, ∀ f ∈ fs, g.Apart f) ∧ fs.Pairwise Formatter.Apart := by
  induction fs generalizing earlier with
  | nil => simp [checkBindings]
  | cons f fs ih =>
    rw [checkBindings, List.pairwise_cons]
    cases hclash : clash? earlier f with
    | some kind =>
      have hsome : ¬∀ g ∈ earlier, g.Apart f := by simp [← clash?_eq_none, hclash]
      simp only [reduceCtorEq, List.forall_mem_cons, false_iff]
      exact fun h => hsome fun g hg => (h.1 g hg).1
    | none =>
      have hfirst := clash?_eq_none.mp hclash
      simp only [ih, List.forall_mem_append, List.forall_mem_singleton, List.forall_mem_cons]
      constructor
      · rintro ⟨⟨hearlier, hf⟩, hfs⟩
        exact ⟨fun g hg => ⟨hfirst g hg, hearlier g hg⟩, hf, hfs⟩
      · rintro ⟨hearlier, hf, hfs⟩
        exact ⟨⟨fun g hg => (hearlier g hg).2, hf⟩, hfs⟩

/-! ## Aliases -/

/-- The descriptor of an alias whose texts are content types. -/
def linkOf? (p : String × String) : Option Descriptor :=
  (ContentType.parse? p.1).bind fun aliasType => (ContentType.parse? p.2).map fun target => ⟨aliasType, some target⟩

/-- The link of an alias goes from the content type of its first text to that of its second. -/
theorem linkOf?_eq_some {p : String × String} {d : Descriptor} :
    linkOf? p = some d ↔ ∃ aliasType target, ContentType.parse? p.1 = some aliasType ∧ ContentType.parse? p.2 = some target ∧
      d = ⟨aliasType, some target⟩ := by
  simp only [linkOf?, Option.bind_eq_some_iff, Option.map_eq_some_iff]
  constructor
  · rintro ⟨aliasType, halias, target, htarget, rfl⟩
    exact ⟨aliasType, target, halias, htarget, rfl⟩
  · rintro ⟨aliasType, target, halias, htarget, rfl⟩
    exact ⟨aliasType, halias, target, htarget, rfl⟩

/-- An alias has a link where both of its texts are content types. -/
theorem exists_linkOf? {p : String × String} :
    (∃ l, linkOf? p = some l) ↔ (ContentType.parse? p.1).isSome ∧ (ContentType.parse? p.2).isSome := by
  simp only [linkOf?_eq_some, Option.isSome_iff_exists]
  constructor
  · rintro ⟨_, aliasType, target, halias, htarget, rfl⟩
    exact ⟨⟨aliasType, halias⟩, target, htarget⟩
  · rintro ⟨⟨aliasType, halias⟩, target, htarget⟩
    exact ⟨_, aliasType, target, halias, htarget, rfl⟩

/-- A content type has no descriptor where no descriptor has it. -/
theorem find?_eq_none : Descriptor.find? ds contentType = none ↔ ∀ d ∈ ds, d.contentType ≠ contentType := by
  simp [Descriptor.find?]

/-- One more alias is taken when its texts are content types and no format and no earlier alias is in its way. -/
theorem addAliases_cons {p : String × String} {rest : List (String × String)} :
    addAliases formats seen (p :: rest) = .ok ds ↔
      ∃ link, linkOf? p = some link ∧ Descriptor.find? formats link.contentType = none ∧
        Descriptor.find? seen link.contentType = none ∧ addAliases formats (seen ++ [link]) rest = .ok ds := by
  obtain ⟨aliasText, targetText⟩ := p
  rw [addAliases, linkOf?, parse, parse]
  cases ContentType.parse? aliasText with
  | none => simp [bind, Except.bind]
  | some aliasType =>
    cases ContentType.parse? targetText with
    | none => simp [bind, Except.bind]
    | some target =>
      cases hformat : Descriptor.find? formats aliasType with
      | some d => simp [bind, Except.bind, throw, throwThe, MonadExceptOf.throw, hformat]
      | none =>
        cases hseen : Descriptor.find? seen aliasType with
        | some d => simp [bind, Except.bind, throw, throwThe, MonadExceptOf.throw, hformat, hseen]
        | none => simp [bind, Except.bind, hformat, hseen]

/-- Aliases are taken when all their texts are content types, none of which is a format and none of which is stated twice; the
descriptors then are those of the formats and those of the aliases. -/
theorem addAliases_eq_ok {aliases : List (String × String)} :
    addAliases formats seen aliases = .ok ds ↔
      ∃ links, aliases.map linkOf? = links.map some ∧
        (∀ l ∈ links, Descriptor.find? formats l.contentType = none) ∧
        (∀ l ∈ links, Descriptor.find? seen l.contentType = none) ∧
        (links.Pairwise fun l m => l.contentType ≠ m.contentType) ∧ ds = formats ++ seen ++ links := by
  induction aliases generalizing seen with
  | nil =>
    rw [addAliases, Except.ok.injEq, eq_comm]
    constructor
    · rintro rfl
      exact ⟨[], by simp⟩
    · rintro ⟨links, hread, -, -, -, rfl⟩
      obtain rfl : links = [] := by simpa using hread.symm
      simp
  | cons p rest ih =>
    rw [addAliases_cons]
    constructor
    · rintro ⟨link, hlink, hformat, hseen, hrest⟩
      obtain ⟨links, hread, hformats, hfresh, hdistinct, rfl⟩ := ih.mp hrest
      simp only [find?_eq_none, List.forall_mem_append, List.forall_mem_singleton] at hfresh
      refine ⟨link :: links, by simp [hlink, hread], ?_, ?_, ?_, by simp⟩
      · exact List.forall_mem_cons.mpr ⟨hformat, hformats⟩
      · exact List.forall_mem_cons.mpr ⟨hseen, fun l hl => find?_eq_none.mpr (hfresh l hl).1⟩
      · exact List.pairwise_cons.mpr ⟨fun l hl => (hfresh l hl).2, hdistinct⟩
    · rintro ⟨links, hread, hformats, hfresh, hdistinct, rfl⟩
      obtain ⟨link, links, rfl⟩ : ∃ link links', links = link :: links' := by
        cases links with
        | nil => simp at hread
        | cons link links' => exact ⟨link, links', rfl⟩
      obtain ⟨hlink, hread⟩ : linkOf? p = some link ∧ rest.map linkOf? = links.map some := by simpa using hread
      rw [List.forall_mem_cons] at hformats hfresh
      rw [List.pairwise_cons] at hdistinct
      refine ⟨link, hlink, hformats.1, hfresh.1, ih.mpr ⟨links, hread, hformats.2, ?_, hdistinct.2, by simp⟩⟩
      intro l hl
      simp only [find?_eq_none, List.forall_mem_append, List.forall_mem_singleton]
      exact ⟨find?_eq_none.mp (hfresh.2 l hl), hdistinct.1 l hl⟩

/-- The descriptors of formats are those of the content types of formatters. -/
theorem mem_formatDescriptors {fs : List Formatter} {d : Descriptor} :
    d ∈ formatDescriptors fs ↔ ∃ f ∈ fs, d = ⟨f.contentType, none⟩ := by
  simp only [formatDescriptors, List.mem_map, List.mem_eraseDups]
  constructor
  · rintro ⟨_, ⟨f, hf, rfl⟩, rfl⟩
    exact ⟨f, hf, rfl⟩
  · rintro ⟨f, hf, rfl⟩
    exact ⟨f.contentType, ⟨f, hf, rfl⟩, rfl⟩

/-! ### Aliases as texts -/

section Links

variable {aliases : List (String × String)} {links : List Descriptor}

/-- All aliases have links where all of their texts are content types. -/
theorem exists_links : (∃ links : List Descriptor, aliases.map linkOf? = links.map some) ↔
    ∀ p ∈ aliases, (ContentType.parse? p.1).isSome ∧ (ContentType.parse? p.2).isSome := by
  induction aliases with
  | nil => exact ⟨fun _ => by simp, fun _ => ⟨[], rfl⟩⟩
  | cons p rest ih =>
    rw [List.forall_mem_cons, ← exists_linkOf?]
    constructor
    · rintro ⟨links, hread⟩
      cases links with
      | nil => simp at hread
      | cons l links =>
        obtain ⟨hl, hrest⟩ := List.cons.inj hread
        exact ⟨⟨l, hl⟩, ih.mp ⟨links, hrest⟩⟩
    · rintro ⟨⟨l, hl⟩, hrest⟩
      obtain ⟨links, hread⟩ := ih.mpr hrest
      exact ⟨l :: links, by rw [List.map_cons, List.map_cons, hl, hread]⟩

/-- The links have the content types of the aliases. -/
theorem parse?_of_links (hread : aliases.map linkOf? = links.map some) :
    aliases.map (fun p => ContentType.parse? p.1) = links.map fun l => some l.contentType := by
  induction aliases generalizing links with
  | nil => cases links with
    | nil => rfl
    | cons l links => simp at hread
  | cons p rest ih => cases links with
    | nil => simp at hread
    | cons l links =>
      obtain ⟨hl, hrest⟩ := List.cons.inj hread
      obtain ⟨aliasType, target, halias, -, rfl⟩ := linkOf?_eq_some.mp hl
      rw [List.map_cons, List.map_cons, halias, ih hrest]

/-- The links shadow no format where no alias states the content type of a formatter. -/
theorem unshadowed_links (hread : aliases.map linkOf? = links.map some) {fs : List Formatter} :
    (∀ l ∈ links, Descriptor.find? (formatDescriptors fs) l.contentType = none) ↔
      ∀ p ∈ aliases, ∀ f ∈ fs, ContentType.parse? p.1 ≠ some f.contentType := by
  have htexts : (∀ o ∈ aliases.map fun p => ContentType.parse? p.1, ∀ f ∈ fs, o ≠ some f.contentType) ↔
      ∀ o ∈ links.map fun l => some l.contentType, ∀ f ∈ fs, o ≠ some f.contentType := by
    rw [parse?_of_links hread]
  rw [List.forall_mem_map, List.forall_mem_map] at htexts
  rw [htexts]
  simp only [find?_eq_none, mem_formatDescriptors]
  constructor
  · intro h l hl f hf heq
    exact h l hl _ ⟨f, hf, rfl⟩ (Option.some.inj heq).symm
  · rintro h l hl _ ⟨f, hf, rfl⟩ heq
    exact h l hl f hf (congrArg some heq.symm)

/-- The links have different content types where no two aliases state the same. -/
theorem distinct_links (hread : aliases.map linkOf? = links.map some) :
    (links.Pairwise fun l m => l.contentType ≠ m.contentType) ↔
      aliases.Pairwise fun p q => ContentType.parse? p.1 ≠ ContentType.parse? q.1 := by
  have htexts := congrArg (List.Pairwise (· ≠ ·)) (parse?_of_links hread)
  rw [List.pairwise_map, List.pairwise_map] at htexts
  simpa using htexts.symm

end Links

/-- The aliases of a blueprint are taken exactly when their texts are content types that are fresh and distinct. -/
theorem exists_addAliases :
    (∃ ds, addAliases (formatDescriptors b.formatters) [] b.aliases = .ok ds) ↔
      (∀ p ∈ b.aliases, (ContentType.parse? p.1).isSome ∧ (ContentType.parse? p.2).isSome) ∧
        (∀ p ∈ b.aliases, ∀ f ∈ b.formatters, ContentType.parse? p.1 ≠ some f.contentType) ∧
        b.aliases.Pairwise fun p q => ContentType.parse? p.1 ≠ ContentType.parse? q.1 := by
  simp only [addAliases_eq_ok, ← exists_links]
  constructor
  · rintro ⟨ds, links, hread, hformats, -, hdistinct, -⟩
    exact ⟨⟨links, hread⟩, (unshadowed_links hread).mp hformats, (distinct_links hread).mp hdistinct⟩
  · rintro ⟨⟨links, hread⟩, hformats, hdistinct⟩
    exact ⟨_, links, hread, (unshadowed_links hread).mpr hformats, fun l hl => rfl,
      (distinct_links hread).mpr hdistinct, rfl⟩

/-! ## Descriptors -/

/-- The descriptors are those of the formatters and the stated aliases, one for each content type. -/
structure Describes (b : Blueprint) (ds : List Descriptor) : Prop where
  /-- What they describe. -/
  mem_iff : ∀ d, d ∈ ds ↔ (∃ f ∈ b.formatters, d = ⟨f.contentType, none⟩) ∨
    ∃ aliasType target, b.States aliasType target ∧ d = ⟨aliasType, some target⟩
  /-- No content type is described twice. -/
  unique : ∀ d ∈ ds, ∀ e ∈ ds, d.contentType = e.contentType → d = e
  /-- Every alias is stated with a target. -/
  targets : ∀ p ∈ b.aliases, (ContentType.parse? p.2).isSome

/-- The descriptors that are gathered are those of the formats and of the aliases. -/
theorem describes_of_addAliases (h : addAliases (formatDescriptors b.formatters) [] b.aliases = .ok ds) :
    b.Describes ds := by
  obtain ⟨links, hread, hformats, -, hdistinct, rfl⟩ := addAliases_eq_ok.mp h
  have hlinks (d : Descriptor) : d ∈ links ↔ ∃ aliasType target, b.States aliasType target ∧ d = ⟨aliasType, some target⟩ := by
    have : d ∈ links ↔ some d ∈ b.aliases.map linkOf? := by simp [hread]
    rw [this, List.mem_map]
    simp only [linkOf?_eq_some, States]
    constructor
    · rintro ⟨p, hp, aliasType, target, halias, htarget, rfl⟩
      exact ⟨aliasType, target, ⟨p, hp, halias, htarget⟩, rfl⟩
    · rintro ⟨aliasType, target, ⟨p, hp, halias, htarget⟩, rfl⟩
      exact ⟨p, hp, aliasType, target, halias, htarget, rfl⟩
  have hapart (d e : Descriptor) (hd : d ∈ formatDescriptors b.formatters) (he : e ∈ links) :
      d.contentType ≠ e.contentType := find?_eq_none.mp (hformats e he) d hd
  refine ⟨?_, ?_, fun p hp => (exists_links.mp ⟨links, hread⟩ p hp).2⟩
  · intro d
    rw [List.append_nil, List.mem_append, mem_formatDescriptors, hlinks]
  · intro d hd e he heq
    rw [List.append_nil, List.mem_append] at hd he
    rcases hd with hd | hd <;> rcases he with he | he
    · obtain ⟨f, -, rfl⟩ := mem_formatDescriptors.mp hd
      obtain ⟨g, -, rfl⟩ := mem_formatDescriptors.mp he
      exact congrArg (Descriptor.mk · none) heq
    · exact absurd heq (hapart d e hd he)
    · exact absurd heq.symm (hapart e d he hd)
    · have hkeys : (links.map (·.contentType)).Nodup := List.pairwise_map.mpr hdistinct
      exact List.inj_on_of_nodup_map hkeys hd he heq

namespace Describes

/-- The descriptor of a content type is the only one that has it. -/
theorem find?_eq_some (h : b.Describes ds) {d : Descriptor} :
    Descriptor.find? ds contentType = some d ↔ d ∈ ds ∧ d.contentType = contentType := by
  constructor
  · exact Descriptor.contentType_of_find?
  · rintro ⟨hd, rfl⟩
    cases hfound : Descriptor.find? ds d.contentType with
    | none => exact absurd rfl (find?_eq_none.mp hfound d hd)
    | some e =>
      obtain ⟨he, heq⟩ := Descriptor.contentType_of_find? hfound
      rw [h.unique e he d hd heq]

/-- The content type of a formatter is found as a format. -/
theorem find?_format (h : b.Describes ds) {f : Formatter} (hf : f ∈ b.formatters) :
    Descriptor.find? ds f.contentType = some ⟨f.contentType, none⟩ :=
  h.find?_eq_some.mpr ⟨(h.mem_iff _).mpr (.inl ⟨f, hf, rfl⟩), rfl⟩

/-- An alias is found with the target that is stated for it. -/
theorem find?_link (h : b.Describes ds) (hstates : b.States aliasType target) :
    Descriptor.find? ds aliasType = some ⟨aliasType, some target⟩ :=
  h.find?_eq_some.mpr ⟨(h.mem_iff _).mpr (.inr ⟨aliasType, target, hstates, rfl⟩), rfl⟩

/-- What is described is what the blueprint registers. -/
theorem isSome_find? (h : b.Describes ds) :
    (Descriptor.find? ds contentType).isSome ↔ b.Registers contentType := by
  simp only [Option.isSome_iff_exists, h.find?_eq_some, h.mem_iff, Registers]
  constructor
  · rintro ⟨d, ⟨f, hf, rfl⟩ | ⟨aliasType, target, ⟨p, hp, halias, -⟩, rfl⟩, rfl⟩
    · exact .inl ⟨f, hf, rfl⟩
    · exact .inr ⟨p, hp, halias⟩
  · rintro (⟨f, hf, rfl⟩ | ⟨p, hp, halias⟩)
    · exact ⟨_, .inl ⟨f, hf, rfl⟩, rfl⟩
    · obtain ⟨target, htarget⟩ := Option.isSome_iff_exists.mp (h.targets p hp)
      exact ⟨_, .inr ⟨contentType, target, ⟨p, hp, halias, htarget⟩, rfl⟩, rfl⟩

/-- Following the descriptors ends where the stated aliases lead. -/
theorem chainEnd_eq_reaches (h : b.Describes ds) {canonical : ContentType} :
    Descriptor.chainEnd ds contentType = .reaches canonical ↔ b.Leads contentType canonical := by
  constructor
  · rw [Descriptor.chainEnd]
    generalize ds.length + 1 = steps
    intro hend
    induction steps generalizing contentType with
    | zero => cases hend
    | succ steps ih =>
      cases hfound : Descriptor.find? ds contentType with
      | none =>
        rw [Descriptor.follow_none steps hfound] at hend
        cases hend
      | some d =>
        obtain ⟨hd, rfl⟩ := Descriptor.contentType_of_find? hfound
        rcases (h.mem_iff d).mp hd with ⟨f, hf, rfl⟩ | ⟨aliasType, target, hstates, rfl⟩
        · rw [Descriptor.follow_format steps hfound rfl] at hend
          cases hend
          exact .format hf
        · rw [Descriptor.follow_alias steps hfound rfl] at hend
          exact .link hstates (ih hend)
  · intro hleads
    have hfollow : ∃ steps, Descriptor.follow ds steps contentType = .reaches canonical := by
      induction hleads with
      | format hf => exact ⟨1, Descriptor.follow_format 0 (h.find?_format hf) rfl⟩
      | link hstates _ ih =>
        obtain ⟨steps, hsteps⟩ := ih
        exact ⟨steps + 1, (Descriptor.follow_alias steps (h.find?_link hstates) rfl).trans hsteps⟩
    obtain ⟨steps, hsteps⟩ := hfollow
    exact Descriptor.chainEnd_of_follow hsteps (by simp)

end Describes

/-- A descriptor passes where its aliases end at a format. -/
theorem checkChain_eq_ok {d : Descriptor} :
    checkChain ds d = .ok () ↔ ∃ canonical, Descriptor.chainEnd ds d.contentType = .reaches canonical := by
  rw [checkChain, Descriptor.trace_eq_chainEnd]
  cases Descriptor.chainEnd ds d.contentType <;> simp

/-- All descriptors pass when every alias leads to the content type of a formatter. -/
theorem Describes.checkChains (h : b.Describes ds) :
    (∀ d ∈ ds, checkChain ds d = .ok ()) ↔
      ∀ p ∈ b.aliases, ∀ aliasType, ContentType.parse? p.1 = some aliasType → ∃ canonical, b.Leads aliasType canonical := by
  simp only [checkChain_eq_ok, h.chainEnd_eq_reaches]
  constructor
  · intro hall p hp aliasType halias
    obtain ⟨target, htarget⟩ := Option.isSome_iff_exists.mp (h.targets p hp)
    exact hall ⟨aliasType, some target⟩ ((h.mem_iff _).mpr (.inr ⟨aliasType, target, ⟨p, hp, halias, htarget⟩, rfl⟩))
  · intro hall d hd
    rcases (h.mem_iff d).mp hd with ⟨f, hf, rfl⟩ | ⟨aliasType, target, ⟨p, hp, halias, htarget⟩, rfl⟩
    · exact ⟨_, .format hf⟩
    · exact hall p hp aliasType halias

/-! ## Building -/

/-- A text is taken where it is a content type. -/
theorem parse_eq_ok {text : String} : parse text = .ok contentType ↔ ContentType.parse? text = some contentType := by
  rw [parse]
  cases ContentType.parse? text <;> simp

/-- What a registry is built of, and what is checked of it. -/
theorem build_eq_ok :
    b.build = .ok r ↔
      checkBindings [] b.formatters = .ok () ∧
        addAliases (formatDescriptors b.formatters) [] b.aliases = .ok r.descriptors ∧
        (∀ d ∈ r.descriptors, checkChain r.descriptors d = .ok ()) ∧
        ContentType.parse? (b.defaultType.getD "application/json") = some r.defaultType ∧
        (Descriptor.find? r.descriptors r.defaultType).isSome ∧ r.formatters = b.formatters := by
  have hlast (ds : List Descriptor) (usual : ContentType) :
      (do if (Descriptor.find? ds usual).isNone then throw (.danglingAlias "*/*" usual.text)
          return { descriptors := ds, formatters := b.formatters, defaultType := usual } :
        Except RegistryError Registry) = .ok r ↔
        (Descriptor.find? ds usual).isSome ∧ r = ⟨ds, b.formatters, usual⟩ := by
    cases Descriptor.find? ds usual <;>
      simp [bind, Except.bind, pure, Except.pure, throw, throwThe, MonadExceptOf.throw, eq_comm]
  rw [build]
  simp only [bind_eq_ok, forM_eq_ok, parse_eq_ok, hlast]
  constructor
  · rintro ⟨⟨⟩, hbindings, ds, hds, ⟨⟩, hchains, usual, husual, hfound, rfl⟩
    exact ⟨hbindings, hds, hchains, husual, hfound, rfl⟩
  · rintro ⟨hbindings, hds, hchains, husual, hfound, hformatters⟩
    refine ⟨(), hbindings, r.descriptors, hds, (), hchains, r.defaultType, husual, hfound, ?_⟩
    rw [← hformatters]

/-- What a registry describes is what its blueprint states. -/
theorem describes_of_build (h : b.build = .ok r) : b.Describes r.descriptors :=
  describes_of_addAliases (build_eq_ok.mp h).2.1

/-- A registry has the formatters of its blueprint. -/
theorem formatters_of_build (h : b.build = .ok r) : r.formatters = b.formatters :=
  (build_eq_ok.mp h).2.2.2.2.2

/-- A registry is built from exactly the sound blueprints. -/
theorem exists_build : (∃ r, b.build = .ok r) ↔ b.Sound := by
  constructor
  · rintro ⟨r, hbuild⟩
    obtain ⟨hbindings, hds, hchains, husual, hfound, -⟩ := build_eq_ok.mp hbuild
    obtain ⟨hparsed, hfresh, hdistinct⟩ := exists_addAliases.mp ⟨_, hds⟩
    have hdescribes := describes_of_build hbuild
    exact { apart := (checkBindings_eq_ok.mp hbindings).2
            parsed := hparsed
            unshadowed := hfresh
            distinct := hdistinct
            grounded := hdescribes.checkChains.mp hchains
            defaultType := ⟨r.defaultType, husual, hdescribes.isSome_find?.mp hfound⟩ }
  · intro h
    obtain ⟨ds, hds⟩ := exists_addAliases.mpr ⟨h.parsed, h.unshadowed, h.distinct⟩
    obtain ⟨usual, husual, hregistered⟩ := h.defaultType
    have hdescribes := describes_of_addAliases hds
    refine ⟨⟨ds, b.formatters, usual⟩, build_eq_ok.mpr ⟨?_, hds, ?_, husual, ?_, rfl⟩⟩
    · exact checkBindings_eq_ok.mpr ⟨by simp, h.apart⟩
    · exact hdescribes.checkChains.mpr h.grounded
    · exact hdescribes.isSome_find?.mpr hregistered

/-! ## Registries that were built -/

/-- The canonical content type is the end of the chain of aliases. -/
theorem canonical?_eq_some {canonical : ContentType} :
    r.canonical? contentType = some canonical ↔ Descriptor.chainEnd r.descriptors contentType = .reaches canonical := by
  rw [Registry.canonical?]
  cases Descriptor.chainEnd r.descriptors contentType <;> simp

/-- The canonical content type is where the stated aliases lead. -/
theorem canonical?_iff_leads (h : b.build = .ok r) {canonical : ContentType} :
    r.canonical? contentType = some canonical ↔ b.Leads contentType canonical := by
  rw [canonical?_eq_some, (describes_of_build h).chainEnd_eq_reaches]

/-- Following aliases from any content type ends, and at a content type that is no alias if the first one is registered. -/
theorem chainEnd_of_build (h : b.build = .ok r) (contentType : ContentType) :
    (∃ canonical, Descriptor.chainEnd r.descriptors contentType = .reaches canonical) ∨
      (Descriptor.find? r.descriptors contentType = none ∧
        Descriptor.chainEnd r.descriptors contentType = .dangles contentType) := by
  cases hfound : Descriptor.find? r.descriptors contentType with
  | none => exact .inr ⟨rfl, Descriptor.follow_none _ hfound⟩
  | some d =>
    obtain ⟨hd, rfl⟩ := Descriptor.contentType_of_find? hfound
    exact .inl (checkChain_eq_ok.mp ((build_eq_ok.mp h).2.2.1 d hd))

/-- Exactly the registered content types have a canonical one. -/
theorem isSome_canonical? (h : b.build = .ok r) :
    (r.canonical? contentType).isSome ↔ (Descriptor.find? r.descriptors contentType).isSome := by
  rw [Option.isSome_iff_exists]
  simp only [canonical?_eq_some]
  rcases chainEnd_of_build h contentType with ⟨canonical, hend⟩ | ⟨hnone, hend⟩
  · cases hfound : Descriptor.find? r.descriptors contentType with
    | none => simp [Descriptor.chainEnd, Descriptor.follow_none _ hfound] at hend
    | some d => simp [hend]
  · simp [hnone, hend]

/-- What aliases lead to is the content type of a formatter. -/
theorem exists_formatter_of_leads {canonical : ContentType} (h : b.Leads contentType canonical) :
    ∃ f ∈ b.formatters, f.contentType = canonical := by
  induction h with
  | format hf => exact ⟨_, hf, rfl⟩
  | link _ _ ih => exact ih

/-- Building ends with a registry exactly for the sound blueprints. What was built has a canonical content type for exactly what
is registered; it is the content type of a formatter and its own canonical one; and no chain of aliases runs out of steps. -/
theorem build_sound (b : Blueprint) :
    ((∃ r, b.build = .ok r) ↔ b.Sound) ∧
      ∀ r, b.build = .ok r →
        (∀ contentType, (r.canonical? contentType).isSome ↔ b.Registers contentType) ∧
        (∀ contentType canonical, r.canonical? contentType = some canonical →
          (∃ f ∈ r.formatters, f.contentType = canonical) ∧ r.canonical? canonical = some canonical) ∧
        ∀ contentType, Descriptor.chainEnd r.descriptors contentType ≠ .circles := by
  refine ⟨exists_build, fun r hbuild => ⟨?_, ?_, ?_⟩⟩
  · intro contentType
    rw [isSome_canonical? hbuild, (describes_of_build hbuild).isSome_find?]
  · intro contentType canonical hcanonical
    obtain ⟨f, hf, rfl⟩ := exists_formatter_of_leads ((canonical?_iff_leads hbuild).mp hcanonical)
    rw [formatters_of_build hbuild]
    exact ⟨⟨f, hf, rfl⟩, (canonical?_iff_leads hbuild).mpr (.format hf)⟩
  · intro contentType
    rcases chainEnd_of_build hbuild contentType with ⟨canonical, hend⟩ | ⟨-, hend⟩ <;> simp [hend]

/-- The formats of JSON with a chain of two aliases, the first of which leads to the second. -/
def chained : Blueprint :=
  { formatters := [JsonDocument.formatter1, JsonDocument.formatter2]
    aliases := [("json", "application/json"), ("application/json", "application/json;version=2")]
    defaultType := none }

/-- An alias of an alias has the content type of a formatter as its canonical one. -/
theorem build_sound_chained :
    chained.Sound ∧ ∃ r, chained.build = .ok r ∧ chained.Registers ⟨"json", none⟩ ∧
      r.canonical? ⟨"json", none⟩ = some ⟨"application/json", some "2"⟩ ∧
      r.canonical? ⟨"application/json", some "2"⟩ = some ⟨"application/json", some "2"⟩ ∧
      Descriptor.chainEnd r.descriptors ⟨"json", none⟩ ≠ .circles := by
  have hends : (chained.build.toOption.bind fun r => r.canonical? ⟨"json", none⟩) =
      some ⟨"application/json", some "2"⟩ := by decide +kernel
  obtain ⟨hiff, hbuilt⟩ := build_sound chained
  cases hbuild : chained.build with
  | error e => simp [hbuild, Except.toOption] at hends
  | ok r =>
    have hcanonical : r.canonical? ⟨"json", none⟩ = some ⟨"application/json", some "2"⟩ := by
      simpa [hbuild, Except.toOption] using hends
    obtain ⟨hregistered, hformat, hfinite⟩ := hbuilt r hbuild
    refine ⟨hiff.mp ⟨r, hbuild⟩, r, rfl, (hregistered _).mp ?_, hcanonical, (hformat _ _ hcanonical).2, hfinite _⟩
    simp [hcanonical]

end Blueprint

end BasinRegister
