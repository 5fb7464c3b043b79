import BasinRegister.Format.JsonDocument
import BasinRegister.Proofs.Json.Fields

/-!
# Envelopes

The envelope of a page has its paging fields and the members put in, in some order (`JsonDocument.perm_foldr_insertMember`).
Members whose names are not those of paging fields are found (`get?_envelope_of_beside`), such as the records under the plural of
their kind, and so are the paging fields beside them.
-/

namespace BasinRegister.JsonDocument

open Json
open Number (Double)

variable {isExact : Double → Prop} {info : PageInfo} {v : Json} {members : List (String × Json)} {name : String}

theorem perm_insertMember (m : String × Json) (ms : List (String × Json)) : (insertMember m ms).Perm (m :: ms) := by
  induction ms with
  | nil => exact .refl _
  | cons n ms ih =>
    rw [insertMember]
    split
    · exact (ih.cons n).trans (.swap m n ms)
    · exact .refl _

/-- An envelope has its paging fields and the other members, in some order. -/
theorem perm_foldr_insertMember (members paging : List (String × Json)) :
    (members.foldr insertMember paging).Perm (members ++ paging) := by
  induction members with
  | nil => exact .refl _
  | cons m members ih => exact (perm_insertMember _ _).trans (ih.cons m)

/-- The only member of a name is the same in any order. -/
theorem filter_of_perm {ms ns : List (String × Json)} {name : String} {o : Option Json} (hperm : ms.Perm ns)
    (h : ns.filter (·.1 = name) = member? name o) : ms.filter (·.1 = name) = member? name o := by
  have hfilter := hperm.filter (·.1 = name)
  rw [h] at hfilter
  cases o with
  | none => exact hfilter.eq_nil
  | some v => exact List.perm_singleton.mp hfilter

/-- A page has at most these paging fields, and none of them twice. -/
theorem names_pageMembers (info : PageInfo) :
    ((pageMembers info).map Prod.fst).Sublist ["next-page", "page", "page-size", "total"] := by
  simp only [pageMembers, List.map_append, List.map_cons, List.map_nil]
  exact ((names_member? _).append (.refl _)).append (names_member? _)

/-- Members that may stand beside the paging fields: none of all these names comes twice. -/
def Beside (members : List (String × Json)) : Prop :=
  (members.map Prod.fst ++ ["next-page", "page", "page-size", "total"]).Nodup

theorem beside_plural (kind : Kind) (v : Json) : Beside [(kind.plural, v)] := by
  have hnames : ([kind.plural] ++ ["next-page", "page", "page-size", "total"]).Nodup := by cases kind <;> decide
  exact hnames

theorem Beside.ne (h : Beside members) {m : String × Json} (hm : m ∈ members)
    (hname : name ∈ ["next-page", "page", "page-size", "total"]) : m.1 ≠ name :=
  (List.nodup_append.mp h).2.2 m.1 (List.mem_map_of_mem hm) name hname

/-- The paging fields are named differently from the records. -/
theorem plural_ne (kind : Kind) (h : name ∈ ["next-page", "page", "page-size", "total"]) : kind.plural ≠ name :=
  (beside_plural kind .null).ne (List.mem_singleton_self _) h

/-- A paging field stands in an envelope as it stands among the paging fields. -/
theorem filter_envelope {o : Option Json} (hmembers : ∀ m ∈ members, m.1 ≠ name)
    (h : (pageMembers info).filter (·.1 = name) = member? name o) :
    (members.foldr insertMember (pageMembers info)).filter (·.1 = name) = member? name o := by
  have hothers : members.filter (·.1 = name) = [] := by
    rw [List.filter_eq_nil_iff]
    intro m hm
    simpa using hmembers m hm
  refine filter_of_perm (perm_foldr_insertMember _ _) ?_
  rw [List.filter_append, hothers, List.nil_append, h]

/-- Any other member stands in an envelope as it stands among those put in. -/
theorem get?_envelope_of_beside (info : PageInfo) (hbeside : Beside members) {o : Option Json}
    (h : members.filter (·.1 = name) = member? name o) (hstands : ∃ m ∈ members, m.1 = name) :
    (envelope info members).get? name = o := by
  obtain ⟨m, hm, rfl⟩ := hstands
  have hothers : (pageMembers info).filter (·.1 = m.1) = [] := by
    rw [List.filter_eq_nil_iff]
    intro n hn hname
    exact hbeside.ne hm ((names_pageMembers info).subset (List.mem_map_of_mem hn)) (of_decide_eq_true hname).symm
  refine get?_object (filter_of_perm (perm_foldr_insertMember _ _) ?_)
  rw [List.filter_append, hothers, List.append_nil, h]

/-- The records of an envelope are found under the plural of their kind. -/
theorem get?_envelope (kind : Kind) (info : PageInfo) (v : Json) :
    (envelope info [(kind.plural, v)]).get? kind.plural = some v :=
  get?_envelope_of_beside info (beside_plural kind v) (by simp) ⟨_, List.mem_singleton_self _, rfl⟩

/-- Whatever else an envelope holds, it has the token of the next page, if there is one, and nothing else under its name. -/
theorem get?_envelope_nextPage (info : PageInfo) (h : ∀ m ∈ members, m.1 ≠ "next-page") :
    (envelope info members).get? "next-page" = info.nextPage.map .text :=
  get?_object (filter_envelope h (by simp [pageMembers]))

/-- An envelope is kept if what stands in it is. -/
theorem kept_envelope_of_beside (info : PageInfo) (hbeside : Beside members) (h : ∀ m ∈ members, Kept isExact m.2) :
    Kept isExact (envelope info members) := by
  have hperm := perm_foldr_insertMember members (pageMembers info)
  refine .object ?_ ?_
  · rw [(hperm.map Prod.fst).nodup_iff, List.map_append]
    exact ((List.Sublist.refl _).append (names_pageMembers info)).nodup hbeside
  · have htotal : ∀ m ∈ member? "total" (info.total.map fun total => .ofNat total.toNat), Kept isExact m.2 := by
      refine kept_member? fun w hw => ?_
      obtain ⟨total, -, rfl⟩ := Option.map_eq_some_iff.mp hw
      exact .word total.toNat_lt
    have hsize : info.pageSize.toNat < UInt64.size := Nat.lt_trans info.pageSize.toNat_lt (by decide)
    have hmembers : ∀ m ∈ members ++ pageMembers info, Kept isExact m.2 := by
      simp only [pageMembers, List.forall_mem_append, List.forall_mem_singleton, List.forall_mem_cons]
      exact ⟨h, ⟨kept_member?_text _, .text _, .word hsize⟩, htotal⟩
    exact fun m hm => hmembers m (hperm.mem_iff.mp hm)

/-- An envelope is kept if the records in it are. -/
theorem kept_envelope (kind : Kind) (info : PageInfo) (hv : Kept isExact v) :
    Kept isExact (envelope info [(kind.plural, v)]) :=
  kept_envelope_of_beside info (beside_plural kind v) (List.forall_mem_singleton.mpr hv)

end BasinRegister.JsonDocument
