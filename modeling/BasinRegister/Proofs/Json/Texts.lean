import BasinRegister.Proofs.Json.RoundTrip
import BasinRegister.Proofs.Number.Notation

/-!
# The text of a value tells which value it is

Two values that documents hold have the same compact form only if they are the same (`render_inj`), whatever finite doubles they
hold: where the reader of documents loses a double, it is not its text that is to blame. So there is a reader that is faithful to
all of them (`exists_faithful`).
-/

namespace BasinRegister.Json

open Number (Decimal DecimalLayout Double)

/-- What documents hold, with any finite doubles. -/
abbrev Documented : Json → Prop := Kept fun _ => True

/-! ## Words and numbers -/

/-- Whether a character may stand in a text without quotes and brackets. -/
def isBareChar (c : Char) : Bool := c ∉ ['\x22', '[', '\x7b', ',', ']', '\x7d']

/-- Digits stand without quotes and brackets. -/
theorem isBareChar_of_isDigit {c : Char} (h : c.isDigit = true) : isBareChar c = true := by
  rw [isBareChar, decide_eq_true_eq]
  intro hc
  simp only [List.mem_cons, List.not_mem_nil, or_false] at hc
  rcases hc with rfl | rfl | rfl | rfl | rfl | rfl <;> exact absurd h (by decide)

/-- So do all characters of a number. -/
theorem WrittenNumber.isBareChar {cs : List Char} (h : WrittenNumber cs) : ∀ c ∈ cs, isBareChar c = true := by
  have hdigits {ds : List Char} (hds : IsDigits ds) : ∀ c ∈ ds, Json.isBareChar c = true := fun c hc =>
    isBareChar_of_isDigit (hds.2 c hc)
  cases h with
  | @parts sign whole fraction exponent hsign hwhole hfraction hexponent =>
    simp only [List.forall_mem_append]
    refine ⟨?_, hdigits hwhole, ?_, ?_⟩
    · rcases hsign with rfl | rfl <;> exact List.all_eq_true.mp (by decide)
    · cases hfraction with
      | none => exact List.forall_mem_nil _
      | some hds => exact List.forall_mem_cons.mpr ⟨by decide, hdigits hds⟩
    · cases hexponent with
      | none => exact List.forall_mem_nil _
      | some hsign hds =>
        refine List.forall_mem_cons.mpr ⟨by decide, List.forall_mem_cons.mpr ⟨?_, hdigits hds⟩⟩
        rcases hsign with rfl | rfl <;> decide

/-- The character that a text begins with if it stands between quotes or brackets. -/
def mark : Json → Option Char
  | .text _ => some '\x22'
  | .array _ => some '['
  | .object _ => some '\x7b'
  | _ => none

/-- A value without a mark is written with bare characters. -/
theorem isBareChar_of_mem_render {v : Json} (h : mark v = none) : ∀ c ∈ (render v).toList, isBareChar c = true := by
  have hword {word : String} (hall : word.toList.all isBareChar = true) : ∀ c ∈ word.toList, isBareChar c = true :=
    List.all_eq_true.mp hall
  cases v with
  | null => exact hword (by decide)
  | bool b => cases b <;> exact hword (by decide)
  | whole n => exact (integerText_written n).isBareChar
  | real x =>
    rcases doubleText_written x with hx | hx
    · rw [render, hx]
      exact hword (by decide)
    · exact hx.isBareChar
  | text s => cases h
  | array items => cases h
  | object members => cases h
  | unreadable => exact hword (by decide)

/-- The first character of a text tells whether it has a mark, and which. -/
theorem head_mark (v : Json) : ∃ c cs, (render v).toList = c :: cs ∧ mark v = if isBareChar c then none else some c := by
  obtain ⟨c, cs, hcs, -⟩ := head_render v
  have hbare (h : mark v = none) : mark v = if isBareChar c then none else some c := by
    rw [if_pos (isBareChar_of_mem_render h c (by rw [hcs]; exact List.mem_cons_self)), h]
  cases v with
  | text s => exact ⟨'\x22', _, by rw [render, toList_quote], rfl⟩
  | array items => exact ⟨'[', _, by simp [render]; rfl, rfl⟩
  | object members => exact ⟨'\x7b', _, by simp [render]; rfl, rfl⟩
  | null => exact ⟨c, cs, hcs, hbare rfl⟩
  | bool b => exact ⟨c, cs, hcs, hbare rfl⟩
  | whole n => exact ⟨c, cs, hcs, hbare rfl⟩
  | real x => exact ⟨c, cs, hcs, hbare rfl⟩
  | unreadable => exact ⟨c, cs, hcs, hbare rfl⟩

/-- Values whose texts begin alike have the same mark. -/
theorem mark_eq {v w : Json} {r r' : List Char} (h : (render v).toList ++ r = (render w).toList ++ r') : mark v = mark w := by
  obtain ⟨c, cs, hcs, hv⟩ := head_mark v
  obtain ⟨d, ds, hds, hw⟩ := head_mark w
  rw [hcs, hds] at h
  rw [hv, hw, (List.cons.inj h).1]

/-- Whether characters are a number with a point or an exponent, and no integer. -/
def isBroken (cs : List Char) : Bool := cs.any fun c => c == '.' || c == 'e'

/-- A number is broken where it has a point or an exponent. -/
theorem isBroken_iff {cs : List Char} : isBroken cs = true ↔ ∃ c ∈ cs, c = '.' ∨ c = 'e' := by
  simp only [isBroken, List.any_eq_true, Bool.or_eq_true, beq_iff_eq]

/-- Every layout has a point or an exponent. -/
theorem exists_mem_write (l : DecimalLayout) (d : Decimal) : ∃ c ∈ l.write d, c = '.' ∨ c = 'e' := by
  unfold DecimalLayout.write
  simp only
  split
  · refine ⟨'.', ?_, .inl rfl⟩
    unfold DecimalLayout.positional
    simp only
    split
    · simp
    · split <;> simp
  · exact ⟨'e', by simp [DecimalLayout.scientific], .inr rfl⟩

/-- The text of a finite double is a number with a point or an exponent. -/
theorem written_doubleText {x : Double} (hx : x.isFinite = true) :
    WrittenNumber (doubleText x).toList ∧ isBroken (doubleText x).toList = true := by
  have hpoint : isBroken (doubleText x).toList = true := by
    rw [isBroken_iff]
    unfold doubleText Double.text?
    simp only [hx, Bool.not_true, Bool.false_eq_true, if_false]
    cases x.shortest? with
    | none => exact ⟨'.', by simp, .inl rfl⟩
    | some d =>
      obtain ⟨c, hc, hmark⟩ := exists_mem_write .document d
      exact ⟨c, by simp [hc], hmark⟩
  refine ⟨(doubleText_written x).resolve_left fun hnull => ?_, hpoint⟩
  rw [hnull] at hpoint
  exact absurd hpoint (by decide)

/-- A double is not written as anything else that has no mark. -/
theorem doubleText_ne {x : Double} {v : Json} (hx : x.isFinite = true) (hv : Documented v) (hmark : mark v = none)
    (hreal : ∀ y, v ≠ .real y) : doubleText x ≠ render v := by
  intro h
  obtain ⟨hwritten, hpoint⟩ := written_doubleText hx
  rw [h] at hwritten hpoint
  cases hv with
  | null => exact absurd hpoint (by decide)
  | bool b =>
    obtain ⟨c, rest, hcs, hc⟩ := hwritten.head
    cases b with
    | false =>
      obtain rfl : 'f' = c := (List.cons.inj hcs).1
      exact absurd hc (by decide)
    | true =>
      obtain rfl : 't' = c := (List.cons.inj hcs).1
      exact absurd hc (by decide)
  | @word n hn =>
    obtain ⟨c, hc, hpoint⟩ := isBroken_iff.mp hpoint
    rw [toList_render_ofNat] at hc
    have hdigit := Text.isDigit_of_mem_decimal hc
    rcases hpoint with rfl | rfl <;> exact absurd hdigit (by decide)
  | @real y _ _ => exact hreal y rfl
  | text s => cases hmark
  | array _ => cases hmark
  | object _ _ => cases hmark

/-- What is no double and has no mark is read back from its text. -/
theorem takeValue_bare {v : Json} (hv : Documented v) (hmark : mark v = none) (hreal : ∀ y, v ≠ .real y) :
    takeValue 1 ((render v).toList ++ []) = some (v, []) := by
  cases hv with
  | null => exact takeValue_null 0 []
  | bool b => exact takeValue_bool b 0 []
  | word hn => exact takeValue_word hn 0 (by simp [Closes])
  | @real y _ _ => exact absurd rfl (hreal y)
  | text s => cases hmark
  | array _ => cases hmark
  | object _ _ => cases hmark

/-- Values without a mark have different texts. -/
theorem bare_inj {v w : Json} (hv : Documented v) (hw : Documented w) (hmark : mark v = none) (hmark' : mark w = none)
    (h : render v = render w) : v = w := by
  -- the reader of documents serves all but doubles, which are told by their digits
  by_cases hreal : ∃ x, v = .real x
  · obtain ⟨x, rfl⟩ := hreal
    by_cases hreal' : ∃ y, w = .real y
    · obtain ⟨y, rfl⟩ := hreal'
      cases hv with | real hx _ =>
      cases hw with | real hy _ =>
      rw [doubleText_inj hx hy h]
    · cases hv with | real hx _ =>
      exact absurd h (doubleText_ne hx hw hmark' (not_exists.mp hreal'))
  · by_cases hreal' : ∃ y, w = .real y
    · obtain ⟨y, rfl⟩ := hreal'
      cases hw with | real hy _ =>
      exact absurd h.symm (doubleText_ne hy hv hmark (not_exists.mp hreal))
    · have hread := takeValue_bare hv hmark (not_exists.mp hreal)
      rw [h, takeValue_bare hw hmark' (not_exists.mp hreal')] at hread
      exact (Prod.mk.inj (Option.some.inj hread)).1.symm

/-! ## Texts, items and members -/

/-- A string is told from what stands behind it. -/
theorem quote_append_inj {s s' : String} {r r' : List Char} (h : (quote s).toList ++ r = (quote s').toList ++ r') :
    s = s' ∧ r = r' := by
  simp only [toList_quote, List.cons_append, List.append_assoc, List.nil_append] at h
  have hread := takeString_quote s r
  rw [(List.cons.inj h).2, takeString_quote] at hread
  obtain ⟨hs, hr⟩ := Prod.mk.inj (Option.some.inj hread)
  exact ⟨(Option.some.inj hs).symm, hr.symm⟩

/-- What stands behind the first of several texts, up to the bracket that closes them. -/
def behind {α : Type} (text : α → List Char) (close : Char) (xs : List α) (r : List Char) : List Char :=
  xs.flatMap (fun x => ',' :: text x) ++ close :: r

/-- A comma stands in front of each text behind the first. -/
theorem behind_cons {α : Type} (text : α → List Char) (close : Char) (x : α) (xs : List α) (r : List Char) :
    behind text close (x :: xs) r = ',' :: (text x ++ behind text close xs r) := by
  simp [behind]

/-- What stands behind a text closes it. -/
theorem closes_behind {α : Type} (text : α → List Char) {close : Char} (hclose : close = ']' ∨ close = '\x7d') (xs : List α)
    (r : List Char) : Closes (behind text close xs r) := by
  cases xs with
  | nil => exact closes_cons (.inr hclose) r
  | cons x xs =>
    rw [behind_cons]
    exact closes_cons (.inl rfl) _

/-- Texts that are told apart in front of whatever closes them are told apart with commas between them. -/
theorem behind_inj {α : Type} {text : α → List Char} {close : Char} (hclose : close = ']' ∨ close = '\x7d') {xs ys : List α}
    (htold : ∀ x ∈ xs, ∀ y ∈ ys, ∀ r r', Closes r → Closes r' → text x ++ r = text y ++ r' → x = y ∧ r = r')
    {r r' : List Char} (h : behind text close xs r = behind text close ys r') : xs = ys ∧ r = r' := by
  have hcomma : close ≠ ',' := by rcases hclose with rfl | rfl <;> decide
  induction xs generalizing ys with
  | nil =>
    cases ys with
    | nil => exact ⟨rfl, (List.cons.inj h).2⟩
    | cons y ys =>
      rw [behind_cons] at h
      exact absurd (List.cons.inj h).1 hcomma
  | cons x xs ih =>
    cases ys with
    | nil =>
      rw [behind_cons] at h
      exact absurd (List.cons.inj h).1.symm hcomma
    | cons y ys =>
      rw [behind_cons, behind_cons] at h
      obtain ⟨rfl, hrest⟩ := htold x List.mem_cons_self y List.mem_cons_self _ _ (closes_behind text hclose xs r)
        (closes_behind text hclose ys r') (List.cons.inj h).2
      obtain ⟨rfl, rfl⟩ :=
        ih (fun x hx y hy => htold x (List.mem_cons_of_mem _ hx) y (List.mem_cons_of_mem _ hy)) hrest
      exact ⟨rfl, rfl⟩

/-- Texts with commas between them, up to the bracket that closes them. -/
def enclosed {α : Type} (text : α → List Char) (close : Char) : List α → List Char → List Char
  | [], r => close :: r
  | x :: xs, r => text x ++ behind text close xs r

/-- They are told apart between brackets too, none of them from one. -/
theorem enclosed_inj {α : Type} {text : α → List Char} {close : Char} (hclose : close = ']' ∨ close = '\x7d')
    (hopen : ∀ x r r', text x ++ r ≠ close :: r') {xs ys : List α}
    (htold : ∀ x ∈ xs, ∀ y ∈ ys, ∀ r r', Closes r → Closes r' → text x ++ r = text y ++ r' → x = y ∧ r = r')
    {r r' : List Char} (h : enclosed text close xs r = enclosed text close ys r') : xs = ys ∧ r = r' := by
  cases xs with
  | nil =>
    cases ys with
    | nil => exact ⟨rfl, (List.cons.inj h).2⟩
    | cons y ys => exact absurd h.symm (hopen y _ _)
  | cons x xs =>
    cases ys with
    | nil => exact absurd h (hopen x _ _)
    | cons y ys =>
      -- with a comma in front the first text is like those behind it
      have hbehind : behind text close (x :: xs) r = behind text close (y :: ys) r' := by
        rw [behind_cons, behind_cons]
        exact congrArg (List.cons ',') h
      exact behind_inj hclose htold hbehind

/-- A member as it stands in an object. -/
def memberText (m : String × Json) : List Char := (quote m.1).toList ++ ':' :: (render m.2).toList

/-- The text of items is that of the first and the others behind commas. -/
theorem toList_renderItems (v : Json) (vs : List Json) :
    (renderItems (v :: vs)).toList = (render v).toList ++ vs.flatMap fun w => ',' :: (render w).toList := by
  induction vs generalizing v with
  | nil => rw [renderItems, List.flatMap_nil, List.append_nil]
  | cons w ws ih => rw [toList_renderItems_cons, ih, List.flatMap_cons, List.cons_append]

/-- So is the text of members. -/
theorem toList_renderMembers (m : String × Json) (ms : List (String × Json)) :
    (renderMembers (m :: ms)).toList = memberText m ++ ms.flatMap fun n => ',' :: memberText n := by
  induction ms generalizing m with
  | nil => rw [toList_renderMembers_singleton, List.flatMap_nil, List.append_nil, memberText]
  | cons n ns ih =>
    obtain ⟨name, v⟩ := m
    have hfirst : (renderMembers ((name, v) :: n :: ns)).toList =
        memberText (name, v) ++ ',' :: (renderMembers (n :: ns)).toList := by
      rw [toList_renderMembers_cons, memberText, List.append_assoc, List.cons_append]
    rw [hfirst, ih, List.flatMap_cons, List.cons_append]

/-- The text of an array is that of its items between brackets. -/
theorem toList_render_array (vs : List Json) (r : List Char) :
    (render (.array vs)).toList ++ r = '[' :: enclosed (fun w => (render w).toList) ']' vs r := by
  cases vs with
  | nil => simp [render, renderItems, enclosed]
  | cons v vs => simp [render, toList_renderItems, enclosed, behind]

/-- The text of an object is that of its members between braces. -/
theorem toList_render_object (ms : List (String × Json)) (r : List Char) :
    (render (.object ms)).toList ++ r = '\x7b' :: enclosed memberText '\x7d' ms r := by
  cases ms with
  | nil => simp [render, renderMembers, enclosed]
  | cons m ms => simp [render, toList_renderMembers, enclosed, behind]

/-! ## Values -/

/-- The text of a value, with whatever closes it, tells which value it is. -/
def Told (v : Json) : Prop :=
  ∀ w, Documented w → ∀ r r', Closes r → Closes r' → (render v).toList ++ r = (render w).toList ++ r' → v = w ∧ r = r'

/-- A value without a mark is told, since what closes it is no bare character. -/
theorem told_of_mark {v : Json} (hv : Documented v) (hmark : mark v = none) : v.Told := by
  intro w hw r r' hr hr' h
  have hmark' : mark w = none := (mark_eq h).symm.trans hmark
  have hclose {s : List Char} (hs : Closes s) : ∀ c ∈ s.head?, isBareChar c = false := by
    intro c hc
    rcases hs c hc with rfl | rfl | rfl <;> decide
  obtain ⟨htext, hrest⟩ := Text.span_inj (isBareChar_of_mem_render hmark) (isBareChar_of_mem_render hmark') (hclose hr)
    (hclose hr') h
  exact ⟨bare_inj hv hw hmark hmark' (String.toList_injective htext), hrest⟩

/-- Members are told apart by their names and by their values. -/
theorem memberText_append_inj {m n : String × Json} (hm : m.2.Told) (hn : Documented n.2) {r r' : List Char} (hr : Closes r)
    (hr' : Closes r') (h : memberText m ++ r = memberText n ++ r') : m = n ∧ r = r' := by
  simp only [memberText, List.append_assoc, List.cons_append] at h
  obtain ⟨hname, hvalue⟩ := quote_append_inj h
  obtain ⟨hsame, hrest⟩ := hm n.2 hn r r' hr hr' (List.cons.inj hvalue).2
  exact ⟨Prod.ext hname hsame, hrest⟩

/-- An array is told where its items are. -/
theorem told_array {items : List Json} (htold : ∀ v ∈ items, v.Told) : (Json.array items).Told := by
  have hopen (v : Json) (r r' : List Char) : (render v).toList ++ r ≠ ']' :: r' := by
    obtain ⟨c, cs, hcs, hc⟩ := head_render v
    rw [hcs]
    exact fun h => (isSpace_of_isOpening hc).2 (List.cons.inj h).1
  intro w hw r r' _ _ h
  have hmark := mark_eq h
  cases hw with
  | @array items' hitems' =>
    rw [toList_render_array, toList_render_array] at h
    obtain ⟨rfl, hrest⟩ := enclosed_inj (.inl rfl) hopen (fun v hv w hw => htold v hv w (hitems' w hw)) (List.cons.inj h).2
    exact ⟨rfl, hrest⟩
  | _ => cases hmark

/-- An object is told where its members are. -/
theorem told_object {members : List (String × Json)} (htold : ∀ m ∈ members, m.2.Told) : (Json.object members).Told := by
  have hopen (m : String × Json) (r r' : List Char) : memberText m ++ r ≠ '\x7d' :: r' := by
    rw [memberText, toList_quote]
    exact fun h => absurd (List.cons.inj h).1 (by decide)
  intro w hw r r' _ _ h
  have hmark := mark_eq h
  cases hw with
  | @object members' _ hmembers' =>
    rw [toList_render_object, toList_render_object] at h
    obtain ⟨rfl, hrest⟩ := enclosed_inj (.inr rfl) hopen
      (fun m hm n hn r r' => memberText_append_inj (htold m hm) (hmembers' n hn)) (List.cons.inj h).2
    exact ⟨rfl, hrest⟩
  | _ => cases hmark

/-- What documents hold is told apart by its texts. -/
theorem told_of_documented {v : Json} (hv : Documented v) : v.Told := by
  induction hv with
  | null => exact told_of_mark .null rfl
  | bool b => exact told_of_mark (.bool b) rfl
  | word hn => exact told_of_mark (.word hn) rfl
  | real hfinite hexact => exact told_of_mark (.real hfinite hexact) rfl
  | text s =>
    intro w hw r r' _ _ h
    have hmark := mark_eq h
    cases hw with
    | text s' =>
      obtain ⟨rfl, hrest⟩ := quote_append_inj h
      exact ⟨rfl, hrest⟩
    | _ => cases hmark
  | array _ ih => exact told_array ih
  | object _ _ ih => exact told_object ih

/-- Different values have different texts. -/
theorem render_inj {v w : Json} (hv : Documented v) (hw : Documented w) (h : render v = render w) : v = w :=
  (told_of_documented hv w hw [] [] (by simp [Closes]) (by simp [Closes]) (by rw [h])).1

/-- There is a reader that gets back what was written, whatever doubles it holds. -/
theorem exists_faithful : ∃ read, Faithful read fun _ => True := by
  classical
  refine ⟨fun s => if h : ∃ v, Documented v ∧ render v = s then some h.choose else none, ?_⟩
  intro v hv
  have h : ∃ w, Documented w ∧ render w = render v := ⟨v, hv, rfl⟩
  exact (dif_pos h).trans (congrArg some (render_inj h.choose_spec.1 hv h.choose_spec.2))

end BasinRegister.Json
