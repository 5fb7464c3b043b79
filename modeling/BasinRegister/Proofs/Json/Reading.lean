import BasinRegister.Json.Reader
import BasinRegister.Proofs.Json.Numeric

/-!
# Documents that are read back

A reader of a written value stops where the value ends (`stops`), so a member that was not written is not read
(`last?_of_read?_object`). What the members hold is not looked at: a number need not come back as it was.
-/

namespace BasinRegister.Json

/-! ## Strings -/

/-- A control character is read back from its four digits. -/
theorem hexUnit?_hexDigit {n : Nat} (h : n < 32) : hexUnit? '0' '0' (hexDigit (n / 16)) (hexDigit (n % 16)) = some n := by
  have hall : ∀ k < 32, hexUnit? '0' '0' (hexDigit (k / 16)) (hexDigit (k % 16)) = some k := by decide
  exact hall n h

/-- A control character that is written by its number comes back. -/
theorem joinPieces_codeUnit {c : Char} (h : c.toNat < 32) (ps : List StringPiece) :
    joinPieces (.codeUnit c.toNat :: ps) = (joinPieces ps).map (c :: ·) := by
  have hlow : isLowHalf c.toNat = false := by simp [isLowHalf]; omega
  have hhigh : isHighHalf c.toNat = false := by simp [isHighHalf]; omega
  conv =>
    lhs
    unfold joinPieces
  simp only [hlow, hhigh, Bool.false_eq_true, if_false, Char.ofNat_toNat]

/-- A one-letter escape is read as the character that it stands for. -/
theorem takePieces_letter {e c : Char} (h : unescape? e = some c) (cs : List Char) :
    takePieces ('\\' :: e :: cs) = (takePieces cs).map fun (ps, rest) => (.char c :: ps, rest) := by
  rw [takePieces]
  · rw [h]
    cases takePieces cs <;> rfl
  · rintro _ _ _ _ _ rfl -
    cases h

/-- Every character is read as one piece, which stands for it. -/
theorem takePieces_escape (c : Char) (cs : List Char) :
    ∃ piece, takePieces (escape c ++ cs) = (takePieces cs).map (fun (ps, rest) => (piece :: ps, rest)) ∧
      ∀ ps, joinPieces (piece :: ps) = (joinPieces ps).map (c :: ·) := by
  unfold escape
  split
  case h_8 hquote hslash _ _ _ _ _ =>
    split
    · rename_i hcontrol
      refine ⟨.codeUnit c.toNat, ?_, joinPieces_codeUnit hcontrol⟩
      simp only [List.cons_append, List.nil_append, takePieces, hexUnit?_hexDigit hcontrol]
      cases takePieces cs <;> rfl
    · rename_i hcontrol
      refine ⟨.char c, ?_, fun _ => rfl⟩
      rw [List.singleton_append, takePieces]
      · have hplain : ¬(decide (c.toNat < 32) || decide (c = '\\')) = true := by
          simp only [Bool.or_eq_true, decide_eq_true_eq, not_or]
          exact ⟨hcontrol, hslash⟩
        rw [if_neg hplain]
        cases takePieces cs <;> rfl
      · exact hquote
      · exact fun _ _ _ _ _ h _ => hslash h
      · exact fun _ _ h _ => hslash h
  all_goals exact ⟨.char _, takePieces_letter rfl cs, fun _ => rfl⟩

/-- A written string comes back, and the reader stops behind its closing quote. -/
theorem takeString_quote (s : String) (rest : List Char) :
    takeString (s.toList.flatMap escape ++ '\x22' :: rest) = some (some s, rest) := by
  have hpieces : ∀ cs : List Char, ∃ ps, takePieces (cs.flatMap escape ++ '\x22' :: rest) = some (ps, rest) ∧
      joinPieces ps = some cs := by
    intro cs
    induction cs with
    | nil => exact ⟨[], rfl, rfl⟩
    | cons c cs ih =>
      obtain ⟨ps, htake, hjoin⟩ := ih
      obtain ⟨piece, hpiece, hfirst⟩ := takePieces_escape c (cs.flatMap escape ++ '\x22' :: rest)
      rw [htake] at hpiece
      rw [List.flatMap_cons, List.append_assoc, hpiece]
      exact ⟨piece :: ps, rfl, by rw [hfirst, hjoin]; rfl⟩
  obtain ⟨ps, htake, hjoin⟩ := hpieces s.toList
  rw [takeString, htake]
  simp only [Option.map_some, hjoin, String.ofList_toList]

/-- A string is its escaped characters between quotation marks. -/
theorem toList_quote (s : String) : (quote s).toList = '\x22' :: (s.toList.flatMap escape ++ ['\x22']) := by
  rw [quote, String.toList_ofList]
  rfl

/-! ## Values -/

/-- A character that is no space stays. -/
theorem skipSpace_cons {c : Char} (h : isSpace c = false) (cs : List Char) : skipSpace (c :: cs) = c :: cs := by
  rw [skipSpace, List.dropWhile_cons, h]
  rfl

/-- What a written value may begin with. -/
def isOpening (c : Char) : Bool := c.isDigit || c ∈ ['-', '\x22', '[', '\x7b', 'n', 't', 'f']

/-- A number starts with a sign or a digit. -/
theorem WrittenNumber.head {cs : List Char} (h : WrittenNumber cs) :
    ∃ c rest, cs = c :: rest ∧ (c = '-' ∨ c.isDigit = true) := by
  cases h with
  | @parts sign whole fraction exponent hsign hwhole _ _ =>
    rcases hsign with rfl | rfl
    · cases whole with
      | nil => exact absurd rfl hwhole.1
      | cons d ds => exact ⟨d, _, rfl, .inr (hwhole.2 d List.mem_cons_self)⟩
    · exact ⟨'-', _, rfl, .inl rfl⟩

/-- The text of a value starts with a character that opens one. -/
theorem head_render (v : Json) : ∃ c cs, (render v).toList = c :: cs ∧ isOpening c = true := by
  have hnumber : ∀ {text : String}, WrittenNumber text.toList → ∃ c cs, text.toList = c :: cs ∧ isOpening c = true := by
    intro text h
    obtain ⟨c, cs, hcs, hc⟩ := h.head
    refine ⟨c, cs, hcs, ?_⟩
    rcases hc with rfl | hc
    · decide
    · rw [isOpening, hc]
      rfl
  cases v with
  | null => exact ⟨'n', _, rfl, by decide⟩
  | bool b =>
    cases b
    · exact ⟨'f', _, rfl, by decide⟩
    · exact ⟨'t', _, rfl, by decide⟩
  | whole n => exact hnumber (integerText_written n)
  | real x =>
    rcases doubleText_written x with h | h
    · exact ⟨'n', _, by rw [render, h]; rfl, by decide⟩
    · exact hnumber h
  | text s => exact ⟨'\x22', _, by rw [render, toList_quote], by decide⟩
  | array items => exact ⟨'[', _, by simp [render]; rfl, by decide⟩
  | object members => exact ⟨'\x7b', _, by simp [render]; rfl, by decide⟩
  | unreadable => exact ⟨'n', _, rfl, by decide⟩

/-- A value begins with no blank and with no closing bracket. -/
theorem isSpace_of_isOpening {c : Char} (h : isOpening c = true) : isSpace c = false ∧ c ≠ ']' := by
  rw [isOpening, Bool.or_eq_true] at h
  rcases h with h | h
  · constructor
    · rw [Bool.eq_false_iff]
      intro hspace
      simp only [isSpace, Bool.or_eq_true, beq_iff_eq] at hspace
      rcases hspace with ((rfl | rfl) | rfl) | rfl <;> exact absurd h (by decide)
    · rintro rfl
      exact absurd h (by decide)
  · simp only [List.mem_cons, List.not_mem_nil, or_false, decide_eq_true_eq] at h
    rcases h with rfl | rfl | rfl | rfl | rfl | rfl | rfl <;> decide

/-- A delimiter closes a value. -/
theorem closes_cons {c : Char} (h : c = ',' ∨ c = ']' ∨ c = '\x7d') (rest : List Char) : Closes (c :: rest) := by
  intro d hd
  cases hd
  exact h

/-- A word is dropped in front of anything. -/
theorem dropWord_append (word : String) (rest : List Char) : dropWord word (word.toList ++ rest) = some rest := by
  rw [dropWord, if_pos (List.isPrefixOf_iff_prefix.mpr (List.prefix_append _ _)), ← String.length_toList, List.drop_left]

/-- A reader that takes a number goes by its first character. -/
theorem takeValue_number {cs rest : List Char} (h : WrittenNumber cs) (fuel : Nat) :
    takeValue (fuel + 1) (cs ++ rest) = (NumberText.take (cs ++ rest)).map fun (n, left) => (n.value, left) := by
  obtain ⟨c, tail, rfl, hc⟩ := h.head
  have hopening : isSpace c = false ∧ c ≠ '\x22' ∧ c ≠ '[' ∧ c ≠ '\x7b' ∧ c ≠ 'n' ∧ c ≠ 't' ∧ c ≠ 'f' := by
    rcases hc with rfl | hc
    · decide
    · refine ⟨(isSpace_of_isOpening (by rw [isOpening, hc]; rfl)).1, ?_⟩
      refine ⟨?_, ?_, ?_, ?_, ?_, ?_⟩ <;> rintro rfl <;> exact absurd hc (by decide)
  obtain ⟨hspace, hquote, hbracket, hbrace, hn, ht, hf⟩ := hopening
  rw [takeValue, List.cons_append, skipSpace_cons hspace]
  split <;> simp_all

/-- A reader of a word takes it whatever stands behind it. -/
theorem takeValue_null (fuel : Nat) (rest : List Char) : takeValue (fuel + 1) ("null".toList ++ rest) = some (.null, rest) := by
  have hskip : skipSpace ("null".toList ++ rest) = 'n' :: ("ull".toList ++ rest) := skipSpace_cons (by decide) _
  rw [takeValue, hskip]
  simp only [dropWord_append, Option.map_some]

/-- A truth value is read back. -/
theorem takeValue_bool (b : Bool) (fuel : Nat) (rest : List Char) :
    takeValue (fuel + 1) ((render (.bool b)).toList ++ rest) = some (.bool b, rest) := by
  cases b with
  | false =>
    have hskip : skipSpace ("false".toList ++ rest) = 'f' :: ("alse".toList ++ rest) := skipSpace_cons (by decide) _
    rw [render, if_neg Bool.false_ne_true, takeValue, hskip]
    simp only [dropWord_append, Option.map_some]
  | true =>
    have hskip : skipSpace ("true".toList ++ rest) = 't' :: ("rue".toList ++ rest) := skipSpace_cons (by decide) _
    rw [render, if_pos rfl, takeValue, hskip]
    simp only [dropWord_append, Option.map_some]

/-- A string is read back. -/
theorem takeValue_text (s : String) (fuel : Nat) (rest : List Char) :
    takeValue (fuel + 1) ((render (.text s)).toList ++ rest) = some (.text s, rest) := by
  rw [render, toList_quote, List.cons_append, List.append_assoc, takeValue, skipSpace_cons (by decide)]
  simp only [List.singleton_append, takeString_quote, Option.map_some, Option.getD_some]

/-- An empty array is read back. -/
theorem takeValue_noItems (fuel : Nat) (rest : List Char) :
    takeValue (fuel + 1) ((render (.array [])).toList ++ rest) = some (.array [], rest) := by
  simp [render, renderItems, takeValue, skipSpace, isSpace]

/-- An empty object is read back. -/
theorem takeValue_noMembers (fuel : Nat) (rest : List Char) :
    takeValue (fuel + 1) ((render (.object [])).toList ++ rest) = some (.object [], rest) := by
  simp [render, renderMembers, takeValue, skipSpace, isSpace]

/-! ## Where values end -/

/-- The text of several items is that of the first, a comma and that of the others. -/
theorem toList_renderItems_cons (v w : Json) (vs : List Json) :
    (renderItems (v :: w :: vs)).toList = (render v).toList ++ ',' :: (renderItems (w :: vs)).toList := by
  rw [renderItems, String.toList_append, String.toList_append, List.append_assoc]
  rfl

/-- The text of several members is that of the first, a comma and that of the others. -/
theorem toList_renderMembers_cons (name : String) (v : Json) (w : String × Json) (ms : List (String × Json)) :
    (renderMembers ((name, v) :: w :: ms)).toList =
      (quote name).toList ++ ':' :: ((render v).toList ++ ',' :: (renderMembers (w :: ms)).toList) := by
  simp [renderMembers, String.toList_append]

/-- The text of a single member is its name, a colon and its value. -/
theorem toList_renderMembers_singleton (name : String) (v : Json) :
    (renderMembers [(name, v)]).toList = (quote name).toList ++ ':' :: (render v).toList := by
  simp [renderMembers, String.toList_append]

/-- Items begin with a value. -/
theorem head_renderItems (v : Json) (vs : List Json) :
    ∃ c cs, (renderItems (v :: vs)).toList = c :: cs ∧ isOpening c = true := by
  obtain ⟨c, cs, hcs, hc⟩ := head_render v
  cases vs with
  | nil => exact ⟨c, cs, by rw [renderItems, hcs], hc⟩
  | cons w ws => exact ⟨c, _, by rw [toList_renderItems_cons, hcs]; rfl, hc⟩

/-- Members begin with a quote. -/
theorem head_renderMembers (m : String × Json) (ms : List (String × Json)) :
    ∃ cs, (renderMembers (m :: ms)).toList = '\x22' :: cs := by
  obtain ⟨name, v⟩ := m
  cases ms with
  | nil => exact ⟨_, by rw [toList_renderMembers_singleton, toList_quote]; rfl⟩
  | cons w ws => exact ⟨_, by rw [toList_renderMembers_cons, toList_quote]; rfl⟩

/-- A reader of an array with items takes them behind its bracket. -/
theorem takeValue_array (v : Json) (vs : List Json) (fuel : Nat) (rest : List Char) :
    takeValue (fuel + 1) ((render (.array (v :: vs))).toList ++ rest) =
      (takeItems fuel ((renderItems (v :: vs)).toList ++ ']' :: rest)).map fun (items, left) => (.array items, left) := by
  have htext : (render (.array (v :: vs))).toList ++ rest = '[' :: ((renderItems (v :: vs)).toList ++ ']' :: rest) := by
    simp [render, String.toList_append]
  obtain ⟨c, cs, hcs, hc⟩ := head_renderItems v vs
  obtain ⟨hspace, hbracket⟩ := isSpace_of_isOpening hc
  rw [htext, takeValue, skipSpace_cons (by decide)]
  simp only
  rw [hcs, List.cons_append, skipSpace_cons hspace]
  split
  · rename_i heq
    exact absurd (List.cons.inj heq).1 hbracket
  · rfl

/-- A reader of an object with members takes them behind its brace. -/
theorem takeValue_object (m : String × Json) (ms : List (String × Json)) (fuel : Nat) (rest : List Char) :
    takeValue (fuel + 1) ((render (.object (m :: ms))).toList ++ rest) =
      (takeMembers fuel ((renderMembers (m :: ms)).toList ++ '\x7d' :: rest)).map
        fun (members, left) => (ofMembers members, left) := by
  have htext : (render (.object (m :: ms))).toList ++ rest =
      '\x7b' :: ((renderMembers (m :: ms)).toList ++ '\x7d' :: rest) := by
    simp [render, String.toList_append]
  obtain ⟨cs, hcs⟩ := head_renderMembers m ms
  rw [htext, takeValue, skipSpace_cons (by decide)]
  simp only
  rw [hcs, List.cons_append, skipSpace_cons (by decide)]
  rfl

/-- A reader of members takes a value behind each name. -/
theorem takeMembers_quote (name : String) (fuel : Nat) (cs : List Char) :
    takeMembers (fuel + 1) ((quote name).toList ++ ':' :: cs) = (takeValue fuel cs).bind fun (v, left) =>
      match skipSpace left with
      | ',' :: left => (takeMembers fuel left).bind fun (ms, rest) => some ((some name, v) :: ms, rest)
      | '\x7d' :: rest => some ([(some name, v)], rest)
      | _ => none := by
  rw [toList_quote, List.cons_append, List.append_assoc, List.singleton_append, takeMembers, skipSpace_cons (by decide)]
  simp only [takeString_quote]
  rfl

/-- Readers of a depth stop where what they read was written to end. -/
structure Stops (fuel : Nat) : Prop where
  /-- A reader of a written value stops where the value ends. -/
  value : ∀ (v : Json) {rest left : List Char} {w : Json}, Closes rest →
    takeValue fuel ((render v).toList ++ rest) = some (w, left) → left = rest
  /-- A reader of written items stops behind the bracket that closes them. -/
  items : ∀ (v : Json) (vs : List Json) {rest left : List Char} {ws : List Json},
    takeItems fuel ((renderItems (v :: vs)).toList ++ ']' :: rest) = some (ws, left) → left = rest
  /-- A reader of written members gets their names and stops behind the brace that closes them. -/
  members : ∀ (m : String × Json) (ms : List (String × Json)) {rest left : List Char} {ns : List (Option String × Json)},
    takeMembers fuel ((renderMembers (m :: ms)).toList ++ '\x7d' :: rest) = some (ns, left) →
      left = rest ∧ ns.map Prod.fst = (m :: ms).map fun m => some m.1

/-- If the reader stops behind values with some fuel, it does behind a value with one more. -/
theorem Stops.value_succ {fuel : Nat} (hstops : Stops fuel) (v : Json) {rest left : List Char} {w : Json}
    (hrest : Closes rest) (h : takeValue (fuel + 1) ((render v).toList ++ rest) = some (w, left)) : left = rest := by
  have hnumber : ∀ {text : String}, WrittenNumber text.toList →
      takeValue (fuel + 1) (text.toList ++ rest) = some (w, left) → left = rest := by
    intro text htext h
    rw [takeValue_number htext] at h
    obtain ⟨⟨_, _⟩, htake, heq⟩ := Option.map_eq_some_iff.mp h
    cases heq
    exact htext.rest_of_take hrest htake
  have hword : ∀ {u : Json}, takeValue (fuel + 1) ((render v).toList ++ rest) = some (u, rest) → left = rest := by
    intro u hu
    rw [hu] at h
    cases h
    rfl
  cases v with
  | null => exact hword (takeValue_null fuel rest)
  | bool b => exact hword (takeValue_bool b fuel rest)
  | unreadable => exact hword (takeValue_null fuel rest)
  | whole n =>
    rw [render] at h
    exact hnumber (integerText_written n) h
  | real x =>
    rcases doubleText_written x with hx | hx
    · exact hword (by rw [render, hx]; exact takeValue_null fuel rest)
    · rw [render] at h
      exact hnumber hx h
  | text s => exact hword (takeValue_text s fuel rest)
  | array items =>
    cases items with
    | nil => exact hword (takeValue_noItems fuel rest)
    | cons v vs =>
      rw [takeValue_array] at h
      obtain ⟨⟨_, _⟩, htake, heq⟩ := Option.map_eq_some_iff.mp h
      cases heq
      exact hstops.items v vs htake
  | object members =>
    cases members with
    | nil => exact hword (takeValue_noMembers fuel rest)
    | cons m ms =>
      rw [takeValue_object] at h
      obtain ⟨⟨_, _⟩, htake, heq⟩ := Option.map_eq_some_iff.mp h
      cases heq
      exact (hstops.members m ms htake).1

/-- So it does behind the items of an array. -/
theorem Stops.items_succ {fuel : Nat} (hstops : Stops fuel) (v : Json) (vs : List Json) {rest left : List Char}
    {ws : List Json} (h : takeItems (fuel + 1) ((renderItems (v :: vs)).toList ++ ']' :: rest) = some (ws, left)) :
    left = rest := by
  rw [takeItems] at h
  cases vs with
  | nil =>
    rw [renderItems] at h
    obtain ⟨⟨w, cs⟩, hv, h⟩ := Option.bind_eq_some_iff.mp h
    obtain rfl := hstops.value v (closes_cons (.inr (.inl rfl)) rest) hv
    simp only [skipSpace_cons (c := ']') (by decide)] at h
    cases h
    rfl
  | cons u us =>
    rw [toList_renderItems_cons, List.append_assoc, List.cons_append] at h
    obtain ⟨⟨w, cs⟩, hv, h⟩ := Option.bind_eq_some_iff.mp h
    obtain rfl := hstops.value v (closes_cons (.inl rfl) _) hv
    simp only [skipSpace_cons (c := ',') (by decide)] at h
    obtain ⟨⟨_, _⟩, htake, heq⟩ := Option.bind_eq_some_iff.mp h
    cases heq
    exact hstops.items u us htake

/-- So it does behind the members of an object, and it has read their names. -/
theorem Stops.members_succ {fuel : Nat} (hstops : Stops fuel) (m : String × Json) (ms : List (String × Json))
    {rest left : List Char} {ns : List (Option String × Json)}
    (h : takeMembers (fuel + 1) ((renderMembers (m :: ms)).toList ++ '\x7d' :: rest) = some (ns, left)) :
    left = rest ∧ ns.map Prod.fst = (m :: ms).map fun m => some m.1 := by
  obtain ⟨name, v⟩ := m
  cases ms with
  | nil =>
    rw [toList_renderMembers_singleton, List.append_assoc, List.cons_append, takeMembers_quote] at h
    obtain ⟨⟨w, cs⟩, hv, h⟩ := Option.bind_eq_some_iff.mp h
    obtain rfl := hstops.value v (closes_cons (.inr (.inr rfl)) rest) hv
    simp only [skipSpace_cons (c := '\x7d') (by decide)] at h
    cases h
    exact ⟨rfl, rfl⟩
  | cons w ws =>
    rw [toList_renderMembers_cons, List.append_assoc, List.cons_append, List.append_assoc, List.cons_append,
      takeMembers_quote] at h
    obtain ⟨⟨_, cs⟩, hv, h⟩ := Option.bind_eq_some_iff.mp h
    obtain rfl := hstops.value v (closes_cons (.inl rfl) _) hv
    simp only [skipSpace_cons (c := ',') (by decide)] at h
    obtain ⟨⟨_, _⟩, htake, heq⟩ := Option.bind_eq_some_iff.mp h
    cases heq
    obtain ⟨hleft, hnames⟩ := hstops.members w ws htake
    exact ⟨hleft, by rw [List.map_cons, hnames]; rfl⟩

/-- Readers of every depth stop where what they read was written to end. -/
theorem stops (fuel : Nat) : Stops fuel := by
  induction fuel with
  | zero =>
    constructor
    · intro _ _ _ _ _ h
      cases h
    · intro _ _ _ _ _ h
      cases h
    · intro _ _ _ _ _ h
      cases h
  | succ fuel ih => exact ⟨ih.value_succ, ih.items_succ, ih.members_succ⟩

/-! ## Documents -/

/-- A name that no member has is not found. -/
theorem last?_ofMembers {name : String} {ns : List (Option String × Json)} {names : List String}
    (hnames : ns.map Prod.fst = names.map some) (hmissing : name ∉ names) : (ofMembers ns).last? name = none := by
  unfold ofMembers
  split
  case h_2 => rfl
  rename_i members hmembers
  have hfirst : members.map (some ∘ Prod.fst) = ns.map Prod.fst := by
    clear hnames
    induction ns generalizing members with
    | nil =>
      cases hmembers
      rfl
    | cons n ns ih =>
      obtain ⟨given, v⟩ := n
      rw [List.mapM_cons] at hmembers
      obtain ⟨m, hm, hrest⟩ := Option.bind_eq_some_iff.mp hmembers
      obtain ⟨ms, hms, heq⟩ := Option.bind_eq_some_iff.mp hrest
      cases heq
      obtain ⟨_, rfl, rfl⟩ := Option.map_eq_some_iff.mp hm
      rw [List.map_cons, List.map_cons, ih ms hms]
      rfl
  rw [last?, List.lookup_eq_none_iff]
  intro m hm
  rw [List.mem_reverse] at hm
  rw [bne_iff_ne]
  rintro rfl
  have hmem : some m.1 ∈ names.map some := by
    rw [← hnames, ← hfirst]
    exact List.mem_map_of_mem hm
  obtain ⟨_, hname, heq⟩ := List.mem_map.mp hmem
  cases heq
  exact hmissing hname

/-- What a document is read as is its first value. -/
theorem takeValue_of_read? {s : String} {v : Json} (h : read? s = some v) :
    ∃ fuel rest, takeValue (fuel + 1) s.toList = some (v, rest) := by
  unfold read? at h
  simp only at h
  split at h
  · rename_i w rest htake
    split at h
    · cases h
      exact ⟨_, rest, htake⟩
    · cases h
  · cases h

/-- A document of an array has no members. -/
theorem last?_of_read?_array {items : List Json} {v : Json} (name : String)
    (h : read? (render (.array items)) = some v) : v.last? name = none := by
  obtain ⟨fuel, rest, htake⟩ := takeValue_of_read? h
  rw [← List.append_nil (render _).toList] at htake
  cases items with
  | nil =>
    simp only [render, renderItems, takeValue, skipSpace] at htake
    cases htake
    rfl
  | cons u us =>
    rw [takeValue_array] at htake
    obtain ⟨⟨_, _⟩, -, heq⟩ := Option.map_eq_some_iff.mp htake
    cases heq
    rfl

/-- A member that was not written is not read. -/
theorem last?_of_read?_object {members : List (String × Json)} {v : Json} {name : String}
    (h : read? (render (.object members)) = some v) (hmissing : name ∉ members.map Prod.fst) : v.last? name = none := by
  obtain ⟨fuel, rest, htake⟩ := takeValue_of_read? h
  rw [← List.append_nil (render _).toList] at htake
  cases members with
  | nil =>
    simp only [render, renderMembers, takeValue, skipSpace] at htake
    cases htake
    rfl
  | cons m ms =>
    rw [takeValue_object] at htake
    obtain ⟨⟨ns, _⟩, hmembers, heq⟩ := Option.map_eq_some_iff.mp htake
    cases heq
    obtain ⟨-, hnames⟩ := (stops fuel).members m ms hmembers
    have hfirst : ns.map Prod.fst = ((m :: ms).map Prod.fst).map some := by
      rw [hnames, List.map_map]
      rfl
    exact last?_ofMembers hfirst hmissing

end BasinRegister.Json
