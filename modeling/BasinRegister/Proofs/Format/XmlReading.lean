import BasinRegister.Proofs.Format.XmlTree
import BasinRegister.Proofs.Text.Split

/-!
# The text of an element tells which element it is

Two elements whose names are words have the same text only if they are the same (`Xml.document_inj`). An escaped text holds
neither the character that begins a tag nor the one that ends a value, so it ends at the first of them; a name ends at the first
character that no word has; and a text that looks like an indentation is told from one by the tag behind it, which closes the
element of a text and opens the first element inside any other.
-/

namespace BasinRegister.Xml

/-! ## Escaped texts -/

/-- No escaped character begins another one. -/
theorem escapeChar_append_inj {c c' : Char} {r r' : List Char} (h : escapeChar c ++ r = escapeChar c' ++ r') :
    c = c' ∧ r = r' := by
  unfold escapeChar at h
  split at h <;> split at h <;> simp_all <;> grind

/-- An escaped character does not begin with one that ends a text. -/
theorem escapeChar_ne_cons {c q : Char} (hq : q = '<' ∨ q = '\x22') (r r' : List Char) :
    escapeChar c ++ r ≠ q :: r' := by
  unfold escapeChar
  rcases hq with rfl | rfl <;> split <;> simp_all

/-- An escaped text up to a delimiter tells the text, since no escape holds the delimiter. -/
theorem flatMap_escapeChar_inj {q : Char} (hq : q = '<' ∨ q = '\x22') {cs cs' r r' : List Char}
    (h : cs.flatMap escapeChar ++ q :: r = cs'.flatMap escapeChar ++ q :: r') : cs = cs' ∧ r = r' := by
  induction cs generalizing cs' with
  | nil =>
    cases cs' with
    | nil => exact ⟨rfl, (List.cons.inj h).2⟩
    | cons c' cs' =>
      rw [List.flatMap_cons, List.append_assoc] at h
      exact absurd h.symm (escapeChar_ne_cons hq _ _)
  | cons c cs ih =>
    cases cs' with
    | nil =>
      rw [List.flatMap_cons, List.append_assoc] at h
      exact absurd h (escapeChar_ne_cons hq _ _)
    | cons c' cs' =>
      simp only [List.flatMap_cons, List.append_assoc] at h
      obtain ⟨rfl, hcs⟩ := escapeChar_append_inj h
      obtain ⟨rfl, rfl⟩ := ih hcs
      exact ⟨rfl, rfl⟩

/-- An escaped text goes on to the character that ends it. -/
theorem escape_append_inj {q : Char} (hq : q = '<' ∨ q = '\x22') {s s' : String} {r r' : List Char}
    (h : escape s ++ q :: r = escape s' ++ q :: r') : s = s' ∧ r = r' := by
  obtain ⟨hs, hr⟩ := flatMap_escapeChar_inj hq h
  exact ⟨String.toList_inj.mp hs, hr⟩

/-! ## Tags -/

/-- Whether a word may hold a character. -/
def isWordChar (c : Char) : Bool := c.isLower || c == '-'

/-- A word is made of word characters. -/
theorem isWordChar_of_mem {name : String} (hname : isWord name = true) : ∀ c ∈ name.toList, isWordChar c = true := by
  rw [isWord, Bool.and_eq_true, List.all_eq_true] at hname
  exact hname.2

/-- A word begins with a letter. -/
theorem exists_letter {name : String} (hname : isWord name = true) :
    ∃ c cs, name.toList = c :: cs ∧ c.isLower = true := by
  rw [isWord, Bool.and_eq_true] at hname
  cases hcs : name.toList with
  | nil => simp [hcs] at hname
  | cons c cs => exact ⟨c, cs, rfl, by simpa [hcs] using hname.1⟩

/-- A word goes on to the first character that no word has. -/
theorem word_append_inj {name name' : String} (hname : isWord name = true) (hname' : isWord name' = true) {c c' : Char}
    (hc : isWordChar c = false) (hc' : isWordChar c' = false) {r r' : List Char}
    (h : name.toList ++ c :: r = name'.toList ++ c' :: r') : name = name' ∧ c = c' ∧ r = r' := by
  obtain ⟨hnames, hrest⟩ := Text.span_inj (isWordChar_of_mem hname) (isWordChar_of_mem hname')
    (by simpa using hc) (by simpa using hc') h
  exact ⟨String.toList_inj.mp hnames, List.cons.inj hrest⟩

/-- The character behind the attributes of a tag. -/
def EndsTag (c : Char) : Prop := c = '>' ∨ c = '/'

/-- What ends a tag is no word character. -/
theorem EndsTag.isWordChar {c : Char} (h : EndsTag c) : isWordChar c = false := by
  rcases h with rfl | rfl <;> rfl

/-- What ends a tag is no blank. -/
theorem EndsTag.ne_blank {c : Char} (h : EndsTag c) : c ≠ ' ' := by
  rcases h with rfl | rfl <;> decide

/-- An attribute as it stands in a tag. -/
def attributeText (a : String × String) : List Char :=
  ' ' :: a.1.toList ++ ['=', '\x22'] ++ escape a.2 ++ ['\x22']

/-- Attributes up to the end of their tag tell the attributes, by induction on the first of them. -/
theorem attributes_append_inj {as as' : List (String × String)} (has : ∀ a ∈ as, isWord a.1 = true)
    (has' : ∀ a ∈ as', isWord a.1 = true) {c c' : Char} (hc : EndsTag c) (hc' : EndsTag c') {r r' : List Char}
    (h : as.flatMap attributeText ++ c :: r = as'.flatMap attributeText ++ c' :: r') : as = as' ∧ c = c' ∧ r = r' := by
  induction as generalizing as' with
  | nil =>
    cases as' with
    | nil => exact ⟨rfl, List.cons.inj h⟩
    | cons a' as' => exact absurd (List.cons.inj h).1 hc.ne_blank
  | cons a as ih =>
    cases as' with
    | nil => exact absurd (List.cons.inj h).1.symm hc'.ne_blank
    | cons a' as' =>
      obtain ⟨key, value⟩ := a
      obtain ⟨key', value'⟩ := a'
      simp only [List.flatMap_cons, attributeText, List.cons_append, List.append_assoc, List.nil_append] at h
      obtain ⟨hkey, hkeys⟩ := List.forall_mem_cons.mp has
      obtain ⟨hkey', hkeys'⟩ := List.forall_mem_cons.mp has'
      obtain ⟨rfl, -, hvalue⟩ := word_append_inj hkey hkey' rfl rfl (List.cons.inj h).2
      obtain ⟨rfl, hattributes⟩ := escape_append_inj (.inr rfl) (List.cons.inj hvalue).2
      obtain ⟨rfl, hrest⟩ := ih hkeys hkeys' hattributes
      exact ⟨rfl, hrest⟩

/-- An opening tag is its name and its attributes. -/
theorem openTag_eq (name : String) (attributes : List (String × String)) :
    openTag name attributes = '<' :: name.toList ++ attributes.flatMap attributeText := rfl

/-- An opening tag tells the name and the attributes. -/
theorem openTag_append_inj {name name' : String} {as as' : List (String × String)} (hname : isWord name = true)
    (hname' : isWord name' = true) (has : ∀ a ∈ as, isWord a.1 = true) (has' : ∀ a ∈ as', isWord a.1 = true) {c c' : Char}
    (hc : EndsTag c) (hc' : EndsTag c') {r r' : List Char} (h : openTag name as ++ c :: r = openTag name' as' ++ c' :: r') :
    name = name' ∧ as = as' ∧ c :: r = c' :: r' := by
  have hend (as : List (String × String)) {c : Char} (hc : EndsTag c) (r : List Char) :
      ∃ d ds, as.flatMap attributeText ++ c :: r = d :: ds ∧ isWordChar d = false := by
    cases as with
    | nil => exact ⟨c, r, rfl, hc.isWordChar⟩
    | cons a as => exact ⟨' ', _, rfl, rfl⟩
  simp only [openTag_eq, List.cons_append, List.append_assoc] at h
  obtain ⟨d, ds, hds, hd⟩ := hend as hc r
  obtain ⟨d', ds', hds', hd'⟩ := hend as' hc' r'
  rw [hds, hds'] at h
  obtain ⟨rfl, rfl, rfl⟩ := word_append_inj hname hname' hd hd' (List.cons.inj h).2
  obtain ⟨rfl, rfl, rfl⟩ := attributes_append_inj has has' hc hc' (hds.trans hds'.symm)
  exact ⟨rfl, rfl, rfl⟩

/-! ## Elements -/

/-- The text of an element, with whatever stands behind it, tells which element it is. -/
def Readable (x : Xml) : Prop :=
  ∀ {y : Xml}, y.Worded → ∀ {depth : Nat} {r r' : List Char}, render depth x ++ r = render depth y ++ r' → x = y ∧ r = r'

/-- What stands behind the attributes of an element at a depth. -/
def behindTag (depth : Nat) : Xml → List Char
  | .leaf name text => '>' :: (escape text ++ closeTag name)
  | .empty _ _ => ['/', '>', '\n']
  | .node name _ children => '>' :: '\n' :: (renderAll (depth + 1) children ++ (indent depth ++ closeTag name))

/-- What stands behind an opening tag ends it. -/
theorem exists_behindTag (depth : Nat) (x : Xml) : ∃ c cs, behindTag depth x = c :: cs ∧ EndsTag c := by
  cases x with
  | leaf name text => exact ⟨'>', _, rfl, .inl rfl⟩
  | empty name attributes => exact ⟨'/', _, rfl, .inr rfl⟩
  | node name attributes children => exact ⟨'>', _, rfl, .inl rfl⟩

/-- Every element starts with its blanks and its opening tag. -/
theorem render_eq (depth : Nat) (x : Xml) :
    render depth x = indent depth ++ (openTag x.name x.attributes ++ behindTag depth x) := by
  cases x with
  | leaf name text => simp only [render, behindTag, Xml.name, Xml.attributes, List.append_assoc, List.cons_append]
  | empty name attributes => simp only [render, behindTag, Xml.name, Xml.attributes, List.append_assoc]
  | node name attributes children =>
    simp only [render, behindTag, Xml.name, Xml.attributes, List.append_assoc, List.cons_append, List.nil_append]

/-- The tags of two elements with the same text are the same, and so is what stands behind them. -/
theorem tag_append_inj {x y : Xml} (hx : x.Worded) (hy : y.Worded) {depth : Nat} {r r' : List Char}
    (h : render depth x ++ r = render depth y ++ r') :
    x.name = y.name ∧ x.attributes = y.attributes ∧ behindTag depth x ++ r = behindTag depth y ++ r' := by
  obtain ⟨c, cs, hcs, hc⟩ := exists_behindTag depth x
  obtain ⟨c', cs', hcs', hc'⟩ := exists_behindTag depth y
  rw [render_eq, render_eq, hcs, hcs'] at h
  simp only [List.append_assoc, List.cons_append, List.append_cancel_left_eq] at h
  obtain ⟨hname, hattributes, hbehind⟩ := openTag_append_inj hx.name hy.name hx.attributes hy.attributes hc hc' h
  rw [hcs, hcs']
  exact ⟨hname, hattributes, hbehind⟩

/-- An element in another one stands two blanks deeper. -/
theorem indent_succ (depth : Nat) : indent (depth + 1) = indent depth ++ [' ', ' '] :=
  List.replicate_append_replicate.symm

/-- The elements in an element go on to its closing tag, which is not as deep as they are. -/
theorem renderAll_append_inj {xs ys : List Xml} (hreadable : ∀ x ∈ xs, x.Readable) (hys : ∀ y ∈ ys, y.Worded) {depth : Nat}
    {r r' : List Char}
    (h : renderAll (depth + 1) xs ++ (indent depth ++ '<' :: r) = renderAll (depth + 1) ys ++ (indent depth ++ '<' :: r')) :
    xs = ys ∧ r = r' := by
  -- an opening tag is two blanks further in than the closing one
  have hopen (y : Xml) (t r : List Char) : indent depth ++ '<' :: r ≠ render (depth + 1) y ++ t := by
    intro heq
    rw [render_eq, indent_succ, List.append_assoc, List.append_assoc] at heq
    exact absurd (List.cons.inj (List.append_cancel_left heq)).1 (by decide)
  induction xs generalizing ys with
  | nil =>
    cases ys with
    | nil => exact ⟨rfl, (List.cons.inj (List.append_cancel_left h)).2⟩
    | cons y ys =>
      rw [renderAll, renderAll, List.append_assoc] at h
      exact absurd h (hopen y _ _)
  | cons x xs ih =>
    obtain ⟨hread, hreadable'⟩ := List.forall_mem_cons.mp hreadable
    cases ys with
    | nil =>
      rw [renderAll, renderAll, List.append_assoc] at h
      exact absurd h.symm (hopen x _ _)
    | cons y ys =>
      obtain ⟨hy, hys'⟩ := List.forall_mem_cons.mp hys
      rw [renderAll, renderAll, List.append_assoc, List.append_assoc] at h
      obtain ⟨rfl, hrest⟩ := hread hy h
      obtain ⟨rfl, rfl⟩ := ih hreadable' hys' hrest
      exact ⟨rfl, rfl⟩

/-- Escaping leaves an indentation as it is. -/
theorem escape_indentation (depth : Nat) : escape (String.ofList ('\n' :: indent depth)) = '\n' :: indent depth := by
  have hblanks (n : Nat) : (List.replicate n ' ').flatMap escapeChar = List.replicate n ' ' := by
    induction n with
    | zero => rfl
    | succ n ih =>
      rw [List.replicate_succ, List.flatMap_cons, ih]
      rfl
  rw [escape, String.toList_ofList, List.flatMap_cons, indent, hblanks]
  rfl

/-- A text is never taken for elements: its tag closes where that of an element opens. -/
theorem text_ne_renderAll {xs : List Xml} (hfull : xs ≠ []) (hxs : ∀ x ∈ xs, x.Worded) (text : String) (depth : Nat)
    (r r' : List Char) : escape text ++ '<' :: '/' :: r ≠ '\n' :: (renderAll depth xs ++ r') := by
  intro h
  obtain ⟨x, xs, rfl⟩ := List.exists_cons_of_ne_nil hfull
  have hx := hxs x List.mem_cons_self
  obtain ⟨c, letters, hletters, hc⟩ := exists_letter hx.name
  -- the text may well be the indentation, so what tells them apart is the character behind the next `<`
  have hopen : escape text ++ '<' :: '/' :: r = escape (String.ofList ('\n' :: indent depth)) ++ '<' :: c ::
      (letters ++ (x.attributes.flatMap attributeText ++ (behindTag depth x ++ (renderAll depth xs ++ r')))) := by
    rw [h, escape_indentation, renderAll, render_eq, openTag_eq, hletters]
    simp only [List.append_assoc, List.cons_append]
  obtain ⟨-, hletter⟩ := escape_append_inj (.inl rfl) hopen
  rw [← (List.cons.inj hletter).1] at hc
  exact absurd hc (by decide)

/-- Elements whose names are words are told apart by their texts. -/
theorem readable_of_worded {x : Xml} (hx : x.Worded) : x.Readable := by
  -- the tags agree, so what is left to compare is what stands behind them: a text, elements or nothing
  induction hx with
  | @leaf name text hname =>
    intro y hy depth r r' h
    obtain ⟨hnames, -, hbehind⟩ := tag_append_inj (.leaf hname) hy h
    cases hy with
    | @leaf name' text' hname' =>
      obtain rfl : name = name' := hnames
      simp only [behindTag, List.cons_append, List.append_assoc] at hbehind
      obtain ⟨rfl, hrest⟩ := escape_append_inj (.inl rfl) (List.cons.inj hbehind).2
      exact ⟨rfl, List.append_cancel_left hrest⟩
    | empty => exact absurd (List.cons.inj hbehind).1 (by decide)
    | @node name' attributes' children' _ _ _ hfull' hchildren' =>
      simp only [behindTag, List.cons_append, List.append_assoc] at hbehind
      exact absurd (List.cons.inj hbehind).2 (text_ne_renderAll hfull' hchildren' text _ _ _)
  | @empty name attributes hname hkeys hdistinct =>
    intro y hy depth r r' h
    obtain ⟨hnames, hattributes, hbehind⟩ := tag_append_inj (.empty hname hkeys hdistinct) hy h
    cases hy with
    | leaf => exact absurd (List.cons.inj hbehind).1 (by decide)
    | @empty name' attributes' =>
      obtain rfl : name = name' := hnames
      obtain rfl : attributes = attributes' := hattributes
      exact ⟨rfl, List.append_cancel_left hbehind⟩
    | node => exact absurd (List.cons.inj hbehind).1 (by decide)
  | @node name attributes children hname hkeys hdistinct hfull hchildren ih =>
    intro y hy depth r r' h
    obtain ⟨hnames, hattributes, hbehind⟩ := tag_append_inj (.node hname hkeys hdistinct hfull hchildren) hy h
    cases hy with
    | @leaf name' text' hname' =>
      simp only [behindTag, List.cons_append, List.append_assoc] at hbehind
      exact absurd (List.cons.inj hbehind).2.symm (text_ne_renderAll hfull hchildren text' _ _ _)
    | empty => exact absurd (List.cons.inj hbehind).1 (by decide)
    | @node name' attributes' children' _ _ _ _ hchildren' =>
      obtain rfl : name = name' := hnames
      obtain rfl : attributes = attributes' := hattributes
      simp only [behindTag, List.cons_append, List.append_assoc] at hbehind
      obtain ⟨hsame, hrest⟩ := renderAll_append_inj ih hchildren' (List.cons.inj (List.cons.inj hbehind).2).2
      rw [hsame]
      exact ⟨rfl, List.append_cancel_left hrest⟩

/-- Documents of elements whose names are words are the same only if the elements are. -/
theorem document_inj {x y : Xml} (hx : x.Worded) (hy : y.Worded) (h : x.document = y.document) : x = y := by
  have hrender : render 0 x = render 0 y := by
    have hchars := congrArg String.toList h
    rw [document, document, String.toList_append, String.toList_append, String.toList_ofList, String.toList_ofList] at hchars
    exact List.append_cancel_left hchars
  exact (readable_of_worded hx hy (congrArg (· ++ ([] : List Char)) hrender)).1

end BasinRegister.Xml
