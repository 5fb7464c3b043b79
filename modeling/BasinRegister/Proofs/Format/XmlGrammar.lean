import BasinRegister.Json.Reader
import BasinRegister.Text.Ranges

/-!
# Well-formed XML

The grammar of XML 1.0, for documents that declare this version and UTF-8 and that have no document type declaration, as
predicates of texts (`Xml.IsDocument`). The constraints that are no matter of grammar are part of them: the two tags of an
element have one name, the attributes of a tag have different names, and a reference is to one of the five predefined entities
or to a character that is allowed. All that a document is made of are legal characters (`Xml.IsDocument.legal`).

Which characters are allowed in texts, values and references is a parameter. With those of XML (`Xml.isLegal`) the grammar is that
of well-formed documents; with all of them it is everything of it but the choice of characters.
-/

namespace BasinRegister.Xml

/-! ## Characters and names -/

/-- Whether documents may hold a character, as it is or by a reference. -/
def isLegal (c : Char) : Bool :=
  Text.inRanges c.toNat [(0x9, 0xA), (0xD, 0xD), (0x20, 0xD7FF), (0xE000, 0xFFFD), (0x10000, 0x10FFFF)]

/-- A text of allowed characters. -/
def Within (allowed : Char → Bool) (cs : List Char) : Prop := ∀ c ∈ cs, allowed c = true

instance (allowed : Char → Bool) (cs : List Char) : Decidable (Within allowed cs) :=
  List.decidableBAll (fun c => allowed c = true) cs

/-- A text is allowed where both of its parts are. -/
theorem within_append {allowed : Char → Bool} {xs ys : List Char} :
    Within allowed (xs ++ ys) ↔ Within allowed xs ∧ Within allowed ys := List.forall_mem_append

/-- A text is allowed where its first character and the others are. -/
theorem within_cons {allowed : Char → Bool} {c : Char} {cs : List Char} :
    Within allowed (c :: cs) ↔ allowed c = true ∧ Within allowed cs := List.forall_mem_cons

/-- Whether a character may begin a name. -/
def isNameStart (c : Char) : Bool :=
  Text.inRanges c.toNat [(0x3A, 0x3A), (0x41, 0x5A), (0x5F, 0x5F), (0x61, 0x7A), (0xC0, 0xD6), (0xD8, 0xF6), (0xF8, 0x2FF),
    (0x370, 0x37D), (0x37F, 0x1FFF), (0x200C, 0x200D), (0x2070, 0x218F), (0x2C00, 0x2FEF), (0x3001, 0xD7FF), (0xF900, 0xFDCF),
    (0xFDF0, 0xFFFD), (0x10000, 0xEFFFF)]

/-- Whether a character may stand in a name. -/
def isNameChar (c : Char) : Bool :=
  isNameStart c ||
    Text.inRanges c.toNat [(0x2D, 0x2E), (0x30, 0x39), (0xB7, 0xB7), (0x300, 0x36F), (0x203F, 0x2040)]

/-- A name. -/
def IsName (cs : List Char) : Prop := cs.head?.any isNameStart = true ∧ ∀ c ∈ cs, isNameChar c = true

/-- Blanks, or nothing. -/
def IsBlank (cs : List Char) : Prop := ∀ c ∈ cs, c.isWhitespace = true

/-! ## Texts and values -/

variable (allowed : Char → Bool)

/-- The number that digits of base sixteen stand for. -/
def hexNumber? (digits : List Char) : Option Nat :=
  digits.foldlM (fun n c => (Json.hexValue? c).map (16 * n + ·)) 0

/-- A reference. -/
inductive IsReference : List Char → Prop where
  /-- To a predefined entity. -/
  | entity (name : String) (hname : name ∈ ["lt", "gt", "amp", "quot", "apos"]) : IsReference ('&' :: (name.toList ++ [';']))
  /-- To a character by its number. -/
  | decimal {digits : List Char} {c : Char} (hdigits : ∀ d ∈ digits, d.isDigit = true)
      (hread : Text.readDigits 0 digits = some c.toNat) (hne : digits ≠ []) (hc : allowed c = true) :
      IsReference ('&' :: '#' :: (digits ++ [';']))
  /-- To a character by its number in base sixteen. -/
  | hexadecimal {digits : List Char} {c : Char} (hdigits : ∀ d ∈ digits, (Json.hexValue? d).isSome = true)
      (hread : hexNumber? digits = some c.toNat) (hne : digits ≠ []) (hc : allowed c = true) :
      IsReference ('&' :: '#' :: 'x' :: (digits ++ [';']))

/-- A text without markup. -/
structure IsData (cs : List Char) : Prop where
  /-- Its characters are allowed. -/
  within : Within allowed cs
  /-- None of them begins markup. -/
  noMarkup : ∀ c ∈ cs, c ≠ '<' ∧ c ≠ '&'
  /-- It does not hold the end of a section. -/
  noEnd : ¬ "]]>".toList <:+: cs

/-- The value of an attribute between quotes of one sort. -/
inductive IsValue (quote : Char) : List Char → Prop where
  /-- The empty value. -/
  | nil : IsValue quote []
  /-- A character in front of a value. -/
  | char {c : Char} {cs : List Char} (hc : allowed c = true) (hplain : c ≠ '<' ∧ c ≠ '&' ∧ c ≠ quote)
      (hcs : IsValue quote cs) : IsValue quote (c :: cs)
  /-- A reference in front of a value. -/
  | reference {r cs : List Char} (hr : IsReference allowed r) (hcs : IsValue quote cs) : IsValue quote (r ++ cs)

/-- The attributes of a tag, with their names, and the blanks behind them. -/
inductive IsAttributes : List (List Char) → List Char → Prop where
  /-- There is no attribute. -/
  | nil {blanks : List Char} (hblanks : IsBlank blanks) : IsAttributes [] blanks
  /-- An attribute in front of others. -/
  | cons {names : List (List Char)} {blanks name before after value rest : List Char} {quote : Char} (hblanks : IsBlank blanks)
      (hne : blanks ≠ []) (hname : IsName name) (hbefore : IsBlank before) (hafter : IsBlank after)
      (hquote : quote = '\x22' ∨ quote = '\x27') (hvalue : IsValue allowed quote value) (hrest : IsAttributes names rest) :
      IsAttributes (name :: names) (blanks ++ (name ++ (before ++ '=' :: (after ++ quote :: (value ++ quote :: rest)))))

/-! ## Elements -/

/-- Markup around and between elements. -/
inductive IsAside : List Char → Prop where
  /-- A comment. -/
  | comment {body : List Char} (hbody : Within allowed body) (hend : ¬ ['-', '-'] <:+: body ++ ['-']) :
      IsAside ("<!--".toList ++ (body ++ "-->".toList))
  /-- A processing instruction. -/
  | instruction {target body : List Char} (htarget : IsName target) (hreserved : target.map Char.toLower ≠ "xml".toList)
      (hblank : ∀ c ∈ body.head?, c.isWhitespace = true) (hbody : Within allowed body) (hend : ¬ ['?', '>'] <:+: body) :
      IsAside ("<?".toList ++ (target ++ (body ++ "?>".toList)))

/-- What the grammar of elements is about. -/
inductive Part where
  /-- An element. -/
  | element
  /-- What stands between the tags of an element. -/
  | content

/-- Elements and their content. -/
inductive Derives : Part → List Char → Prop where
  /-- An element without content. -/
  | empty {name attributes : List Char} {names : List (List Char)} (hname : IsName name)
      (hattributes : IsAttributes allowed names attributes) (hdistinct : names.Nodup) :
      Derives .element ('<' :: (name ++ (attributes ++ ['/', '>'])))
  /-- An element between tags of one name. -/
  | tags {name attributes content blanks : List Char} {names : List (List Char)} (hname : IsName name)
      (hattributes : IsAttributes allowed names attributes) (hdistinct : names.Nodup) (hcontent : Derives .content content)
      (hblanks : IsBlank blanks) :
      Derives .element ('<' :: (name ++ (attributes ++ '>' :: (content ++ '<' :: '/' :: (name ++ (blanks ++ ['>']))))))
  /-- Content without markup. -/
  | data {cs : List Char} (hcs : IsData allowed cs) : Derives .content cs
  /-- An element in content. -/
  | element {data element rest : List Char} (hdata : IsData allowed data) (helement : Derives .element element)
      (hrest : Derives .content rest) : Derives .content (data ++ (element ++ rest))
  /-- A reference in content. -/
  | reference {data r rest : List Char} (hdata : IsData allowed data) (hr : IsReference allowed r)
      (hrest : Derives .content rest) : Derives .content (data ++ (r ++ rest))
  /-- A comment or a processing instruction in content. -/
  | aside {data aside rest : List Char} (hdata : IsData allowed data) (haside : IsAside allowed aside)
      (hrest : Derives .content rest) : Derives .content (data ++ (aside ++ rest))
  /-- A section of text in content. -/
  | text {data body rest : List Char} (hdata : IsData allowed data) (hbody : Within allowed body)
      (hend : ¬ "]]>".toList <:+: body) (hrest : Derives .content rest) :
      Derives .content (data ++ ("<![CDATA[".toList ++ (body ++ ("]]>".toList ++ rest))))

/-- What may stand around the root element. -/
inductive IsMargin : List Char → Prop where
  /-- Nothing. -/
  | nil : IsMargin []
  /-- A blank in front of others. -/
  | blank {c : Char} {rest : List Char} (hc : c.isWhitespace = true) (hrest : IsMargin rest) : IsMargin (c :: rest)
  /-- A comment or a processing instruction in front of others. -/
  | aside {aside rest : List Char} (haside : IsAside allowed aside) (hrest : IsMargin rest) : IsMargin (aside ++ rest)

/-- A document: the declaration and one element. -/
def IsDocument (cs : List Char) : Prop :=
  ∃ before root after, cs = "<?xml version=\"1.0\" encoding=\"UTF-8\"?>".toList ++ (before ++ (root ++ after)) ∧
    IsMargin allowed before ∧ Derives allowed .element root ∧ IsMargin allowed after

/-! ## Documents are legal throughout -/

/-- The legal characters by their numbers. -/
theorem isLegal_iff (c : Char) :
    isLegal c = true ↔ 0x9 ≤ c.toNat ∧ c.toNat ≤ 0xA ∨ c.toNat = 0xD ∨ 0x20 ≤ c.toNat ∧ c.toNat ≤ 0xD7FF ∨
      0xE000 ≤ c.toNat ∧ c.toNat ≤ 0xFFFD ∨ 0x10000 ≤ c.toNat ∧ c.toNat ≤ 0x10FFFF := by
  simp only [isLegal, Text.inRanges, List.any_cons, List.any_nil, Bool.or_false, Bool.or_eq_true, Bool.and_eq_true,
    decide_eq_true_eq]
  omega

/-- The characters of names are legal. -/
theorem isLegal_of_isNameChar {c : Char} (h : isNameChar c = true) : isLegal c = true := by
  rw [isLegal_iff]
  simp only [isNameChar, isNameStart, Text.inRanges, List.any_cons, List.any_nil, Bool.or_false, Bool.or_eq_true,
    Bool.and_eq_true, decide_eq_true_eq] at h
  omega

/-- White space is legal. -/
theorem isLegal_of_isWhitespace {c : Char} (h : c.isWhitespace = true) : isLegal c = true := by
  simp only [Char.isWhitespace, Bool.or_eq_true, decide_eq_true_eq] at h
  rcases h with ((rfl | rfl) | rfl) | rfl <;> decide

/-- Digits are legal. -/
theorem isLegal_of_isDigit {c : Char} (h : c.isDigit = true) : isLegal c = true := by
  rw [Char.isDigit_iff_toNat] at h
  have hlow : 48 ≤ c.toNat := h.1
  have hhigh : c.toNat ≤ 57 := h.2
  rw [isLegal_iff]
  omega

/-- So are hexadecimal digits. -/
theorem isLegal_of_hexValue? {c : Char} (h : (Json.hexValue? c).isSome = true) : isLegal c = true := by
  unfold Json.hexValue? at h
  split at h
  · rename_i hdigit
    exact isLegal_of_isDigit hdigit
  · rw [isLegal_iff]
    split at h
    · rename_i hlower
      rw [Bool.and_eq_true, decide_eq_true_eq, decide_eq_true_eq] at hlower
      have hlow : 97 ≤ c.toNat := hlower.1
      have hhigh : c.toNat ≤ 102 := hlower.2
      omega
    · split at h
      · rename_i hupper
        rw [Bool.and_eq_true, decide_eq_true_eq, decide_eq_true_eq] at hupper
        have hlow : 65 ≤ c.toNat := hupper.1
        have hhigh : c.toNat ≤ 70 := hupper.2
        omega
      · cases h

/-- Names are legal. -/
theorem IsName.legal {cs : List Char} (h : IsName cs) : Within isLegal cs := fun c hc => isLegal_of_isNameChar (h.2 c hc)

/-- Blanks are legal. -/
theorem IsBlank.legal {cs : List Char} (h : IsBlank cs) : Within isLegal cs := fun c hc => isLegal_of_isWhitespace (h c hc)

/-- References are legal, the numbered ones because digits are. -/
theorem IsReference.legal {cs : List Char} (h : IsReference isLegal cs) : Within isLegal cs := by
  cases h with
  | entity name hname =>
    have hall : ∀ name ∈ ["lt", "gt", "amp", "quot", "apos"], Within isLegal ('&' :: (name.toList ++ [';'])) := by
      decide
    exact hall name hname
  | decimal hdigits _ _ _ =>
    have hlegal : Within isLegal _ := fun d hd => isLegal_of_isDigit (hdigits d hd)
    simp only [within_cons, within_append]
    exact ⟨by decide, by decide, hlegal, by decide, by decide⟩
  | hexadecimal hdigits _ _ _ =>
    have hlegal : Within isLegal _ := fun d hd => isLegal_of_hexValue? (hdigits d hd)
    simp only [within_cons, within_append]
    exact ⟨by decide, by decide, by decide, hlegal, by decide, by decide⟩

/-- Values of attributes are legal. -/
theorem IsValue.legal {quote : Char} {cs : List Char} (h : IsValue isLegal quote cs) : Within isLegal cs := by
  induction h with
  | nil => exact List.forall_mem_nil _
  | char hc _ _ ih => exact within_cons.mpr ⟨hc, ih⟩
  | reference hr _ ih => exact within_append.mpr ⟨hr.legal, ih⟩

/-- Attributes are legal. -/
theorem IsAttributes.legal {names : List (List Char)} {cs : List Char} (h : IsAttributes isLegal names cs) :
    Within isLegal cs := by
  induction h with
  | nil hblanks => exact hblanks.legal
  | cons hblanks _ hname hbefore hafter hquote hvalue _ ih =>
    have hlegal {quote : Char} (h : quote = '\x22' ∨ quote = '\x27') : isLegal quote = true := by
      rcases h with rfl | rfl <;> decide
    simp only [within_cons, within_append]
    exact ⟨hblanks.legal, hname.legal, hbefore.legal, by decide, hafter.legal, hlegal hquote, hvalue.legal, hlegal hquote, ih⟩

/-- Comments and processing instructions are legal. -/
theorem IsAside.legal {cs : List Char} (h : IsAside isLegal cs) : Within isLegal cs := by
  cases h with
  | comment hbody _ =>
    simp only [within_append]
    exact ⟨by decide, hbody, by decide⟩
  | instruction htarget _ _ hbody _ =>
    simp only [within_append]
    exact ⟨by decide, htarget.legal, hbody, by decide⟩

/-- Whatever the grammar derives for a part of a document is legal, by induction on the derivation. -/
theorem Derives.legal {part : Part} {cs : List Char} (h : Derives isLegal part cs) : Within isLegal cs := by
  induction h with
  | empty hname hattributes _ =>
    simp only [within_cons, within_append]
    exact ⟨by decide, hname.legal, hattributes.legal, by decide, by decide, by decide⟩
  | tags hname hattributes _ _ hblanks ih =>
    simp only [within_cons, within_append]
    exact ⟨by decide, hname.legal, hattributes.legal, by decide, ih, by decide, by decide, hname.legal, hblanks.legal,
      by decide, by decide⟩
  | data hcs => exact hcs.within
  | element hdata _ _ ih ihrest =>
    simp only [within_append]
    exact ⟨hdata.within, ih, ihrest⟩
  | reference hdata hr _ ihrest =>
    simp only [within_append]
    exact ⟨hdata.within, hr.legal, ihrest⟩
  | aside hdata haside _ ihrest =>
    simp only [within_append]
    exact ⟨hdata.within, haside.legal, ihrest⟩
  | text hdata hbody _ _ ihrest =>
    simp only [within_append]
    exact ⟨hdata.within, by decide, hbody, by decide, ihrest⟩

/-- What stands around the root element is legal. -/
theorem IsMargin.legal {cs : List Char} (h : IsMargin isLegal cs) : Within isLegal cs := by
  induction h with
  | nil => exact List.forall_mem_nil _
  | blank hc _ ih => exact within_cons.mpr ⟨isLegal_of_isWhitespace hc, ih⟩
  | aside haside _ ih => exact within_append.mpr ⟨haside.legal, ih⟩

/-- All characters of a document are legal. -/
theorem IsDocument.legal {cs : List Char} (h : IsDocument isLegal cs) : Within isLegal cs := by
  obtain ⟨before, root, after, rfl, hbefore, hroot, hafter⟩ := h
  simp only [within_append]
  exact ⟨by decide, hbefore.legal, hroot.legal, hafter.legal⟩

end BasinRegister.Xml
