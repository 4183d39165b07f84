import Mathlib.Data.List.Infix

set_option autoImplicit false
set_option relaxedAutoImplicit false

/-!
Documents of XML 1.0, as far as reports need them: a declaration, and one element with its
attributes, elements and text inside. Markup characters in text and in values are written as one of
the five predefined entities; there are no comments, instructions, sections or document types.
-/

namespace ShellSuite.Xml

/-- Whether a character lies in one of some ranges, ends included. -/
def within (ranges : List (Nat × Nat)) (c : Char) : Bool :=
  ranges.any fun r => r.1 ≤ c.toNat && c.toNat ≤ r.2

def charRanges : List (Nat × Nat) :=
  [(0x9, 0xA), (0xD, 0xD), (0x20, 0xD7FF), (0xE000, 0xFFFD), (0x10000, 0x10FFFF)]

def nameStartRanges : List (Nat × Nat) :=
  [(0x3A, 0x3A), (0x41, 0x5A), (0x5F, 0x5F), (0x61, 0x7A), (0xC0, 0xD6), (0xD8, 0xF6),
    (0xF8, 0x2FF), (0x370, 0x37D), (0x37F, 0x1FFF), (0x200C, 0x200D), (0x2070, 0x218F),
    (0x2C00, 0x2FEF), (0x3001, 0xD7FF), (0xF900, 0xFDCF), (0xFDF0, 0xFFFD), (0x10000, 0xEFFFF)]

def nameRanges : List (Nat × Nat) :=
  nameStartRanges ++ [(0x2D, 0x2E), (0x30, 0x39), (0xB7, 0xB7), (0x300, 0x36F), (0x203F, 0x2040)]

def spaceRanges : List (Nat × Nat) :=
  [(0x9, 0xA), (0xD, 0xD), (0x20, 0x20)]

def isChar : Char → Bool :=
  within charRanges

def isName (name : String) : Bool :=
  match name.toList with
  | [] => false
  | c :: cs => within nameStartRanges c && cs.all (within nameRanges)

def isSpace : Char → Bool :=
  within spaceRanges

def entities : List (Char × String) :=
  [('&', "&amp;"), ('<', "&lt;"), ('>', "&gt;"), ('"', "&quot;"), ('\'', "&apos;")]

/-- An attribute: its name and its value, entities replaced. -/
abbrev Attribute := String × List Char

inductive Item where
  | char (c : Char)
  | element (name : String) (attributes : List Attribute) (content : List Item)

inductive Quoted (quote : Char) : List Char → List Char → Prop
  | nil : Quoted quote [] []
  | char {c : Char} {value text : List Char} (allowed : isChar c) (noTag : c ≠ '<')
      (noEntity : c ≠ '&') (inside : c ≠ quote) (rest : Quoted quote value text) :
      Quoted quote (c :: value) (c :: text)
  | entity {c : Char} {name : String} {value text : List Char} (known : (c, name) ∈ entities)
      (rest : Quoted quote value text) : Quoted quote (c :: value) (name.toList ++ text)

inductive Attributes : List Attribute → List Char → Prop
  | nil : Attributes [] []
  | cons {name : String} {value text space around behind more : List Char} {quote : Char}
      {attributes : List Attribute} (apart : space ≠ []) (hspace : space.all isSpace)
      (hname : isName name) (haround : around.all isSpace) (hbehind : behind.all isSpace)
      (hquote : quote = '"' ∨ quote = '\'') (hvalue : Quoted quote value text)
      (rest : Attributes attributes more) :
      Attributes ((name, value) :: attributes)
        (space ++ name.toList ++ around ++ '=' :: (behind ++ quote :: (text ++ quote :: more)))

/-- A tag up to its end mark: no attribute stands in it twice. -/
inductive TagStart : String → List Attribute → List Char → Prop
  | intro {name : String} {attributes : List Attribute} {text space : List Char}
      (hname : isName name) (distinct : (attributes.map (·.1)).Nodup)
      (written : Attributes attributes text) (hspace : space.all isSpace) :
      TagStart name attributes ('<' :: (name.toList ++ text ++ space))

/-- The content of an element. Every end tag has the name of the start tag it belongs to, and the
text has no `]]>` in it. -/
inductive Content : List Item → List Char → Prop
  | nil : Content [] []
  | char {c : Char} {items : List Item} {text : List Char} (allowed : isChar c) (noTag : c ≠ '<')
      (noEntity : c ≠ '&') (noEnd : ¬ [']', ']', '>'] <+: c :: text) (rest : Content items text) :
      Content (.char c :: items) (c :: text)
  | entity {c : Char} {name : String} {items : List Item} {text : List Char}
      (known : (c, name) ∈ entities) (rest : Content items text) :
      Content (.char c :: items) (name.toList ++ text)
  | empty {name : String} {attributes : List Attribute} {start : List Char} {items : List Item}
      {text : List Char} (tag : TagStart name attributes start) (rest : Content items text) :
      Content (.element name attributes [] :: items) (start ++ '/' :: '>' :: text)
  | element {name : String} {attributes : List Attribute} {start inner space : List Char}
      {content items : List Item} {text : List Char} (tag : TagStart name attributes start)
      (inside : Content content inner) (hspace : space.all isSpace) (rest : Content items text) :
      Content (.element name attributes content :: items)
        (start ++ '>' :: (inner ++ '<' :: '/' :: (name.toList ++ space ++ '>' :: text)))

/-- A document: the declaration of version and encoding, and one element. -/
inductive Document : Item → List Char → Prop
  | intro {declaration inner before after text : List Char} {name : String}
      {attributes : List Attribute} {content : List Item}
      (declared : Attributes [("version", "1.0".toList), ("encoding", "UTF-8".toList)] declaration)
      (hinner : inner.all isSpace) (hbefore : before.all isSpace)
      (root : Content [.element name attributes content] text) (hafter : after.all isSpace) :
      Document (.element name attributes content)
        ("<?xml".toList ++ declaration ++ inner ++ "?>".toList ++ before ++ text ++ after)

/-! ### Documents are made of characters -/

private theorem within_mono {narrow wide : List (Nat × Nat)}
    (h : ∀ r ∈ narrow, ∃ w ∈ wide, w.1 ≤ r.1 ∧ r.2 ≤ w.2) {c : Char} (hc : within narrow c) :
    within wide c := by
  obtain ⟨r, hr, hin⟩ := List.any_eq_true.mp hc
  obtain ⟨w, hw, hlow, hhigh⟩ := h r hr
  refine List.any_eq_true.mpr ⟨w, hw, ?_⟩
  simp only [Bool.and_eq_true, decide_eq_true_eq] at hin ⊢
  omega

theorem isChar_of_isSpace {c : Char} (h : isSpace c) : isChar c :=
  within_mono (by decide) h

private theorem isChar_of_name {c : Char} (h : within nameRanges c) : isChar c :=
  within_mono (by decide) h

private theorem isChar_of_mem_space {space : List Char} (h : space.all isSpace) {c : Char}
    (hc : c ∈ space) : isChar c :=
  isChar_of_isSpace (List.all_eq_true.mp h c hc)

theorem within_of_mem_name {name : String} (h : isName name) {c : Char} (hc : c ∈ name.toList) :
    within nameRanges c := by
  unfold isName at h
  split at h
  next => cases h
  next first rest hchars =>
    rw [Bool.and_eq_true, List.all_eq_true] at h
    rw [hchars] at hc
    rcases List.mem_cons.mp hc with rfl | hc
    · exact within_mono (by decide) h.1
    · exact h.2 c hc

private theorem isChar_of_mem_name {name : String} (h : isName name) {c : Char}
    (hc : c ∈ name.toList) :
    isChar c :=
  isChar_of_name (within_of_mem_name h hc)

private theorem isChar_of_mem_entity {c d : Char} {name : String} (h : (c, name) ∈ entities)
    (hd : d ∈ name.toList) : isChar d := by
  have hall : ∀ e ∈ entities, e.2.toList.all isChar := by decide
  exact List.all_eq_true.mp (hall _ h) d hd

theorem Quoted.isChar_of_mem {quote : Char} {value text : List Char} (h : Quoted quote value text)
    {c : Char} (hc : c ∈ text) : isChar c := by
  induction h with
  | nil => cases hc
  | char allowed _ _ _ _ ih =>
    rcases List.mem_cons.mp hc with rfl | hc
    · exact allowed
    · exact ih hc
  | entity known _ ih =>
    rcases List.mem_append.mp hc with hc | hc
    · exact isChar_of_mem_entity known hc
    · exact ih hc

theorem Attributes.isChar_of_mem {attributes : List Attribute} {text : List Char}
    (h : Attributes attributes text) {c : Char} (hc : c ∈ text) : isChar c := by
  induction h with
  | nil => cases hc
  | @cons name value text space around behind more quote attributes apart hspace hname haround
      hbehind hquote hvalue rest ih =>
    have hquoteChar : isChar quote := by
      rcases hquote with rfl | rfl
      · decide
      · decide
    simp only [List.mem_append, List.mem_cons] at hc
    rcases hc with ((hc | hc) | hc) | rfl | hc | rfl | hc | rfl | hc
    · exact isChar_of_mem_space hspace hc
    · exact isChar_of_mem_name hname hc
    · exact isChar_of_mem_space haround hc
    · decide
    · exact isChar_of_mem_space hbehind hc
    · exact hquoteChar
    · exact hvalue.isChar_of_mem hc
    · exact hquoteChar
    · exact ih hc

theorem TagStart.isChar_of_mem {name : String} {attributes : List Attribute} {start : List Char}
    (h : TagStart name attributes start) {c : Char} (hc : c ∈ start) : isChar c := by
  obtain ⟨hname, _, written, hspace⟩ := h
  simp only [List.mem_cons, List.mem_append] at hc
  rcases hc with rfl | (hc | hc) | hc
  · decide
  · exact isChar_of_mem_name hname hc
  · exact written.isChar_of_mem hc
  · exact isChar_of_mem_space hspace hc

theorem TagStart.isName {name : String} {attributes : List Attribute} {start : List Char}
    (h : TagStart name attributes start) : isName name := by
  obtain ⟨hname, _, _, _⟩ := h
  exact hname

theorem Content.isChar_of_mem {items : List Item} {text : List Char} (h : Content items text)
    {c : Char} (hc : c ∈ text) : isChar c := by
  induction h with
  | nil => cases hc
  | char allowed _ _ _ _ ih =>
    rcases List.mem_cons.mp hc with rfl | hc
    · exact allowed
    · exact ih hc
  | entity known _ ih =>
    rcases List.mem_append.mp hc with hc | hc
    · exact isChar_of_mem_entity known hc
    · exact ih hc
  | empty tag _ ih =>
    simp only [List.mem_append, List.mem_cons] at hc
    rcases hc with hc | rfl | rfl | hc
    · exact tag.isChar_of_mem hc
    · decide
    · decide
    · exact ih hc
  | element tag _ hspace _ ihInside ih =>
    simp only [List.mem_append, List.mem_cons] at hc
    rcases hc with hc | rfl | hc | rfl | rfl | (hc | hc) | rfl | hc
    · exact tag.isChar_of_mem hc
    · decide
    · exact ihInside hc
    · decide
    · decide
    · exact isChar_of_mem_name tag.isName hc
    · exact isChar_of_mem_space hspace hc
    · decide
    · exact ih hc

theorem Document.isChar_of_mem {root : Item} {text : List Char} (h : Document root text) {c : Char}
    (hc : c ∈ text) : isChar c := by
  obtain ⟨declared, hinner, hbefore, content, hafter⟩ := h
  have hopen : "<?xml".toList.all isChar := by decide
  have hclose : "?>".toList.all isChar := by decide
  simp only [List.mem_append] at hc
  rcases hc with (((((hc | hc) | hc) | hc) | hc) | hc) | hc
  · exact List.all_eq_true.mp hopen c hc
  · exact declared.isChar_of_mem hc
  · exact isChar_of_mem_space hinner hc
  · exact List.all_eq_true.mp hclose c hc
  · exact isChar_of_mem_space hbefore hc
  · exact content.isChar_of_mem hc
  · exact isChar_of_mem_space hafter hc

/-! ### Content in parts -/

theorem Attributes.append {first second : List Attribute} {text more : List Char}
    (h : Attributes first text) (hmore : Attributes second more) :
    Attributes (first ++ second) (text ++ more) := by
  induction h with
  | nil => exact hmore
  | cons apart hspace hname haround hbehind hquote hvalue _ ih =>
    have hcons := Attributes.cons apart hspace hname haround hbehind hquote hvalue ih
    simpa only [List.append_assoc, List.cons_append] using hcons

/-- Text that does not go on with the end of a section that began in front of it. -/
def Calm (text : List Char) : Prop :=
  text.head? ≠ some ']' ∧ text.head? ≠ some '>'

instance (text : List Char) : Decidable (Calm text) :=
  inferInstanceAs (Decidable (_ ∧ _))

private theorem not_sectionEnd_append {c : Char} {text more : List Char}
    (h : ¬ [']', ']', '>'] <+: c :: text) (hmore : Calm more) :
    ¬ [']', ']', '>'] <+: c :: (text ++ more) := by
  intro hfront
  rcases text with _ | ⟨d, _ | ⟨e, text⟩⟩
  · -- the second bracket would be the first character behind
    rcases more with _ | ⟨d, more⟩
    · exact absurd hfront.length_le (by simp)
    · simp only [List.nil_append, List.cons_prefix_cons] at hfront
      exact hmore.1 (by rw [← hfront.2.1]; rfl)
  · rcases more with _ | ⟨e, more⟩
    · exact absurd hfront.length_le (by simp)
    · simp only [List.cons_append, List.nil_append, List.cons_prefix_cons] at hfront
      exact hmore.2 (by rw [← hfront.2.2.1]; rfl)
  · apply h
    simpa only [List.cons_append, List.cons_prefix_cons, List.nil_prefix] using hfront

theorem Content.append {first second : List Item} {text more : List Char} (h : Content first text)
    (hmore : Content second more) (hcalm : Calm more) :
    Content (first ++ second) (text ++ more) := by
  induction h with
  | nil => exact hmore
  | char allowed noTag noEntity noEnd _ ih =>
    exact .char allowed noTag noEntity (not_sectionEnd_append noEnd hcalm) ih
  | entity known _ ih =>
    have hcons := Content.entity known ih
    simpa only [List.append_assoc, List.cons_append] using hcons
  | empty tag _ ih =>
    have hcons := Content.empty tag ih
    simpa only [List.append_assoc, List.cons_append] using hcons
  | element tag inside hspace _ _ ih =>
    have hcons := Content.element tag inside hspace ih
    simpa only [List.append_assoc, List.cons_append] using hcons

end ShellSuite.Xml
