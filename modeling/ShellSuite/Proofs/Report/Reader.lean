import ShellSuite.Proofs.Report.JUnit

set_option autoImplicit false
set_option relaxedAutoImplicit false

/-!
A reader for the elements of a document: their names, their attributes and how they are nested. Text
between tags is passed over. It takes documents in which `<` and `>` stand for tags only, in which
all values are in double quotes and one blank stands in front of each attribute.
-/

namespace ShellSuite.Xml

/-! ### Values -/

/-- The text that entities and other characters stand for, in one pass from left to right. -/
def unescape : List Char → List Char
  | '&' :: 'a' :: 'm' :: 'p' :: ';' :: text => '&' :: unescape text
  | '&' :: 'l' :: 't' :: ';' :: text => '<' :: unescape text
  | '&' :: 'g' :: 't' :: ';' :: text => '>' :: unescape text
  | '&' :: 'q' :: 'u' :: 'o' :: 't' :: ';' :: text => '"' :: unescape text
  | '&' :: 'a' :: 'p' :: 'o' :: 's' :: ';' :: text => '\'' :: unescape text
  | c :: text => c :: unescape text
  | [] => []

private theorem unescape_entity {c : Char} {name : String} (h : (c, name) ∈ entities)
    (text : List Char) :
    unescape (name.toList ++ text) = c :: unescape text := by
  simp only [entities, List.mem_cons, Prod.mk.injEq, List.not_mem_nil, or_false] at h
  rcases h with ⟨rfl, rfl⟩ | ⟨rfl, rfl⟩ | ⟨rfl, rfl⟩ | ⟨rfl, rfl⟩ | ⟨rfl, rfl⟩ <;>
    simp [unescape]

private theorem unescape_cons_of_ne {c : Char} (h : c ≠ '&') (text : List Char) :
    unescape (c :: text) = c :: unescape text := by
  simp [unescape, h]

def numeral? (digits : List Char) : Option Nat :=
  if digits ≠ [] ∧ digits.all Char.isDigit then some (Nat.ofDigitChars 10 digits 0) else none

theorem numeral?_toString (n : Nat) : numeral? (toString n).toList = some n := by
  have hdigits : (toString n).toList = Nat.toDigits 10 n := by simp
  have hall : (Nat.toDigits 10 n).all Char.isDigit := by
    rw [List.all_eq_true]
    exact fun c hc => Nat.isDigit_of_mem_toDigits (by decide) (by decide) hc
  rw [hdigits, numeral?, if_pos ⟨Nat.toDigits_ne_nil, hall⟩, Nat.ofDigitChars_ten_toDigits]

/-! ### Elements and tags -/

/-- An element without the text in it. -/
inductive Element where
  | mk (name : String) (attributes : List Attribute) (children : List Element)

namespace Element

def name : Element → String
  | mk name _ _ => name

def attributes : Element → List Attribute
  | mk _ attributes _ => attributes

def children : Element → List Element
  | mk _ _ children => children

def value? (e : Element) (name : String) : Option (List Char) :=
  (e.attributes.find? (·.1 = name)).map (·.2)

def number? (e : Element) (name : String) : Option Nat :=
  (e.value? name).bind numeral?

end Element

/-- What stands between `<` and `>`. -/
inductive Tag where
  | opening (name : String) (attributes : List Attribute)
  | empty (name : String) (attributes : List Attribute)
  | closing (name : String)
  | instruction

def isQuote (c : Char) : Bool :=
  c == '"'

/-- The attributes of a tag, whose text is given in the pieces between its double quotes, and
whether the tag ends its element as well. -/
def readAttributes : List (List Char) → Option (List Attribute × Bool)
  | [last] => if last = [] then some ([], false) else if last = ['/'] then some ([], true) else none
  | (' ' :: label) :: value :: pieces =>
    match Text.cutFirst '=' label, readAttributes pieces with
    | some (name, []), some (attributes, ended) =>
      some ((String.ofList name, unescape value) :: attributes, ended)
    | _, _ => none
  | _ => none

private theorem readAttributes_cons {name : List Char} (h : '=' ∉ name) (value : List Char)
    (pieces : List (List Char)) :
    readAttributes ((' ' :: name ++ ['=']) :: value :: pieces) =
      (readAttributes pieces).map fun (more, ended) =>
        ((String.ofList name, unescape value) :: more, ended) := by
  rw [List.cons_append, readAttributes, Text.cutFirst_append_cons h []]
  cases readAttributes pieces <;> rfl

def readTag : List Char → Option Tag
  | '?' :: _ => some .instruction
  | '/' :: name => some (.closing (String.ofList name))
  | text =>
    let inName (c : Char) : Bool := c ≠ ' ' && c ≠ '/'
    let name := String.ofList (text.takeWhile inName)
    match readAttributes (Text.splitAt isQuote (text.dropWhile inName)) with
    | some (attributes, false) => some (.opening name attributes)
    | some (attributes, true) => some (.empty name attributes)
    | none => none

/-! ### Reading a document -/

/-- An element whose end has not been read yet, and the elements in front of it. -/
structure Frame where
  front : List Element
  name : String
  attributes : List Attribute

/-- The elements that have been begun, the innermost one first, the elements inside it so far, and
what has been read of a tag. -/
structure Reader where
  outer : List Frame
  inside : List Element
  tag : Option (List Char)

namespace Reader

def start : Reader := ⟨[], [], none⟩

/-- What a tag does. The name of an end tag must be that of the element begun last. -/
def take (r : Reader) : Tag → Option Reader
  | .opening name attributes => some ⟨⟨r.inside, name, attributes⟩ :: r.outer, [], none⟩
  | .empty name attributes => some ⟨r.outer, r.inside ++ [.mk name attributes []], none⟩
  | .closing name =>
    match r.outer with
    | [] => none
    | f :: outer =>
      if f.name = name then some ⟨outer, f.front ++ [.mk name f.attributes r.inside], none⟩
      else none
  | .instruction => some ⟨r.outer, r.inside, none⟩

def step (r : Reader) (c : Char) : Option Reader :=
  match r.tag with
  | none => some (if c = '<' then ⟨r.outer, r.inside, some []⟩ else r)
  | some text =>
    if c = '>' then (readTag text).bind r.take
    else if c = '<' then none
    else some ⟨r.outer, r.inside, some (text ++ [c])⟩

end Reader

def readDocument (text : List Char) : Option Element :=
  match text.foldlM Reader.step .start with
  | some ⟨[], [root], none⟩ => some root
  | _ => none

/-! ### Texts by the elements in them -/

/-- A text that is read as these elements, wherever it stands. -/
def Spells (text : String) (elements : List Element) : Prop :=
  ∀ outer inside, text.toList.foldlM Reader.step ⟨outer, inside, none⟩ =
    some ⟨outer, inside ++ elements, none⟩

theorem Spells.readDocument {text : String} {root : Element} (h : Spells text [root]) :
    readDocument text.toList = some root := by
  unfold Xml.readDocument
  rw [Reader.start, h]
  rfl

theorem Spells.append {a b : String} {first second : List Element} (ha : Spells a first)
    (hb : Spells b second) : Spells (a ++ b) (first ++ second) := by
  intro outer inside
  rw [String.toList_append, List.foldlM_append, ha, ← List.append_assoc]
  exact hb _ _

theorem Spells.text {s : String} (h : '<' ∉ s.toList) : Spells s [] := by
  intro outer inside
  rw [List.append_nil]
  generalize s.toList = cs at h
  induction cs with
  | nil => rfl
  | cons c cs ih =>
    rw [List.mem_cons, not_or] at h
    have hstep : Reader.step ⟨outer, inside, none⟩ c = some ⟨outer, inside, none⟩ := by
      simp [Reader.step, Ne.symm h.1]
    rw [List.foldlM_cons, hstep]
    exact ih h.2

theorem Spells.between {before text after : String} {elements : List Element}
    (hbefore : '<' ∉ before.toList) (hafter : '<' ∉ after.toList) (h : Spells text elements) :
    Spells (before ++ text ++ after) elements := by
  have haround := ((Spells.text hbefore).append h).append (.text hafter)
  rwa [List.nil_append, List.append_nil] at haround

theorem Spells.join {α : Type} {texts : α → String} {elements : α → List Element} {xs : List α}
    (h : ∀ x ∈ xs, Spells (texts x) (elements x)) :
    Spells (String.join (xs.map texts)) (xs.flatMap elements) := by
  induction xs with
  | nil => exact .text (by simp)
  | cons x xs ih =>
    rw [List.map_cons, String.join_cons, List.flatMap_cons]
    exact (h x List.mem_cons_self).append (ih fun y hy => h y (List.mem_cons_of_mem x hy))

private theorem foldlM_tag {text : List Char} (hless : '<' ∉ text) (hmore : '>' ∉ text)
    (outer : List Frame) (inside : List Element) :
    ('<' :: text ++ ['>']).foldlM Reader.step ⟨outer, inside, none⟩ =
      (readTag text).bind (Reader.take ⟨outer, inside, none⟩) := by
  -- by induction on what is left of the tag, behind any part that has been read
  have hread : ∀ done : List Char, (text ++ ['>']).foldlM Reader.step ⟨outer, inside, some done⟩ =
      (readTag (done ++ text)).bind (Reader.take ⟨outer, inside, none⟩) := by
    induction text with
    | nil =>
      intro done
      have hend : Reader.step ⟨outer, inside, some done⟩ '>' =
          (readTag done).bind (Reader.take ⟨outer, inside, none⟩) := rfl
      rw [List.nil_append, List.foldlM_cons, hend]
      simp
    | cons c text ih =>
      intro done
      rw [List.mem_cons, not_or] at hless hmore
      have hstep : Reader.step ⟨outer, inside, some done⟩ c =
          some ⟨outer, inside, some (done ++ [c])⟩ := by
        simp [Reader.step, Ne.symm hless.1, Ne.symm hmore.1]
      rw [List.cons_append, List.foldlM_cons, hstep]
      simpa using ih hless.2 hmore.2 (done ++ [c])
  exact hread []

theorem Spells.instruction {text : String} (hless : '<' ∉ text.toList) (hmore : '>' ∉ text.toList) :
    Spells ("<?" ++ text ++ ">") [] := by
  intro outer inside
  have htext : ("<?" ++ text ++ ">").toList = '<' :: ('?' :: text.toList) ++ ['>'] := by simp
  rw [htext, foldlM_tag (by simp [hless]) (by simp [hmore]), List.append_nil]
  rfl

/-! ### Written tags -/

theorem not_mem_of_isName {name : String} (h : isName name) {c : Char}
    (hc : within nameRanges c = false) : c ∉ name.toList := by
  intro hmem
  rw [within_of_mem_name h hmem] at hc
  cases hc

private theorem append_ne_cons_of_isName {name : String} (h : isName name) {c : Char}
    (hc : within nameRanges c = false) (text rest : List Char) :
    name.toList ++ text ≠ c :: rest := by
  intro heq
  cases hchars : name.toList with
  | nil => simp [isName, hchars] at h
  | cons d ds =>
    rw [hchars, List.cons_append] at heq
    obtain ⟨rfl, -⟩ := List.cons.inj heq
    exact not_mem_of_isName h hc (by simp [hchars])

/-- A text that is read as these attributes, wherever it stands in a tag. -/
structure Lists (written : String) (attributes : List Attribute) : Prop where
  apart : ∀ c ∈ written.toList.head?, c = ' '
  noTag : '<' ∉ written.toList ∧ '>' ∉ written.toList
  reads : ∀ rest, readAttributes (Text.splitAt isQuote (written.toList ++ rest)) =
    (readAttributes (Text.splitAt isQuote rest)).map fun (more, ended) =>
      (attributes ++ more, ended)

theorem Lists.empty : Lists "" [] where
  apart := by simp
  noTag := by simp
  reads rest := by simp

theorem Lists.append {a b : String} {first second : List Attribute} (ha : Lists a first)
    (hb : Lists b second) : Lists (a ++ b) (first ++ second) where
  apart := by
    intro c hc
    rw [String.toList_append, List.head?_append] at hc
    cases hhead : a.toList.head? with
    | none => exact hb.apart c (by simpa [hhead] using hc)
    | some d => exact ha.apart c (by simpa [hhead] using hc)
  noTag := by
    rw [String.toList_append, List.mem_append, List.mem_append]
    exact ⟨not_or.mpr ⟨ha.noTag.1, hb.noTag.1⟩, not_or.mpr ⟨ha.noTag.2, hb.noTag.2⟩⟩
  reads rest := by
    rw [String.toList_append, List.append_assoc, ha.reads, hb.reads, Option.map_map]
    simp only [Function.comp_def, List.append_assoc]

private theorem readTag_name {name : String} (hname : isName name) {text : List Char}
    (htext : ∀ c ∈ text.head?, c = ' ' ∨ c = '/') {attributes : List Attribute} {ended : Bool}
    (hread : readAttributes (Text.splitAt isQuote text) = some (attributes, ended)) :
    readTag (name.toList ++ text) =
      some (if ended then .empty name attributes else .opening name attributes) := by
  let inName (c : Char) : Bool := c ≠ ' ' && c ≠ '/'
  have hall : ∀ c ∈ name.toList, inName c := by
    intro c hc
    have hblank : c ≠ ' ' := by rintro rfl; exact not_mem_of_isName hname (by decide) hc
    have hslash : c ≠ '/' := by rintro rfl; exact not_mem_of_isName hname (by decide) hc
    simp [inName, hblank, hslash]
  have hnone : text.takeWhile inName = [] ∧ text.dropWhile inName = text := by
    cases text with
    | nil => exact ⟨rfl, rfl⟩
    | cons c text =>
      have hc : inName c = false := by
        rcases htext c rfl with rfl | rfl <;> rfl
      simp [hc]
  have htake : (name.toList ++ text).takeWhile inName = name.toList := by
    rw [List.takeWhile_append_of_pos hall, hnone.1, List.append_nil]
  have hdrop : (name.toList ++ text).dropWhile inName = text := by
    rw [List.dropWhile_append_of_pos hall, hnone.2]
  unfold readTag
  split
  case h_1 rest heq => exact absurd heq (append_ne_cons_of_isName hname (by decide) _ _)
  case h_2 rest heq => exact absurd heq (append_ne_cons_of_isName hname (by decide) _ _)
  case h_3 =>
    simp only [inName] at htake hdrop
    simp only [htake, hdrop, hread, String.ofList_toList]
    cases ended <;> rfl

theorem Lists.readTag {name written : String} {attributes : List Attribute}
    (h : Lists written attributes) (hname : isName name) (last : List Char) (ended : Bool)
    (hhead : ∀ c ∈ last.head?, c = '/')
    (hlast : readAttributes (Text.splitAt isQuote last) = some ([], ended)) :
    readTag (name.toList ++ (written.toList ++ last)) =
      some (if ended then .empty name attributes else .opening name attributes) := by
  refine readTag_name hname ?_ ?_
  · intro c hc
    rw [List.head?_append, Option.mem_def, Option.or_eq_some_iff] at hc
    rcases hc with hc | ⟨-, hc⟩
    · exact .inl (h.apart c hc)
    · exact .inr (hhead c hc)
  · rw [h.reads, hlast]
    simp

theorem Spells.element {name written inner : String} {attributes : List Attribute}
    {children : List Element} (hname : isName name) (hwritten : Lists written attributes)
    (hinner : Spells inner children) :
    Spells ("<" ++ name ++ written ++ ">" ++ inner ++ "</" ++ name ++ ">")
      [.mk name attributes children] := by
  have hless : '<' ∉ name.toList := not_mem_of_isName hname (by decide)
  have hmore : '>' ∉ name.toList := not_mem_of_isName hname (by decide)
  have hopen : readTag (name.toList ++ (written.toList ++ [])) =
      some (.opening name attributes) :=
    hwritten.readTag hname [] false (by simp) (by decide)
  have hclose : readTag ('/' :: name.toList) = some (.closing name) := by simp [readTag]
  intro outer inside
  have htext : ("<" ++ name ++ written ++ ">" ++ inner ++ "</" ++ name ++ ">").toList =
      ('<' :: (name.toList ++ (written.toList ++ [])) ++ ['>']) ++ (inner.toList ++
        ('<' :: ('/' :: name.toList) ++ ['>'])) := by simp
  rw [htext, List.foldlM_append, foldlM_tag (by simp [hless, hwritten.noTag.1])
    (by simp [hmore, hwritten.noTag.2]), hopen]
  have hstart : Reader.take ⟨outer, inside, none⟩ (.opening name attributes) =
      some ⟨⟨inside, name, attributes⟩ :: outer, [], none⟩ := rfl
  simp only [hstart, bind, Option.bind]
  rw [List.foldlM_append, hinner]
  simp only [bind, Option.bind]
  rw [foldlM_tag (by simp [hless]) (by simp [hmore]), hclose]
  simp [Reader.take]

theorem Spells.emptyElement {name written : String} {attributes : List Attribute}
    (hname : isName name) (hwritten : Lists written attributes) :
    Spells ("<" ++ name ++ written ++ "/>") [.mk name attributes []] := by
  have hless : '<' ∉ name.toList := not_mem_of_isName hname (by decide)
  have hmore : '>' ∉ name.toList := not_mem_of_isName hname (by decide)
  have htag : readTag (name.toList ++ (written.toList ++ ['/'])) =
      some (.empty name attributes) :=
    hwritten.readTag hname ['/'] true (by simp) (by decide)
  intro outer inside
  have htext : ("<" ++ name ++ written ++ "/>").toList =
      '<' :: (name.toList ++ (written.toList ++ ['/'])) ++ ['>'] := by simp
  rw [htext, foldlM_tag (by simp [hless, hwritten.noTag.1]) (by simp [hmore, hwritten.noTag.2]),
    htag]
  rfl

end ShellSuite.Xml

namespace ShellSuite.Report

open Xml

theorem unescape_escapeXml (s : String) : unescape (escapeXml s).toList = s.toList := by
  rw [toList_escapeXml]
  generalize s.toList = cs
  induction cs with
  | nil => rfl
  | cons c cs ih =>
    rw [List.flatMap_cons]
    rcases escapeXmlChar_cases c with ⟨name, hknown, hname⟩ | ⟨⟨-, hand, -, -, -⟩, hself⟩
    · rw [hname, unescape_entity hknown, ih]
    · rw [hself, List.singleton_append, unescape_cons_of_ne hand, ih]

theorem not_mem_escapeXml {d : Char} (hd : d ∈ ['<', '>', '"', '\'']) (s : String) :
    d ∉ (escapeXml s).toList := by
  rw [toList_escapeXml]
  exact not_mem_flatMap_escapeXmlChar hd _

theorem spells_escapeXml (s : String) : Spells (escapeXml s) [] :=
  .text (not_mem_escapeXml (by decide) s)

private theorem escapeXml_of_numeric {s : String} (h : Numeric s) : escapeXml s = s := by
  apply String.toList_injective
  rw [toList_escapeXml]
  have hself : ∀ c ∈ s.toList, escapeXmlChar c = [c] := by
    intro c hc
    rcases escapeXmlChar_cases c with ⟨name, hknown, -⟩ | ⟨-, hself⟩
    · have hentities : ∀ e ∈ entities, ¬ (e.1.isDigit ∨ e.1 = '.') := by decide
      exact absurd (h c hc) (hentities _ hknown)
    · exact hself
  rw [List.flatMap_congr hself, List.flatMap_singleton']

theorem lists_property {name : String} (hname : isName name) (value : String) :
    Lists (property name (escapeXml value)) [(name, value.toList)] := by
  have htext (rest : List Char) : (property name (escapeXml value)).toList ++ rest =
      (' ' :: name.toList ++ ['=']) ++ '"' :: ((escapeXml value).toList ++ '"' :: rest) := by
    simp [property]
  have hlabel : ∀ c ∈ ' ' :: name.toList ++ ['='], isQuote c = false := by
    have hquote := not_mem_of_isName hname (by decide : within nameRanges '"' = false)
    simp only [List.cons_append, List.mem_cons, List.mem_append, List.not_mem_nil, or_false]
    rintro c (rfl | hc | rfl)
    · rfl
    · exact beq_false_of_ne fun h => hquote (h ▸ hc)
    · rfl
  have hdouble : '"' ∉ (escapeXml value).toList := not_mem_escapeXml (by decide) value
  have hvalue : ∀ c ∈ (escapeXml value).toList, isQuote c = false := fun c hc =>
    beq_false_of_ne fun h => hdouble (h ▸ hc)
  refine ⟨by simp [property], ⟨?_, ?_⟩, ?_⟩
  · simp [property, not_mem_of_isName hname (by decide : within nameRanges '<' = false),
      not_mem_escapeXml]
  · simp [property, not_mem_of_isName hname (by decide : within nameRanges '>' = false),
      not_mem_escapeXml]
  · intro rest
    have hquote : isQuote '"' = true := rfl
    rw [htext, Text.splitAt_append_cons _ _ _ hquote, Text.splitAt_append_cons _ _ _ hquote,
      Text.splitAt_of_forall_not hlabel, Text.splitAt_of_forall_not hvalue]
    rw [List.singleton_append, List.singleton_append, readAttributes_cons
      (not_mem_of_isName hname (by decide)), String.ofList_toList, unescape_escapeXml]
    rfl

theorem lists_number {name : String} (hname : isName name) {value : String} (h : Numeric value) :
    Lists (property name value) [(name, value.toList)] := by
  have hproperty := lists_property hname value
  rwa [escapeXml_of_numeric h] at hproperty

theorem lists_numbers (tests failures idle : Nat) (time : Decimal.Binary) :
    Lists (numbers tests failures idle time) (numberAttributes tests failures idle time) :=
  (((lists_number (by decide) (numeric_toString tests)).append
    (lists_number (by decide) (numeric_toString failures))).append
    (lists_number (by decide) (numeric_toString idle))).append
    (lists_number (by decide) (numeric_fixedText time 3))

end ShellSuite.Report
