import Mathlib.Data.List.Induction
import ShellSuite.Proofs.Dict
import ShellSuite.Proofs.Report.Xml
import ShellSuite.Proofs.Text
import ShellSuite.Report.JUnit

set_option autoImplicit false
set_option relaxedAutoImplicit false

/-!
JUnit reports as XML documents. A report is a well-formed document, with its elements nested as they
should be, exactly if all texts it shows are made of characters of XML: markup is written as
entities, while a character that no document may hold gets into the report as it is.
-/

namespace ShellSuite.Report

open Xml

/-! ### Characters of a report -/

/-- A text of characters that a document may hold. -/
def AllChars (s : String) : Prop :=
  ∀ c ∈ s.toList, isChar c

instance (s : String) : Decidable (AllChars s) :=
  decidable_of_iff (s.toList.all isChar) List.all_eq_true

@[simp] theorem allChars_append (a b : String) : AllChars (a ++ b) ↔ AllChars a ∧ AllChars b := by
  simp [AllChars, or_imp, forall_and]

@[simp] theorem allChars_join (texts : List String) :
    AllChars (String.join texts) ↔ ∀ s ∈ texts, AllChars s := by
  simp only [AllChars, String.toList_join, List.mem_flatMap]
  constructor
  · intro h s hs c hc
    exact h c ⟨s, hs, hc⟩
  · rintro h c ⟨s, hs, hc⟩
    exact h s hs c hc

def escapeXmlChar : Char → List Char :=
  Text.rendering markup

theorem escapeXmlChar_cases (c : Char) :
    (∃ name, (c, name) ∈ entities ∧ escapeXmlChar c = name.toList) ∨
      (c ≠ '<' ∧ c ≠ '&' ∧ c ≠ '>' ∧ c ≠ '"' ∧ c ≠ '\'') ∧ escapeXmlChar c = [c] := by
  by_cases hand : c = '&'
  · subst hand
    exact .inl ⟨"&amp;", by decide, rfl⟩
  by_cases hless : c = '<'
  · subst hless
    exact .inl ⟨"&lt;", by decide, rfl⟩
  by_cases hmore : c = '>'
  · subst hmore
    exact .inl ⟨"&gt;", by decide, rfl⟩
  by_cases hquote : c = '"'
  · subst hquote
    exact .inl ⟨"&quot;", by decide, rfl⟩
  by_cases hsingle : c = '\''
  · subst hsingle
    exact .inl ⟨"&apos;", by decide, rfl⟩
  · have hself : escapeXmlChar c = [c] :=
      Text.rendering_of_forall_ne (by simp [markup, hand, hless, hmore, hquote, hsingle])
    exact .inr ⟨⟨hless, hand, hmore, hquote, hsingle⟩, hself⟩

/-- Of the entities, only the mark they start with is a character of markup, and it is replaced
first, so that the five replacements come to a single one. -/
theorem toList_escapeXml (s : String) : (escapeXml s).toList = s.toList.flatMap escapeXmlChar :=
  Text.toList_foldl_replace (by decide) s

private theorem escapeXml_append (a b : String) : escapeXml
    (a ++ b) = escapeXml a ++ escapeXml b := by
  apply String.toList_injective
  simp [toList_escapeXml]

private theorem escapeXml_join (texts : List String) :
    escapeXml (String.join texts) = String.join (texts.map escapeXml) := by
  apply String.toList_injective
  simp only [toList_escapeXml, String.toList_join, List.flatMap_assoc, List.flatMap_map]

private theorem allChars_of_escapeXml {s : String} (h : AllChars (escapeXml s)) : AllChars s := by
  -- escaping changes markup only, so it keeps what is not allowed
  intro c hc
  have hescaped : ∀ d ∈ escapeXmlChar c, isChar d := by
    intro d hd
    apply h
    rw [toList_escapeXml]
    exact List.mem_flatMap.mpr ⟨c, hc, hd⟩
  rcases escapeXmlChar_cases c with ⟨name, hknown, -⟩ | ⟨-, hself⟩
  · have hentities : ∀ e ∈ entities, isChar e.1 := by decide
    exact hentities _ hknown
  · exact hescaped c (by rw [hself]; exact List.mem_singleton_self c)

/-! ### Values and text -/

private theorem quoted_escapeXml {s : String} (h : AllChars s) :
    Quoted '"' s.toList (escapeXml s).toList := by
  have hchars : ∀ cs : List Char, (∀ c ∈ cs, isChar c) →
      Quoted '"' cs (cs.flatMap escapeXmlChar) := by
    intro cs
    induction cs with
    | nil => exact fun _ => .nil
    | cons c cs ih =>
      intro h
      have hrest := ih fun d hd => h d (List.mem_cons_of_mem c hd)
      rw [List.flatMap_cons]
      rcases escapeXmlChar_cases c with ⟨name, hknown, hname⟩ | ⟨⟨hless, hand, -, hquote, -⟩, hself⟩
      · rw [hname]
        exact .entity hknown hrest
      · rw [hself]
        exact .char (h c List.mem_cons_self) hless hand hquote hrest
  rw [toList_escapeXml]
  exact hchars _ h

theorem not_mem_flatMap_escapeXmlChar {d : Char} (hd : d ∈ ['<', '>', '"', '\'']) (cs : List Char) :
    d ∉ cs.flatMap escapeXmlChar := by
  intro hmem
  obtain ⟨c, -, hc⟩ := List.mem_flatMap.mp hmem
  rcases escapeXmlChar_cases c with
    ⟨name, hknown, hname⟩ | ⟨⟨hless, -, hmore, hquote, hsingle⟩, hself⟩
  · have hentities : ∀ e ∈ entities, d ∉ e.2.toList := by
      simp only [List.mem_cons, List.not_mem_nil, or_false] at hd
      rcases hd with rfl | rfl | rfl | rfl <;> decide
    exact hentities _ hknown (hname ▸ hc)
  · rw [hself, List.mem_singleton] at hc
    subst hc
    simp [hless, hmore, hquote, hsingle] at hd

private theorem content_escapeXml {s : String} (h : AllChars s) :
    Content (s.toList.map .char) (escapeXml s).toList := by
  have hchars : ∀ cs : List Char, (∀ c ∈ cs, isChar c) →
      Content (cs.map .char) (cs.flatMap escapeXmlChar) := by
    intro cs
    induction cs with
    | nil => exact fun _ => .nil
    | cons c cs ih =>
      intro h
      have hrest := ih fun d hd => h d (List.mem_cons_of_mem c hd)
      have hnone : '>' ∉ (c :: cs).flatMap escapeXmlChar :=
        not_mem_flatMap_escapeXmlChar (by decide) (c :: cs)
      rw [List.flatMap_cons] at hnone ⊢
      rcases escapeXmlChar_cases c with ⟨name, hknown, hname⟩ | ⟨⟨hless, hand, -, -, -⟩, hself⟩
      · rw [hname]
        exact .entity hknown hrest
      · rw [hself] at hnone ⊢
        refine .char (h c List.mem_cons_self) hless hand ?_ hrest
        intro hfront
        exact hnone (hfront.subset (by simp))
  rw [toList_escapeXml]
  exact hchars _ h

def Numeric (s : String) : Prop :=
  ∀ c ∈ s.toList, c.isDigit ∨ c = '.'

private theorem numeric_append {a b : String} (ha : Numeric a) (hb : Numeric b) : Numeric
    (a ++ b) := by
  intro c hc
  rw [String.toList_append] at hc
  rcases List.mem_append.mp hc with hc | hc
  · exact ha c hc
  · exact hb c hc

theorem numeric_toString (n : Nat) : Numeric (toString n) := by
  intro c hc
  have hdigits : c ∈ Nat.toDigits 10 n := by simpa using hc
  exact .inl (Nat.isDigit_of_mem_toDigits (by decide) (by decide) hdigits)

private theorem numeric_padded (width n : Nat) : Numeric (Decimal.padded width n) := by
  refine numeric_append ?_ (numeric_toString n)
  intro c hc
  rw [String.toList_ofList] at hc
  rw [List.eq_of_mem_replicate hc]
  exact .inl (by decide)

private theorem numeric_fixed (places n : Nat) : Numeric (Decimal.fixed places n) := by
  have hpoint : Numeric "." := by
    intro c hc
    exact .inr (List.mem_singleton.mp hc)
  unfold Decimal.fixed
  split
  · exact numeric_toString n
  · exact numeric_append (numeric_append (numeric_toString _) hpoint) (numeric_padded _ _)

theorem numeric_fixedText (b : Decimal.Binary) (places : Nat) : Numeric (b.fixedText places) := by
  exact numeric_fixed places _

private theorem isChar_of_isDigit {c : Char} (h : c.isDigit) : isChar c := by
  have hrange : 48 ≤ c.toNat ∧ c.toNat ≤ 57 := by
    simpa [Char.isDigit, Char.le_def, UInt32.le_iff_toNat_le] using h
  simp only [isChar, within, charRanges, List.any_cons, Bool.or_eq_true, Bool.and_eq_true,
    decide_eq_true_eq]
  omega

private theorem quoted_numeric {s : String} (h : Numeric s) : Quoted '"' s.toList s.toList := by
  have hchars : ∀ cs : List Char, (∀ c ∈ cs, c.isDigit ∨ c = '.') → Quoted '"' cs cs := by
    intro cs
    induction cs with
    | nil => exact fun _ => .nil
    | cons c cs ih =>
      intro h
      have hrest := ih fun d hd => h d (List.mem_cons_of_mem c hd)
      have hne : ∀ d : Char, d.isDigit = false → d ≠ '.' → c ≠ d := by
        rintro d hdigit hpoint rfl
        rcases h c List.mem_cons_self with hc | hc
        · exact Bool.false_ne_true (hdigit ▸ hc)
        · exact hpoint hc
      have hchar : isChar c := by
        rcases h c List.mem_cons_self with hdigit | rfl
        · exact isChar_of_isDigit hdigit
        · decide
      exact .char hchar (hne '<' rfl (by decide)) (hne '&' rfl (by decide))
        (hne '"' rfl (by decide)) hrest
  exact hchars _ h

private theorem attributes_property {name : String} (hname : isName name) {text : String}
    {value : List Char} (h : Quoted '"' value text.toList) :
    Attributes [(name, value)] (property name text).toList := by
  have hcons : Attributes [(name, value)]
      ([' '] ++ name.toList ++ [] ++ '=' :: ([] ++ '"' :: (text.toList ++ '"' :: []))) :=
    .cons (by decide) (by decide) hname (by decide) (by decide) (.inl rfl) h .nil
  simpa [property] using hcons

def numberAttributes (tests failures idle : Nat) (time : Decimal.Binary) : List Attribute :=
  [("tests", (toString tests).toList), ("failures", (toString failures).toList),
    ("skipped", (toString idle).toList), ("time", (time.fixedText 3).toList)]

private theorem attributes_numbers (tests failures idle : Nat) (time : Decimal.Binary) :
    Attributes (numberAttributes tests failures idle time)
      (numbers tests failures idle time).toList := by
  have hnumber : ∀ {name : String}, isName name → ∀ n : Nat,
      Attributes [(name, (toString n).toList)] (property name (toString n)).toList :=
    fun hname n => attributes_property hname (quoted_numeric (numeric_toString n))
  have htime : Attributes [("time", (time.fixedText 3).toList)]
      (property "time" (time.fixedText 3)).toList :=
    attributes_property (by decide) (quoted_numeric (numeric_fixedText time 3))
  rw [numbers, String.toList_append, String.toList_append, String.toList_append]
  exact (((hnumber (by decide) tests).append (hnumber (by decide) failures)).append
    (hnumber (by decide) idle)).append htime

/-! ### Elements -/

/-- An element of this name whose parts are white space or what is allowed inside. -/
def Holds (name : String) (inside : Item → Prop) (item : Item) : Prop :=
  ∃ attributes content, item = .element name attributes content ∧
    ∀ part ∈ content, (∃ c, part = .char c ∧ isSpace c) ∨ inside part

/-- What a test case has to say: an element with text only. -/
def IsNote (item : Item) : Prop :=
  ∃ name ∈ ["failure", "skipped", "system-out"], ∃ attributes content,
    item = .element name attributes content ∧ ∀ part ∈ content, ∃ c, part = .char c

private theorem isNote_text {name : String} (h : name ∈ ["failure", "skipped", "system-out"])
    (attributes : List Attribute) (text : List Char) :
    IsNote (.element name attributes (text.map .char)) := by
  refine ⟨name, h, attributes, _, rfl, ?_⟩
  intro part hpart
  obtain ⟨c, -, rfl⟩ := List.mem_map.mp hpart
  exact ⟨c, rfl⟩

/-- Suites with test cases, and these with notes. -/
def IsReport : Item → Prop :=
  Holds "testsuites" (Holds "testsuite" (Holds "testcase" IsNote))

private theorem content_element {name : String} {attributes : List Attribute}
    {written inner : String}
    {content : List Item} (hname : isName name) (distinct : (attributes.map (·.1)).Nodup)
    (hwritten : Attributes attributes written.toList) (hinner : Content content inner.toList) :
    Content [.element name attributes content]
      ("<" ++ name ++ written ++ ">" ++ inner ++ "</" ++ name ++ ">").toList := by
  have htag : TagStart name attributes ('<' :: (name.toList ++ written.toList ++ [])) :=
    .intro hname distinct hwritten (by decide)
  have hclose : ([] : List Char).all isSpace := by decide
  have helement := Content.element htag hinner hclose .nil
  simpa using helement

private theorem content_space {s : String} (h : s.toList.all isSpace) :
    Content (s.toList.map .char) s.toList := by
  have hspace : ∀ c, isSpace c → c ≠ '<' ∧ c ≠ '&' ∧ c ≠ ']' := by
    intro c hc
    refine ⟨?_, ?_, ?_⟩ <;> · rintro rfl; exact absurd hc (by decide)
  rw [List.all_eq_true] at h
  have hchars : ∀ cs : List Char, (∀ c ∈ cs, isSpace c) → Content (cs.map .char) cs := by
    intro cs
    induction cs with
    | nil => exact fun _ => .nil
    | cons c cs ih =>
      intro h
      obtain ⟨hless, hand, hbracket⟩ := hspace c (h c List.mem_cons_self)
      refine .char (isChar_of_isSpace (h c List.mem_cons_self)) hless hand ?_
        (ih fun d hd => h d (List.mem_cons_of_mem c hd))
      intro hfront
      exact hbracket (List.cons_prefix_cons.mp hfront).1.symm
  exact hchars _ h

/-- A text that is white space and what is allowed, and that can stand behind any content. -/
def Writes (allowed : Item → Prop) (text : String) : Prop :=
  ∃ items, Content items text.toList ∧ Calm text.toList ∧
    ∀ item ∈ items, (∃ c, item = .char c ∧ isSpace c) ∨ allowed item

theorem Writes.empty (allowed : Item → Prop) : Writes allowed "" :=
  ⟨[], .nil, by simp [Calm], by simp⟩

theorem Writes.append {allowed : Item → Prop} {a b : String} (ha : Writes allowed a)
    (hb : Writes allowed b) : Writes allowed (a ++ b) := by
  obtain ⟨first, hfirst, hcalm, hallowed⟩ := ha
  obtain ⟨second, hsecond, hcalm', hallowed'⟩ := hb
  refine ⟨first ++ second, ?_, ?_, ?_⟩
  · rw [String.toList_append]
    exact hfirst.append hsecond hcalm'
  · rw [String.toList_append]
    cases hchars : a.toList with
    | nil => exact hcalm'
    | cons c cs =>
      rw [hchars] at hcalm
      exact hcalm
  · intro item hitem
    rcases List.mem_append.mp hitem with hitem | hitem
    · exact hallowed item hitem
    · exact hallowed' item hitem

theorem Writes.join {allowed : Item → Prop} {texts : List String}
    (h : ∀ text ∈ texts, Writes allowed text) : Writes allowed (String.join texts) := by
  induction texts with
  | nil => exact .empty allowed
  | cons text texts ih =>
    rw [String.join_cons]
    exact (h text List.mem_cons_self).append
      (ih fun other hother => h other (List.mem_cons_of_mem text hother))

theorem Writes.space {allowed : Item → Prop} {s : String} (h : s.toList.all isSpace) :
    Writes allowed s := by
  have hmem := List.all_eq_true.mp h
  refine ⟨s.toList.map .char, content_space h, ?_, ?_⟩
  · constructor
    · intro hhead
      exact absurd (hmem _ (List.mem_of_head? hhead)) (by decide)
    · intro hhead
      exact absurd (hmem _ (List.mem_of_head? hhead)) (by decide)
  · intro item hitem
    obtain ⟨c, hc, rfl⟩ := List.mem_map.mp hitem
    exact .inl ⟨c, rfl, hmem c hc⟩

theorem Writes.line {allowed : Item → Prop} {item : Item} (hallowed : allowed item)
    {indent text : String} (hindent : indent.toList.all isSpace)
    (htext : Content [item] text.toList) (hcalm : Calm text.toList) :
    Writes allowed (indent ++ text ++ "\n") := by
  have hitem : Writes allowed text := by
    refine ⟨[item], htext, hcalm, ?_⟩
    intro part hpart
    rw [List.mem_singleton.mp hpart]
    exact .inr hallowed
  exact ((Writes.space hindent).append hitem).append (.space (by decide))

theorem Writes.element {allowed : Item → Prop} {indent name written inner : String}
    {attributes : List Attribute} {content : List Item} (hindent : indent.toList.all isSpace)
    (hname : isName name) (distinct : (attributes.map (·.1)).Nodup)
    (hwritten : Attributes attributes written.toList) (hinner : Content content inner.toList)
    (hallowed : allowed (.element name attributes content)) :
    Writes allowed
      (indent ++ ("<" ++ name ++ written ++ ">" ++ inner ++ "</" ++ name ++ ">") ++ "\n") := by
  refine .line hallowed hindent (content_element hname distinct hwritten hinner) ?_
  simp [Calm]

private theorem exists_content_node {inside : Item → Prop} {indent name written body : String}
    {attributes : List Attribute} (hindent : indent.toList.all isSpace) (hname : isName name)
    (distinct : (attributes.map (·.1)).Nodup) (hwritten : Attributes attributes written.toList)
    (hbody : Writes inside body) :
    ∃ content, Holds name inside (.element name attributes content) ∧
      Content [.element name attributes content] ("<" ++ name ++ written ++ ">" ++
        ("\n" ++ body ++ indent) ++ "</" ++ name ++ ">").toList := by
  have hbreak : Writes inside "\n" := .space (by decide)
  obtain ⟨content, hcontent, -, hallowed⟩ := (hbreak.append hbody).append (.space hindent)
  exact ⟨content, ⟨_, _, rfl, hallowed⟩, content_element hname distinct hwritten hcontent⟩

theorem Writes.node {inside : Item → Prop} {indent name written body : String}
    {attributes : List Attribute} (hindent : indent.toList.all isSpace)
    (hname : isName name) (distinct : (attributes.map (·.1)).Nodup)
    (hwritten : Attributes attributes written.toList) (hbody : Writes inside body) :
    Writes (Holds name inside) (indent ++ ("<" ++ name ++ written ++ ">" ++
      ("\n" ++ body ++ indent) ++ "</" ++ name ++ ">") ++ "\n") := by
  obtain ⟨content, hholds, hcontent⟩ :=
    exists_content_node hindent hname distinct hwritten hbody
  refine .line hholds hindent hcontent ?_
  simp [Calm]

/-! ### Reports -/

def shownFailures (r : TestResult) : List String :=
  if r.outcome.isFailure then r.failures
  else if r.outcome.isIdle then r.failures.take 1
  else []

def shownTexts (r : TestResult) : List String :=
  r.name :: (shownFailures r ++ r.commands.flatMap fun c => [c.result.command, c.result.stdout])

def shownFailure (failures : List String) : String :=
  "\n" ++ String.join (failures.map (· ++ "\n")) ++ "      "

theorem failureXml_eq (message : String) (failures : List String) :
    "      <failure" ++ property "message" (escapeXml message) ++ ">\n" ++
      String.join (failures.map fun failure => escapeXml failure ++ "\n") ++ "      </failure>\n" =
    "      " ++ ("<" ++ "failure" ++ property "message" (escapeXml message) ++ ">" ++
      escapeXml (shownFailure failures) ++ "</" ++ "failure" ++ ">") ++ "\n" := by
  -- white space is its own escape, so that all of the text inside is escaped text
  have hbreak : escapeXml "\n" = "\n" := by decide
  have hspace : escapeXml "      " = "      " := by decide
  have hescaped : escapeXml (shownFailure failures) =
      "\n" ++ String.join (failures.map fun failure => escapeXml failure ++ "\n") ++ "      " := by
    simp only [shownFailure, escapeXml_append, escapeXml_join, List.map_map, Function.comp_def,
      hbreak, hspace]
  rw [hescaped]
  apply String.toList_injective
  simp

private theorem writes_failure {message : String} {failures : List String}
    (hmessage : AllChars message)
    (hfailures : ∀ failure ∈ failures, AllChars failure) :
    Writes IsNote ("      <failure" ++ property "message" (escapeXml message) ++ ">\n" ++
      String.join (failures.map fun failure => escapeXml failure ++ "\n") ++
      "      </failure>\n") := by
  have hshown : AllChars (shownFailure failures) := by
    simp only [shownFailure, allChars_append, allChars_join, List.mem_map]
    refine ⟨⟨by decide, ?_⟩, by decide⟩
    rintro _ ⟨failure, hmem, rfl⟩
    exact (allChars_append _ _).mpr ⟨hfailures failure hmem, by decide⟩
  have hwritten := attributes_property (by decide : isName "message") (quoted_escapeXml hmessage)
  rw [failureXml_eq]
  exact .element (by decide) (by decide) (by simp) hwritten (content_escapeXml hshown)
    (isNote_text (by decide) _ _)

theorem skippedXml_eq (message : String) :
    "      <skipped" ++ property "message" (escapeXml message) ++ "/>\n" =
      "      " ++ ("<" ++ "skipped" ++ property "message" (escapeXml message) ++ "/>") ++ "\n" := by
  apply String.toList_injective
  simp

private theorem writes_skipped {message : String} (hmessage : AllChars message) :
    Writes IsNote ("      <skipped" ++ property "message" (escapeXml message) ++ "/>\n") := by
  have hwritten := attributes_property (by decide : isName "message") (quoted_escapeXml hmessage)
  have htag : TagStart "skipped" [("message", message.toList)]
      ('<' :: ("skipped".toList ++ (property "message" (escapeXml message)).toList ++ [])) :=
    .intro (by decide) (by simp) hwritten (by decide)
  have hcontent : Content [.element "skipped" [("message", message.toList)] []]
      ("<" ++ "skipped" ++ property "message" (escapeXml message) ++ "/>").toList := by
    have hempty := Content.empty htag .nil
    simpa using hempty
  rw [skippedXml_eq]
  refine .line (isNote_text (by decide) _ []) (by decide) hcontent ?_
  simp [Calm]

private theorem writes_outcomeXml {r : TestResult} (h : ∀ text ∈ shownFailures r, AllChars text) :
    Writes IsNote (outcomeXml r) := by
  unfold outcomeXml
  unfold shownFailures at h
  split
  case isTrue hfailure =>
    rw [if_pos hfailure] at h
    refine writes_failure ?_ h
    cases hfailures : r.failures with
    | nil => decide
    | cons first rest => exact h first (by simp [hfailures])
  case isFalse hfailure =>
    rw [if_neg hfailure] at h
    split
    case isTrue hidle =>
      rw [if_pos hidle] at h
      refine writes_skipped ?_
      cases hfailures : r.failures with
      | nil => decide
      | cons first rest => exact h first (by simp [hfailures])
    case isFalse => exact .empty IsNote

def shownOutput (r : TestResult) : String :=
  String.join (r.commands.map fun c => "$ " ++ c.result.command ++ "\n" ++ c.result.stdout)

private theorem allChars_shownOutput_iff (r : TestResult) :
    AllChars (shownOutput r) ↔
      ∀ text ∈ r.commands.flatMap fun c => [c.result.command, c.result.stdout], AllChars text := by
  have hprompt : AllChars "$ " := by decide
  have hbreak : AllChars "\n" := by decide
  simp only [shownOutput, allChars_join, List.mem_map, List.mem_flatMap]
  constructor
  · rintro h text ⟨c, hc, htext⟩
    have hcommand := h _ ⟨c, hc, rfl⟩
    simp only [allChars_append] at hcommand
    rcases List.mem_pair.mp htext with rfl | rfl
    · exact hcommand.1.1.2
    · exact hcommand.2
  · rintro h _ ⟨c, hc, rfl⟩
    simp only [allChars_append]
    exact ⟨⟨⟨hprompt, h _ ⟨c, hc, by simp⟩⟩, hbreak⟩, h _ ⟨c, hc, by simp⟩⟩

theorem outputXml_eq (r : TestResult) :
    outputXml r = if (shownOutput r).isEmpty then "" else
      "      " ++ ("<" ++ "system-out" ++ "" ++ ">" ++ escapeXml (shownOutput r) ++
        "</" ++ "system-out" ++ ">") ++ "\n" := by
  have hunfold : outputXml r = if (shownOutput r).isEmpty then "" else
      "      <system-out>" ++ escapeXml (shownOutput r) ++ "</system-out>\n" := rfl
  rw [hunfold]
  split
  · rfl
  · apply String.toList_injective
    simp

private theorem writes_outputXml {r : TestResult} (h : AllChars (shownOutput r)) :
    Writes IsNote (outputXml r) := by
  rw [outputXml_eq]
  split
  · exact .empty IsNote
  · exact .element (by decide) (by decide) (by simp) .nil (content_escapeXml h)
      (isNote_text (by decide) _ _)

theorem testXml_eq (suite : String) (r : TestResult) :
    testXml suite r = "    " ++ ("<" ++ "testcase" ++
      (property "classname" (escapeXml suite) ++ property "name" (escapeXml r.name) ++
        property "time" ((Decimal.secondsOf r.duration).fixedText 3)) ++ ">" ++
      ("\n" ++ (outcomeXml r ++ outputXml r) ++ "    ") ++ "</" ++ "testcase" ++ ">") ++ "\n" := by
  unfold testXml
  generalize (Decimal.secondsOf r.duration).fixedText 3 = time
  apply String.toList_injective
  simp

private theorem writes_testXml {suite : String} {r : TestResult} (hsuite : AllChars suite)
    (h : ∀ text ∈ shownTexts r, AllChars text) :
    Writes (Holds "testcase" IsNote) (testXml suite r) := by
  have hname : AllChars r.name := h _ List.mem_cons_self
  have hfailures : ∀ text ∈ shownFailures r, AllChars text := fun text htext =>
    h text (List.mem_cons_of_mem _ (List.mem_append_left _ htext))
  have houtput : AllChars (shownOutput r) := (allChars_shownOutput_iff r).mpr fun text htext =>
    h text (List.mem_cons_of_mem _ (List.mem_append_right _ htext))
  have hbody := (writes_outcomeXml hfailures).append (writes_outputXml houtput)
  have hclass := attributes_property (by decide : isName "classname") (quoted_escapeXml hsuite)
  have hlabel := attributes_property (by decide : isName "name") (quoted_escapeXml hname)
  have htime := attributes_property (by decide : isName "time")
    (quoted_numeric (numeric_fixedText (Decimal.secondsOf r.duration) 3))
  have hwritten := (hclass.append hlabel).append htime
  rw [← String.toList_append, ← String.toList_append] at hwritten
  rw [testXml_eq]
  exact .node (by decide) (by decide) (by simp) hwritten hbody

theorem suiteXml_eq (name : String) (results : List TestResult) :
    suiteXml name results = "  " ++ ("<" ++ "testsuite" ++
      (property "name" (escapeXml name) ++ numbers results.length
        (results.countP (·.outcome.isFailure)) (results.countP (·.outcome.isIdle))
        (totalTime results)) ++ ">" ++
      ("\n" ++ String.join (results.map (testXml name)) ++ "  ") ++ "</" ++ "testsuite" ++ ">") ++
      "\n" := by
  unfold suiteXml
  generalize numbers _ _ _ _ = counts
  apply String.toList_injective
  simp

private theorem writes_suiteXml {name : String} {results : List TestResult} (hname : AllChars name)
    (h : ∀ r ∈ results, ∀ text ∈ shownTexts r, AllChars text) :
    Writes (Holds "testsuite" (Holds "testcase" IsNote)) (suiteXml name results) := by
  have hbody : Writes (Holds "testcase" IsNote) (String.join (results.map (testXml name))) := by
    refine .join ?_
    intro text htext
    obtain ⟨r, hr, rfl⟩ := List.mem_map.mp htext
    exact writes_testXml hname (h r hr)
  have hlabel := attributes_property (by decide : isName "name") (quoted_escapeXml hname)
  have hwritten := hlabel.append (attributes_numbers results.length
    (results.countP (·.outcome.isFailure)) (results.countP (·.outcome.isIdle)) (totalTime results))
  rw [← String.toList_append] at hwritten
  rw [suiteXml_eq]
  exact .node (by decide) (by decide) (by simp [numberAttributes]) hwritten hbody

theorem groups_append_singleton (suite : String) (results : List TestResult) (r : TestResult) :
    groups suite (results ++ [r]) = (groups suite results).insert (groupName suite r)
      (((groups suite results).get? (groupName suite r)).getD [] ++ [r]) := by
  simp [groups]

private theorem get?_groups (suite : String) (results : List TestResult) (name : String) :
    (groups suite results).get? name =
      if results.filter (groupName suite · = name) = [] then none
      else some (results.filter (groupName suite · = name)) := by
  induction results using List.reverseRecOn with
  | nil => rfl
  | append_singleton results r ih =>
    rw [groups_append_singleton, Dict.get?_insert, List.filter_append]
    by_cases hgroup : groupName suite r = name
    · rw [if_pos hgroup, hgroup, ih]
      by_cases hnone : results.filter (groupName suite · = name) = []
      · simp [hnone, hgroup]
      · simp [hnone, hgroup]
    · rw [if_neg hgroup, ih]
      simp [hgroup]

theorem mem_groups {suite : String} {results : List TestResult}
    {e : String × List TestResult} (he : e ∈ (groups suite results).entries) :
    e.2 ≠ [] ∧ ∀ r ∈ e.2, r ∈ results ∧ groupName suite r = e.1 := by
  have hget : (groups suite results).get? e.1 = some e.2 :=
    (Dict.mem_iff_valueIn (groups suite results).sorted e.1 e.2).mp he
  rw [get?_groups] at hget
  split at hget
  · cases hget
  case isFalse hne =>
    have hfilter := Option.some.inj hget
    refine ⟨hfilter ▸ hne, ?_⟩
    intro r hr
    rw [← hfilter] at hr
    simpa using hr

theorem exists_mem_groups (suite : String) {results : List TestResult} {r : TestResult}
    (hr : r ∈ results) : ∃ e ∈ (groups suite results).entries, r ∈ e.2 := by
  have hmem : r ∈ results.filter (groupName suite · = groupName suite r) := by simp [hr]
  refine ⟨(groupName suite r, _), ?_, hmem⟩
  refine (Dict.mem_iff_valueIn (groups suite results).sorted _ _).mpr ?_
  rw [← Dict.get?_eq_valueIn, get?_groups, if_neg (List.ne_nil_of_mem hmem)]

private theorem allChars_groupName {suite : String} {r : TestResult} (hsuite : AllChars suite)
    (hname : AllChars r.name) : AllChars (groupName suite r) := by
  unfold groupName
  split
  case h_1 dir rest hcut =>
    obtain ⟨⟨after, before⟩, hfirst, hpair⟩ := Option.map_eq_some_iff.mp hcut
    obtain ⟨rfl, -⟩ := Prod.mk.inj hpair
    have hsplit := (Text.cutFirst_eq_some hfirst).1
    simp only [allChars_append]
    refine ⟨⟨hsuite, by decide⟩, ?_⟩
    intro c hc
    refine hname c (List.mem_reverse.mp ?_)
    rw [hsplit]
    simp at hc
    simp [hc]
  case h_2 => exact hsuite

theorem toList_junit (s : Snapshot) (suite : String) :
    (junit s suite).toList = "<?xml version=\"1.0\" encoding=\"UTF-8\"?>\n".toList ++
      ("<" ++ "testsuites" ++ (property "name" (escapeXml suite) ++
        numbers s.total s.failures s.idle (Decimal.secondsOf s.elapsed)) ++ ">" ++
        ("\n" ++ String.join ((groups suite s.results).entries.map fun (name, results) =>
          suiteXml name results) ++ "") ++ "</" ++ "testsuites" ++ ">").toList ++ ['\n'] := by
  unfold junit
  generalize numbers _ _ _ _ = counts
  generalize String.join _ = body
  simp

private theorem exists_document {s : Snapshot} {suite : String} (hsuite : AllChars suite)
    (h : ∀ r ∈ s.results, ∀ text ∈ shownTexts r, AllChars text) :
    ∃ root, Document root (junit s suite).toList ∧ IsReport root := by
  have hbody : Writes (Holds "testsuite" (Holds "testcase" IsNote))
      (String.join ((groups suite s.results).entries.map fun (name, results) =>
        suiteXml name results)) := by
    refine .join ?_
    intro text htext
    obtain ⟨e, he, rfl⟩ := List.mem_map.mp htext
    obtain ⟨hne, hmem⟩ := mem_groups he
    obtain ⟨r, hr⟩ := List.exists_mem_of_ne_nil _ hne
    have hname : AllChars e.1 := by
      rw [← (hmem r hr).2]
      exact allChars_groupName hsuite (h r (hmem r hr).1 _ List.mem_cons_self)
    exact writes_suiteXml hname fun r hr => h r (hmem r hr).1
  have hlabel := attributes_property (by decide : isName "name") (quoted_escapeXml hsuite)
  have hwritten := hlabel.append
    (attributes_numbers s.total s.failures s.idle (Decimal.secondsOf s.elapsed))
  rw [← String.toList_append] at hwritten
  obtain ⟨content, hholds, hcontent⟩ := exists_content_node (by decide : "".toList.all isSpace)
    (by decide : isName "testsuites") (by simp [numberAttributes]) hwritten hbody
  have hversion := attributes_property (by decide : isName "version")
    (quoted_escapeXml (by decide : AllChars "1.0"))
  have hencoding := attributes_property (by decide : isName "encoding")
    (quoted_escapeXml (by decide : AllChars "UTF-8"))
  have hspace : ([] : List Char).all isSpace := by decide
  have hbreak : ['\n'].all isSpace := by decide
  have hdocument := Document.intro (hversion.append hencoding) hspace hbreak hcontent hbreak
  have hdeclaration : "<?xml".toList ++ ((property "version" (escapeXml "1.0")).toList ++
      (property "encoding" (escapeXml "UTF-8")).toList) ++ [] ++ "?>".toList ++ ['\n'] =
      "<?xml version=\"1.0\" encoding=\"UTF-8\"?>\n".toList := by decide
  refine ⟨_, ?_, hholds⟩
  rw [toList_junit, ← hdeclaration]
  exact hdocument

/-! ### What gets into a report -/

private theorem allChars_of_outcomeXml {r : TestResult} (h : AllChars (outcomeXml r))
    {text : String}
    (htext : text ∈ shownFailures r) : AllChars text := by
  unfold outcomeXml at h
  unfold shownFailures at htext
  split at h
  case isTrue hfailure =>
    rw [if_pos hfailure] at htext
    simp only [allChars_append, allChars_join, List.mem_map] at h
    have hshown := h.1.2 _ ⟨text, htext, rfl⟩
    exact allChars_of_escapeXml ((allChars_append _ _).mp hshown).1
  case isFalse hfailure =>
    rw [if_neg hfailure] at htext
    split at h
    case isTrue hidle =>
      -- of the reasons not to run a test, the first one is shown
      rw [if_pos hidle] at htext
      cases hfailures : r.failures with
      | nil => simp [hfailures] at htext
      | cons first rest =>
        obtain rfl : text = first := by simpa [hfailures] using htext
        simp only [property, allChars_append, hfailures, List.headD_cons] at h
        exact allChars_of_escapeXml h.1.2.1.2
    case isFalse hidle =>
      rw [if_neg hidle] at htext
      cases htext

private theorem allChars_of_outputXml {r : TestResult} (h : AllChars (outputXml r)) :
    AllChars (shownOutput r) := by
  rw [outputXml_eq] at h
  split at h
  case isTrue hempty =>
    rw [String.isEmpty_iff.mp hempty]
    exact h
  case isFalse =>
    simp only [allChars_append] at h
    exact allChars_of_escapeXml h.1.2.1.1.1.2

private theorem allChars_of_testXml {suite : String} {r : TestResult}
    (h : AllChars (testXml suite r))
    {text : String} (htext : text ∈ shownTexts r) : AllChars text := by
  unfold testXml at h
  generalize (Decimal.secondsOf r.duration).fixedText 3 = time at h
  simp only [property, allChars_append] at h
  obtain ⟨⟨⟨⟨⟨⟨-, hname⟩, -⟩, -⟩, houtcome⟩, houtput⟩, -⟩ := h
  rcases List.mem_cons.mp htext with rfl | htext
  · exact allChars_of_escapeXml hname.1.2
  · rcases List.mem_append.mp htext with htext | htext
    · exact allChars_of_outcomeXml houtcome htext
    · exact (allChars_shownOutput_iff r).mp (allChars_of_outputXml houtput) text htext

private theorem allChars_of_junit {s : Snapshot} {suite : String} (h : AllChars (junit s suite)) :
    AllChars suite ∧ ∀ r ∈ s.results, ∀ text ∈ shownTexts r, AllChars text := by
  unfold junit at h
  generalize numbers _ _ _ _ = counts at h
  simp only [property, allChars_append, allChars_join, List.mem_map] at h
  obtain ⟨⟨⟨⟨⟨-, hsuite⟩, -⟩, -⟩, hsuites⟩, -⟩ := h
  refine ⟨allChars_of_escapeXml hsuite.1.2, ?_⟩
  intro r hr text htext
  obtain ⟨e, he, hmem⟩ := exists_mem_groups suite hr
  have htests : AllChars (suiteXml e.1 e.2) := hsuites _ ⟨e, he, rfl⟩
  unfold suiteXml at htests
  generalize numbers _ _ _ _ = counts at htests
  simp only [allChars_append, allChars_join, List.mem_map] at htests
  exact allChars_of_testXml (htests.1.2 _ ⟨r, hmem, rfl⟩) htext

/-- A report is a well-formed document, nested as it should be, exactly if the name of the suite and
all texts that it shows of tests are made of characters a document may hold. -/
theorem junit_document_iff (summary : Summary) (elapsed : Duration) (suite : String) :
    (∃ root, Document root (junit (summary.snapshot elapsed) suite).toList ∧ IsReport root) ↔
      ∀ text ∈ suite :: summary.results.flatMap shownTexts, ∀ c ∈ text.toList, isChar c := by
  have hresults : ∀ r, r ∈ (summary.snapshot elapsed).results ↔ r ∈ summary.results := by
    intro r
    simp [Summary.snapshot]
  constructor
  · rintro ⟨root, hdocument, -⟩ text htext
    obtain ⟨hsuite, hshown⟩ := allChars_of_junit fun c hc => hdocument.isChar_of_mem hc
    rcases List.mem_cons.mp htext with rfl | htext
    · exact hsuite
    · obtain ⟨r, hr, htext⟩ := List.mem_flatMap.mp htext
      exact hshown r ((hresults r).mpr hr) text htext
  · intro h
    refine exists_document (h suite List.mem_cons_self) ?_
    intro r hr text htext
    refine h text (List.mem_cons_of_mem _ ?_)
    exact List.mem_flatMap.mpr ⟨r, (hresults r).mp hr, htext⟩

/-- A test that passes after a command that resets the colours of a terminal. -/
def colourReset : TestResult :=
  ⟨"a", ⟨"a"⟩, .pass, 0, [], [⟨1, ⟨"tput sgr0", 0, "\x1b[0m", "", 0, false, []⟩⟩]⟩

/-- The escape character gets into the report, and no document may hold it. -/
theorem junit_document_colourReset :
    ¬ ∃ root, Document root (junit (Summary.snapshot ⟨[colourReset]⟩ 0) "suite").toList := by
  rintro ⟨root, hdocument⟩
  obtain ⟨-, hshown⟩ := allChars_of_junit fun c hc => hdocument.isChar_of_mem hc
  have houtput : AllChars "\x1b[0m" :=
    hshown colourReset (by simp [Summary.snapshot]) _ (by decide)
  exact absurd houtput (by decide)

end ShellSuite.Report
