import ShellSuite.Proofs.Report.Reader

set_option autoImplicit false
set_option relaxedAutoImplicit false

/-!
Escaped text by itself. All that is left of markup in it are the marks of the five entities, and
when these are replaced it is the text again.
-/

namespace ShellSuite.Report

open Xml

private theorem entity_mark {e : Char × String} (h : e ∈ entities) :
    ∃ name, e.2.toList = '&' :: name ∧ '&' ∉ name := by
  simp only [entities, List.mem_cons, List.not_mem_nil, or_false] at h
  rcases h with rfl | rfl | rfl | rfl | rfl <;> exact ⟨_, rfl, by decide⟩

private theorem entity_of_escapeXmlChar_eq {c : Char} {before after : List Char}
    (h : escapeXmlChar c = before ++ '&' :: after) : ∃ e ∈ entities, e.2.toList = '&' :: after := by
  rcases escapeXmlChar_cases c with ⟨name, hknown, hname⟩ | ⟨⟨-, hand, -, -, -⟩, hself⟩
  · obtain ⟨letters, hletters, hmark⟩ := entity_mark hknown
    rw [hname, hletters] at h
    cases before with
    | nil => exact ⟨_, hknown, hletters.trans h⟩
    | cons first before =>
      have hrest : letters = before ++ '&' :: after := (List.cons.inj h).2
      exact absurd (by simp [hrest]) hmark
  · rw [hself] at h
    have hmem : '&' ∈ [c] := by simp [h]
    exact absurd (List.mem_singleton.mp hmem).symm hand

private theorem entity_of_suffix_flatMap {cs after : List Char}
    (h : '&' :: after <:+ cs.flatMap escapeXmlChar) :
    ∃ e ∈ entities, e.2.toList <+: '&' :: after := by
  induction cs with
  | nil => exact absurd (List.suffix_nil.mp h) (List.cons_ne_nil _ _)
  | cons c cs ih =>
    rw [List.flatMap_cons] at h
    have hrest : cs.flatMap escapeXmlChar <:+ escapeXmlChar c ++ cs.flatMap escapeXmlChar :=
      List.suffix_append _ _
    rcases List.suffix_or_suffix_of_suffix h hrest with hinside | ⟨front, hfront⟩
    · exact ih hinside
    · -- the mark stands in what the first character is written as, unless nothing of that is left
      cases front with
      | nil => exact ih (by rw [← hfront]; exact List.suffix_rfl)
      | cons first front =>
        rw [List.cons_append] at hfront
        obtain ⟨rfl, rfl⟩ := List.cons.inj hfront
        obtain ⟨before, hbefore⟩ := h
        have hchar : escapeXmlChar c = before ++ '&' :: front := by
          apply List.append_cancel_right
          rw [← hbefore, List.append_assoc, List.cons_append]
        obtain ⟨e, he, heq⟩ := entity_of_escapeXmlChar_eq hchar
        exact ⟨e, he, by rw [heq]; exact ⟨_, rfl⟩⟩

/-- Escaped text has no tags and no quotes, every mark of an entity in it starts one of the five
entities, and one pass that replaces them gives back the text, whatever entities the text itself
has. -/
theorem escapeXml_reads_back (s : String) :
    (∀ c ∈ ['<', '>', '"', '\''], c ∉ (escapeXml s).toList) ∧
      (∀ after, '&' :: after <:+ (escapeXml s).toList →
        ∃ e ∈ entities, e.2.toList <+: '&' :: after) ∧
      unescape (escapeXml s).toList = s.toList := by
  refine ⟨fun c hc => not_mem_escapeXml hc s, ?_, unescape_escapeXml s⟩
  intro after h
  rw [toList_escapeXml] at h
  exact entity_of_suffix_flatMap h

example : escapeXml "&lt; is '<'" = "&amp;lt; is &apos;&lt;&apos;" := by decide

end ShellSuite.Report
