import Mathlib.Data.List.Basic
import ShellSuite.Text.Pieces

set_option autoImplicit false
set_option relaxedAutoImplicit false

/-!
Cutting text at single characters, by what the parts make when they are put together again.
Characters replaced one behind the other, by what becomes of each of them.
-/

namespace ShellSuite.Text

theorem splitAt_ne_nil (cut : Char → Bool) (cs : List Char) : splitAt cut cs ≠ [] := by
  cases cs with
  | nil => simp [splitAt]
  | cons c cs =>
    unfold splitAt
    split
    · simp
    · split <;> simp

theorem eq_nil_of_splitAt {cut : Char → Bool} {cs : List Char} (h : splitAt cut cs = [[]]) :
    cs = [] := by
  cases cs with
  | nil => rfl
  | cons c cs =>
    unfold splitAt at h
    split at h
    · exact absurd (List.cons.inj h).2 (splitAt_ne_nil cut cs)
    · split at h
      · cases h
      · cases h

theorem cut_eq_false_of_mem {cut : Char → Bool} {cs piece : List Char}
    (h : piece ∈ splitAt cut cs) {c : Char} (hc : c ∈ piece) : cut c = false := by
  induction cs generalizing piece with
  | nil =>
    rw [List.mem_singleton.mp h] at hc
    cases hc
  | cons d ds ih =>
    unfold splitAt at h
    split at h
    · rcases List.mem_cons.mp h with rfl | h
      · cases hc
      · exact ih h hc
    case isFalse hd =>
      split at h
      case h_1 hnil => exact absurd hnil (splitAt_ne_nil cut ds)
      case h_2 first pieces hpieces =>
        rw [hpieces] at ih
        rcases List.mem_cons.mp h with rfl | h
        · rcases List.mem_cons.mp hc with rfl | hc
          · exact Bool.not_eq_true _ ▸ hd
          · exact ih (List.mem_cons_self ..) hc
        · exact ih (List.mem_cons_of_mem _ h) hc

theorem splitAt_of_forall_not {cut : Char → Bool} {cs : List Char} (h : ∀ c ∈ cs, cut c = false) :
    splitAt cut cs = [cs] := by
  induction cs with
  | nil => rfl
  | cons c cs ih =>
    have hc := h c List.mem_cons_self
    have hcs := ih fun d hd => h d (List.mem_cons_of_mem c hd)
    simp [splitAt, hc, hcs]

theorem splitAt_append_cons (cut : Char → Bool) (before : List Char) {c : Char}
    (after : List Char) (hc : cut c = true) :
    splitAt cut (before ++ c :: after) = splitAt cut before ++ splitAt cut after := by
  induction before with
  | nil => simp [splitAt, hc]
  | cons d ds ih =>
    simp only [List.cons_append, splitAt, ih]
    split
    · rfl
    · cases hds : splitAt cut ds with
      | nil => exact absurd hds (splitAt_ne_nil cut ds)
      | cons piece pieces => rfl

theorem split_join {c : Char} {between : String} (hbetween : between.toList = [c])
    {parts : List String} (hne : parts ≠ []) (hparts : ∀ part ∈ parts, c ∉ part.toList) :
    split (join between parts) c = parts := by
  have hpiece : ∀ part ∈ parts, splitAt (· == c) part.toList = [part.toList] := by
    intro part hpart
    refine splitAt_of_forall_not fun d hd => beq_eq_false_iff_ne.mpr ?_
    rintro rfl
    exact hparts part hpart hd
  induction parts with
  | nil => exact absurd rfl hne
  | cons part parts ih =>
    rw [List.forall_mem_cons] at hparts hpiece
    cases parts with
    | nil => simp [split, join, String.intercalate_singleton, hpiece.1]
    | cons next parts =>
      have htext : (join between (part :: next :: parts)).toList =
          part.toList ++ c :: (join between (next :: parts)).toList := by
        simp [join, String.intercalate_cons_cons, hbetween]
      have hrest : split (join between (next :: parts)) c = next :: parts :=
        ih (by simp) hparts.2 hpiece.2
      unfold split at hrest ⊢
      rw [htext, splitAt_append_cons (· == c) _ _ (beq_self_eq_true c), hpiece.1, List.map_append,
        hrest]
      simp

theorem cutFirst_append_cons {c : Char} {before : List Char} (h : c ∉ before) (after : List Char) :
    cutFirst c (before ++ c :: after) = some (before, after) := by
  induction before with
  | nil => simp [cutFirst]
  | cons d ds ih =>
    rw [List.mem_cons, not_or] at h
    have hne : (d == c) = false := by simpa using Ne.symm h.1
    simp [cutFirst, hne, ih h.2]

theorem cutFirst_eq_some {c : Char} {cs before after : List Char}
    (h : cutFirst c cs = some (before, after)) : cs = before ++ c :: after ∧ c ∉ before := by
  induction cs generalizing before with
  | nil => simp [cutFirst] at h
  | cons d ds ih =>
    unfold cutFirst at h
    by_cases hd : d = c
    · obtain ⟨rfl, rfl⟩ : [] = before ∧ ds = after := by simpa [hd] using h
      simp [hd]
    · have hne : (d == c) = false := by simpa using hd
      rw [hne] at h
      obtain ⟨⟨front, back⟩, hcut, heq⟩ := Option.map_eq_some_iff.mp h
      obtain ⟨rfl, rfl⟩ : d :: front = before ∧ back = after := by simpa using heq
      obtain ⟨rfl, hmem⟩ := ih hcut
      refine ⟨rfl, ?_⟩
      rw [List.mem_cons, not_or]
      exact ⟨fun he => hd he.symm, hmem⟩

/-- What a character is written as: the text of the first pair with it, or itself. -/
def rendering : List (Char × String) → Char → List Char
  | [], c => [c]
  | e :: pairs, c => if c == e.1 then e.2.toList else rendering pairs c

theorem rendering_of_forall_ne {pairs : List (Char × String)} {c : Char}
    (h : ∀ e ∈ pairs, c ≠ e.1) : rendering pairs c = [c] := by
  induction pairs with
  | nil => rfl
  | cons e pairs ih =>
    rw [List.forall_mem_cons] at h
    rw [rendering, if_neg (by simpa using h.1), ih h.2]

/-- One pass over the text for each pair comes to a single pass, if what is put in for a character
has no character that is replaced after it. -/
theorem toList_foldl_replace {pairs : List (Char × String)}
    (h : pairs.Pairwise fun a b => b.1 ∉ a.2.toList) (s : String) :
    (pairs.foldl (fun s e => replace s e.1 e.2) s).toList = s.toList.flatMap (rendering pairs) := by
  induction pairs generalizing s with
  | nil =>
    rw [List.foldl_nil]
    exact (List.flatMap_singleton' s.toList).symm
  | cons e pairs ih =>
    rw [List.pairwise_cons] at h
    -- the passes to come leave alone what this one puts in
    have hkept : e.2.toList.flatMap (rendering pairs) = e.2.toList := by
      have hself : ∀ c ∈ e.2.toList, rendering pairs c = [c] := by
        intro c hc
        apply rendering_of_forall_ne
        intro later hlater heq
        exact h.1 later hlater (heq ▸ hc)
      rw [List.flatMap_congr hself, List.flatMap_singleton']
    rw [List.foldl_cons, ih h.2, replace, String.toList_ofList, List.flatMap_assoc]
    apply List.flatMap_congr
    intro c _
    rw [rendering]
    split
    · exact hkept
    · rw [List.flatMap_singleton]

end ShellSuite.Text
