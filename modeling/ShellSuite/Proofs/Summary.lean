import Mathlib.Data.List.Pairwise
import ShellSuite.Proofs.Path.Order
import ShellSuite.Summary

set_option autoImplicit false
set_option relaxedAutoImplicit false

/-!
A report does not depend on the order in which results came in: counts never do, and neither does
the order of the results, as long as path and name tell them apart.
-/

namespace ShellSuite

namespace TestResult

/-- Whether reports cannot tell two results apart: their paths have the same components, and they
have the same name. -/
def SameKey (a b : TestResult) : Prop :=
  a.path.same b.path = true ∧ a.name = b.name

instance (a b : TestResult) : Decidable (a.SameKey b) :=
  inferInstanceAs (Decidable (_ ∧ _))

theorem SameKey.symm {a b : TestResult} (h : a.SameKey b) : b.SameKey a :=
  ⟨Path.same_iff.mpr (Path.same_iff.mp h.1).symm, h.2.symm⟩

theorem atMost_iff {a b : TestResult} :
    a.atMost b = true ↔
      a.path.less b.path = true ∨ (a.path.same b.path = true ∧ a.name ≤ b.name) := by
  simp [atMost]

private theorem atMost_trans (a b c : TestResult) (hab : a.atMost b = true)
    (hbc : b.atMost c = true) :
    a.atMost c = true := by
  rw [atMost_iff] at hab hbc ⊢
  rcases hab with hab | ⟨hab, hname⟩
  · rcases hbc with hbc | ⟨hbc, -⟩
    · exact .inl (Path.less_trans hab hbc)
    · exact .inl (Path.less_of_less_of_same hab hbc)
  · rcases hbc with hbc | ⟨hbc, hname'⟩
    · exact .inl (Path.less_of_same_of_less hab hbc)
    · refine .inr ⟨?_, String.le_trans hname hname'⟩
      rw [Path.same_iff] at hab hbc ⊢
      exact hab.trans hbc

private theorem atMost_total (a b : TestResult) : (a.atMost b || b.atMost a) = true := by
  rw [Bool.or_eq_true, atMost_iff, atMost_iff]
  rcases Path.less_or_same_or_less a.path b.path with h | h | h
  · exact .inl (.inl h)
  · have h' : b.path.same a.path = true := Path.same_iff.mpr (Path.same_iff.mp h).symm
    rcases String.le_total a.name b.name with hname | hname
    · exact .inl (.inr ⟨h, hname⟩)
    · exact .inr (.inr ⟨h', hname⟩)
  · exact .inr (.inl h)

private theorem sameKey_of_atMost {a b : TestResult} (hab : a.atMost b = true)
    (hba : b.atMost a = true) :
    a.SameKey b := by
  rw [atMost_iff] at hab hba
  rcases hab with hab | ⟨hab, hname⟩
  · -- a path below another one is not above it as well
    exfalso
    have hself : a.path.less a.path = true := by
      rcases hba with hba | ⟨hba, -⟩
      · exact Path.less_trans hab hba
      · exact Path.less_of_less_of_same hab hba
    rw [Path.less_irrefl_of_same (Path.same_iff.mpr rfl)] at hself
    contradiction
  · rcases hba with hba | ⟨-, hname'⟩
    · have hself := Path.less_of_same_of_less hab hba
      rw [Path.less_irrefl_of_same (Path.same_iff.mpr rfl)] at hself
      contradiction
    · exact ⟨hab, String.le_antisymm hname hname'⟩

end TestResult

namespace Tally

private theorem get_add (t : Tally) (o p : Outcome) :
    (t.add o).get p = t.get p + if o = p then 1 else 0 := by
  induction t with
  | nil => simp [add, get]
  | cons e t ih =>
    unfold add
    split
    case isTrue he =>
      by_cases h : o = p
      · simp [get, he, h]
      · simp [get, he, h]
    case isFalse he =>
      by_cases hp : e.1 = p
      · have h : o ≠ p := fun hop => he (hp.trans hop.symm)
        simp [get, hp, h]
      · simpa [get, hp] using ih

private theorem map_fst_add {t : Tally} {o : Outcome} (h : o ∈ t.map (·.1)) :
    (t.add o).map (·.1) = t.map (·.1) := by
  induction t with
  | nil => cases h
  | cons e t ih =>
    unfold add
    split
    case isTrue he => simp [he]
    case isFalse he =>
      have hrest : o ∈ t.map (·.1) := (List.mem_cons.mp h).resolve_left (Ne.symm he)
      rw [List.map_cons, List.map_cons, ih hrest]

private theorem eq_map_get {t : Tally} (h : (t.map (·.1)).Nodup) :
    t = (t.map (·.1)).map fun o => (o, t.get o) := by
  induction t with
  | nil => rfl
  | cons e t ih =>
    rw [List.map_cons, List.nodup_cons] at h
    have hrest : ∀ o ∈ t.map (·.1), get o (e :: t) = get o t := by
      intro o ho
      have hne : e.1 ≠ o := fun heq => h.1 (heq ▸ ho)
      simp [get, hne]
    rw [List.map_cons, List.map_cons, List.map_congr_left fun o ho => by rw [hrest o ho], ← ih h.2]
    simp [get]

private theorem get_foldl_add (results : List TestResult) (t : Tally) (o : Outcome) :
    (results.foldl (fun t r => t.add r.outcome) t).get o =
      t.get o + results.countP (·.outcome = o) := by
  induction results generalizing t with
  | nil => rfl
  | cons r results ih =>
    rw [List.foldl_cons, ih, get_add, List.countP_cons]
    simp only [decide_eq_true_eq]
    omega

private theorem map_fst_foldl_add (results : List TestResult) {t : Tally}
    (h : ∀ o, o ∈ t.map (·.1)) :
    (results.foldl (fun t r => t.add r.outcome) t).map (·.1) = t.map (·.1) := by
  induction results generalizing t with
  | nil => rfl
  | cons r results ih =>
    have hkept := map_fst_add (h r.outcome)
    rw [List.foldl_cons, ih (by rwa [hkept]), hkept]

end Tally

namespace Summary

theorem snapshot_results_perm (s : Summary) (elapsed : Duration) :
    (s.snapshot elapsed).results.Perm s.results :=
  List.mergeSort_perm s.results TestResult.atMost

theorem snapshot_results_sorted (s : Summary) (elapsed : Duration) :
    (s.snapshot elapsed).results.Pairwise fun a b => a.atMost b = true :=
  List.pairwise_mergeSort TestResult.atMost_trans TestResult.atMost_total s.results

theorem count_snapshot (s : Summary) (elapsed : Duration) (o : Outcome) :
    (s.snapshot elapsed).count o = s.results.countP (·.outcome = o) := by
  have hzero : Tally.zero.get o = 0 := by cases o <;> rfl
  have hcount := Tally.get_foldl_add (s.snapshot elapsed).results .zero o
  rwa [hzero, Nat.zero_add, (s.snapshot_results_perm elapsed).countP_eq] at hcount

theorem total_snapshot (s : Summary) (elapsed : Duration) :
    (s.snapshot elapsed).total = s.results.length :=
  (s.snapshot_results_perm elapsed).length_eq

theorem counts_snapshot (s : Summary) (elapsed : Duration) :
    (s.snapshot elapsed).counts =
      Outcome.all.map fun o => (o, s.results.countP (·.outcome = o)) := by
  have houtcomes : (s.snapshot elapsed).counts.map (·.1) = Outcome.all :=
    Tally.map_fst_foldl_add _ fun o => by cases o <;> decide
  have hnumbers := Tally.eq_map_get (t := (s.snapshot elapsed).counts) (by rw [houtcomes]; decide)
  rw [houtcomes] at hnumbers
  rw [hnumbers]
  exact List.map_congr_left fun o _ => by rw [← s.count_snapshot elapsed]; rfl

variable {s₁ s₂ : Summary}

private theorem snapshot_results_perm_snapshot (h : s₁.results.Perm s₂.results) (e₁ e₂ : Duration) :
    (s₁.snapshot e₁).results.Perm (s₂.snapshot e₂).results :=
  (s₁.snapshot_results_perm e₁).trans (h.trans (s₂.snapshot_results_perm e₂).symm)

theorem count_snapshot_eq (h : s₁.results.Perm s₂.results) (e₁ e₂ : Duration) (o : Outcome) :
    (s₁.snapshot e₁).count o = (s₂.snapshot e₂).count o := by
  rw [count_snapshot, count_snapshot, h.countP_eq]

theorem total_snapshot_eq (h : s₁.results.Perm s₂.results) (e₁ e₂ : Duration) :
    (s₁.snapshot e₁).total = (s₂.snapshot e₂).total := by
  rw [total_snapshot, total_snapshot, h.length_eq]

/-- Sorting is stable, so results that came in in another order are only reported in the same one
if no two of them have the same key. -/
theorem snapshot_results_eq (h : s₁.results.Perm s₂.results)
    (hkeys : s₁.results.Pairwise fun a b => ¬ a.SameKey b) (e₁ e₂ : Duration) :
    (s₁.snapshot e₁).results = (s₂.snapshot e₂).results := by
  refine List.Perm.eq_of_pairwise ?_ (s₁.snapshot_results_sorted e₁) (s₂.snapshot_results_sorted e₂)
    (snapshot_results_perm_snapshot h e₁ e₂)
  intro a b ha hb hab hba
  have ha : a ∈ s₁.results := (s₁.snapshot_results_perm e₁).mem_iff.mp ha
  have hb : b ∈ s₁.results := h.mem_iff.mpr ((s₂.snapshot_results_perm e₂).mem_iff.mp hb)
  by_contra hne
  have hsymm : Std.Symm fun a b : TestResult => ¬ a.SameKey b :=
    ⟨fun _ _ hab hba => hab hba.symm⟩
  exact hkeys.forall ha hb hne (TestResult.sameKey_of_atMost hab hba)

end Summary

end ShellSuite
