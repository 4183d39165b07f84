import ShellSuite.Diff.Script

set_option autoImplicit false
set_option relaxedAutoImplicit false

/-!
Edit scripts lead from the old lines to the new ones, wherever the search cuts them in two.
-/

namespace ShellSuite.Diff

/-- A script leads from one list of lines to another one; it keeps no empty list of lines. -/
inductive Connects : List String → List Step → List String → Prop
  | nil : Connects [] [] []
  | keep {kept old new : List String} {steps : List Step} : kept ≠ [] → Connects old steps new →
      Connects (kept ++ old) (.keep kept.length :: steps) (kept ++ new)
  | delete (gone : List String) {old new : List String} {steps : List Step} :
      Connects old steps new → Connects (gone ++ old) (.delete gone.length :: steps) new
  | insert (added : List String) {old new : List String} {steps : List Step} :
      Connects old steps new → Connects old (.insert added.length :: steps) (added ++ new)

theorem Connects.append {old₁ new₁ old₂ new₂ : List String} {steps₁ steps₂ : List Step}
    (h₁ : Connects old₁ steps₁ new₁) (h₂ : Connects old₂ steps₂ new₂) :
    Connects (old₁ ++ old₂) (steps₁ ++ steps₂) (new₁ ++ new₂) := by
  induction h₁ with
  | nil => exact h₂
  | keep hne _ ih =>
    rw [List.append_assoc, List.append_assoc]
    exact .keep hne ih
  | delete gone _ ih =>
    rw [List.append_assoc]
    exact .delete gone ih
  | insert added _ ih =>
    rw [List.append_assoc]
    exact .insert added ih

private theorem connects_keep (kept : List String) : Connects kept
    (some? .keep kept.length) kept := by
  by_cases hne : kept = []
  · simpa [some?, hne] using Connects.nil
  · have hlength : ¬ kept.length = 0 := by simpa using hne
    rw [some?, if_neg hlength]
    simpa using Connects.keep hne .nil

private theorem connects_replaced (old new : List String) :
    Connects old (some? .delete old.length ++ some? .insert new.length) new := by
  have hold : Connects old (some? .delete old.length) [] := by
    by_cases hne : old = []
    · simpa [some?, hne] using Connects.nil
    · have hlength : ¬ old.length = 0 := by simpa using hne
      rw [some?, if_neg hlength]
      simpa using Connects.delete old .nil
  have hnew : Connects [] (some? .insert new.length) new := by
    by_cases hne : new = []
    · simpa [some?, hne] using Connects.nil
    · have hlength : ¬ new.length = 0 := by simpa using hne
      rw [some?, if_neg hlength]
      simpa using Connects.insert new .nil
  simpa using hold.append hnew

/-! Lines that are shared -/

theorem shared_le_left (old new : List String) : shared old new ≤ old.length := by
  fun_induction shared old new with
  | case1 a as bs ih => exact Nat.succ_le_succ ih
  | case2 => exact Nat.zero_le _
  | case3 => exact Nat.zero_le _

theorem shared_le_right (old new : List String) : shared old new ≤ new.length := by
  fun_induction shared old new with
  | case1 a as bs ih => exact Nat.succ_le_succ ih
  | case2 => exact Nat.zero_le _
  | case3 => exact Nat.zero_le _

theorem take_shared (old new : List String) :
    old.take (shared old new) = new.take (shared old new) := by
  fun_induction shared old new with
  | case1 a as bs ih => simp [ih]
  | case2 => simp
  | case3 => simp

private theorem shared_self (lines : List String) : shared lines lines = lines.length := by
  induction lines with
  | nil => rfl
  | cons line lines ih => simp [shared, ih]

theorem sharedEnd_le_left (old new : List String) : sharedEnd old new ≤ old.length := by
  simpa [sharedEnd] using shared_le_left old.reverse new.reverse

theorem sharedEnd_le_right (old new : List String) : sharedEnd old new ≤ new.length := by
  simpa [sharedEnd] using shared_le_right old.reverse new.reverse

theorem drop_sharedEnd (old new : List String) :
    old.drop (old.length - sharedEnd old new) = new.drop (new.length - sharedEnd old new) := by
  have h := take_shared old.reverse new.reverse
  rw [List.take_reverse, List.take_reverse] at h
  exact List.reverse_inj.mp h

private theorem connects_between {old new : List String} {front back : Nat} {steps : List Step}
    (hfront : front = shared old new) (hback : back = sharedEnd (old.drop front) (new.drop front))
    (h : Connects ((old.drop front).take ((old.drop front).length - back)) steps
      ((new.drop front).take ((new.drop front).length - back))) :
    Connects old (some? .keep front ++ steps ++ some? .keep back) new := by
  have hkept := connects_keep (old.take front)
  have hlast := connects_keep ((old.drop front).drop ((old.drop front).length - back))
  have hfrontLength : (old.take front).length = front := by
    rw [List.length_take, Nat.min_eq_left (hfront ▸ shared_le_left old new)]
  have hbackLength : ((old.drop front).drop ((old.drop front).length - back)).length = back := by
    rw [List.length_drop, Nat.sub_sub_self (hback ▸ sharedEnd_le_left _ _)]
  have hall := (hkept.append h).append hlast
  rw [hfrontLength, hbackLength] at hall
  have hold : old = old.take front ++ (old.drop front).take ((old.drop front).length - back) ++
      (old.drop front).drop ((old.drop front).length - back) := by
    rw [List.append_assoc, List.take_append_drop, List.take_append_drop]
  have hnew : new = old.take front ++ (new.drop front).take ((new.drop front).length - back) ++
      (old.drop front).drop ((old.drop front).length - back) := by
    have hends := drop_sharedEnd (old.drop front) (new.drop front)
    have hfronts := take_shared old new
    rw [← hback] at hends
    rw [← hfront] at hfronts
    rw [hends, hfronts, List.append_assoc, List.take_append_drop, List.take_append_drop]
  rwa [← hold, ← hnew] at hall

theorem script_connects (old new : List String) : Connects old (script old new) new := by
  induction hsize : old.length + new.length using Nat.strongRecOn generalizing old new with
  | ind size ih =>
    rw [script]
    refine connects_between rfl rfl ?_
    generalize hold : (old.drop (shared old new)).take _ = old₂
    generalize hnew : (new.drop (shared old new)).take _ = new₂
    have holdLength : old₂.length ≤ old.length := by
      rw [← hold, List.length_take, List.length_drop]
      omega
    have hnewLength : new₂.length ≤ new.length := by
      rw [← hnew, List.length_take, List.length_drop]
      omega
    split
    · exact connects_replaced old₂ new₂
    · split
      · exact connects_replaced old₂ new₂
      next x y _ =>
        split
        next h =>
          -- both halves are shorter than the whole, wherever the middle lies
          have hfirst := ih _ (by simp only [List.length_take]; omega) (old₂.take x)
            (new₂.take y) rfl
          have hsecond := ih _ (by simp only [List.length_drop]; omega) (old₂.drop x)
            (new₂.drop y) rfl
          have hall := hfirst.append hsecond
          rwa [List.take_append_drop, List.take_append_drop] at hall
        · exact connects_replaced old₂ new₂

theorem script_self (lines : List String) :
    script lines lines = some? .keep lines.length := by
  rw [script]
  simp [shared_self, sharedEnd, some?]

end ShellSuite.Diff
