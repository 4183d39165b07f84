import Mathlib.Data.List.Find
import ShellSuite.Substitutions

set_option autoImplicit false
set_option relaxedAutoImplicit false

/-!
Tables of substitutions by their keys: the set of the keys fixes the order in which they are tried,
and so it fixes which key is found at a place. What keys are looked for in ends where a character
stands that no key has.
-/

namespace ShellSuite.Substitutions

theorem keys_pairwise (t : Substitutions) : t.keys.Pairwise fun a b => keyBefore a b = true :=
  List.pairwise_map.mpr t.sorted

theorem keys_nodup (t : Substitutions) : t.keys.Nodup := by
  refine t.keys_pairwise.imp ?_
  intro a b h hab
  rw [hab, keyBefore_irrefl] at h
  exact Bool.false_ne_true h

theorem keys_ne_empty (t : Substitutions) {key : String} (h : key ∈ t.keys) : key ≠ "" := by
  obtain ⟨e, he, rfl⟩ := List.mem_map.mp h
  exact t.nonempty e he

theorem keys_eq_of_mem_iff {t₁ t₂ : Substitutions} (h : ∀ key, key ∈ t₁.keys ↔ key ∈ t₂.keys) :
    t₁.keys = t₂.keys := by
  have hperm : t₁.keys.Perm t₂.keys :=
    (List.perm_ext_iff_of_nodup t₁.keys_nodup t₂.keys_nodup).mpr h
  refine List.Perm.eq_of_pairwise ?_ t₁.keys_pairwise t₂.keys_pairwise hperm
  intro a b _ _ hab hba
  have hself := keyBefore_trans hab hba
  rw [keyBefore_irrefl] at hself
  exact (Bool.false_ne_true hself).elim

theorem matchAt_map_key (t : Substitutions) (cs : List Char) :
    (t.matchAt cs).map (·.1) = t.keys.find? fun key => key.toList.isPrefixOf cs := by
  rw [keys, List.find?_map]
  rfl

theorem matchAt_isPrefixOf {t : Substitutions} {cs : List Char} {key value : String}
    (h : t.matchAt cs = some (key, value)) : key ∈ t.keys ∧ key.toList <+: cs := by
  have hmem := List.mem_of_find?_eq_some h
  have hfront := List.find?_some h
  exact ⟨List.mem_map_of_mem hmem, List.isPrefixOf_iff_prefix.mp hfront⟩

theorem matchAt_append {t : Substitutions} {c : Char} (h : ∀ key ∈ t.keys, c ∉ key.toList)
    (cs rest : List Char) : t.matchAt (cs ++ c :: rest) = t.matchAt cs := by
  refine List.find?_congr ?_
  intro e he
  have hc : c ∉ e.1.toList := h e.1 (List.mem_map_of_mem he)
  rw [Bool.eq_iff_iff, List.isPrefixOf_iff_prefix, List.isPrefixOf_iff_prefix]
  constructor
  · intro hlong
    rcases Nat.lt_or_ge cs.length e.1.toList.length with hlt | hle
    · -- a key that goes on behind the characters has the one that stands there
      have hinner : cs ++ [c] <+: e.1.toList := by
        refine List.prefix_of_prefix_length_le ⟨rest, by simp⟩ hlong ?_
        rw [List.length_append, List.length_singleton]
        omega
      exact absurd (hinner.subset (by simp)) hc
    · exact List.prefix_of_prefix_length_le hlong (List.prefix_append cs _) hle
  · intro hshort
    exact hshort.trans (List.prefix_append cs _)

theorem length_le_of_matchAt {t : Substitutions} {c : Char} {cs : List Char} {key value : String}
    (h : t.matchAt (c :: cs) = some (key, value)) : key.length - 1 ≤ cs.length := by
  have hlength := (matchAt_isPrefixOf h).2.length_le
  rw [String.length_toList, List.length_cons] at hlength
  omega

theorem matchAt_eq_none_of_head {t : Substitutions} {c : Char}
    (h : ∀ key ∈ t.keys, key.toList.head? ≠ some c) (cs : List Char) :
    t.matchAt (c :: cs) = none := by
  cases hmatch : t.matchAt (c :: cs) with
  | none => rfl
  | some e =>
    obtain ⟨hmem, rest, happend⟩ := matchAt_isPrefixOf hmatch
    cases hkey : e.1.toList with
    | nil => exact absurd (String.toList_eq_nil_iff.mp hkey) (t.keys_ne_empty hmem)
    | cons d ds =>
      rw [hkey, List.cons_append] at happend
      have hhead : e.1.toList.head? = some c := by rw [hkey, (List.cons.inj happend).1]; rfl
      exact absurd hhead (h e.1 hmem)

end ShellSuite.Substitutions
