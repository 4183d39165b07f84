import ShellSuite.Config
import ShellSuite.Proofs.Dict

set_option autoImplicit false
set_option relaxedAutoImplicit false

/-!
Settings without a fault, and configurations all of whose values can be used. Laying settings without
a fault over such a configuration, with whatever flags, makes another one.
-/

namespace ShellSuite

namespace Override

/-- What settings without a fault are like. -/
structure Valid (o : Override) : Prop where
  name : ∀ n ∈ o.name, isBlankText n = false
  suffixes : ∀ s ∈ o.suffixes, bareSuffix s ≠ ""
  substitutions : "" ∉ o.substitutions.keys
  env : ∀ n ∈ o.env.keys, isBadVariable n = false
  excludes : ∀ n ∈ o.excludes, isBadExclude n = false
  timeout : o.timeout ≠ some 0
  marker : ∀ m ∈ o.commentMarker, isBlankText m = false

theorem fault?_eq_none_iff {o : Override} : o.fault? = none ↔ o.Valid := by
  constructor
  · intro h
    unfold fault? at h
    split at h
    · cases h
    next hname =>
    split at h
    · cases h
    next hsuffixes =>
    split at h
    · cases h
    next hsubstitutions =>
    split at h
    · cases h
    next henv =>
    split at h
    · cases h
    next hexcludes =>
    split at h
    · cases h
    next htimeout =>
    split at h
    · cases h
    next hmarker =>
    simp only [Option.any_eq_true, List.any_eq_true, not_exists, not_and, Bool.not_eq_true,
      decide_eq_true_eq, List.find?_eq_none, Dict.contains_iff_mem_keys] at *
    exact ⟨hname, hsuffixes, hsubstitutions, henv, hexcludes, htimeout, hmarker⟩
  · intro h
    have hblank {text : Option String} (htext : ∀ t ∈ text, isBlankText t = false) :
        ¬ text.any isBlankText := by
      rw [Option.any_eq_true]
      rintro ⟨t, rfl, ht⟩
      exact absurd (htext t rfl) (by simp [ht])
    have hsuffixes : ¬ (o.suffixes.any fun s => bareSuffix s = "") := by simpa using h.suffixes
    have hsubstitutions : ¬ o.substitutions.contains "" := by
      rw [Dict.contains_iff_mem_keys]
      exact h.substitutions
    have henv : o.env.keys.find? isBadVariable = none := by simpa using h.env
    have hexcludes : ¬ o.excludes.any isBadExclude := by simpa using h.excludes
    rw [fault?, if_neg (hblank h.name), if_neg hsuffixes, if_neg hsubstitutions, henv]
    simp only [if_neg hexcludes, if_neg h.timeout, if_neg (hblank h.marker)]

private theorem head?_bareSuffix (s : String) : (bareSuffix s).toList.head? ≠ some '.' := by
  intro hdot
  have hhead := List.head?_dropWhile_not (· == '.') s.toList
  simp only [bareSuffix, String.toList_ofList] at hdot
  simp [hdot] at hhead

end Override

namespace Config

/-- A configuration all of whose values can be used. -/
structure WellFormed (c : Config) : Prop where
  suffixes : ∀ s ∈ c.suffixes.keys, s ≠ "" ∧ s.toList.head? ≠ some '.'
  substitutions : "" ∉ c.substitutions.keys
  env : ∀ n ∈ c.env.keys, n ≠ "" ∧ '=' ∉ n.toList
  excludes : ∀ n ∈ c.excludes.keys, n ≠ "" ∧ '/' ∉ n.toList
  timeout : ∀ t ∈ c.timeout, Duration.ofSeconds 1 ≤ t
  marker : ∀ m ∈ c.commentMarker, ∃ char ∈ m.toList, Text.isBlank char = false

theorem wellFormed_initial (root : Path) : (initial root).WellFormed where
  suffixes := by simp [initial, Dict.empty, Dict.keys]
  substitutions := by simp [initial, Dict.empty, Dict.keys]
  env := by simp [initial, Dict.empty, Dict.keys]
  excludes := by simp [initial, Dict.empty, Dict.keys]
  timeout := by simp [initial]
  marker := by simp [initial]

private theorem mem_keys_extendNames {clear : Bool} {inherited : NameSet} {names : List String}
    {name : String} (h : name ∈ (extendNames clear inherited names).keys) :
    name ∈ inherited.keys ∨ name ∈ names := by
  rw [Dict.mem_keys_iff, extendNames, NameSet.get?_insertNames] at h
  split at h
  next hname => exact .inr hname
  next =>
    cases clear with
    | true => cases h
    | false => exact .inl (Dict.mem_keys_iff.mpr h)

private theorem mem_keys_extendMap {clear : Bool} {inherited added : Dict String} {name : String}
    (h : name ∈ (extendMap clear inherited added).keys) :
    name ∈ inherited.keys ∨ name ∈ added.keys := by
  rw [Dict.mem_keys_iff, extendMap, Dict.get?_overlay, Option.isSome_or, Bool.or_eq_true] at h
  rcases h with h | h
  · exact .inr (Dict.mem_keys_iff.mpr h)
  · cases clear with
    | true => cases h
    | false => exact .inl (Dict.mem_keys_iff.mpr h)

/-- A layer of settings without a fault keeps a configuration well-formed: each collection has
inherited names and names of the layer only, and each other value is that of the layer or
inherited. -/
theorem WellFormed.merge {c : Config} (hc : c.WellFormed) {o : Override} (ho : o.Valid)
    (dir : Path) : (c.merge dir o).WellFormed where
  suffixes := by
    intro s hs
    rcases mem_keys_extendNames hs with hs | hs
    · exact hc.suffixes s hs
    · obtain ⟨raw, hraw, rfl⟩ := List.mem_map.mp hs
      exact ⟨ho.suffixes raw hraw, Override.head?_bareSuffix raw⟩
  substitutions := by
    intro hempty
    rcases mem_keys_extendMap hempty with hempty | hempty
    · exact hc.substitutions hempty
    · exact ho.substitutions hempty
  env := by
    intro n hn
    rcases mem_keys_extendMap hn with hn | hn
    · exact hc.env n hn
    · simpa [Override.isBadVariable] using ho.env n hn
  excludes := by
    intro n hn
    rcases mem_keys_extendNames hn with hn | hn
    · exact hc.excludes n hn
    · simpa [Override.isBadExclude] using ho.excludes n hn
  timeout := by
    intro t ht
    rcases Option.or_eq_some_iff.mp ht with ht | ⟨-, ht⟩
    · obtain ⟨seconds, hseconds, rfl⟩ := Option.map_eq_some_iff.mp ht
      have hpos : seconds ≠ 0 := by
        rintro rfl
        exact ho.timeout hseconds
      exact Nat.mul_le_mul_right _ (Nat.one_le_iff_ne_zero.mpr hpos)
    · exact hc.timeout t ht
  marker := by
    intro m hm
    rcases Option.or_eq_some_iff.mp hm with hm | ⟨-, hm⟩
    · simpa [Override.isBlankText] using ho.marker m hm
    · exact hc.marker m hm

end Config

end ShellSuite
