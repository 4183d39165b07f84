import ShellSuite.Proofs.Substitutions.History

set_option autoImplicit false
set_option relaxedAutoImplicit false

/-!
Percent signs in tables of substitutions. In a table whose keys are marked by a percent sign, a text
is written literally by doubling its percent signs: `%%` is found at each pair of them, and no key
is found at any other character.
-/

namespace ShellSuite.Substitutions

/-- A key that starts with a percent sign, and with two of them only if it is `%%`. -/
structure IsMarked (key : String) : Prop where
  sign : key.toList.head? = some '%'
  alone : ['%', '%'] <+: key.toList → key = "%%"

instance (key : String) : Decidable (IsMarked key) :=
  decidable_of_iff (key.toList.head? = some '%' ∧ (['%', '%'] <+: key.toList → key = "%%"))
    ⟨fun h => ⟨h.1, h.2⟩, fun h => ⟨h.1, h.2⟩⟩

/-- A table that maps `%%` to `%`, with marked keys only. -/
structure WritesPercent (t : Substitutions) : Prop where
  percent : ("%%", "%") ∈ t.entries
  marked : ∀ key ∈ t.keys, IsMarked key

section

variable {t : Substitutions}

private theorem WritesPercent.matchAt_percent (h : t.WritesPercent) (cs : List Char) :
    t.matchAt ('%' :: '%' :: cs) = some ("%%", "%") := by
  rw [matchAt_eq_some_iff]
  refine ⟨h.percent, ⟨cs, rfl⟩, ?_⟩
  intro e he hfront
  have hkey : IsMarked e.1 := h.marked e.1 (List.mem_map_of_mem he)
  by_cases hpair : ['%', '%'] <+: e.1.toList
  · rw [hkey.alone hpair]
  · -- a key that does not go on with the second sign is a front of the first one
    have hlength : e.1.toList.length < 2 := by
      by_contra hlong
      exact hpair (List.prefix_of_prefix_length_le ⟨cs, rfl⟩ hfront (Nat.le_of_not_lt hlong))
    obtain ⟨more, hmore⟩ : e.1.toList <+: ['%'] :=
      List.prefix_of_prefix_length_le hfront ⟨'%' :: cs, rfl⟩ (Nat.le_of_lt_succ hlength)
    have htext : e.1 ++ String.ofList more = "%" := by
      apply String.toList_injective
      simpa using hmore
    have hsize : e.1.utf8ByteSize + (String.ofList more).utf8ByteSize = 1 := by
      rw [← String.utf8ByteSize_append, htext]
      rfl
    have hpercent : "%%".utf8ByteSize = 2 := rfl
    omega

private theorem WritesPercent.matchAt_other (h : t.WritesPercent) {c : Char} (hc : c ≠ '%')
    (cs : List Char) : t.matchAt (c :: cs) = none := by
  apply matchAt_eq_none_of_head
  intro key hkey hhead
  rw [(h.marked key hkey).sign] at hhead
  exact hc (Option.some.inj hhead).symm

/-- The pass over a doubled text goes from pair to pair, in runs of percent signs too. -/
theorem WritesPercent.applyChars_doubled (h : t.WritesPercent) (cs : List Char) :
    t.applyChars (cs.flatMap fun c => if c == '%' then "%%".toList else [c]) = cs := by
  induction cs with
  | nil => simp [applyChars]
  | cons c cs ih =>
    rw [List.flatMap_cons]
    by_cases hc : c = '%'
    · subst hc
      have hpair (rest : List Char) :
          t.applyChars ('%' :: '%' :: rest) = '%' :: t.applyChars rest := by
        rw [applyChars, h.matchAt_percent]
        rfl
      exact (hpair _).trans (congrArg _ ih)
    · rw [if_neg (by simpa using hc), List.singleton_append, applyChars, h.matchAt_other hc]
      exact congrArg _ ih

end

private theorem latest_append_of_forall {history more : List (String × String)} {key value : String}
    (h : latest history key = some value) (hmore : ∀ e ∈ more, e.1 = key → e.2 = value) :
    latest (history ++ more) key = some value := by
  induction more generalizing history with
  | nil => rwa [List.append_nil]
  | cons e more ih =>
    rw [List.forall_mem_cons] at hmore
    have hnext : latest (history ++ [e]) key = some value := by
      rw [latest_append_singleton]
      split
      case isTrue hkey => rw [hmore.1 hkey.1]
      case isFalse => exact h
    have hall := ih hnext hmore.2
    rwa [List.append_assoc] at hall

private theorem writesPercent_ofPairs {pairs : List (String × String)}
    (hpercent : latest pairs "%%" = some "%") (hmarked : ∀ e ∈ pairs, IsMarked e.1) :
    (ofPairs pairs).WritesPercent := by
  refine ⟨(mem_ofPairs_iff pairs _ _).mpr hpercent, ?_⟩
  intro key hkey
  obtain ⟨e, he, rfl⟩ := List.mem_map.mp hkey
  have hlatest : latest pairs e.1 = some e.2 := (mem_ofPairs_iff pairs e.1 e.2).mp he
  obtain ⟨-, other, hmem⟩ := (exists_latest_iff pairs e.1).mp ⟨e.2, hlatest⟩
  exact hmarked (e.1, other) hmem

private theorem writesPercent_forTest_extend (test scratch : Path) {d : Dict String}
    (hmarked : ∀ e ∈ d.entries, IsMarked e.1)
    (hpercent : ∀ e ∈ d.entries, e.1 = "%%" → e.2 = "%") :
    ((forTest test scratch).extend d).WritesPercent := by
  have htable : (forTest test scratch).extend d =
      ofPairs ((Origin.test test scratch).pairs ++ d.entries) :=
    Operation.run_ofPairs (Origin.test test scratch).pairs (.extend d)
  rw [htable]
  apply writesPercent_ofPairs
  · exact latest_append_of_forall rfl hpercent
  · have hbuiltin : ∀ e ∈ (Origin.test test scratch).pairs, IsMarked e.1 := by
      simp only [Origin.pairs, List.forall_mem_cons]
      decide
    exact List.forall_mem_append.mpr ⟨hbuiltin, hmarked⟩

/-- Doubling its percent signs writes any text literally, in every table that maps `%%` to `%`, whose
keys start with a percent sign, and in which no other key starts with two of them. The tables of
tests are such tables, and stay so when keys of that kind are added. -/
theorem apply_doubled :
    (∀ t : Substitutions, t.WritesPercent →
      ∀ text, t.apply (Text.replace text '%' "%%") = text) ∧
    ∀ (test scratch : Path) (d : Dict String), (∀ e ∈ d.entries, IsMarked e.1) →
      (∀ e ∈ d.entries, e.1 = "%%" → e.2 = "%") →
      ((forTest test scratch).extend d).WritesPercent := by
  refine ⟨?_, fun test scratch d => writesPercent_forTest_extend test scratch⟩
  intro t h text
  apply String.toList_injective
  rw [apply, Text.replace, String.toList_ofList, String.toList_ofList]
  exact h.applyChars_doubled text.toList

/-- Next to the key of a single sign and to a long key, five signs in a row and one in front of the
rest of that key are doubled and read back. -/
theorem apply_doubled_run :
    let d := (Dict.empty.insert "%" "one").insert "%ss" "two"
    let t := (forTest ⟨"/s/a.t"⟩ ⟨"/tmp/x"⟩).extend d
    (∀ e ∈ d.entries, IsMarked e.1) ∧ (∀ e ∈ d.entries, e.1 = "%%" → e.2 = "%") ∧
      t.WritesPercent ∧ t.apply "%%%%%%%%%% %%ss" = "%%%%% %ss" := by
  intro d t
  have hmarked : ∀ e ∈ d.entries, IsMarked e.1 := by decide
  have hpercent : ∀ e ∈ d.entries, e.1 = "%%" → e.2 = "%" := by decide
  have ht : t.WritesPercent := apply_doubled.2 _ _ d hmarked hpercent
  have hdoubled : Text.replace "%%%%% %ss" '%' "%%" = "%%%%%%%%%% %%ss" := by decide
  exact ⟨hmarked, hpercent, ht, hdoubled ▸ apply_doubled.1 t ht "%%%%% %ss"⟩

end ShellSuite.Substitutions
