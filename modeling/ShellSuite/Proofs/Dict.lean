import ShellSuite.Dict

set_option autoImplicit false
set_option relaxedAutoImplicit false

/-!
Maps by the values of their names. Maps whose names have the same values are equal, so that laws of
overlays follow from what an overlay does to the value of one name.
-/

namespace ShellSuite

namespace Dict

variable {β : Type}

/-- The value that entries give to a name: the first one counts. -/
def valueIn (es : List (String × β)) (key : String) : Option β :=
  (es.find? fun e => e.1 = key).map (·.2)

theorem get?_eq_valueIn (d : Dict β) (key : String) : d.get? key = valueIn d.entries key :=
  rfl

theorem valueIn_cons (e : String × β) (es : List (String × β)) (key : String) :
    valueIn (e :: es) key = if e.1 = key then some e.2 else valueIn es key := by
  by_cases h : e.1 = key
  · simp [valueIn, h]
  · simp [valueIn, h]

private theorem valueIn_insertEntry (key : String) (value : β) (es : List (String × β))
    (other : String) :
    valueIn (insertEntry key value es) other =
      if key = other then some value else valueIn es other := by
  induction es with
  | nil => rw [insertEntry, valueIn_cons]
  | cons e es ih =>
    unfold insertEntry
    split
    · rw [valueIn_cons]
    · split
      case isTrue hkey =>
        rw [valueIn_cons, valueIn_cons, ← hkey]
        split <;> rfl
      case isFalse hkey =>
        rw [valueIn_cons, valueIn_cons, ih]
        -- both names cannot be the other one
        by_cases he : e.1 = other
        · have hne : key ≠ other := by
            rintro rfl
            exact hkey he.symm
          simp [he, hne]
        · simp [he]

theorem get?_insert (d : Dict β) (key : String) (value : β) (other : String) :
    (d.insert key value).get? other = if key = other then some value else d.get? other :=
  valueIn_insertEntry key value d.entries other

theorem mem_keys_iff {d : Dict β} {key : String} : key ∈ d.keys ↔ (d.get? key).isSome := by
  simp [keys, get?]

theorem contains_iff_mem_keys {d : Dict β} {key : String} : d.contains key ↔ key ∈ d.keys := by
  simp [contains, keys]

private theorem valueIn_eq_none_of_lt {es : List (String × β)} {key : String}
    (h : ∀ e ∈ es, key < e.1) :
    valueIn es key = none := by
  have hfind : es.find? (fun e => e.1 = key) = none := by
    rw [List.find?_eq_none]
    intro e he heq
    have hlt := h e he
    rw [of_decide_eq_true heq] at hlt
    exact String.lt_irrefl _ hlt
  rw [valueIn, hfind]
  rfl

theorem mem_iff_valueIn {es : List (String × β)} (h : es.Pairwise fun a b => a.1 < b.1)
    (key : String) (value : β) : (key, value) ∈ es ↔ valueIn es key = some value := by
  induction es with
  | nil => simp [valueIn]
  | cons e es ih =>
    rw [List.pairwise_cons] at h
    rw [List.mem_cons, valueIn_cons, ih h.2]
    by_cases he : e.1 = key
    · subst he
      rw [if_pos rfl, valueIn_eq_none_of_lt h.1]
      constructor
      · rintro (heq | hnone)
        · rw [← heq]
        · cases hnone
      · intro hvalue
        exact .inl (Prod.ext rfl (Option.some.inj hvalue).symm)
    · rw [if_neg he]
      constructor
      · rintro (rfl | hvalue)
        · exact absurd rfl he
        · exact hvalue
      · exact .inr

theorem eq_of_mem_entries {d : Dict β} {e f : String × β} (he : e ∈ d.entries) (hf : f ∈ d.entries)
    (h : e.1 = f.1) : e = f := by
  have hvalue := (mem_iff_valueIn d.sorted e.1 e.2).mp he
  rw [h, (mem_iff_valueIn d.sorted f.1 f.2).mp hf] at hvalue
  exact Prod.ext h (Option.some.inj hvalue).symm

theorem flatMap_insert_perm {α : Type} (d : Dict (List α)) (key : String) (more : List α) :
    ((d.insert key ((d.get? key).getD [] ++ more)).entries.flatMap (·.2)).Perm
      (d.entries.flatMap (·.2) ++ more) := by
  have hentries : ∀ es : List (String × List α), es.Pairwise (fun a b => a.1 < b.1) →
      ((insertEntry key ((valueIn es key).getD [] ++ more) es).flatMap (·.2)).Perm
        (es.flatMap (·.2) ++ more) := by
    intro es
    induction es with
    | nil => exact fun _ => by simp [insertEntry, valueIn]
    | cons e es ih =>
      intro h
      rw [List.pairwise_cons] at h
      unfold insertEntry
      split
      case isTrue hless =>
        -- the name is new: all names from here on are greater
        have hnone : valueIn (e :: es) key = none := by
          refine valueIn_eq_none_of_lt fun x hx => ?_
          rcases List.mem_cons.mp hx with rfl | hx
          · exact hless
          · exact String.lt_trans hless (h.1 x hx)
        rw [hnone, List.flatMap_cons]
        exact List.perm_append_comm
      case isFalse =>
        split
        case isTrue hkey =>
          rw [valueIn_cons, if_pos hkey.symm, List.flatMap_cons, List.flatMap_cons]
          simpa using List.perm_append_comm.append_left e.2
        case isFalse hkey =>
          rw [valueIn_cons, if_neg (Ne.symm hkey), List.flatMap_cons, List.flatMap_cons,
            List.append_assoc]
          exact (ih h.2).append_left e.2
  exact hentries d.entries d.sorted

private theorem ext_get? {d₁ d₂ : Dict β} (h : ∀ key, d₁.get? key = d₂.get? key) : d₁ = d₂ := by
  have hnodup : ∀ d : Dict β, d.entries.Nodup := by
    intro d
    refine d.sorted.imp ?_
    rintro a _ hlt rfl
    exact String.lt_irrefl _ hlt
  have hmem : ∀ e, e ∈ d₁.entries ↔ e ∈ d₂.entries := by
    rintro ⟨key, value⟩
    rw [mem_iff_valueIn d₁.sorted, mem_iff_valueIn d₂.sorted, ← get?_eq_valueIn, ← get?_eq_valueIn,
      h]
  have hentries : d₁.entries = d₂.entries := by
    refine List.Perm.eq_of_pairwise ?_ d₁.sorted d₂.sorted
      ((List.perm_ext_iff_of_nodup (hnodup d₁) (hnodup d₂)).mpr hmem)
    intro a b _ _ hab hba
    exact absurd (String.lt_trans hab hba) (String.lt_irrefl _)
  cases d₁
  cases d₂
  cases hentries
  rfl

private theorem get?_insertAll {es : List (String × β)} (h : es.Pairwise fun a b => a.1 < b.1)
    (d : Dict β) (key : String) : (d.insertAll es).get? key = (valueIn es key).or (d.get? key) := by
  induction es generalizing d with
  | nil => rfl
  | cons e es ih =>
    rw [List.pairwise_cons] at h
    have hrest : (d.insertAll (e :: es)).get? key =
        (valueIn es key).or ((d.insert e.1 e.2).get? key) := ih h.2 _
    rw [hrest, get?_insert, valueIn_cons]
    by_cases he : e.1 = key
    · subst he
      simp [valueIn_eq_none_of_lt h.1]
    · simp [he]

theorem get?_overlay (under top : Dict β) (key : String) :
    (under.overlay top).get? key = (top.get? key).or (under.get? key) :=
  get?_insertAll top.sorted under key

theorem overlay_assoc (a b c : Dict β) : (a.overlay b).overlay c = a.overlay (b.overlay c) := by
  apply ext_get?
  intro key
  simp only [get?_overlay, Option.or_assoc]

theorem overlay_overlay (a b : Dict β) : (a.overlay b).overlay b = a.overlay b := by
  apply ext_get?
  intro key
  simp only [get?_overlay, ← Option.or_assoc, Option.or_self]

end Dict

namespace NameSet

theorem insertNames_append (s : NameSet) (names more : List String) :
    s.insertNames (names ++ more) = (s.insertNames names).insertNames more := by
  simp [insertNames, Dict.insertAll, List.foldl_append]

theorem get?_insertNames (s : NameSet) (names : List String) (key : String) :
    (s.insertNames names).get? key = if key ∈ names then some () else s.get? key := by
  induction names generalizing s with
  | nil => simp [insertNames, Dict.insertAll]
  | cons name names ih =>
    have hrest : (s.insertNames (name :: names)).get? key =
        if key ∈ names then some () else (s.insert name ()).get? key := ih _
    rw [hrest, Dict.get?_insert]
    by_cases hname : name = key
    · simp [hname]
    · simp [hname, Ne.symm hname]

theorem insertNames_insertNames (s : NameSet) (names : List String) :
    (s.insertNames names).insertNames names = s.insertNames names := by
  apply Dict.ext_get?
  intro key
  simp only [get?_insertNames]
  split <;> rfl

end NameSet

end ShellSuite
