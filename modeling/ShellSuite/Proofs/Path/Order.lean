import ShellSuite.Proofs.Path

set_option autoImplicit false
set_option relaxedAutoImplicit false

/-!
The order of paths is a strict total order up to paths with the same components. Where two paths part
at a name, all that lies below the one comes before all that lies below the other.
-/

namespace ShellSuite.Path

namespace Component

private theorem name_less_name {m n : String} : (name m).less (name n) = true ↔ m < n :=
  decide_eq_true_iff

private theorem less_iff {a b : Component} :
    a.less b = true ↔ a.rank < b.rank ∨ ∃ m n, a = name m ∧ b = name n ∧ m < n := by
  cases a <;> cases b
  case name.name m n =>
    rw [name_less_name]
    constructor
    · intro h
      exact .inr ⟨m, n, rfl, rfl, h⟩
    · rintro (h | ⟨_, _, ⟨⟩, ⟨⟩, h⟩)
      · exact absurd h (Nat.lt_irrefl _)
      · exact h
  all_goals simp [less]

private theorem less_irrefl (a : Component) : a.less a = false := by
  rw [Bool.eq_false_iff, Ne, less_iff]
  rintro (h | ⟨m, _, rfl, ⟨⟩, h⟩)
  · exact Nat.lt_irrefl _ h
  · exact String.lt_irrefl m h

theorem less_trans {a b c : Component} (hab : a.less b = true) (hbc : b.less c = true) :
    a.less c = true := by
  rw [less_iff] at hab hbc ⊢
  rcases hab with hab | ⟨l, m, rfl, rfl, hlm⟩
  · rcases hbc with hbc | ⟨m, n, rfl, rfl, -⟩
    · exact .inl (Nat.lt_trans hab hbc)
    · exact .inl hab
  · rcases hbc with hbc | ⟨_, n, ⟨⟩, rfl, hmn⟩
    · exact .inl hbc
    · exact .inr ⟨l, n, rfl, rfl, String.lt_trans hlm hmn⟩

private theorem less_or_eq_or_less (a b : Component) :
    a.less b = true ∨ a = b ∨ b.less a = true := by
  cases a <;> cases b
  case name.name m n =>
    rw [name_less_name, name_less_name]
    by_cases hmn : m < n
    · exact .inl hmn
    by_cases hnm : n < m
    · exact .inr (.inr hnm)
    · have heq : m = n := String.le_antisymm (String.not_lt.mp hnm) (String.not_lt.mp hmn)
      exact .inr (.inl (congrArg name heq))
  all_goals simp [less, rank]

end Component

private theorem componentsLess_irrefl (as : List Component) : componentsLess as as = false := by
  induction as with
  | nil => rfl
  | cons a as ih => simp [componentsLess, ih]

private theorem componentsLess_trans {as bs cs : List Component} (hab : componentsLess as bs = true)
    (hbc : componentsLess bs cs = true) : componentsLess as cs = true := by
  induction as generalizing bs cs with
  | nil =>
    cases cs with
    | nil => simp [componentsLess] at hbc
    | cons c cs => rfl
  | cons a as ih =>
    cases bs with
    | nil => simp [componentsLess] at hab
    | cons b bs =>
      cases cs with
      | nil => simp [componentsLess] at hbc
      | cons c cs =>
        simp only [componentsLess] at hab hbc ⊢
        -- where both heads differ, the first may still come back as the third: then it would be
        -- below itself
        by_cases h₁ : a = b <;> by_cases h₂ : b = c
        · subst h₁ h₂
          simpa using ih (by simpa using hab) (by simpa using hbc)
        · subst h₁
          simpa [h₂] using hbc
        · subst h₂
          simpa [h₁] using hab
        · rw [if_neg h₁] at hab
          rw [if_neg h₂] at hbc
          have hac : a.less c = true := Component.less_trans hab hbc
          have hne : a ≠ c := by
            rintro rfl
            simp [Component.less_irrefl] at hac
          simpa [hne] using hac

private theorem componentsLess_or_eq_or_componentsLess (as bs : List Component) :
    componentsLess as bs = true ∨ as = bs ∨ componentsLess bs as = true := by
  induction as generalizing bs with
  | nil => cases bs <;> simp [componentsLess]
  | cons a as ih =>
    cases bs with
    | nil => simp [componentsLess]
    | cons b bs =>
      by_cases hab : a = b
      · subst hab
        simpa [componentsLess] using ih bs
      · simpa [componentsLess, hab, Ne.symm hab] using Component.less_or_eq_or_less a b

theorem same_iff {p q : Path} : p.same q = true ↔ p.components = q.components := by
  simp [same]

theorem less_irrefl_of_same {p q : Path} (h : p.same q = true) : p.less q = false := by
  rw [less, same_iff.mp h, componentsLess_irrefl]

theorem less_trans {p q r : Path} (hpq : p.less q = true) (hqr : q.less r = true) :
    p.less r = true :=
  componentsLess_trans hpq hqr

theorem less_or_same_or_less (p q : Path) :
    p.less q = true ∨ p.same q = true ∨ q.less p = true := by
  rw [same_iff]
  exact componentsLess_or_eq_or_componentsLess p.components q.components

theorem less_of_same_of_less {p q r : Path} (hpq : p.same q = true) (hqr : q.less r = true) :
    p.less r = true := by
  rwa [less, same_iff.mp hpq]

theorem less_of_less_of_same {p q r : Path} (hpq : p.less q = true) (hqr : q.same r = true) :
    p.less r = true := by
  rwa [less, ← same_iff.mp hqr]

def Encloses (p q : Path) : Prop :=
  p.components <+: q.components

/-- Two paths part at a name, and the one of the first path is less. -/
def Before (p q : Path) : Prop :=
  ∃ front a b as bs, p.components = front ++ .name a :: as ∧ q.components = front ++ .name b :: bs ∧
    a < b

theorem Encloses.refl (p : Path) : p.Encloses p :=
  List.prefix_rfl

theorem Encloses.trans {p q r : Path} (hpq : p.Encloses q) (hqr : q.Encloses r) : p.Encloses r :=
  List.IsPrefix.trans hpq hqr

theorem encloses_child (dir : Path) {name : String} (h : IsName name) :
    dir.Encloses (dir.child name) :=
  ⟨[.name name], (components_child dir h).symm⟩

private theorem componentsLess_append (front as bs : List Component) :
    componentsLess (front ++ as) (front ++ bs) = componentsLess as bs := by
  induction front with
  | nil => rfl
  | cons c front ih => simp [componentsLess, ih]

theorem Before.less {p q : Path} (h : p.Before q) : p.less q = true := by
  obtain ⟨front, a, b, as, bs, hp, hq, hab⟩ := h
  have hne : a ≠ b := by
    rintro rfl
    exact String.lt_irrefl a hab
  rw [Path.less, hp, hq, componentsLess_append]
  simp [componentsLess, hne, Component.name_less_name.mpr hab]

theorem Before.below {p q p' q' : Path} (h : p.Before q) (hp : p.Encloses p') (hq : q.Encloses q') :
    p'.Before q' := by
  obtain ⟨front, a, b, as, bs, hpc, hqc, hab⟩ := h
  obtain ⟨more, hmore⟩ := hp
  obtain ⟨more', hmore'⟩ := hq
  refine ⟨front, a, b, as ++ more, bs ++ more', ?_, ?_, hab⟩
  · rw [← hmore, hpc, List.append_assoc, List.cons_append]
  · rw [← hmore', hqc, List.append_assoc, List.cons_append]

theorem before_child (dir : Path) {a b : String} (ha : IsName a) (hb : IsName b) (hab : a < b) :
    (dir.child a).Before (dir.child b) :=
  ⟨dir.components, a, b, [], [], components_child dir ha, components_child dir hb, hab⟩

/-- A path comes before another one and before all that lies below that one. -/
def Precedes (p q : Path) : Prop :=
  ∀ q' : Path, q.Encloses q' → p.less q' = true

theorem Before.precedes {p q : Path} (h : p.Before q) : p.Precedes q :=
  fun _ hq => (h.below (.refl p) hq).less

theorem Precedes.less {p q : Path} (h : p.Precedes q) : p.less q = true :=
  h q (.refl q)

theorem Precedes.below {p q q' : Path} (h : p.Precedes q) (hq : q.Encloses q') : p.Precedes q' :=
  fun r hr => h r (hq.trans hr)

theorem precedes_child (dir : Path) {name : String} (h : IsName name) :
    dir.Precedes (dir.child name) := by
  rintro q ⟨more, hmore⟩
  have hcomponents : q.components = dir.components ++ .name name :: more := by
    rw [← hmore, components_child dir h, List.append_assoc, List.singleton_append]
  have hless : componentsLess (dir.components ++ []) q.components = true := by
    rw [hcomponents, componentsLess_append]
    rfl
  rwa [List.append_nil] at hless

end ShellSuite.Path
