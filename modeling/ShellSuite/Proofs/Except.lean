set_option autoImplicit false
set_option relaxedAutoImplicit false

/-!
Computations that may fail: what the success of a whole says about its parts, and two computations
that fail together, for the same reason or for reasons of their own.
-/

namespace ShellSuite

theorem bind_eq_ok {ε α β : Type} {x : Except ε α} {f : α → Except ε β} {b : β}
    (h : x >>= f = .ok b) : ∃ a, x = .ok a ∧ f a = .ok b := by
  cases x with
  | error e => cases h
  | ok a => exact ⟨a, rfl, h⟩

theorem bind_eq_error {ε α β : Type} {x : Except ε α} {f : α → Except ε β} {e : ε}
    (h : x >>= f = .error e) : x = .error e ∨ ∃ a, x = .ok a ∧ f a = .error e := by
  cases x with
  | error cause =>
    obtain rfl := Except.error.inj h
    exact .inl rfl
  | ok a => exact .inr ⟨a, rfl, h⟩

theorem map_eq_ok {ε α β : Type} {x : Except ε α} {f : α → β} {b : β} (h : f <$> x = .ok b) :
    ∃ a, x = .ok a ∧ f a = b := by
  cases x with
  | error e => cases h
  | ok a => exact ⟨a, rfl, Except.ok.inj h⟩

theorem guard_eq_ok {ε α β : Type} {c : Prop} [Decidable c] {e : ε} {k : α → Except ε β}
    {x : Except ε β} {b : β} (h : (if c then throw e >>= k else x) = .ok b) : ¬ c ∧ x = .ok b := by
  split at h
  case isTrue => cases h
  case isFalse hc => exact ⟨hc, h⟩

/-- Two results that are the same error, or two values in relation. -/
inductive Lockstep {ε α β : Type} (R : α → β → Prop) : Except ε α → Except ε β → Prop
  | error (e : ε) : Lockstep R (.error e) (.error e)
  | ok {a : α} {b : β} : R a b → Lockstep R (.ok a) (.ok b)

variable {ε α β γ δ : Type} {R : α → β → Prop} {S : γ → δ → Prop}

theorem Lockstep.bind {x : Except ε α} {y : Except ε β} {f : α → Except ε γ} {g : β → Except ε δ}
    (h : Lockstep R x y) (hfg : ∀ a b, R a b → Lockstep S (f a) (g b)) :
    Lockstep S (x >>= f) (y >>= g) := by
  cases h with
  | error e => exact .error e
  | ok hab => exact hfg _ _ hab

theorem Lockstep.map {x : Except ε α} {y : Except ε β} {f : α → γ} {g : β → δ}
    (h : Lockstep R x y) (hfg : ∀ a b, R a b → S (f a) (g b)) :
    Lockstep S (f <$> x) (g <$> y) := by
  cases h with
  | error e => exact .error e
  | ok hab => exact .ok (hfg _ _ hab)

theorem Lockstep.imp {T : α → β → Prop} {x : Except ε α} {y : Except ε β} (h : Lockstep R x y)
    (hRT : ∀ a b, R a b → T a b) : Lockstep T x y := by
  cases h with
  | error e => exact .error e
  | ok hab => exact .ok (hRT _ _ hab)

theorem Lockstep.of_eq {x y : Except ε α} {T : α → α → Prop} (h : x = y) (hT : ∀ a, T a a) :
    Lockstep T x y := by
  subst h
  cases x with
  | error e => exact .error e
  | ok a => exact .ok (hT a)

/-- Two results of which both or none are values, and values are in relation. -/
inductive Together {ε α β : Type} (R : α → β → Prop) : Except ε α → Except ε β → Prop
  | error (e e' : ε) : Together R (.error e) (.error e')
  | ok {a : α} {b : β} : R a b → Together R (.ok a) (.ok b)

theorem Together.bind {x : Except ε α} {y : Except ε β} {f : α → Except ε γ} {g : β → Except ε δ}
    (h : Together R x y) (hfg : ∀ a b, R a b → Together S (f a) (g b)) :
    Together S (x >>= f) (y >>= g) := by
  cases h with
  | error e e' => exact .error e e'
  | ok hab => exact hfg _ _ hab

theorem Lockstep.together {x : Except ε α} {y : Except ε β} (h : Lockstep R x y) :
    Together R x y := by
  cases h with
  | error e => exact .error e e
  | ok hab => exact .ok hab

theorem Together.exists_iff {x : Except ε α} {y : Except ε β} (h : Together R x y) :
    (∃ a, x = .ok a) ↔ ∃ b, y = .ok b := by
  cases h with
  | error e e' => simp
  | ok hab => simp

theorem Together.rel {x : Except ε α} {y : Except ε β} (h : Together R x y) {a : α} {b : β}
    (ha : x = .ok a) (hb : y = .ok b) : R a b := by
  subst ha hb
  cases h with
  | ok hab => exact hab

end ShellSuite
