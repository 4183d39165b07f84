import ShellSuite.Proofs.Except
import ShellSuite.RunLine.Token

set_option autoImplicit false
set_option relaxedAutoImplicit false

/-!
The variables that a line mentions, and environments that agree on them. What is left of a line
after a step of its reading mentions no others.
-/

namespace ShellSuite.RunLine

/-- Whether a variable is written somewhere in a line: its name in braces behind a dollar sign. -/
def Mentions (line : List Char) (name : String) : Prop :=
  '$' :: '\x7b' :: (name.toList ++ ['\x7d']) <:+: line

instance (line : List Char) (name : String) : Decidable (Mentions line name) :=
  inferInstanceAs (Decidable (_ <:+: _))

/-- What a variable puts in: nothing if it is not set. -/
def valueOf (env : Dict String) (name : String) : String :=
  (env.get? name).getD ""

def Agree (env₁ env₂ : Dict String) (line : List Char) : Prop :=
  ∀ name, Mentions line name → valueOf env₁ name = valueOf env₂ name

theorem Agree.of_suffix {env₁ env₂ : Dict String} {line rest : List Char}
    (h : Agree env₁ env₂ line) (hrest : rest <:+ line) : Agree env₁ env₂ rest :=
  fun name hname => h name (hname.trans hrest.isInfix)

private theorem variableAt_eq_some {c : Char} {cs rest : List Char} {name : String}
    (h : variableAt c cs = .ok (some (name, rest))) :
    c :: cs = '$' :: '\x7b' :: (name.toList ++ '\x7d' :: rest) := by
  unfold variableAt at h
  split at h
  next after =>
    split at h
    next => cases h
    next brace tail hdrop =>
      have hbrace : brace = '\x7d' := by
        have hhead := List.head?_dropWhile_not (· ≠ '\x7d') after
        rw [hdrop] at hhead
        simpa using hhead
      have hsplit := List.takeWhile_append_dropWhile (p := (· ≠ '\x7d')) (l := after)
      rw [hdrop, hbrace] at hsplit
      simp only at h
      split at h
      · simp only [Except.ok.injEq, Option.some.injEq, Prod.mk.injEq] at h
        obtain ⟨rfl, rfl⟩ := h
        rw [String.toList_ofList, hsplit]
      · cases h
  next => cases h

theorem mentions_of_variableAt {c : Char} {cs rest : List Char} {name : String}
    (h : variableAt c cs = .ok (some (name, rest))) : Mentions (c :: cs) name := by
  refine ⟨[], rest, ?_⟩
  rw [variableAt_eq_some h]
  simp

private theorem expansionAt_suffix {t : Substitutions} {env : Dict String} {c : Char}
    {cs text rest : List Char} (h : expansionAt t env c cs = .ok (some (text, rest))) :
    rest <:+ cs := by
  unfold expansionAt at h
  split at h
  · obtain ⟨-, rfl⟩ : _ ∧ cs.drop _ = rest := by simpa using h
    exact List.drop_suffix ..
  · split at h
    · cases h
    · cases h
    next name after hfound =>
      obtain ⟨-, rfl⟩ : _ ∧ after = rest := by simpa using h
      have hsplit := variableAt_eq_some hfound
      refine ⟨'\x7b' :: (name.toList ++ ['\x7d']), ?_⟩
      rw [(List.cons.inj hsplit).2]
      simp

private theorem operatorAt_suffix {c : Char} {cs rest : List Char} {token : Token}
    (h : operatorAt c cs = .ok (token, rest)) : rest <:+ cs := by
  unfold operatorAt at h
  split at h <;> simp at h <;> simp [← h.2]

private theorem redirectAt_suffix {c : Char} {cs rest : List Char} {op : RedirectOp}
    (h : redirectAt c cs = .ok (op, rest)) : rest <:+ cs := by
  unfold redirectAt at h
  split at h <;> simp at h <;> simp [← h.2]

theorem step_suffix {t : Substitutions} {env : Dict String} {quoting : Quoting} {p : Pending}
    {c : Char} {cs : List Char} {m : Move} (h : step t env quoting p c cs = .ok m) :
    m.rest <:+ cs := by
  cases quoting with
  | single =>
    obtain rfl := Except.ok.inj h
    unfold stepSingle
    split <;> exact List.suffix_rfl
  | double =>
    simp only [step, stepDouble] at h
    split at h
    · obtain rfl := Except.ok.inj h
      exact List.suffix_rfl
    split at h
    · split at h
      · cases h
      · obtain rfl := Except.ok.inj h
        exact List.suffix_cons ..
    split at h
    · cases h
    · obtain rfl := Except.ok.inj h
      exact expansionAt_suffix ‹_›
    · obtain rfl := Except.ok.inj h
      exact List.suffix_rfl
  | bare =>
    simp only [step, stepBare] at h
    split at h
    · obtain rfl := Except.ok.inj h
      exact List.suffix_rfl
    split at h
    · obtain rfl := Except.ok.inj h
      exact List.suffix_rfl
    split at h
    · obtain rfl := Except.ok.inj h
      exact List.suffix_rfl
    split at h
    · split at h
      · cases h
      · obtain rfl := Except.ok.inj h
        exact List.suffix_cons ..
    split at h
    · obtain ⟨⟨token, rest⟩, hfound, hmove⟩ := bind_eq_ok h
      obtain rfl := Except.ok.inj hmove
      exact operatorAt_suffix hfound
    split at h
    · obtain ⟨⟨fd, ended⟩, -, hmove⟩ := bind_eq_ok h
      obtain ⟨⟨op, rest⟩, hfound, hmove⟩ := bind_eq_ok hmove
      obtain rfl := Except.ok.inj hmove
      exact redirectAt_suffix hfound
    · unfold stepText at h
      split at h
      · cases h
      · obtain rfl := Except.ok.inj h
        exact expansionAt_suffix ‹_›
      · obtain rfl := Except.ok.inj h
        exact List.suffix_rfl

end ShellSuite.RunLine
