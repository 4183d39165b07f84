import ShellSuite.Proofs.Except
import ShellSuite.Proofs.Substitutions
import ShellSuite.RunLine.Token

set_option autoImplicit false
set_option relaxedAutoImplicit false

/-!
What replacement texts can do to a line. Two readings of one line with tables of the same keys are
compared step by step. They stay at the same place inside the same quotes; their open words may
differ once text has been put in, and a word that text has been put into is no longer plain, so that
it can never become the descriptor of a redirection. Hence both readings fail alike or find the same
operators.
-/

namespace ShellSuite.RunLine

/-- Whether a token is something else than a word. -/
def Token.isOperator : Token → Bool
  | .word _ => false
  | _ => true

/-- The tokens that are not words, in order. -/
def operators (ts : List Token) : List Token :=
  ts.filter Token.isOperator

/-- Two open words that only replacement texts tell apart. -/
structure Pending.Alike (p q : Pending) : Prop where
  plain : p.plain = q.plain
  same : p.plain = true → p = q

/-- Two steps to the same place that end the same operators. -/
structure Move.Alike (m n : Move) : Prop where
  ended : operators m.ended = operators n.ended
  quoting : m.quoting = n.quoting
  pending : m.pending.Alike n.pending
  rest : m.rest = n.rest

/-! ### Two readings of a line -/

/-- Two steps to the same place that leave two readings in relation, each with its tokens so far and
its open word. -/
structure Move.InStep (R : List Token → Pending → List Token → Pending → Prop)
    (ts us : List Token) (m n : Move) : Prop where
  quoting : m.quoting = n.quoting
  rest : m.rest = n.rest
  related : R (ts ++ m.ended) m.pending (us ++ n.ended) n.pending

/-- What each step of two readings preserves, whole readings preserve. What is known of the line has
to hold of what is left of it, too. -/
theorem tokensFrom_lockstep {t₁ t₂ : Substitutions} {env₁ env₂ : Dict String}
    {R : List Token → Pending → List Token → Pending → Prop} {F : List Token → List Token → Prop}
    {I : List Char → Prop}
    (hleft : ∀ {quoting p c cs m}, step t₁ env₁ quoting p c cs = .ok m → I (c :: cs) → I m.rest)
    (hstep : ∀ quoting {ts p us q c cs}, I (c :: cs) → R ts p us q →
      Lockstep (Move.InStep R ts us) (step t₁ env₁ quoting p c cs) (step t₂ env₂ quoting q c cs))
    (hend : ∀ {ts p us q}, R ts p us q → F (ts ++ p.tokens) (us ++ q.tokens)) (quoting : Quoting)
    {ts us : List Token} {p q : Pending} {cs : List Char} (hcs : I cs) (h : R ts p us q) :
    Lockstep (fun more others => F (ts ++ more) (us ++ others))
      (tokensFrom t₁ env₁ quoting p cs) (tokensFrom t₂ env₂ quoting q cs) := by
  -- The first reading sets the pace: the second one is at the same place after every step.
  induction quoting, p, cs using tokensFrom.induct t₁ env₁ generalizing ts us q with
  | case1 quoting p =>
    rw [tokensFrom_nil, tokensFrom_nil]
    cases quoting with
    | single => exact .error _
    | double => exact .error _
    | bare => exact .ok (hend h)
  | case2 quoting p c cs e hmove =>
    have hboth := hstep quoting hcs h
    rw [tokensFrom_cons, tokensFrom_cons, hmove]
    rw [hmove] at hboth
    generalize step t₂ env₂ quoting q c cs = y at hboth
    cases hboth
    exact .error e
  | case3 quoting p c cs m hmove ih =>
    have hboth := hstep quoting hcs h
    rw [tokensFrom_cons, tokensFrom_cons, hmove]
    rw [hmove] at hboth
    generalize step t₂ env₂ quoting q c cs = y at hboth
    cases hboth with
    | @ok _ n hmn =>
      change Lockstep _ ((m.ended ++ ·) <$> tokensFrom t₁ env₁ m.quoting m.pending m.rest)
        ((n.ended ++ ·) <$> tokensFrom t₂ env₂ n.quoting n.pending n.rest)
      rw [← hmn.quoting, ← hmn.rest]
      refine (ih (hleft hmove hcs) hmn.related).map ?_
      intro more others hmore
      simpa only [List.append_assoc] using hmore

section Operators

private theorem operators_append (ts us : List Token) : operators
    (ts ++ us) = operators ts ++ operators us :=
  List.filter_append ..

private theorem operators_tokens (p : Pending) : operators p.tokens = [] := by
  unfold Pending.tokens
  split <;> rfl

private theorem operators_paste (p : Pending) (cs : List Char) : operators (p.paste cs).1 = [] := by
  induction cs generalizing p with
  | nil => rfl
  | cons c cs ih =>
    simp only [Pending.paste]
    split
    · rw [operators_append, operators_tokens, ih]
      rfl
    · exact ih _

end Operators

namespace Pending

theorem Alike.refl (p : Pending) : p.Alike p := ⟨rfl, fun _ => rfl⟩

private theorem Alike.of_not_plain {p q : Pending} (hp : p.plain = false) (hq : q.plain = false) :
    p.Alike q :=
  ⟨hp.trans hq.symm, fun h => absurd h (by simp [hp])⟩

theorem Alike.push {p q : Pending} (h : p.Alike q) (c : Char) : (p.push c).Alike (q.push c) :=
  ⟨h.plain, fun hp => by rw [h.same hp]⟩

theorem paste_plain (p : Pending) (cs : List Char) : (p.paste cs).2.plain = false := by
  induction cs generalizing p with
  | nil => rfl
  | cons c cs ih =>
    simp only [paste]
    split <;> exact ih _

private theorem pushEscaped_plain (p : Pending) (e : Char) : (p.pushEscaped e).plain = false := by
  unfold pushEscaped
  split <;> rfl

theorem isDescriptor_of_not_plain {p : Pending} (h : p.plain = false) : p.isDescriptor = false := by
  simp [isDescriptor, h]

end Pending

section Steps

variable {t₁ t₂ : Substitutions} (env₁ env₂ : Dict String) {p q : Pending} (c : Char)
  (cs : List Char)

private theorem takeDescriptor_alike (h : p.Alike q) :
    Lockstep (fun a b => a.1 = b.1 ∧ operators a.2 = operators b.2)
      (takeDescriptor p) (takeDescriptor q) := by
  cases hp : p.plain with
  | true =>
    rw [h.same hp]
    exact .of_eq rfl fun _ => ⟨rfl, rfl⟩
  | false =>
    have hq : q.plain = false := h.plain ▸ hp
    simp only [takeDescriptor, Pending.isDescriptor_of_not_plain hp,
      Pending.isDescriptor_of_not_plain hq, Bool.false_eq_true, ↓reduceIte]
    exact .ok ⟨rfl, by rw [operators_tokens, operators_tokens]⟩

private theorem expansionAt_alike (hkeys : t₁.keys = t₂.keys) :
    Lockstep (fun a b => a.map Prod.snd = b.map Prod.snd)
      (expansionAt t₁ env₁ c cs) (expansionAt t₂ env₂ c cs) := by
  have hmatch : (t₁.matchAt (c :: cs)).map (·.1) = (t₂.matchAt (c :: cs)).map (·.1) := by
    rw [Substitutions.matchAt_map_key, Substitutions.matchAt_map_key, hkeys]
  unfold expansionAt
  cases h₁ : t₁.matchAt (c :: cs) with
  | none =>
    have h₂ : t₂.matchAt (c :: cs) = none := by simpa [h₁] using hmatch.symm
    rw [h₂]
    cases variableAt c cs with
    | error e => exact .error e
    | ok found =>
      cases found with
      | none => exact .ok rfl
      | some found => exact .ok rfl
  | some e₁ =>
    obtain ⟨e₂, h₂, hkey⟩ : ∃ e₂, t₂.matchAt (c :: cs) = some e₂ ∧ e₂.1 = e₁.1 := by
      simpa [h₁] using hmatch.symm
    rw [h₂]
    exact .ok (by simp [hkey])

private theorem stepText_alike (hkeys : t₁.keys = t₂.keys) (h : p.Alike q) :
    Lockstep Move.Alike (stepText t₁ env₁ p c cs) (stepText t₂ env₂ q c cs) := by
  have hfound := expansionAt_alike env₁ env₂ c cs hkeys
  unfold stepText
  generalize expansionAt t₁ env₁ c cs = x at hfound
  generalize expansionAt t₂ env₂ c cs = y at hfound
  cases hfound with
  | error e => exact .error e
  | @ok a b hab =>
    cases a with
    | none =>
      obtain rfl : b = none := by simpa using hab.symm
      exact .ok ⟨rfl, rfl, h.push c, rfl⟩
    | some a =>
      obtain ⟨b, rfl, hrest⟩ : ∃ b', b = some b' ∧ b'.2 = a.2 := by simpa using hab.symm
      refine .ok ⟨?_, rfl, ?_, hrest.symm⟩
      · simp only [operators_paste]
      · exact .of_not_plain (Pending.paste_plain ..) (Pending.paste_plain ..)

private theorem stepDouble_alike (hkeys : t₁.keys = t₂.keys) (h : p.Alike q) :
    Lockstep Move.Alike (stepDouble t₁ env₁ p c cs) (stepDouble t₂ env₂ q c cs) := by
  unfold stepDouble
  split
  · exact .ok ⟨rfl, rfl, h, rfl⟩
  split
  · cases cs with
    | nil => exact .error _
    | cons e rest =>
      exact .ok ⟨rfl, rfl, .of_not_plain (Pending.pushEscaped_plain ..)
        (Pending.pushEscaped_plain ..), rfl⟩
  · have hfound := expansionAt_alike env₁ env₂ c cs hkeys
    generalize expansionAt t₁ env₁ c cs = x at hfound
    generalize expansionAt t₂ env₂ c cs = y at hfound
    cases hfound with
    | error e => exact .error e
    | @ok a b hab =>
      cases a with
      | none =>
        obtain rfl : b = none := by simpa using hab.symm
        exact .ok ⟨rfl, rfl, .of_not_plain rfl rfl, rfl⟩
      | some a =>
        obtain ⟨b, rfl, hrest⟩ : ∃ b', b = some b' ∧ b'.2 = a.2 := by simpa using hab.symm
        exact .ok ⟨rfl, rfl, .of_not_plain rfl rfl, hrest.symm⟩

private theorem stepBare_alike (hkeys : t₁.keys = t₂.keys) (h : p.Alike q) :
    Lockstep Move.Alike (stepBare t₁ env₁ p c cs) (stepBare t₂ env₂ q c cs) := by
  unfold stepBare
  split
  · exact .ok ⟨by rw [operators_tokens, operators_tokens], rfl, .refl _, rfl⟩
  split
  · exact .ok ⟨rfl, rfl, .of_not_plain rfl rfl, rfl⟩
  split
  · exact .ok ⟨rfl, rfl, .of_not_plain rfl rfl, rfl⟩
  split
  · cases cs with
    | nil => exact .error _
    | cons e rest => exact .ok ⟨rfl, rfl, .of_not_plain rfl rfl, rfl⟩
  split
  · refine Lockstep.bind (R := Eq) (.of_eq rfl fun _ => rfl) ?_
    rintro ⟨token, rest⟩ _ rfl
    refine .ok ⟨?_, rfl, .refl _, rfl⟩
    simp only [operators_append, operators_tokens]
  split
  · refine (takeDescriptor_alike h).bind ?_
    rintro ⟨fd, ended₁⟩ ⟨_, ended₂⟩ ⟨rfl, hended⟩
    refine Lockstep.bind (R := Eq) (.of_eq rfl fun _ => rfl) ?_
    rintro ⟨op, rest⟩ _ rfl
    refine .ok ⟨?_, rfl, .refl _, rfl⟩
    dsimp only at hended ⊢
    rw [operators_append, operators_append, hended]
  · exact stepText_alike env₁ env₂ c cs hkeys h

private theorem step_alike (hkeys : t₁.keys = t₂.keys) (quoting : Quoting) (h : p.Alike q) :
    Lockstep Move.Alike (step t₁ env₁ quoting p c cs) (step t₂ env₂ quoting q c cs) := by
  cases quoting with
  | single =>
    simp only [step, stepSingle]
    split
    · exact .ok ⟨rfl, rfl, h, rfl⟩
    · exact .ok ⟨rfl, rfl, .of_not_plain rfl rfl, rfl⟩
  | double => exact stepDouble_alike env₁ env₂ c cs hkeys h
  | bare => exact stepBare_alike env₁ env₂ c cs hkeys h

end Steps

theorem tokensFrom_alike {t₁ t₂ : Substitutions} (hkeys : t₁.keys = t₂.keys)
    (env₁ env₂ : Dict String) (quoting : Quoting) (p q : Pending) (cs : List Char)
    (h : p.Alike q) :
    Lockstep (fun ts us => operators ts = operators us)
      (tokensFrom t₁ env₁ quoting p cs) (tokensFrom t₂ env₂ quoting q cs) := by
  let R (ts : List Token) (p : Pending) (us : List Token) (q : Pending) : Prop :=
    operators ts = operators us ∧ p.Alike q
  have hstart : R [] p [] q := ⟨rfl, h⟩
  refine tokensFrom_lockstep (I := fun _ => True) (F := fun ts us => operators ts = operators us)
    (fun _ _ => trivial) ?_ ?_ quoting trivial hstart
  · intro quoting ts p us q c cs _ ⟨hsame, halike⟩
    refine (step_alike env₁ env₂ c cs hkeys quoting halike).imp ?_
    intro m n hmn
    refine ⟨hmn.quoting, hmn.rest, ?_, hmn.pending⟩
    rw [operators_append, operators_append, hsame, hmn.ended]
  · intro ts p us q ⟨hsame, _⟩
    rw [operators_append, operators_append, operators_tokens, operators_tokens, hsame]

/-- Replacement texts cannot change the syntax of a line: with tables of the same keys and any two
environments, both readings of it fail with the same error or find the same operators. -/
theorem tokenize_operators (line : String) (t₁ t₂ : Substitutions)
    (hkeys : ∀ key, key ∈ t₁.keys ↔ key ∈ t₂.keys) (env₁ env₂ : Dict String) :
    (∃ e, tokenize line t₁ env₁ = .error e ∧ tokenize line t₂ env₂ = .error e) ∨
      ∃ ts₁ ts₂, tokenize line t₁ env₁ = .ok ts₁ ∧ tokenize line t₂ env₂ = .ok ts₂ ∧
        operators ts₁ = operators ts₂ := by
  have hrun := tokensFrom_alike (Substitutions.keys_eq_of_mem_iff hkeys) env₁ env₂ .bare .fresh
    .fresh line.toList (.refl _)
  unfold tokenize
  generalize tokensFrom t₁ env₁ .bare .fresh line.toList = x at hrun
  generalize tokensFrom t₂ env₂ .bare .fresh line.toList = y at hrun
  cases hrun with
  | error e => exact Or.inl ⟨e, rfl, rfl⟩
  | ok hops => exact Or.inr ⟨_, _, rfl, rfl, hops⟩

private theorem keys_insert_empty (key value : String) (h : key ≠ "") :
    (Substitutions.empty.insert key value).keys = [key] := by
  simp [Substitutions.insert, h, Substitutions.keys, Substitutions.place, Substitutions.empty]

theorem tokenize_operators_before_redirect :
    (∀ key, key ∈ (Substitutions.empty.insert "%a" "").keys ↔
      key ∈ (Substitutions.empty.insert "%a" "| x ; 1").keys) ∧
    ((∃ e, tokenize "cat %a2>f" (Substitutions.empty.insert "%a" "") .empty = .error e ∧
        tokenize "cat %a2>f" (Substitutions.empty.insert "%a" "| x ; 1") .empty = .error e) ∨
      ∃ ts₁ ts₂, tokenize "cat %a2>f" (Substitutions.empty.insert "%a" "") .empty = .ok ts₁ ∧
        tokenize "cat %a2>f" (Substitutions.empty.insert "%a" "| x ; 1") .empty = .ok ts₂ ∧
        operators ts₁ = operators ts₂) := by
  have hkeys : ∀ key, key ∈ (Substitutions.empty.insert "%a" "").keys ↔
      key ∈ (Substitutions.empty.insert "%a" "| x ; 1").keys := by
    intro key
    rw [keys_insert_empty _ _ (by decide), keys_insert_empty _ _ (by decide)]
  exact ⟨hkeys, tokenize_operators _ _ _ hkeys _ _⟩

end ShellSuite.RunLine
