import ShellSuite.Proofs.RunLine.Command
import ShellSuite.Proofs.RunLine.Expansion
import ShellSuite.RunLine.Printer

set_option autoImplicit false
set_option relaxedAutoImplicit false

/-!
How printed pieces of a line are read. A table is quiet when none of its keys can start where a safe
character stands; under such a table safe characters and quoted words mean themselves. Pieces are
read one by one as long as each one ends at a space or at the end of the line.
-/

namespace ShellSuite.RunLine

/-- A table none of whose keys starts with a safe character. -/
def Quiet (t : Substitutions) : Prop :=
  ∀ key ∈ t.keys, ∀ c ∈ key.toList.head?, isSafe c = false

/-- What may stand behind a piece: nothing, or a space. -/
def Breaks (cs : List Char) : Prop :=
  ∀ c ∈ cs.head?, c = ' '

/-- Characters that are read as tokens, whatever follows behind a space. -/
def ReadAs (t : Substitutions) (env : Dict String) (text : List Char) (ts : List Token) : Prop :=
  ∀ cs, Breaks cs → tokensFrom t env .bare .fresh (text ++ cs) =
    (ts ++ ·) <$> tokensFrom t env .bare .fresh cs

/-- An open word that has started and holds the given characters. -/
structure Pending.Holds (p : Pending) (cs : List Char) : Prop where
  started : p.started = true
  chars : p.chars = cs.reverse

section Characters

variable {t : Substitutions} {env : Dict String} {c d : Char} {p : Pending}

private theorem ne_of_isSafe (hc : isSafe c = true) (hd : isSafe d = false) : c ≠ d := by
  rintro rfl
  rw [hc] at hd
  exact Bool.noConfusion hd

private theorem matchAt_eq_none (ht : Quiet t) (hc : isSafe c = true) (cs : List Char) :
    t.matchAt (c :: cs) = none := by
  refine Substitutions.matchAt_eq_none_of_head ?_ cs
  intro key hkey hhead
  have hsafe := ht key hkey c hhead
  rw [hc] at hsafe
  exact Bool.noConfusion hsafe

private theorem step_safe (ht : Quiet t) (hc : isSafe c = true) (cs : List Char) :
    step t env .bare p c cs = .ok ⟨[], .bare, p.push c, cs⟩ := by
  have hspecial : ∀ d, isSafe d = false → (c == d) = false := by
    intro d hd
    simpa using ne_of_isSafe hc hd
  have hexpand : expansionAt t env c cs = .ok none := by
    rw [expansionAt_eq_matchAt env fun h => absurd h (ne_of_isSafe hc (by decide)),
      matchAt_eq_none ht hc]
    rfl
  simp only [step, stepBare, isSeparator, stepText, hexpand, hspecial ' ' (by decide),
    hspecial '\t' (by decide), hspecial '\n' (by decide), hspecial '\r' (by decide),
    hspecial '\'' (by decide), hspecial '"' (by decide), hspecial '\\' (by decide),
    hspecial '|' (by decide), hspecial ';' (by decide), hspecial '&' (by decide),
    hspecial '<' (by decide), hspecial '>' (by decide), Bool.or_self, Bool.false_eq_true, ↓reduceIte]

theorem tokensFrom_safe (ht : Quiet t) {w : List Char} (hw : ∀ c ∈ w, isSafe c = true)
    (p : Pending) (cs : List Char) :
    tokensFrom t env .bare p (w ++ cs) = tokensFrom t env .bare (w.foldl Pending.push p) cs := by
  induction w generalizing p with
  | nil => rfl
  | cons c w ih =>
    rw [List.forall_mem_cons] at hw
    rw [List.cons_append, tokensFrom_cons, step_safe ht hw.1, List.foldl_cons, ← ih hw.2]
    simp [bind, Except.bind]

private theorem chars_foldl_push (w : List Char) (p : Pending) :
    (w.foldl Pending.push p).chars = w.reverse ++ p.chars := by
  induction w generalizing p with
  | nil => rfl
  | cons c w ih => simp [ih, Pending.push]

private theorem plain_foldl_push (w : List Char) (p : Pending) :
    (w.foldl Pending.push p).plain = p.plain := by
  induction w generalizing p with
  | nil => rfl
  | cons c w ih => simp [ih, Pending.push]

private theorem started_foldl_push {w : List Char} (hw : w ≠ []) (p : Pending) :
    (w.foldl Pending.push p).started = true := by
  have hkeep : ∀ (w : List Char) (p : Pending), p.started = true →
      (w.foldl Pending.push p).started = true := by
    intro w
    induction w with
    | nil => exact fun _ h => h
    | cons c w ih => exact fun p _ => ih (p.push c) rfl
  cases w with
  | nil => exact absurd rfl hw
  | cons c w => exact hkeep w (p.push c) rfl

end Characters

section Words

variable {t : Substitutions} {env : Dict String}

private theorem tokensFrom_single (t : Substitutions) (env : Dict String) (w ps cs : List Char) :
    tokensFrom t env .single ⟨ps, true, false⟩ (w.flatMap quoteChar ++ '\'' :: cs) =
      tokensFrom t env .bare ⟨w.reverse ++ ps, true, false⟩ cs := by
  induction w generalizing ps with
  | nil => simp [tokensFrom_cons, step, stepSingle, bind, Except.bind]
  | cons c w ih =>
    by_cases hc : c = '\''
    · -- The quotes are left, the quote is read behind a backslash, and the quotes are entered again.
      subst hc
      have hstep := ih ('\'' :: ps)
      simpa [tokensFrom_cons, step, stepSingle, stepBare, isSeparator, quoteChar, bind, Except.bind,
        Pending.pushQuoted, Pending.openQuote] using hstep
    · have hstep := ih (c :: ps)
      simpa [tokensFrom_cons, step, stepSingle, quoteChar, hc, bind, Except.bind,
        Pending.pushQuoted] using hstep

private theorem tokensFrom_quote (env : Dict String) (ht : Quiet t) (p : Pending) (w : String) :
    ∃ q : Pending, q.Holds (p.chars.reverse ++ w.toList) ∧
      ∀ cs, tokensFrom t env .bare p ((quote w).toList ++ cs) = tokensFrom t env .bare q cs := by
  unfold quote
  split
  · rename_i hsafe
    simp only [Bool.and_eq_true, Bool.not_eq_true', List.all_eq_true] at hsafe
    have hne : w.toList ≠ [] := by
      intro hnil
      rw [String.toList_eq_nil_iff.mp hnil] at hsafe
      exact absurd hsafe.1 (by decide)
    refine ⟨w.toList.foldl Pending.push p, ⟨started_foldl_push hne p, ?_⟩, ?_⟩
    · simp [chars_foldl_push]
    · exact fun cs => tokensFrom_safe ht hsafe.2 p cs
  · refine ⟨⟨w.toList.reverse ++ p.chars, true, false⟩, ⟨rfl, by simp⟩, fun cs => ?_⟩
    have hsingle := tokensFrom_single t env w.toList p.chars cs
    simpa [tokensFrom_cons, step, stepBare, isSeparator, bind, Except.bind,
      Pending.openQuote] using hsingle

theorem Pending.Holds.tokens {p : Pending} {cs : List Char} (h : p.Holds cs) :
    p.tokens = [.word (String.ofList cs)] := by
  simp [Pending.tokens, Pending.text, h.started, h.chars]

private theorem tokensFrom_breaks (p : Pending) {cs : List Char} (h : Breaks cs) :
    tokensFrom t env .bare p cs = (p.tokens ++ ·) <$> tokensFrom t env .bare .fresh cs := by
  cases cs with
  | nil =>
    rw [tokensFrom_nil, tokensFrom_nil]
    change Except.ok p.tokens = Except.ok (p.tokens ++ [])
    rw [List.append_nil]
  | cons c cs =>
    obtain rfl : c = ' ' := h c rfl
    simp [tokensFrom_cons, step, stepBare, isSeparator, bind, Except.bind, Pending.tokens,
      Pending.fresh]

theorem tokensFrom_separator (p : Pending) {c : Char} (hc : isSeparator c = true) (cs : List Char) :
    tokensFrom t env .bare p (c :: cs) = (p.tokens ++ ·) <$> tokensFrom t env .bare .fresh cs := by
  rw [tokensFrom_cons]
  simp only [step, stepBare, hc]
  rfl

theorem readAs_quote (env : Dict String) (ht : Quiet t) (w : String) :
    ReadAs t env (quote w).toList [.word w] := by
  intro cs hcs
  obtain ⟨q, hq, hread⟩ := tokensFrom_quote env ht .fresh w
  rw [hread, tokensFrom_breaks q hcs, hq.tokens]
  simp [Pending.fresh]

end Words

section Pieces

variable {t : Substitutions} {env : Dict String}

theorem Breaks.append {text cs : List Char} (htext : Breaks text) (hcs : Breaks cs) :
    Breaks (text ++ cs) := by
  cases text with
  | nil => exact hcs
  | cons c text => exact fun d hd => htext d hd

theorem ReadAs.append {a b : List Char} {ts us : List Token} (ha : ReadAs t env a ts)
    (hb : ReadAs t env b us) (hbreak : Breaks b) : ReadAs t env (a ++ b) (ts ++ us) := by
  intro cs hcs
  rw [List.append_assoc, ha _ (hbreak.append hcs), hb cs hcs]
  simp

theorem ReadAs.space {a : List Char} {ts : List Token} (ha : ReadAs t env a ts) :
    ReadAs t env (' ' :: a) ts := by
  intro cs hcs
  rw [List.cons_append, tokensFrom_cons, ← ha cs hcs]
  simp [step, stepBare, isSeparator, bind, Except.bind, Pending.tokens, Pending.fresh]

theorem breaks_space (cs : List Char) : Breaks (' ' :: cs) := by
  intro c hc
  simpa using hc.symm

private theorem readAs_nil : ReadAs t env [] [] := by
  intro cs _
  simp

theorem readAs_flatMap {α : Type} (xs : List α) {text : α → List Char} {ts : α → List Token}
    (h : ∀ x ∈ xs, ReadAs t env (text x) (ts x)) :
    ReadAs t env (xs.flatMap fun x => ' ' :: text x) (xs.flatMap ts) ∧
      Breaks (xs.flatMap fun x => ' ' :: text x) := by
  induction xs with
  | nil => exact ⟨readAs_nil, by simp [Breaks]⟩
  | cons x xs ih =>
    rw [List.forall_mem_cons] at h
    obtain ⟨hread, hbreak⟩ := ih h.2
    rw [List.flatMap_cons, List.flatMap_cons]
    exact ⟨h.1.space.append hread hbreak, breaks_space _⟩

theorem isSafe_of_isNameChar {c : Char} (h : isNameChar c = true) : isSafe c = true := by
  simp only [isNameChar, Bool.or_eq_true, beq_iff_eq] at h
  rcases h with h | rfl
  · simp [isSafe, h]
  · decide

theorem tokensFrom_assignment (env : Dict String) (ht : Quiet t) {a : String × String}
    (hname : isName a.1 = true) :
    ∃ q : Pending, q.Holds (assignmentWord a).toList ∧
      ∀ cs, tokensFrom t env .bare .fresh (a.1.toList ++ '=' :: (quote a.2).toList ++ cs) =
        tokensFrom t env .bare q cs := by
  have hsafe : ∀ c ∈ a.1.toList ++ ['='], isSafe c = true := by
    intro c hc
    rcases List.mem_append.mp hc with hc | hc
    · exact isSafe_of_isNameChar (isNameChar_of_mem hname hc)
    · rw [List.mem_singleton.mp hc]
      decide
  obtain ⟨q, hq, hread⟩ :=
    tokensFrom_quote env ht ((a.1.toList ++ ['=']).foldl Pending.push .fresh) a.2
  refine ⟨q, ?_, ?_⟩
  · rw [chars_foldl_push] at hq
    simpa [Pending.fresh, assignmentWord] using hq
  · intro cs
    have hsplit : a.1.toList ++ '=' :: (quote a.2).toList ++ cs =
        (a.1.toList ++ ['=']) ++ ((quote a.2).toList ++ cs) := by simp
    rw [hsplit, tokensFrom_safe ht hsafe, hread]

theorem readAs_assignment (ht : Quiet t) {a : String × String} (hname : isName a.1 = true) :
    ReadAs t env (a.1.toList ++ '=' :: (quote a.2).toList) [.word (assignmentWord a)] := by
  intro cs hcs
  obtain ⟨q, hq, hread⟩ := tokensFrom_assignment env ht hname
  rw [hread, tokensFrom_breaks q hcs, hq.tokens, String.ofList_toList]

end Pieces

section Redirections

variable {t : Substitutions} {env : Dict String}

/-- The digits of a descriptor number, read as an open word. -/
def digitsPending (fd : Nat) : Pending :=
  (Nat.toDigits 10 fd).foldl Pending.push .fresh

theorem tokensFrom_digits (ht : Quiet t) (fd : Nat) (cs : List Char) :
    tokensFrom t env .bare .fresh (Nat.toDigits 10 fd ++ cs) =
      tokensFrom t env .bare (digitsPending fd) cs := by
  refine tokensFrom_safe ht ?_ _ cs
  intro c hc
  have hdigit : c.isDigit = true := Nat.isDigit_of_mem_toDigits (by decide) (by decide) hc
  simp [isSafe, Char.isAlphanum, hdigit]

theorem takeDescriptor_digits {fd : Nat} (hfd : fd ≤ maxDescriptor) :
    takeDescriptor (digitsPending fd) = .ok (some fd, []) := by
  have hchars : (digitsPending fd).chars = (Nat.toDigits 10 fd).reverse := by
    simp [digitsPending, chars_foldl_push, Pending.fresh]
  have hdescriptor : (digitsPending fd).isDescriptor = true := by
    have hstarted : (digitsPending fd).started = true :=
      started_foldl_push Nat.toDigits_ne_nil _
    have hplain : (digitsPending fd).plain = true := plain_foldl_push _ _
    have hdigits : ∀ c ∈ Nat.toDigits 10 fd, c.isDigit = true := fun c hc =>
      Nat.isDigit_of_mem_toDigits (by decide) (by decide) hc
    simpa [Pending.isDescriptor, hstarted, hplain, hchars, Nat.toDigits_ne_nil] using hdigits
  have hvalue : digitsValue (Nat.toDigits 10 fd) = fd := Nat.ofDigitChars_ten_toDigits
  simp [takeDescriptor, hdescriptor, hchars, hvalue, hfd]

theorem step_redirect {p : Pending} {fd : Nat} (hp : takeDescriptor p = .ok (some fd, []))
    {c : Char} (hc : c = '<' ∨ c = '>') {cs rest : List Char} {op : RedirectOp}
    (hop : redirectAt c cs = .ok (op, rest)) :
    step t env .bare p c cs = .ok ⟨[.redirect fd op], .bare, .fresh, rest⟩ := by
  rcases hc with rfl | rfl <;>
    simp [step, stepBare, isSeparator, hp, hop, bind, Except.bind, pure, Except.pure]

theorem quote_head (w : String) (cs : List Char) :
    ∃ c rest, (quote w).toList ++ cs = c :: rest ∧ c ≠ '>' ∧ c ≠ '&' := by
  -- a printed word starts with a safe character or a quote, so that it adds nothing to an operator
  -- in front of it
  unfold quote
  split
  · rename_i hsafe
    simp only [Bool.and_eq_true, Bool.not_eq_true', List.all_eq_true] at hsafe
    cases hw : w.toList with
    | nil =>
      rw [String.toList_eq_nil_iff.mp hw] at hsafe
      exact absurd hsafe.1 (by decide)
    | cons c rest =>
      have hc : isSafe c = true := hsafe.2 c (by simp [hw])
      exact ⟨c, rest ++ cs, rfl, ne_of_isSafe hc (by decide), ne_of_isSafe hc (by decide)⟩
  · exact ⟨'\'', _, by rw [String.toList_ofList]; rfl, by decide, by decide⟩

end Redirections

end ShellSuite.RunLine
