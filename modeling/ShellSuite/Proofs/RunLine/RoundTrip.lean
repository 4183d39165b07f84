import ShellSuite.Proofs.RunLine.Grammar
import ShellSuite.Proofs.RunLine.Reading

set_option autoImplicit false
set_option relaxedAutoImplicit false

/-!
Printed scripts are read back. A script is laid out with the redirections of each command behind its
words; the printed text is read as the tokens of that layout, and the layout gives the script. What
makes it work for scripts that have been read is that descriptors are small enough to be read again
and that `&>` has no descriptor of its own.
-/

namespace ShellSuite.RunLine

structure Redirect.Printable (r : Redirect) : Prop where
  small : r.fd ≤ maxDescriptor
  both : r.op = .writeBoth → r.fd = 1
  targets : r.op = .duplicate → r.target = "1" ∨ r.target = "2"

structure Command.Printable (c : Command) : Prop where
  readable : c.Readable
  redirects : ∀ r ∈ c.redirects, r.Printable

def Script.Printable (s : Script) : Prop :=
  ∀ p ∈ s.pipelines, ∀ c ∈ p.commands, c.Printable

def Command.clause (c : Command) : Clause :=
  ⟨c.words.map .word ++ c.redirects.map .redirect⟩

def Pipeline.chain (p : Pipeline) : Chain :=
  ⟨p.first.clause, p.rest.map Command.clause⟩

def Script.layout (s : Script) : Layout :=
  ⟨s.first.chain, s.rest.map fun e => (e.1, e.2.chain), false⟩

section Layouts

private theorem Command.words_clause (c : Command) : c.clause.words = c.words := by
  simp [Command.clause, Clause.words, List.filterMap_map]

private theorem Command.redirects_clause (c : Command) : c.clause.redirects = c.redirects := by
  simp [Command.clause, Clause.redirects, List.filterMap_map]

private theorem Command.clause_gives {c : Command} (h : c.Printable) : c.clause.Gives c where
  targets := by
    rw [Command.redirects_clause]
    exact fun r hr => (h.redirects r hr).targets
  words := (Command.words_clause c).symm
  redirects := (Command.redirects_clause c).symm
  readable := h.readable

private theorem Pipeline.chain_gives {p : Pipeline} (h : ∀ c ∈ p.commands, c.Printable) :
    p.chain.Gives p := by
  have hclauses : p.chain.clauses = p.commands.map Command.clause := rfl
  rw [Chain.Gives, hclauses, List.forall₂_map_left_iff, List.forall₂_same]
  exact fun c hc => Command.clause_gives (h c hc)

private theorem Script.layout_gives {s : Script} (h : s.Printable) : s.layout.Gives s := by
  obtain ⟨first, rest⟩ := s
  simp only [Script.Printable, Script.pipelines, List.forall_mem_cons, List.forall_mem_map] at h
  refine ⟨Pipeline.chain_gives h.1, ?_⟩
  rw [Script.layout, List.forall₂_map_left_iff, List.forall₂_same]
  exact fun e he => ⟨rfl, Pipeline.chain_gives (h.2 e he)⟩

end Layouts

section Printing

variable {t : Substitutions} (env : Dict String)

private theorem readAs_redirection (ht : Quiet t) {fd : Nat} (hfd : fd ≤ maxDescriptor) {c : Char}
    (hc : c = '<' ∨ c = '>') (symbol : List Char) (op : RedirectOp) (target : String)
    (hop : ∀ cs, redirectAt c (symbol ++ ((quote target).toList ++ cs)) =
      .ok (op, (quote target).toList ++ cs)) :
    ReadAs t env (Nat.toDigits 10 fd ++ c :: (symbol ++ (quote target).toList))
      [.redirect fd op, .word target] := by
  intro cs hcs
  have hsplit : Nat.toDigits 10 fd ++ c :: (symbol ++ (quote target).toList) ++ cs =
      Nat.toDigits 10 fd ++ c :: (symbol ++ ((quote target).toList ++ cs)) := by simp
  rw [hsplit, tokensFrom_digits ht, tokensFrom_cons,
    step_redirect (takeDescriptor_digits hfd) hc (hop cs)]
  change ([.redirect fd op] ++ ·) <$> tokensFrom t env .bare .fresh ((quote target).toList ++ cs) = _
  rw [readAs_quote env ht target cs hcs]
  simp

private theorem readAs_redirect (ht : Quiet t) {r : Redirect} (h : r.Printable) :
    ReadAs t env r.render.toList [.redirect r.fd r.op, .word r.target] := by
  obtain ⟨fd, op, target⟩ := r
  obtain ⟨hfd, hboth, htargets⟩ := h
  cases op with
  | write =>
    have hread := readAs_redirection env ht hfd (Or.inr rfl) [] .write target <| by
      intro cs
      obtain ⟨c, rest, hhead, hgt, hamp⟩ := quote_head target cs
      simp [hhead, redirectAt, hgt, hamp]
    simpa [Redirect.render] using hread
  | append =>
    have hread := readAs_redirection env ht hfd (Or.inr rfl) ['>'] .append target fun cs => rfl
    simpa [Redirect.render] using hread
  | read =>
    have hread := readAs_redirection env ht hfd (Or.inl rfl) [] .read target <| by
      intro cs
      obtain ⟨c, rest, hhead, hgt, hamp⟩ := quote_head target cs
      simp [hhead, redirectAt, hamp]
    simpa [Redirect.render] using hread
  | duplicate =>
    have hquote : quote target = target := by
      rcases htargets rfl with rfl | rfl <;> decide
    have hread := readAs_redirection env ht hfd (Or.inr rfl) ['&'] .duplicate target
      fun cs => rfl
    simpa [Redirect.render, hquote] using hread
  | writeBoth =>
    obtain rfl : fd = 1 := hboth rfl
    intro cs hcs
    have hstep : step t env .bare .fresh '&' ('>' :: ((quote target).toList ++ cs)) =
        .ok ⟨[.redirect 1 .writeBoth], .bare, .fresh, (quote target).toList ++ cs⟩ := rfl
    have htext : (Redirect.render ⟨1, .writeBoth, target⟩).toList ++ cs =
        '&' :: '>' :: ((quote target).toList ++ cs) := by simp [Redirect.render]
    rw [htext, tokensFrom_cons, hstep]
    change ([.redirect 1 .writeBoth] ++ ·) <$>
      tokensFrom t env .bare .fresh ((quote target).toList ++ cs) = _
    rw [readAs_quote env ht target cs hcs]
    simp

private theorem readAs_assignments (ht : Quiet t) {assigned : List (String × String)}
    (hnames : ∀ a ∈ assigned, isName a.1 = true) {text : List Char} {ts : List Token}
    (h : ReadAs t env text ts) :
    ReadAs t env ((assigned.flatMap fun a => a.1.toList ++ '=' :: (quote a.2).toList ++ [' ']) ++ text)
      (assigned.map (fun a => .word (assignmentWord a)) ++ ts) := by
  induction assigned with
  | nil => exact h
  | cons a assigned ih =>
    rw [List.forall_mem_cons] at hnames
    have hread := (readAs_assignment ht hnames.1).append (ih hnames.2).space (breaks_space _)
    simpa using hread

private theorem Command.tokens_clause (c : Command) :
    c.clause.tokens = c.env.map (fun a => .word (assignmentWord a)) ++ (.word c.name ::
      c.args.map .word ++ c.redirects.flatMap fun r => [.redirect r.fd r.op, .word r.target]) := by
  simp [Command.clause, Clause.tokens, Command.words, List.flatMap_map, Item.tokens,
    ← List.map_eq_flatMap]

private theorem readAs_command (ht : Quiet t) {c : Command} (h : c.Printable) :
    ReadAs t env c.render.toList c.clause.tokens := by
  obtain ⟨hargs, hargsBreak⟩ := readAs_flatMap c.args fun a _ => readAs_quote env ht a
  obtain ⟨hredirects, hredirectsBreak⟩ := readAs_flatMap c.redirects fun r hr =>
    readAs_redirect env ht (h.redirects r hr)
  have hnamed := ((readAs_quote env ht c.name).append hargs hargsBreak).append hredirects
    hredirectsBreak
  have hread := readAs_assignments env ht h.readable.names hnamed
  rw [Command.tokens_clause]
  have htext : c.render.toList =
      (c.env.flatMap fun a => a.1.toList ++ '=' :: (quote a.2).toList ++ [' ']) ++
        ((quote c.name).toList ++ (c.args.flatMap fun a => ' ' :: (quote a).toList) ++
          c.redirects.flatMap fun r => ' ' :: r.render.toList) := by
    simp [Command.render, List.flatMap_map]
  rw [htext]
  simpa [← List.map_eq_flatMap] using hread

private theorem readAs_pipe : ReadAs t env ['|'] [.pipe] := by
  intro cs hcs
  -- What follows must be seen to be no second bar.
  have hpipe : operatorAt '|' cs = .ok (.pipe, cs) := by
    cases cs with
    | nil => rfl
    | cons c cs =>
      obtain rfl : c = ' ' := hcs c rfl
      rfl
  rw [List.singleton_append, tokensFrom_cons]
  simp [step, stepBare, isSeparator, hpipe, bind, Except.bind, pure, Except.pure, Pending.tokens,
    Pending.fresh]

private theorem readAs_connector (k : Connector) : ReadAs t env k.render.toList [k.token] := by
  intro cs _
  cases k <;>
    simp [Connector.render, Connector.token, tokensFrom_cons, step, stepBare, isSeparator,
      operatorAt, bind, Except.bind, pure, Except.pure, Pending.tokens, Pending.fresh]

private theorem readAs_pipeline (ht : Quiet t) {p : Pipeline} (h : ∀ c ∈ p.commands, c.Printable) :
    ReadAs t env p.render.toList p.chain.tokens := by
  obtain ⟨first, rest⟩ := p
  obtain ⟨hfirst, hrest⟩ := List.forall_mem_cons.mp h
  obtain ⟨hread, hbreak⟩ := readAs_flatMap rest fun c hc =>
    (readAs_pipe env).append (readAs_command env ht (hrest c hc)).space (breaks_space _)
  have hall := (readAs_command env ht hfirst).append hread hbreak
  simpa [Pipeline.render, Pipeline.chain, Chain.tokens, List.flatMap_map] using hall

private theorem readAs_script (ht : Quiet t) {s : Script} (h : s.Printable) :
    ReadAs t env s.render.toList s.layout.tokens := by
  obtain ⟨first, rest⟩ := s
  simp only [Script.Printable, Script.pipelines, List.forall_mem_cons, List.forall_mem_map] at h
  obtain ⟨hread, hbreak⟩ := readAs_flatMap rest fun e he =>
    (readAs_connector env e.1).append (readAs_pipeline env ht (h.2 e he)).space (breaks_space _)
  have hall := (readAs_pipeline env ht h.1).append hread hbreak
  simpa [Script.render, Script.layout, Layout.tokens, List.flatMap_map] using hall

private theorem tokenize_render (ht : Quiet t) {s : Script} (h : s.Printable) :
    tokenize s.render t env = .ok s.layout.tokens := by
  have hread := readAs_script env ht h [] (by simp [Breaks])
  rw [List.append_nil, tokensFrom_nil] at hread
  rw [tokenize, hread]
  change Except.ok (s.layout.tokens ++ []) = _
  rw [List.append_nil]

end Printing

section Scripts

def Token.Printable : Token → Prop
  | .redirect fd op => fd ≤ maxDescriptor ∧ (op = .writeBoth → fd = 1)
  | _ => True
private theorem tokens_printable (p : Pending) : ∀ token ∈ p.tokens, token.Printable := by
  unfold Pending.tokens
  split <;> simp [Token.Printable]

private theorem paste_printable (p : Pending) (cs : List Char) :
    ∀ token ∈ (p.paste cs).1, token.Printable := by
  induction cs generalizing p with
  | nil => simp [Pending.paste]
  | cons c cs ih =>
    simp only [Pending.paste]
    split
    · exact List.forall_mem_append.mpr ⟨tokens_printable p, ih _⟩
    · exact ih _

private theorem operatorAt_printable {c : Char} {cs rest : List Char} {token : Token}
    (h : operatorAt c cs = .ok (token, rest)) : token.Printable := by
  unfold operatorAt at h
  split at h <;> simp at h <;> simp [← h.1, Token.Printable, maxDescriptor]

private theorem redirectAt_ne_writeBoth {c : Char} {cs rest : List Char} {op : RedirectOp}
    (h : redirectAt c cs = .ok (op, rest)) : op ≠ .writeBoth := by
  unfold redirectAt at h
  split at h <;> simp at h <;> simp [← h.1]

private theorem takeDescriptor_printable {p : Pending} {fd : Option Nat} {ended : List Token}
    (h : takeDescriptor p = .ok (fd, ended)) :
    (∀ n ∈ fd, n ≤ maxDescriptor) ∧ ∀ token ∈ ended, token.Printable := by
  unfold takeDescriptor at h
  split at h
  · dsimp only at h
    split at h
    · rename_i hsmall
      obtain ⟨rfl, rfl⟩ : some (digitsValue p.chars.reverse) = fd ∧ [] = ended := by simpa using h
      exact ⟨by simpa using hsmall, by simp⟩
    · cases h
  · obtain ⟨rfl, rfl⟩ : none = fd ∧ p.tokens = ended := by simpa using h
    exact ⟨by simp, tokens_printable p⟩

private theorem stepBare_printable {t : Substitutions} {env : Dict String} {p : Pending} {c : Char}
    {cs : List Char} {m : Move} (h : stepBare t env p c cs = .ok m) :
    ∀ token ∈ m.ended, token.Printable := by
  unfold stepBare at h
  split at h
  · rw [← Except.ok.inj h]
    exact tokens_printable p
  split at h
  · simp [← Except.ok.inj h]
  split at h
  · simp [← Except.ok.inj h]
  split at h
  · split at h
    · cases h
    · simp [← Except.ok.inj h]
  split at h
  · obtain ⟨⟨token, rest⟩, hop, hm⟩ := bind_eq_ok h
    rw [← Except.ok.inj hm]
    refine List.forall_mem_append.mpr ⟨tokens_printable p, ?_⟩
    simpa using operatorAt_printable hop
  split at h
  · obtain ⟨⟨fd, ended⟩, hended, hrest⟩ := bind_eq_ok h
    obtain ⟨⟨op, rest⟩, hop, hm⟩ := bind_eq_ok hrest
    obtain ⟨hsmall, hwords⟩ := takeDescriptor_printable hended
    rw [← Except.ok.inj hm]
    refine List.forall_mem_append.mpr ⟨hwords, ?_⟩
    rw [List.forall_mem_singleton]
    refine ⟨?_, fun hboth => absurd hboth (redirectAt_ne_writeBoth hop)⟩
    cases fd with
    | none => cases op <;> decide
    | some n => exact hsmall n rfl
  · unfold stepText at h
    split at h
    · cases h
    · rw [← Except.ok.inj h]
      exact paste_printable p _
    · simp [← Except.ok.inj h]

private theorem step_printable {t : Substitutions} {env : Dict String} {quoting : Quoting}
    {p : Pending}
    {c : Char} {cs : List Char} {m : Move} (h : step t env quoting p c cs = .ok m) :
    ∀ token ∈ m.ended, token.Printable := by
  cases quoting with
  | single =>
    rw [← Except.ok.inj h]
    unfold stepSingle
    split <;> simp
  | double =>
    have hended : m.ended = [] := by
      change stepDouble t env p c cs = .ok m at h
      unfold stepDouble at h
      split at h
      · rw [← Except.ok.inj h]
      split at h
      · split at h
        · cases h
        · rw [← Except.ok.inj h]
      · split at h
        · cases h
        · rw [← Except.ok.inj h]
        · rw [← Except.ok.inj h]
    simp [hended]
  | bare => exact stepBare_printable h

private theorem tokensFrom_printable {t : Substitutions} {env : Dict String} {quoting : Quoting}
    {p : Pending} {cs : List Char} {ts : List Token} (h : tokensFrom t env quoting p cs = .ok ts) :
    ∀ token ∈ ts, token.Printable := by
  induction quoting, p, cs using tokensFrom.induct t env generalizing ts with
  | case1 quoting p =>
    rw [tokensFrom_nil] at h
    cases quoting with
    | single => cases h
    | double => cases h
    | bare =>
      rw [← Except.ok.inj h]
      exact tokens_printable p
  | case2 quoting p c cs e hstep =>
    rw [tokensFrom_cons, hstep] at h
    cases h
  | case3 quoting p c cs m hstep ih =>
    rw [tokensFrom_cons, hstep] at h
    obtain ⟨us, hus, rfl⟩ := map_eq_ok h
    exact List.forall_mem_append.mpr ⟨step_printable hstep, ih hus⟩

private theorem exists_of_mem_right {α β : Type} {R : α → β → Prop} {xs : List α} {ys : List β}
    (h : List.Forall₂ R xs ys) {y : β} (hy : y ∈ ys) : ∃ x ∈ xs, R x y := by
  induction h with
  | nil => simp at hy
  | @cons x z xs ys hxz _ ih =>
    rcases List.mem_cons.mp hy with rfl | hy
    · exact ⟨x, List.mem_cons_self, hxz⟩
    · obtain ⟨x', hx', hR⟩ := ih hy
      exact ⟨x', List.mem_cons_of_mem x hx', hR⟩

private theorem Clause.mem_tokens {k : Clause} {r : Redirect} (hr : r ∈ k.redirects) :
    .redirect r.fd r.op ∈ k.tokens := by
  obtain ⟨item, hitem, hsome⟩ := List.mem_filterMap.mp hr
  refine List.mem_flatMap.mpr ⟨item, hitem, ?_⟩
  cases item with
  | word w => simp at hsome
  | redirect r' =>
    obtain rfl : r' = r := by simpa using hsome
    exact List.mem_cons_self

private theorem Chain.mem_tokens {h : Chain} {k : Clause} (hk : k ∈ h.clauses) {token : Token}
    (htoken : token ∈ k.tokens) : token ∈ h.tokens := by
  rcases List.mem_cons.mp hk with rfl | hk
  · exact List.mem_append_left _ htoken
  · exact List.mem_append_right _ (List.mem_flatMap.mpr ⟨k, hk, List.mem_cons_of_mem _ htoken⟩)

private theorem Layout.mem_tokens {l : Layout} {h : Chain} (hh : h ∈ l.chains) {token : Token}
    (htoken : token ∈ h.tokens) : token ∈ l.tokens := by
  refine List.mem_append_left _ ?_
  rcases List.mem_cons.mp hh with rfl | hh
  · exact List.mem_append_left _ htoken
  · obtain ⟨e, he, rfl⟩ := List.mem_map.mp hh
    exact List.mem_append_right _ (List.mem_flatMap.mpr ⟨e, he, List.mem_cons_of_mem _ htoken⟩)

private theorem parse_printable {ts : List Token} {s : Script} (h : parse ts = .ok s)
    (hts : ∀ token ∈ ts, token.Printable) : s.Printable := by
  obtain ⟨l, rfl, hgives⟩ := parse_eq_ok_iff.mp h
  intro p hp c hc
  obtain ⟨chain, hchain, hp⟩ := exists_of_mem_right hgives.pipelines hp
  obtain ⟨k, hk, hgives⟩ := exists_of_mem_right hp hc
  refine ⟨hgives.readable, fun r hr => ?_⟩
  rw [hgives.redirects] at hr
  obtain ⟨hsmall, hboth⟩ :=
    hts _ (Layout.mem_tokens hchain (Chain.mem_tokens hk (Clause.mem_tokens hr)))
  exact ⟨hsmall, hboth, hgives.targets r hr⟩

theorem parseLine_printable {line : String} {t : Substitutions} {env : Dict String} {s : Script}
    (h : parseLine line t env = .ok s) : s.Printable := by
  obtain ⟨ts, htokens, hparse⟩ := bind_eq_ok h
  exact parse_printable hparse (tokensFrom_printable htokens)

/-- A script that has been read is printed as a line that is read as the same script, in any
environment and with any table none of whose keys can start in an unquoted word of the line. -/
theorem parseLine_render {line : String} {t : Substitutions} {env : Dict String} {s : Script}
    (h : parseLine line t env = .ok s) (t' : Substitutions)
    (hkeys : ∀ key ∈ t'.keys, ∀ c ∈ key.toList.head?,
      ¬ (c.isAlphanum = true ∨ c ∈ ['-', '_', '.', '/', '=', ':', ',', '+', '%', '@']))
    (env' : Dict String) : parseLine s.render t' env' = .ok s := by
  have hquiet : Quiet t' := by
    intro key hkey c hc
    have hc' := hkeys key hkey c hc
    rw [← Bool.not_eq_true]
    intro hsafe
    exact hc' (by simpa [isSafe] using hsafe)
  have hprint := parseLine_printable h
  rw [parseLine, tokenize_render env' hquiet hprint]
  exact parse_tokens (Script.layout_gives hprint)

/-- A line with an assignment, an expansion that splits, a target in front of an argument, a quote
in quotes and a `;` at the end, read back under a table with a key of its own. -/
theorem parseLine_render_quoted :
    parseLine "A='x y' %c >f 'a'\\''b' ;" (Substitutions.empty.insert "%c" "cat -n") .empty =
      .ok ⟨⟨⟨[("A", "x y")], "cat", ["-n", "a'b"], [⟨1, .write, "f"⟩]⟩, []⟩, []⟩ ∧
    parseLine "A='x y' cat -n 'a'\\''b' 1>f" (Substitutions.empty.insert "$c" "|") .empty =
      .ok ⟨⟨⟨[("A", "x y")], "cat", ["-n", "a'b"], [⟨1, .write, "f"⟩]⟩, []⟩, []⟩ := by
  have hparse : parseLine "A='x y' %c >f 'a'\\''b' ;"
      (Substitutions.empty.insert "%c" "cat -n") .empty =
      .ok ⟨⟨⟨[("A", "x y")], "cat", ["-n", "a'b"], [⟨1, .write, "f"⟩]⟩, []⟩, []⟩ := by
    cbv
  have hkeys : (Substitutions.empty.insert "$c" "|").keys = ["$c"] := by cbv
  have hrender : Script.render ⟨⟨⟨[("A", "x y")], "cat", ["-n", "a'b"], [⟨1, .write, "f"⟩]⟩, []⟩, []⟩ =
      "A='x y' cat -n 'a'\\''b' 1>f" := by
    decide
  have hagain := parseLine_render hparse (Substitutions.empty.insert "$c" "|") (by
    intro key hkey c hc
    rw [hkeys, List.mem_singleton] at hkey
    subst hkey
    obtain rfl : '$' = c := by simpa using hc
    decide) .empty
  rw [hrender] at hagain
  exact ⟨hparse, hagain⟩

end Scripts

end ShellSuite.RunLine
