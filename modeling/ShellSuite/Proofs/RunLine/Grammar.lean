import ShellSuite.Proofs.Except
import ShellSuite.Proofs.RunLine.Command
import Mathlib

set_option autoImplicit false
set_option relaxedAutoImplicit false

/-!
The grammar of RUN lines, as trees that can be written out as tokens. A line is read as a script
exactly when it is the writing of a grammatical tree, and the script then has what the tree has:
nothing is dropped, added or moved to another command.
-/

namespace ShellSuite.RunLine

/-- What stands in a command: a word, or a redirection with the word behind it. -/
inductive Item where
  | word (text : String)
  | redirect (r : Redirect)
  deriving DecidableEq, Repr

structure Clause where
  items : List Item
  deriving DecidableEq, Repr

structure Chain where
  first : Clause
  rest : List Clause
  deriving DecidableEq, Repr

/-- Chains with connectors between them, and whether a `;` stands at the end. -/
structure Layout where
  first : Chain
  rest : List (Connector × Chain)
  trailing : Bool
  deriving DecidableEq, Repr

def Connector.token : Connector → Token
  | .and => .and
  | .or => .or
  | .seq => .semi

def Token.connector? : Token → Option Connector
  | .and => some .and
  | .or => some .or
  | .semi => some .seq
  | _ => none

def Item.tokens : Item → List Token
  | .word w => [.word w]
  | .redirect r => [.redirect r.fd r.op, .word r.target]

def Clause.tokens (c : Clause) : List Token :=
  c.items.flatMap Item.tokens

def Chain.tokens (h : Chain) : List Token :=
  h.first.tokens ++ h.rest.flatMap fun c => .pipe :: c.tokens

def Layout.tokens (l : Layout) : List Token :=
  l.first.tokens ++ (l.rest.flatMap fun e => e.1.token :: e.2.tokens) ++
    if l.trailing then [.semi] else []

def Clause.words (c : Clause) : List String :=
  c.items.filterMap fun
    | .word w => some w
    | .redirect _ => none

def Clause.redirects (c : Clause) : List Redirect :=
  c.items.filterMap fun
    | .word _ => none
    | .redirect r => some r

def Chain.clauses (h : Chain) : List Clause :=
  h.first :: h.rest

def Layout.chains (l : Layout) : List Chain :=
  l.first :: l.rest.map (·.2)

def Layout.connectors (l : Layout) : List Connector :=
  l.rest.map (·.1)

/-- A clause that makes a command: only descriptors 1 and 2 are duplicated, and some word lies
outside of the assignments in front. -/
structure Clause.Grammatical (c : Clause) : Prop where
  targets : ∀ r ∈ c.redirects, r.op = .duplicate → r.target = "1" ∨ r.target = "2"
  named : ∃ w ∈ c.words, ¬ IsAssignment w

def Layout.Grammatical (l : Layout) : Prop :=
  ∀ h ∈ l.chains, ∀ c ∈ h.clauses, c.Grammatical

/-- The command a clause gives: its assignments, name and arguments are the words of the clause, and
its redirections are those of the clause. -/
structure Clause.Gives (k : Clause) (c : Command) : Prop where
  targets : ∀ r ∈ k.redirects, r.op = .duplicate → r.target = "1" ∨ r.target = "2"
  words : c.words = k.words
  redirects : c.redirects = k.redirects
  readable : c.Readable

def Chain.Gives (h : Chain) (p : Pipeline) : Prop :=
  List.Forall₂ Clause.Gives h.clauses p.commands

def Layout.Gives (l : Layout) (s : Script) : Prop :=
  l.first.Gives s.first ∧ List.Forall₂ (fun a b => a.1 = b.1 ∧ a.2.Gives b.2) l.rest s.rest

section Writing

@[simp] theorem Clause.tokens_nil : (Clause.mk []).tokens = [] := rfl

@[simp] theorem Clause.tokens_word (w : String) (items : List Item) :
    (Clause.mk (.word w :: items)).tokens = .word w :: (Clause.mk items).tokens := rfl

@[simp] theorem Clause.tokens_redirect (r : Redirect) (items : List Item) :
    (Clause.mk (.redirect r :: items)).tokens =
      .redirect r.fd r.op :: .word r.target :: (Clause.mk items).tokens := rfl

@[simp] theorem Clause.words_word (w : String) (items : List Item) :
    (Clause.mk (.word w :: items)).words = w :: (Clause.mk items).words := rfl

@[simp] theorem Clause.words_redirect (r : Redirect) (items : List Item) :
    (Clause.mk (.redirect r :: items)).words = (Clause.mk items).words := rfl

@[simp] theorem Clause.redirects_word (w : String) (items : List Item) :
    (Clause.mk (.word w :: items)).redirects = (Clause.mk items).redirects := rfl

@[simp] theorem Clause.redirects_redirect (r : Redirect) (items : List Item) :
    (Clause.mk (.redirect r :: items)).redirects = r :: (Clause.mk items).redirects := rfl

end Writing

theorem RedirectOp.allows_iff {op : RedirectOp} {target : String} :
    op.allows target = true ↔ (op = .duplicate → target = "1" ∨ target = "2") := by
  simp only [RedirectOp.allows, Bool.or_eq_true, decide_eq_true_eq, or_assoc]
  exact Decidable.imp_iff_not_or.symm

private theorem Clause.gives_iff {k : Clause} {c : Command} :
    k.Gives c ↔ (∀ r ∈ k.redirects, r.op.allows r.target = true) ∧
      Command.ofParts k.words k.redirects = .ok c := by
  rw [Command.ofParts_eq_ok_iff]
  simp only [RedirectOp.allows_iff]
  exact ⟨fun h => ⟨h.targets, h.words, h.redirects, h.readable⟩,
    fun h => ⟨h.1, h.2.1, h.2.2.1, h.2.2.2⟩⟩

section Parsing

variable (last : Option Connector) (done : List Command) (words : List String)
  (redirects : List Redirect)

theorem parseFrom_word (w : String) (ts : List Token) :
    parseFrom last done words redirects (.word w :: ts) =
      parseFrom last done (words ++ [w]) redirects ts := by
  rw [parseFrom]

theorem parseFrom_redirect {r : Redirect} (h : r.op.allows r.target = true) (ts : List Token) :
    parseFrom last done words redirects (.redirect r.fd r.op :: .word r.target :: ts) =
      parseFrom last done words (redirects ++ [r]) ts := by
  rw [parseFrom, if_pos h]

theorem parseFrom_pipe (ts : List Token) :
    parseFrom last done words redirects (.pipe :: ts) = (do
      let c ← Command.ofParts words redirects
      parseFrom last (done ++ [c]) [] [] ts) := by
  rw [parseFrom]

theorem parseFrom_connector (k : Connector) (ts : List Token) :
    parseFrom last done words redirects (k.token :: ts) = (do
      let c ← Command.ofParts words redirects
      let s ← parseFrom (some k) [] [] [] ts
      return some (Script.join (Pipeline.ofCommands done c) k s)) := by
  cases k <;> rw [Connector.token, parseFrom]

theorem parseFrom_end (h : words ≠ []) :
    parseFrom last done words redirects [] = (do
      let c ← Command.ofParts words redirects
      return some ⟨Pipeline.ofCommands done c, []⟩) := by
  unfold parseFrom
  simp [h]

private theorem parseFrom_clause {k : Clause} (h : ∀ r ∈ k.redirects, r.op.allows r.target = true)
    (ts : List Token) :
    parseFrom last done words redirects (k.tokens ++ ts) =
      parseFrom last done (words ++ k.words) (redirects ++ k.redirects) ts := by
  obtain ⟨items⟩ := k
  induction items generalizing words redirects with
  | nil => simp [Clause.words, Clause.redirects]
  | cons item items ih =>
    cases item with
    | word w =>
      rw [Clause.tokens_word, List.cons_append, parseFrom_word, ih _ _ h]
      simp
    | redirect r =>
      rw [Clause.redirects_redirect, List.forall_mem_cons] at h
      rw [Clause.tokens_redirect, List.cons_append, List.cons_append, parseFrom_redirect _ _ _ _ h.1,
        ih _ _ h.2]
      simp

end Parsing

section Pipelines

theorem Pipeline.commands_ofCommands (done : List Command) (c : Command) :
    (Pipeline.ofCommands done c).commands = done ++ [c] := by
  cases done <;> rfl

private theorem Pipeline.eq_of_commands {p q : Pipeline} (h : p.commands = q.commands) : p = q := by
  obtain ⟨first, rest⟩ := p
  obtain ⟨first', rest'⟩ := q
  obtain ⟨rfl, rfl⟩ : first = first' ∧ rest = rest' := by simpa [Pipeline.commands] using h
  rfl

private theorem Clause.Gives.words_ne_nil {k : Clause} {c : Command} (h : k.Gives c) : k.words ≠
    [] := by
  rw [← h.words]
  simp [Command.words]

end Pipelines

section Completeness

variable (last : Option Connector)

private theorem parseFrom_chain (done : List Command) (first : Clause) (rest : List Clause)
    (cs : List Command) (hgives : List.Forall₂ Clause.Gives (first :: rest) cs) (ts : List Token) :
    ∃ (before : List Command) (k : Clause) (c : Command), cs = before ++ [c] ∧ k.Gives c ∧
      parseFrom last done [] [] ((Chain.mk first rest).tokens ++ ts) =
        parseFrom last (done ++ before) k.words k.redirects ts := by
  induction rest generalizing done first cs with
  | nil =>
    obtain ⟨c, hc⟩ : ∃ c, cs = [c] := by
      cases hgives with
      | cons _ htail => cases htail; exact ⟨_, rfl⟩
    subst hc
    have hfirst : first.Gives c := by cases hgives; assumption
    refine ⟨[], first, c, rfl, hfirst, ?_⟩
    have hread := parseFrom_clause last done [] [] (Clause.gives_iff.mp hfirst).1 ts
    simpa [Chain.tokens] using hread
  | cons second rest ih =>
    cases hgives with
    | @cons _ c _ cs hfirst hrest =>
      obtain ⟨hallows, hparts⟩ := Clause.gives_iff.mp hfirst
      obtain ⟨before, k, d, rfl, hk, hread⟩ := ih (done ++ [c]) second cs hrest
      refine ⟨c :: before, k, d, rfl, hk, ?_⟩
      have htokens : (Chain.mk first (second :: rest)).tokens ++ ts =
          first.tokens ++ .pipe :: ((Chain.mk second rest).tokens ++ ts) := by
        simp [Chain.tokens]
      rw [htokens, parseFrom_clause _ _ _ _ hallows, parseFrom_pipe]
      simp only [List.nil_append, hparts, bind, Except.bind]
      rw [hread]
      simp

private theorem parseFrom_chain_end {h : Chain} {p : Pipeline} (hgives : h.Gives p) :
    parseFrom last [] [] [] h.tokens = .ok (some ⟨p, []⟩) := by
  obtain ⟨first, rest⟩ := h
  obtain ⟨before, k, c, hcs, hk, hread⟩ := parseFrom_chain last [] first rest _ hgives []
  have hp : Pipeline.ofCommands before c = p :=
    Pipeline.eq_of_commands ((Pipeline.commands_ofCommands before c).trans hcs.symm)
  rw [List.append_nil] at hread
  rw [hread, parseFrom_end _ _ _ _ hk.words_ne_nil, (Clause.gives_iff.mp hk).2, ← hp]
  rfl

private theorem parseFrom_chain_connector {h : Chain} {p : Pipeline} (hgives : h.Gives p)
    (k : Connector)
    (ts : List Token) :
    parseFrom last [] [] [] (h.tokens ++ k.token :: ts) = (do
      let s ← parseFrom (some k) [] [] [] ts
      return some (Script.join p k s)) := by
  obtain ⟨first, rest⟩ := h
  obtain ⟨before, clause, c, hcs, hc, hread⟩ :=
    parseFrom_chain last [] first rest _ hgives (k.token :: ts)
  have hp : Pipeline.ofCommands before c = p :=
    Pipeline.eq_of_commands ((Pipeline.commands_ofCommands before c).trans hcs.symm)
  rw [hread, parseFrom_connector, (Clause.gives_iff.mp hc).2, ← hp]
  rfl

private theorem parseFrom_layout (first : Chain) (rest : List (Connector × Chain)) (trailing : Bool)
    (s : Script) (hgives : (Layout.mk first rest trailing).Gives s) :
    parseFrom last [] [] [] (Layout.mk first rest trailing).tokens = .ok (some s) := by
  induction rest generalizing last first s with
  | nil =>
    obtain ⟨p, srest⟩ := s
    obtain ⟨hfirst, hrest⟩ := hgives
    cases hrest
    cases trailing with
    | false =>
      have hread := parseFrom_chain_end last hfirst
      simpa [Layout.tokens] using hread
    | true =>
      have hread := parseFrom_chain_connector last hfirst .seq []
      have hend : parseFrom (some .seq) [] [] [] [] = .ok none := by rw [parseFrom]; rfl
      rw [hend] at hread
      simpa [Layout.tokens, Connector.token, Script.join] using hread
  | cons e rest ih =>
    obtain ⟨p, srest⟩ := s
    obtain ⟨k, chain⟩ := e
    obtain ⟨hfirst, hrest⟩ := hgives
    cases hrest with
    | @cons _ e' _ srest hhead htail =>
      obtain ⟨k', q⟩ := e'
      obtain ⟨rfl, hchain⟩ := hhead
      have hread := parseFrom_chain_connector last hfirst k (Layout.mk chain rest trailing).tokens
      rw [ih (some k) chain ⟨q, srest⟩ ⟨hchain, htail⟩] at hread
      have htokens : (Layout.mk first ((k, chain) :: rest) trailing).tokens =
          first.tokens ++ k.token :: (Layout.mk chain rest trailing).tokens := by
        simp [Layout.tokens]
      rw [htokens, hread]
      rfl

theorem parse_tokens {l : Layout} {s : Script} (h : l.Gives s) : parse l.tokens = .ok s := by
  obtain ⟨first, rest, trailing⟩ := l
  unfold parse
  rw [parseFrom_layout none first rest trailing s h]
  rfl

end Completeness

section Soundness

/-- How the reading of a clause can go on: the line ends behind it, or a pipe or a connector
follows. -/
inductive Continues (last : Option Connector) (done : List Command) (c : Command) :
    List Token → Option Script → Prop
  | stop : Continues last done c [] (some ⟨Pipeline.ofCommands done c, []⟩)
  | pipe {ts : List Token} {r : Option Script}
      (h : parseFrom last (done ++ [c]) [] [] ts = .ok r) : Continues last done c (.pipe :: ts) r
  | connector {k : Connector} {ts : List Token} {r : Option Script}
      (h : parseFrom (some k) [] [] [] ts = .ok r) :
      Continues last done c (k.token :: ts) (some (Script.join (Pipeline.ofCommands done c) k r))

private theorem parseFrom_eq_ok {last : Option Connector} {done : List Command}
    {words : List String}
    {redirects : List Redirect} {ts : List Token} {r : Option Script}
    (h : parseFrom last done words redirects ts = .ok r) :
    (ts = [] ∧ done = [] ∧ words = [] ∧ redirects = [] ∧ last = some .seq ∧ r = none) ∨
      ∃ (k : Clause) (c : Command) (us : List Token), ts = k.tokens ++ us ∧
        (∀ r ∈ k.redirects, r.op.allows r.target = true) ∧
        Command.ofParts (words ++ k.words) (redirects ++ k.redirects) = .ok c ∧
        Continues last done c us r := by
  -- An empty clause stands for the place where the clause being read ends.
  have stops {last : Option Connector} {done : List Command} {words : List String}
      {redirects : List Redirect} {c : Command} {ts : List Token}
      (hparts : Command.ofParts words redirects = .ok c) (hgo : Continues last done c ts r) :
      ∃ (k : Clause) (c : Command) (us : List Token), ts = k.tokens ++ us ∧
        (∀ r ∈ k.redirects, r.op.allows r.target = true) ∧
        Command.ofParts (words ++ k.words) (redirects ++ k.redirects) = .ok c ∧
        Continues last done c us r :=
    ⟨⟨[]⟩, c, ts, rfl, by simp [Clause.redirects], by simpa [Clause.words, Clause.redirects], hgo⟩
  fun_induction parseFrom last done words redirects ts with
  | case1 done words redirects hempty =>
    simp only [Bool.and_eq_true, List.isEmpty_iff] at hempty
    exact Or.inl ⟨rfl, hempty.1.1, hempty.1.2, hempty.2, rfl, (Except.ok.inj h).symm⟩
  | case2 => cases h
  | case3 => cases h
  | case4 last done words redirects _ =>
    obtain ⟨c, hparts, hr⟩ := bind_eq_ok h
    obtain rfl := Except.ok.inj hr
    exact Or.inr (stops hparts .stop)
  | case5 last done words redirects w ts ih =>
    rcases ih h with ⟨-, -, hwords, -⟩ | ⟨k, c, us, rfl, hallows, hparts, hgo⟩
    · simp at hwords
    · refine Or.inr ⟨⟨.word w :: k.items⟩, c, us, rfl, hallows, ?_, hgo⟩
      simpa using hparts
  | case6 last done words redirects fd op target ts hallow ih =>
    rcases ih h with ⟨-, -, -, hredirects, -⟩ | ⟨k, c, us, rfl, hallows, hparts, hgo⟩
    · simp at hredirects
    · refine Or.inr ⟨⟨.redirect ⟨fd, op, target⟩ :: k.items⟩, c, us, rfl, ?_, ?_, hgo⟩
      · rw [Clause.redirects_redirect, List.forall_mem_cons]
        exact ⟨hallow, hallows⟩
      · simpa using hparts
  | case7 => cases h
  | case8 => cases h
  | case9 last done words redirects ts ih =>
    obtain ⟨c, hparts, hrest⟩ := bind_eq_ok h
    exact Or.inr (stops hparts (.pipe hrest))
  | case10 last done words redirects ts ih | case11 last done words redirects ts ih
  | case12 last done words redirects ts ih =>
    obtain ⟨c, hparts, hrest⟩ := bind_eq_ok h
    obtain ⟨s, hs, hr⟩ := bind_eq_ok hrest
    obtain rfl := Except.ok.inj hr
    exact Or.inr (stops hparts (.connector hs))

private theorem parseFrom_sound (n : Nat) {last : Option Connector} {done : List Command}
    {ts : List Token} {r : Option Script} (hn : ts.length ≤ n)
    (h : parseFrom last done [] [] ts = .ok r) :
    (ts = [] ∧ last = some .seq ∧ done = [] ∧ r = none) ∨
      ∃ (l : Layout) (s : Script) (cs : List Command), ts = l.tokens ∧ r = some s ∧
        s.first.commands = done ++ cs ∧ List.Forall₂ Clause.Gives l.first.clauses cs ∧
        List.Forall₂ (fun a b => a.1 = b.1 ∧ a.2.Gives b.2) l.rest s.rest := by
  induction n using Nat.strongRecOn generalizing last done ts r with
  | ind n ih =>
    rcases parseFrom_eq_ok h with
      ⟨hts, hdone, -, -, hlast, hr⟩ | ⟨k, c, us, rfl, hallows, hparts, hgo⟩
    · exact Or.inl ⟨hts, hlast, hdone, hr⟩
    right
    have hk : k.Gives c := Clause.gives_iff.mpr ⟨hallows, by simpa using hparts⟩
    have hone : List.Forall₂ Clause.Gives [k] [c] := .cons hk .nil
    rw [List.length_append] at hn
    cases hgo with
    | stop =>
      exact ⟨⟨⟨k, []⟩, [], false⟩, _, [c], by simp [Layout.tokens, Chain.tokens], rfl,
        Pipeline.commands_ofCommands done c, hone, .nil⟩
    | @pipe us _ hrest =>
      rw [List.length_cons] at hn
      rcases ih us.length (by omega) (Nat.le_refl _) hrest with
        ⟨-, -, hdone, -⟩ | ⟨l, s, cs, rfl, rfl, hcommands, hfirst, hconnected⟩
      · simp at hdone
      · refine ⟨⟨⟨k, l.first.clauses⟩, l.rest, l.trailing⟩, s, c :: cs, ?_, rfl, ?_, .cons hk hfirst,
          hconnected⟩
        · simp [Layout.tokens, Chain.tokens, Chain.clauses]
        · rw [hcommands, List.append_assoc]
          rfl
    | @connector j us r hrest =>
      rw [List.length_cons] at hn
      rcases ih us.length (by omega) (Nat.le_refl _) hrest with
        ⟨rfl, hlast, -, rfl⟩ | ⟨l, s, cs, rfl, rfl, hcommands, hfirst, hconnected⟩
      · obtain rfl := Option.some.inj hlast
        exact ⟨⟨⟨k, []⟩, [], true⟩, _, [c], by simp [Layout.tokens, Chain.tokens, Connector.token],
          rfl, Pipeline.commands_ofCommands done c, hone, .nil⟩
      · refine ⟨⟨⟨k, []⟩, (j, l.first) :: l.rest, l.trailing⟩, _, [c], ?_, rfl,
          Pipeline.commands_ofCommands done c, hone, .cons ⟨rfl, ?_⟩ hconnected⟩
        · simp [Layout.tokens, Chain.tokens]
        · rw [List.nil_append] at hcommands
          rw [Chain.Gives, hcommands]
          exact hfirst

/-- A list of tokens is read as a script exactly when it is the writing of a layout that gives the
script. -/
theorem parse_eq_ok_iff {ts : List Token} {s : Script} :
    parse ts = .ok s ↔ ∃ l : Layout, l.tokens = ts ∧ l.Gives s := by
  constructor
  · intro h
    obtain ⟨r, hread, hr⟩ := bind_eq_ok h
    rcases parseFrom_sound ts.length (Nat.le_refl _) hread with
      ⟨-, hlast, -⟩ | ⟨l, s', cs, rfl, rfl, hcommands, hfirst, hrest⟩
    · cases hlast
    · obtain rfl : s' = s := Except.ok.inj hr
      refine ⟨l, rfl, ?_, hrest⟩
      rw [Chain.Gives, hcommands]
      exact hfirst
  · rintro ⟨l, rfl, hgives⟩
    exact parse_tokens hgives

end Soundness

section Recognition

private theorem exists_forall₂_iff {α β : Type} {R : α → β → Prop} {xs : List α} :
    (∃ ys, List.Forall₂ R xs ys) ↔ ∀ x ∈ xs, ∃ y, R x y := by
  induction xs with
  | nil => simp
  | cons x xs ih =>
    rw [List.forall_mem_cons, ← ih]
    constructor
    · rintro ⟨_, hys⟩
      cases hys with
      | @cons _ y _ ys hy hys => exact ⟨⟨y, hy⟩, ys, hys⟩
    · rintro ⟨⟨y, hy⟩, ys, hys⟩
      exact ⟨y :: ys, .cons hy hys⟩

private theorem Clause.exists_gives_iff {k : Clause} : (∃ c, k.Gives c) ↔ k.Grammatical := by
  simp only [Clause.gives_iff, exists_and_left, Command.exists_ofParts_iff, RedirectOp.allows_iff]
  exact ⟨fun h => ⟨h.1, h.2⟩, fun h => ⟨h.targets, h.named⟩⟩

private theorem Chain.exists_gives_iff {h : Chain} :
    (∃ p, h.Gives p) ↔ ∀ k ∈ h.clauses, k.Grammatical := by
  simp only [← Clause.exists_gives_iff, ← exists_forall₂_iff]
  constructor
  · rintro ⟨p, hp⟩
    exact ⟨p.commands, hp⟩
  · rintro ⟨cs, hcs⟩
    cases hcs with
    | @cons _ c _ cs hc hcs => exact ⟨⟨c, cs⟩, .cons hc hcs⟩

private theorem Layout.exists_gives_iff {l : Layout} : (∃ s, l.Gives s) ↔ l.Grammatical := by
  have hrest : (∃ rest, List.Forall₂ (fun (a b : Connector × _) => a.1 = b.1 ∧ a.2.Gives b.2)
      l.rest rest) ↔ ∀ e ∈ l.rest, ∃ p, e.2.Gives p := by
    rw [exists_forall₂_iff]
    refine forall₂_congr fun e _ => ⟨?_, ?_⟩
    · rintro ⟨e', -, hgives⟩
      exact ⟨e'.2, hgives⟩
    · rintro ⟨p, hgives⟩
      exact ⟨(e.1, p), rfl, hgives⟩
  have hall : l.Grammatical ↔ (∃ p, l.first.Gives p) ∧ ∀ e ∈ l.rest, ∃ p, e.2.Gives p := by
    simp only [Chain.exists_gives_iff, Layout.Grammatical, Layout.chains, List.forall_mem_cons,
      List.forall_mem_map]
  rw [hall, ← hrest]
  constructor
  · rintro ⟨s, hfirst, hrest⟩
    exact ⟨⟨s.first, hfirst⟩, s.rest, hrest⟩
  · rintro ⟨⟨p, hfirst⟩, rest, hrest⟩
    exact ⟨⟨p, rest⟩, hfirst, hrest⟩

private theorem Clause.filterMap_connector? (k : Clause) : k.tokens.filterMap Token.connector? =
    [] := by
  obtain ⟨items⟩ := k
  induction items with
  | nil => rfl
  | cons item items ih => cases item <;> simpa [Token.connector?] using ih

private theorem Chain.filterMap_connector? (h : Chain) : h.tokens.filterMap Token.connector? =
    [] := by
  obtain ⟨first, rest⟩ := h
  rw [Chain.tokens, List.filterMap_append, Clause.filterMap_connector?, List.nil_append,
    List.filterMap_flatMap, List.flatMap_eq_nil_iff]
  intro k _
  rw [List.filterMap_cons_none rfl, Clause.filterMap_connector?]

private theorem Layout.filterMap_connector? (l : Layout) :
    l.tokens.filterMap Token.connector? =
      l.connectors ++ if l.trailing then [.seq] else [] := by
  obtain ⟨first, rest, trailing⟩ := l
  have htail : (if trailing then [Token.semi] else []).filterMap Token.connector? =
      if trailing then [Connector.seq] else [] := by cases trailing <;> rfl
  have hrest : (rest.flatMap fun e => e.1.token :: e.2.tokens).filterMap Token.connector? =
      rest.map (·.1) := by
    induction rest with
    | nil => rfl
    | cons e rest ih =>
      have htoken : e.1.token.connector? = some e.1 := by cases e.1 <;> rfl
      rw [List.flatMap_cons, List.filterMap_append, ih, List.filterMap_cons_some htoken,
        Chain.filterMap_connector?]
      rfl
  rw [Layout.tokens, List.filterMap_append, List.filterMap_append, Chain.filterMap_connector?,
    hrest, htail]
  rfl

theorem Layout.Gives.connectors {l : Layout} {s : Script} (h : l.Gives s) :
    s.connectors = l.connectors := by
  have hfst : List.Forall₂ Eq l.connectors s.connectors := by
    rw [Layout.connectors, Script.connectors, List.forall₂_map_left_iff, List.forall₂_map_right_iff]
    exact h.2.imp fun _ _ he => he.1
  rw [List.forall₂_eq_eq_eq] at hfst
  exact hfst.symm

theorem Layout.Gives.pipelines {l : Layout} {s : Script} (h : l.Gives s) :
    List.Forall₂ Chain.Gives l.chains s.pipelines := by
  refine .cons h.1 ?_
  rw [List.forall₂_map_left_iff, List.forall₂_map_right_iff]
  exact h.2.imp fun _ _ he => he.2

/-- Exactly the grammatical lines are read, and nothing of them is lost: the script has the
connectors, clause by clause the words and the redirections of the line. -/
theorem parse_grammar (ts : List Token) :
    ((∃ s, parse ts = .ok s) ↔ ∃ l : Layout, l.Grammatical ∧ l.tokens = ts) ∧
    ∀ (s : Script) (l : Layout), parse ts = .ok s → l.Grammatical → l.tokens = ts →
      s.connectors.length + 1 = s.pipelines.length ∧
      s.connectors = l.connectors ∧
      ts.filterMap Token.connector? = s.connectors ++ (if l.trailing then [.seq] else []) ∧
      (∀ p ∈ s.pipelines, p.commands ≠ []) ∧
      List.Forall₂ Chain.Gives l.chains s.pipelines := by
  constructor
  · constructor
    · rintro ⟨s, h⟩
      obtain ⟨l, htokens, hgives⟩ := parse_eq_ok_iff.mp h
      exact ⟨l, Layout.exists_gives_iff.mp ⟨s, hgives⟩, htokens⟩
    · rintro ⟨l, hgram, rfl⟩
      obtain ⟨s, hgives⟩ := Layout.exists_gives_iff.mpr hgram
      exact ⟨s, parse_tokens hgives⟩
  · rintro s l h hgram rfl
    -- The reader is a function, so the script is the one this layout gives.
    obtain ⟨s', hgives⟩ := Layout.exists_gives_iff.mpr hgram
    obtain rfl : s' = s := Except.ok.inj ((parse_tokens hgives).symm.trans h)
    refine ⟨by simp [Script.connectors, Script.pipelines], hgives.connectors, ?_, ?_,
      hgives.pipelines⟩
    · rw [Layout.filterMap_connector?, hgives.connectors]
    · intro p _
      simp [Pipeline.commands]

/-- The tokens of `A=1 cmd >f x | y ;`, with the assignment in front, the target apart from the
arguments and a `;` that joins nothing. -/
theorem parse_grammar_trailing :
    parse [.word "A=1", .word "cmd", .redirect 1 .write, .word "f", .word "x", .pipe, .word "y",
        .semi] = .ok ⟨⟨⟨[("A", "1")], "cmd", ["x"], [⟨1, .write, "f"⟩]⟩, [⟨[], "y", [], []⟩]⟩, []⟩ ∧
    List.Forall₂ Chain.Gives
      [⟨⟨[.word "A=1", .word "cmd", .redirect ⟨1, .write, "f"⟩, .word "x"]⟩, [⟨[.word "y"]⟩]⟩]
      [⟨⟨[("A", "1")], "cmd", ["x"], [⟨1, .write, "f"⟩]⟩, [⟨[], "y", [], []⟩]⟩] := by
  have hparse : parse [.word "A=1", .word "cmd", .redirect 1 .write, .word "f", .word "x", .pipe,
      .word "y", .semi] =
      .ok ⟨⟨⟨[("A", "1")], "cmd", ["x"], [⟨1, .write, "f"⟩]⟩, [⟨[], "y", [], []⟩]⟩, []⟩ := by
    cbv
  have hcmd : ¬ IsAssignment "cmd" := assignment?_eq_none_iff.mp (by decide)
  have hy : ¬ IsAssignment "y" := assignment?_eq_none_iff.mp (by decide)
  have hgram : (Layout.mk
      ⟨⟨[.word "A=1", .word "cmd", .redirect ⟨1, .write, "f"⟩, .word "x"]⟩, [⟨[.word "y"]⟩]⟩ []
      true).Grammatical := by
    simp only [Layout.Grammatical, Layout.chains, Chain.clauses, List.map_nil, List.mem_cons,
      List.not_mem_nil, or_false, forall_eq, forall_eq_or_imp]
    exact ⟨⟨by decide, "cmd", by decide, hcmd⟩, ⟨by decide, "y", by decide, hy⟩⟩
  exact ⟨hparse, ((parse_grammar _).2 _ _ hparse hgram rfl).2.2.2.2⟩

end Recognition

end ShellSuite.RunLine
