import ShellSuite.Proofs.RunLine.Tracks

set_option autoImplicit false
set_option relaxedAutoImplicit false

/-!
Outlines of scripts: what is left of a script when the texts of its words are dropped. If neither of
two directories has blanks, then neither reading of a line cuts a word that the other one keeps
whole. So both find the same tokens up to words that fork behind a slash, and these make scripts of
the same outline.
-/

namespace ShellSuite.RunLine

/-- The names of the assignments of a command, how many arguments it has, and the descriptors and
operators of its redirections. -/
structure Command.Outline where
  env : List String
  args : Nat
  redirects : List (Nat × RedirectOp)
  deriving DecidableEq, Repr

def Redirect.outline (r : Redirect) : Nat × RedirectOp :=
  (r.fd, r.op)

def Command.outline (c : Command) : Command.Outline :=
  ⟨c.env.map (·.1), c.args.length, c.redirects.map Redirect.outline⟩

/-- The outlines of all commands, so that there are as many of them as commands. -/
def Pipeline.outline (p : Pipeline) : List Command.Outline :=
  p.commands.map Command.outline

structure Script.SameOutline (s s' : Script) : Prop where
  connectors : s.connectors = s'.connectors
  pipelines : s.pipelines.map Pipeline.outline = s'.pipelines.map Pipeline.outline

/-- Words that are the same up to a slash, if they are not the same at all. -/
def Sided (v w : String) : Prop :=
  v = w ∨ Forked v.toList w.toList

/-- The same operator, or words that are the same up to a slash. -/
inductive Token.Sided : Token → Token → Prop
  | operator {t : Token} (h : t.isOperator = true) : Token.Sided t t
  | word {v w : String} (h : RunLine.Sided v w) : Token.Sided (.word v) (.word w)

/-! ### Readings that are finer than each other -/

theorem Finer.length_le {ts us : List Token} (h : Finer ts us) : ts.length ≤ us.length := by
  induction h with
  | nil => exact Nat.le_refl _
  | operator _ _ ih => exact Nat.succ_le_succ ih
  | word _ extra _ ih =>
    simp only [List.length_cons, List.length_append, List.length_map]
    omega

theorem Finer.sided {ts us : List Token} (h : Finer ts us) (hlength : us.length ≤ ts.length) :
    List.Forall₂ Token.Sided ts us := by
  induction h with
  | nil => exact .nil
  | operator hop _ ih => exact .cons (.operator hop) (ih (Nat.le_of_succ_le_succ hlength))
  | word hword extra hrest ih =>
    simp only [List.length_cons, List.length_append, List.length_map] at hlength
    have hless := hrest.length_le
    have hnone : extra = [] := List.length_eq_zero_iff.mp (by omega)
    subst hnone
    exact .cons (.word hword) (ih (by omega))

private theorem tokenize_sided {line : String} {t₁ t₂ : Substitutions}
    (htable : t₁.Redirects t₂ line.toList) (htable' : t₂.Redirects t₁ line.toList)
    (env : Dict String) :
    Lockstep (List.Forall₂ Token.Sided) (tokenize line t₁ env) (tokenize line t₂ env) := by
  have hagree : Agree env env line.toList := fun _ _ => rfl
  have hthere := tokensFrom_tracks htable hagree .bare (.same .nil .fresh)
  have hback := tokensFrom_tracks htable' hagree .bare (.same .nil .fresh)
  unfold tokenize
  generalize tokensFrom t₁ env .bare .fresh line.toList = x at hthere hback
  generalize tokensFrom t₂ env .bare .fresh line.toList = y at hthere hback
  cases hthere with
  | error e => exact .error e
  | ok hfiner =>
    cases hback with
    | ok hfiner' =>
      have hlength := hfiner'.length_le
      simp only [List.nil_append] at hfiner hlength
      exact .ok (hfiner.sided hlength)

/-! ### Commands -/

private theorem Sided.map_assignment? {v w : String} (h : Sided v w) :
    (assignment? v).map (·.1) = (assignment? w).map (·.1) := by
  rcases h with rfl | hfork
  · rfl
  cases hv : assignment? v with
  | none =>
    have hw : assignment? w = none := by
      rw [assignment?_eq_none_iff] at hv ⊢
      exact fun hassign => hv (hfork.symm.isAssignment hassign)
    rw [hw]
  | some a =>
    obtain ⟨hname, rfl⟩ := assignment?_eq_some_iff.mp hv
    obtain ⟨value, rfl⟩ := hfork.exists_value hname
    have hw : assignment? (assignmentWord (a.1, value)) = some (a.1, value) :=
      assignment?_eq_some_iff.mpr ⟨hname, rfl⟩
    rw [hw]
    rfl

theorem Sided.allows {v w : String} (h : Sided v w) (op : RedirectOp) :
    op.allows v = op.allows w := by
  rw [Bool.eq_iff_iff]
  constructor
  · exact fun hv => allows_of_forked hv h
  · exact fun hw => allows_of_forked hw (h.imp Eq.symm Forked.symm)

private theorem takeAssignments_sided {ws vs : List String} (h : List.Forall₂ Sided ws vs) :
    (takeAssignments ws).1.map (·.1) = (takeAssignments vs).1.map (·.1) ∧
      (takeAssignments ws).2.length = (takeAssignments vs).2.length := by
  induction h with
  | nil => exact ⟨rfl, rfl⟩
  | @cons w v ws vs hword hrest ih =>
    have hname := hword.map_assignment?
    unfold takeAssignments
    cases hw : assignment? w with
    | none =>
      have hv : assignment? v = none := by simpa [hw] using hname.symm
      rw [hv]
      exact ⟨rfl, congrArg Nat.succ hrest.length_eq⟩
    | some a =>
      obtain ⟨b, hv, hab⟩ : ∃ b, assignment? v = some b ∧ b.1 = a.1 := by
        simpa [hw] using hname.symm
      rw [hv]
      refine ⟨?_, ih.2⟩
      simp only [List.map_cons, hab, ih.1]

private theorem Command.ofParts_sided {ws vs : List String} (h : List.Forall₂ Sided ws vs)
    {rs rs' : List Redirect} (hredirects : rs.map Redirect.outline = rs'.map Redirect.outline) :
    Together (fun c c' => Command.outline c = Command.outline c') (Command.ofParts ws rs)
      (Command.ofParts vs rs') := by
  obtain ⟨hnames, hlength⟩ := takeAssignments_sided h
  unfold Command.ofParts
  generalize takeAssignments ws = x at hnames hlength
  generalize takeAssignments vs = y at hnames hlength
  obtain ⟨env, words⟩ := x
  obtain ⟨env', words'⟩ := y
  cases words with
  | nil =>
    obtain rfl := List.length_eq_zero_iff.mp hlength.symm
    exact .error _ _
  | cons name args =>
    cases words' with
    | nil => cases hlength
    | cons name' args' =>
      refine .ok ?_
      simp only [Command.outline, Command.Outline.mk.injEq]
      exact ⟨hnames, Nat.succ.inj hlength, hredirects⟩

/-! ### Scripts -/

private theorem Pipeline.outline_ofCommands (done : List Command) (c : Command) :
    (Pipeline.ofCommands done c).outline = done.map Command.outline ++ [c.outline] := by
  rw [Pipeline.outline, Pipeline.commands_ofCommands, List.map_append]
  rfl

/-- What two readings have of the pipeline they are reading. -/
structure Abreast (done done' : List Command) (words words' : List String)
    (redirects redirects' : List Redirect) : Prop where
  done : done.map Command.outline = done'.map Command.outline
  words : List.Forall₂ Sided words words'
  redirects : redirects.map Redirect.outline = redirects'.map Redirect.outline

namespace Abreast

variable {done done' : List Command} {words words' : List String}
  {redirects redirects' : List Redirect}

theorem fresh (h : done.map Command.outline = done'.map Command.outline) :
    Abreast done done' [] [] [] [] :=
  ⟨h, .nil, rfl⟩

theorem isEmpty (h : Abreast done done' words words' redirects redirects') :
    (done.isEmpty && words.isEmpty && redirects.isEmpty) =
      (done'.isEmpty && words'.isEmpty && redirects'.isEmpty) := by
  have hdone := congrArg List.isEmpty h.done
  have hredirects := congrArg List.isEmpty h.redirects
  have hwords : words.isEmpty = words'.isEmpty := by
    cases h.words with
    | nil => rfl
    | cons _ _ => rfl
  rw [List.isEmpty_map, List.isEmpty_map] at hdone hredirects
  rw [hdone, hredirects, hwords]

theorem word (h : Abreast done done' words words' redirects redirects') {v w : String}
    (hvw : Sided v w) : Abreast done done' (words ++ [v]) (words' ++ [w]) redirects redirects' :=
  ⟨h.done, List.rel_append h.words (.cons hvw .nil), h.redirects⟩

theorem redirect (h : Abreast done done' words words' redirects redirects') {r r' : Redirect}
    (hr : r.outline = r'.outline) :
    Abreast done done' words words' (redirects ++ [r]) (redirects' ++ [r']) := by
  refine ⟨h.done, h.words, ?_⟩
  rw [List.map_append, List.map_append, h.redirects, List.map_singleton, hr, List.map_singleton]

theorem command (h : Abreast done done' words words' redirects redirects') :
    Together (fun c c' => (done ++ [c]).map Command.outline = (done' ++ [c']).map Command.outline)
      (Command.ofParts words redirects) (Command.ofParts words' redirects') := by
  have hparts := Command.ofParts_sided h.words h.redirects
  generalize Command.ofParts words redirects = x at hparts ⊢
  generalize Command.ofParts words' redirects' = y at hparts ⊢
  cases hparts with
  | error e e' => exact .error e e'
  | ok houtline =>
    refine .ok ?_
    rw [List.map_append, List.map_append, h.done, List.map_singleton, houtline, List.map_singleton]

end Abreast

theorem Script.SameOutline.single {p p' : Pipeline} (h : p.outline = p'.outline) :
    Script.SameOutline ⟨p, []⟩ ⟨p', []⟩ :=
  ⟨rfl, by simp [Script.pipelines, h]⟩

theorem Script.SameOutline.join {p p' : Pipeline} (h : p.outline = p'.outline) (k : Connector)
    {s s' : Option Script} (hs : Option.Rel Script.SameOutline s s') :
    Script.SameOutline (Script.join p k s) (Script.join p' k s') := by
  cases hs with
  | none => exact .single h
  | some hs =>
    obtain ⟨hconnectors, hpipelines⟩ := hs
    constructor
    · simpa [Script.join, Script.connectors] using hconnectors
    · simpa [Script.join, Script.pipelines, h] using hpipelines

private theorem parseFrom_connector_sided (k : Connector) {last : Option Connector}
    {done done' : List Command} {words words' : List String} {redirects redirects' : List Redirect}
    {ts us : List Token} (habreast : Abreast done done' words words' redirects redirects')
    (hrest : Together (Option.Rel Script.SameOutline) (parseFrom (some k) [] [] [] ts)
      (parseFrom (some k) [] [] [] us)) :
    Together (Option.Rel Script.SameOutline)
      (parseFrom last done words redirects (k.token :: ts))
      (parseFrom last done' words' redirects' (k.token :: us)) := by
  rw [parseFrom_connector, parseFrom_connector]
  refine habreast.command.bind ?_
  intro c c' hc
  refine hrest.bind ?_
  intro s s' hs
  refine .ok (.some (.join ?_ k hs))
  rw [Pipeline.outline_ofCommands, Pipeline.outline_ofCommands]
  simpa using hc

private theorem parseFrom_sided {last : Option Connector} {done done' : List Command}
    {words words' : List String} {redirects redirects' : List Redirect} {ts us : List Token}
    (habreast : Abreast done done' words words' redirects redirects')
    (h : List.Forall₂ Token.Sided ts us) :
    Together (Option.Rel Script.SameOutline) (parseFrom last done words redirects ts)
      (parseFrom last done' words' redirects' us) := by
  fun_induction parseFrom last done words redirects ts generalizing done' words' redirects' us with
  | case1 done words redirects hempty =>
    cases h
    rw [habreast.isEmpty] at hempty
    unfold parseFrom
    rw [if_pos hempty]
    exact .ok .none
  | case2 done words redirects hempty k hk =>
    cases h
    rw [habreast.isEmpty] at hempty
    unfold parseFrom
    rw [if_pos hempty]
    cases k with
    | seq => exact absurd rfl hk
    | and => exact .error _ _
    | or => exact .error _ _
  | case3 done words redirects hempty =>
    cases h
    rw [habreast.isEmpty] at hempty
    unfold parseFrom
    rw [if_pos hempty]
    exact .error _ _
  | case4 last done words redirects hempty =>
    cases h
    rw [habreast.isEmpty] at hempty
    unfold parseFrom
    rw [if_neg hempty]
    refine habreast.command.bind ?_
    intro c c' hc
    refine .ok (.some (.single ?_))
    rw [Pipeline.outline_ofCommands, Pipeline.outline_ofCommands]
    simpa using hc
  | case5 last done words redirects v ts ih =>
    cases h with
    | cons htoken hrest =>
      cases htoken with
      | operator hop => cases hop
      | word hvw =>
        rw [parseFrom_word]
        exact ih (habreast.word hvw) hrest
  | case6 last done words redirects fd op target ts hallow ih =>
    cases h with
    | cons hop hrest =>
      cases hop
      cases hrest with
      | cons hword hrest =>
        cases hword with
        | operator hop => cases hop
        | @word _ target' hvw =>
          have hallow' : op.allows target' = true := (hvw.allows op).symm.trans hallow
          rw [parseFrom_redirect last done' words' redirects' (r := ⟨fd, op, target'⟩) hallow']
          exact ih (habreast.redirect rfl) hrest
  | case7 last done words redirects fd op target ts hallow =>
    cases h with
    | cons hop hrest =>
      cases hop
      cases hrest with
      | cons hword hrest =>
        cases hword with
        | operator hop => cases hop
        | word hvw =>
          rw [hvw.allows op] at hallow
          rw [parseFrom, if_neg hallow]
          exact .error _ _
  | case8 last done words redirects fd op ts hts =>
    cases h with
    | @cons _ _ _ us hop hrest =>
      cases hop
      have hus : ∀ target more, us = .word target :: more → False := by
        rintro target more rfl
        cases hrest with
        | cons hword _ =>
          cases hword with
          | operator hop => cases hop
          | word _ => exact hts _ _ rfl
      rw [parseFrom]
      · exact .error _ _
      · exact hus
  | case9 last done words redirects ts ih =>
    cases h with
    | cons htoken hrest =>
      cases htoken
      rw [parseFrom_pipe]
      refine habreast.command.bind ?_
      intro c c' hc
      exact ih c (.fresh hc) hrest
  | case10 last done words redirects ts ih =>
    cases h with
    | cons htoken hrest =>
      cases htoken
      exact parseFrom_connector_sided .and habreast (ih (.fresh rfl) hrest)
  | case11 last done words redirects ts ih =>
    cases h with
    | cons htoken hrest =>
      cases htoken
      exact parseFrom_connector_sided .or habreast (ih (.fresh rfl) hrest)
  | case12 last done words redirects ts ih =>
    cases h with
    | cons htoken hrest =>
      cases htoken
      exact parseFrom_connector_sided .seq habreast (ih (.fresh rfl) hrest)

private theorem parse_sided {ts us : List Token} (h : List.Forall₂ Token.Sided ts us) :
    Together Script.SameOutline (parse ts) (parse us) := by
  have hread : Together (Option.Rel Script.SameOutline) (parseFrom none [] [] [] ts)
      (parseFrom none [] [] [] us) := parseFrom_sided (.fresh rfl) h
  refine hread.bind ?_
  intro s s' hs
  cases hs with
  | none => exact .error _ _
  | some hs => exact .ok hs

theorem parseLine_sided {line : String} {t₁ t₂ : Substitutions}
    (htable : t₁.Redirects t₂ line.toList) (htable' : t₂.Redirects t₁ line.toList)
    (env : Dict String) :
    Together Script.SameOutline (parseLine line t₁ env) (parseLine line t₂ env) :=
  (tokenize_sided htable htable' env).together.bind fun _ _ => parse_sided

end ShellSuite.RunLine
