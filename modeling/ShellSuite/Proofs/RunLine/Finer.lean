import ShellSuite.Proofs.RunLine.Grammar
import ShellSuite.Proofs.RunLine.Injection

set_option autoImplicit false
set_option relaxedAutoImplicit false

/-!
Readings that cut words into more words. A word with a slash in front of its first `=` is no
assignment and no descriptor, and more words behind a word do no harm: a script that can be read
with some words can be read when they are continued in another way behind a slash.
-/

namespace ShellSuite.RunLine

/-- Texts with a common front up to a slash. -/
def Forked (a b : List Char) : Prop :=
  ∃ front x y, a = front ++ '/' :: x ∧ b = front ++ '/' :: y

/-- Tokens with the same operators, where each word has become an equal or a forked word and
possibly some more words behind it. -/
inductive Finer : List Token → List Token → Prop
  | nil : Finer [] []
  | operator {t : Token} {ts us : List Token} (h : t.isOperator = true) (rest : Finer ts us) :
      Finer (t :: ts) (t :: us)
  | word {v w : String} {ts us : List Token} (h : v = w ∨ Forked v.toList w.toList)
      (extra : List String) (rest : Finer ts us) :
      Finer (.word v :: ts) (.word w :: (extra.map .word ++ us))

/-! ### Words -/

theorem Forked.append {a b : List Char} (h : Forked a b) (c d : List Char) :
    Forked (a ++ c) (b ++ d) := by
  obtain ⟨front, x, y, rfl, rfl⟩ := h
  exact ⟨front, x ++ c, y ++ d, by simp, by simp⟩

theorem Forked.of_slash (front x y : List Char) : Forked (front ++ '/' :: x) (front ++ '/' :: y) :=
  ⟨front, x, y, rfl, rfl⟩

theorem Forked.symm {a b : List Char} (h : Forked a b) : Forked b a := by
  obtain ⟨front, x, y, ha, hb⟩ := h
  exact ⟨front, y, x, hb, ha⟩

theorem Forked.exists_value {a : String × String} {w : String}
    (h : Forked (assignmentWord a).toList w.toList) (hname : isName a.1 = true) :
    ∃ value, w = assignmentWord (a.1, value) := by
  obtain ⟨front, x, y, hv, hw⟩ := h
  obtain ⟨name, value⟩ := a
  have hsplit : name.toList ++ '=' :: value.toList = front ++ '/' :: x := by
    simpa [assignmentWord] using hv
  have hslash : '/' ∉ name.toList := by
    intro hmem
    exact absurd (isNameChar_of_mem hname hmem) (by decide)
  rcases List.append_eq_append_iff.mp hsplit with ⟨more, hfront, hrest⟩ | ⟨more, hfront, hrest⟩
  · cases more with
    | nil => simp at hrest
    | cons c more =>
      obtain ⟨rfl, -⟩ := List.cons.inj hrest
      refine ⟨String.ofList (more ++ '/' :: y), ?_⟩
      apply String.toList_injective
      simp [assignmentWord, hw, hfront]
  · cases more with
    | nil => simp at hrest
    | cons c more =>
      obtain ⟨rfl, -⟩ := List.cons.inj hrest
      exact absurd (by simp [hfront]) hslash

theorem Forked.isAssignment {v w : String} (h : Forked v.toList w.toList) (hv : IsAssignment v) :
    IsAssignment w := by
  obtain ⟨a, hname, rfl⟩ := hv
  obtain ⟨value, rfl⟩ := h.exists_value hname
  exact ⟨(a.1, value), hname, rfl⟩

private theorem Forked.not_descriptor {v w : String} (h : Forked v.toList w.toList) :
    v ≠ "1" ∧ v ≠ "2" := by
  obtain ⟨front, x, y, hv, -⟩ := h
  have hslash : '/' ∈ v.toList := by simp [hv]
  constructor
  · rintro rfl
    exact absurd hslash (by decide)
  · rintro rfl
    exact absurd hslash (by decide)

theorem Finer.refl (ts : List Token) : Finer ts ts := by
  induction ts with
  | nil => exact .nil
  | cons t ts ih =>
    cases ht : t.isOperator with
    | true => exact .operator ht ih
    | false =>
      cases t with
      | word w => exact .word (.inl rfl) [] ih
      | _ => cases ht

theorem Finer.append {ts us ts' us' : List Token} (h : Finer ts us) (h' : Finer ts' us') :
    Finer (ts ++ ts') (us ++ us') := by
  induction h with
  | nil => exact h'
  | operator ht _ ih => exact .operator ht ih
  | word hword extra _ ih =>
    rw [List.cons_append, List.cons_append, List.append_assoc]
    exact .word hword extra ih

/-! ### Scripts -/

theorem parseFrom_words (last : Option Connector) (done : List Command) (words : List String)
    (redirects : List Redirect) (more : List String) (ts : List Token) :
    parseFrom last done words redirects (more.map .word ++ ts) =
      parseFrom last done (words ++ more) redirects ts := by
  induction more generalizing words with
  | nil => simp
  | cons w more ih => rw [List.map_cons, List.cons_append, parseFrom_word, ih]; simp

/-- What two readings have of the command they are reading: as far as the first one has anything to
make a command of, so has the second one. -/
structure Supplied (done done' : List Command) (words words' : List String)
    (redirects redirects' : List Redirect) : Prop where
  finished : done = [] ↔ done' = []
  begun : words = [] ∧ redirects = [] ↔ words' = [] ∧ redirects' = []
  named : (∃ w ∈ words, ¬ IsAssignment w) → ∃ w ∈ words', ¬ IsAssignment w

theorem Supplied.fresh {done done' : List Command} (h : done = [] ↔ done' = []) :
    Supplied done done' [] [] [] [] :=
  ⟨h, Iff.rfl, id⟩

private theorem Supplied.words_append {done done' : List Command} {words words' : List String}
    {redirects redirects' : List Redirect}
    (h : Supplied done done' words words' redirects redirects') {v w : String}
    (hvw : v = w ∨ Forked v.toList w.toList) (extra : List String) :
    Supplied done done' (words ++ [v]) (words' ++ w :: extra) redirects redirects' := by
  refine ⟨h.finished, by simp, ?_⟩
  rintro ⟨word, hmem, hassign⟩
  rcases List.mem_append.mp hmem with hmem | hmem
  · obtain ⟨other, hother, hassign'⟩ := h.named ⟨word, hmem, hassign⟩
    exact ⟨other, List.mem_append_left _ hother, hassign'⟩
  · obtain rfl := List.mem_singleton.mp hmem
    refine ⟨w, by simp, ?_⟩
    rcases hvw with rfl | hfork
    · exact hassign
    · exact fun hw => hassign (hfork.symm.isAssignment hw)

private theorem Supplied.redirects_append {done done' : List Command} {words words' : List String}
    {redirects redirects' : List Redirect}
    (h : Supplied done done' words words' redirects redirects') (r r' : Redirect)
    (extra : List String) :
    Supplied done done' words (words' ++ extra) (redirects ++ [r]) (redirects' ++ [r']) := by
  refine ⟨h.finished, by simp, ?_⟩
  intro hnamed
  obtain ⟨w, hw, hassign⟩ := h.named hnamed
  exact ⟨w, List.mem_append_left _ hw, hassign⟩

private theorem Supplied.exists_ofParts {done done' : List Command} {words words' : List String}
    {redirects redirects' : List Redirect}
    (h : Supplied done done' words words' redirects redirects') {c : Command}
    (hc : Command.ofParts words redirects = .ok c) :
    ∃ c', Command.ofParts words' redirects' = .ok c' :=
  Command.exists_ofParts_iff.mpr (h.named (Command.exists_ofParts_iff.mp ⟨c, hc⟩))

theorem allows_of_forked {op : RedirectOp} {v w : String} (h : op.allows v = true)
    (hvw : v = w ∨ Forked v.toList w.toList) : op.allows w = true := by
  rcases hvw with rfl | hfork
  · exact h
  · rw [RedirectOp.allows_iff] at h ⊢
    intro hop
    rcases h hop with rfl | rfl
    · exact absurd rfl hfork.not_descriptor.1
    · exact absurd rfl hfork.not_descriptor.2

/-- Finer tokens can be read wherever the tokens can, and something stands there if something
does. -/
theorem parseFrom_finer {last : Option Connector} {done done' : List Command}
    {words words' : List String} {redirects redirects' : List Redirect} {ts us : List Token}
    (hsupplied : Supplied done done' words words' redirects redirects') (h : Finer ts us)
    {r : Option Script} (hr : parseFrom last done words redirects ts = .ok r) :
    ∃ r', parseFrom last done' words' redirects' us = .ok r' ∧ (r'.isSome ↔ r.isSome) := by
  -- Behind a connector both readings start a new pipeline.
  have connects (k : Connector) {last : Option Connector} {done done' : List Command}
      {words words' : List String} {redirects redirects' : List Redirect} {us : List Token}
      (hsupplied : Supplied done done' words words' redirects redirects') {c : Command}
      (hc : Command.ofParts words redirects = .ok c) {s s' : Option Script}
      (hs : parseFrom (some k) [] [] [] us = .ok s') :
      ∃ r', parseFrom last done' words' redirects' (k.token :: us) = .ok r' ∧
        (r'.isSome ↔ (some (Script.join (Pipeline.ofCommands done c) k s)).isSome) := by
    obtain ⟨c', hc'⟩ := hsupplied.exists_ofParts hc
    refine ⟨some (Script.join (Pipeline.ofCommands done' c') k s'), ?_, by simp⟩
    rw [parseFrom_connector, hc']
    simp only [bind, Except.bind]
    rw [hs]
    rfl
  fun_induction parseFrom last done words redirects ts
    generalizing done' words' redirects' us r with
  | case1 done words redirects hempty =>
    cases h
    simp only [Bool.and_eq_true, List.isEmpty_iff] at hempty
    obtain ⟨hwords, hredirects⟩ := hsupplied.begun.mp ⟨hempty.1.2, hempty.2⟩
    obtain rfl := Except.ok.inj hr
    refine ⟨none, ?_, Iff.rfl⟩
    rw [hsupplied.finished.mp hempty.1.1, hwords, hredirects, parseFrom]
    rfl
  | case2 => cases hr
  | case3 => cases hr
  | case4 last done words redirects _ =>
    cases h
    obtain ⟨c, hc, hscript⟩ := bind_eq_ok hr
    obtain rfl := Except.ok.inj hscript
    obtain ⟨c', hc'⟩ := hsupplied.exists_ofParts hc
    obtain ⟨w, hw, -⟩ := Command.exists_ofParts_iff.mp ⟨c', hc'⟩
    refine ⟨some ⟨Pipeline.ofCommands done' c', []⟩, ?_, by simp⟩
    rw [parseFrom_end _ _ _ _ (List.ne_nil_of_mem hw), hc']
    rfl
  | case5 last done words redirects v ts ih =>
    cases h with
    | operator hop => cases hop
    | word hvw extra hrest =>
      obtain ⟨r', hr', hsome⟩ := ih (hsupplied.words_append hvw extra) hrest hr
      refine ⟨r', ?_, hsome⟩
      rw [parseFrom_word, parseFrom_words]
      simpa using hr'
  | case6 last done words redirects fd op target ts hallow ih =>
    cases h with
    | operator _ hrest =>
      cases hrest with
      | operator hop => cases hop
      | @word _ target' _ _ hvw extra hrest =>
        obtain ⟨r', hr', hsome⟩ :=
          ih (hsupplied.redirects_append ⟨fd, op, target⟩ ⟨fd, op, target'⟩ extra) hrest hr
        refine ⟨r', ?_, hsome⟩
        have hallow' := allows_of_forked hallow hvw
        rw [parseFrom_redirect last done' words' redirects' (r := ⟨fd, op, target'⟩) hallow',
          parseFrom_words]
        exact hr'
  | case7 => cases hr
  | case8 => cases hr
  | case9 last done words redirects ts ih =>
    cases h with
    | operator _ hrest =>
      obtain ⟨c, hc, hscript⟩ := bind_eq_ok hr
      obtain ⟨c', hc'⟩ := hsupplied.exists_ofParts hc
      have hfresh : Supplied (done ++ [c]) (done' ++ [c']) [] [] [] [] := .fresh (by simp)
      obtain ⟨r', hr', hsome⟩ := ih c hfresh hrest hscript
      refine ⟨r', ?_, hsome⟩
      rw [parseFrom_pipe, hc']
      exact hr'
  | case10 last done words redirects ts ih | case11 last done words redirects ts ih
  | case12 last done words redirects ts ih =>
    cases h with
    | operator _ hrest =>
      obtain ⟨c, hc, hscript⟩ := bind_eq_ok hr
      obtain ⟨s, hs, hr⟩ := bind_eq_ok hscript
      obtain rfl := Except.ok.inj hr
      obtain ⟨s', hs', -⟩ := ih (Supplied.fresh Iff.rfl) hrest hs
      exact connects _ hsupplied hc hs'

theorem parse_finer {ts us : List Token} (h : Finer ts us) {s : Script} (hs : parse ts = .ok s) :
    ∃ s', parse us = .ok s' := by
  obtain ⟨r, hr, hscript⟩ := bind_eq_ok hs
  obtain ⟨r', hr', hsome⟩ := parseFrom_finer (Supplied.fresh Iff.rfl) h hr
  cases r with
  | none => cases hscript
  | some s =>
    obtain ⟨s', rfl⟩ := Option.isSome_iff_exists.mp (hsome.mpr rfl)
    refine ⟨s', ?_⟩
    unfold parse
    rw [hr']
    rfl

end ShellSuite.RunLine
