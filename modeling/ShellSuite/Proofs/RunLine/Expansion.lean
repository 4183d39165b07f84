import ShellSuite.Proofs.Substitutions
import ShellSuite.Proofs.Text
import ShellSuite.RunLine.Token

set_option autoImplicit false
set_option relaxedAutoImplicit false

/-!
Keys are replaced while a line is read just as they are replaced in a text beforehand. Text in double
quotes is read as one word, and text outside of quotes as the words that the replaced text has. Both
readings go on together: behind a key where one stands, and by one character anywhere else.
-/

namespace ShellSuite

namespace Text

private theorem wordsFrom_eq_splitAt {word : List Char} (h : ∀ c ∈ word, isBlank c = false)
    (cs : List Char) : wordsFrom word cs = (splitAt isBlank (word ++ cs)).filter (· ≠ []) := by
  induction cs generalizing word with
  | nil =>
    rw [List.append_nil, splitAt_of_forall_not h]
    cases word with
    | nil => rfl
    | cons d ds => rfl
  | cons c cs ih =>
    cases hc : isBlank c with
    | true =>
      have hrest : wordsFrom [] cs = (splitAt isBlank cs).filter (· ≠ []) := ih (by simp)
      rw [splitAt_append_cons isBlank word cs hc, splitAt_of_forall_not h, List.filter_append,
        ← hrest]
      cases word with
      | nil => simp [wordsFrom, hc]
      | cons d ds => simp [wordsFrom, hc]
    | false =>
      have hword : ∀ d ∈ word ++ [c], isBlank d = false := by
        intro d hd
        rcases List.mem_append.mp hd with hd | hd
        · exact h d hd
        · rw [List.mem_singleton.mp hd, hc]
      have hrest := ih hword
      rw [List.append_assoc, List.singleton_append] at hrest
      simp [wordsFrom, hc, hrest]

private theorem words_eq_splitAt (cs : List Char) : words cs = (splitAt isBlank cs).filter
    (· ≠ []) :=
  wordsFrom_eq_splitAt (by simp) cs

private theorem ne_nil_of_mem_words {w cs : List Char} (h : w ∈ words cs) : w ≠ [] := by
  rw [words_eq_splitAt, List.mem_filter] at h
  simpa using h.2

private theorem words_append_blank {c : Char} (hc : isBlank c = true) (before after : List Char) :
    words (before ++ c :: after) = words before ++ words after := by
  simp only [words_eq_splitAt, splitAt_append_cons isBlank before after hc, List.filter_append]

private theorem words_of_text {w : List Char} (h : ∀ c ∈ w, isBlank c = false) :
    words w = if w = [] then [] else [w] := by
  rw [words_eq_splitAt, splitAt_of_forall_not h]
  cases w with
  | nil => rfl
  | cons c cs => rfl

end Text

namespace RunLine

def NoVariable (cs : List Char) : Prop :=
  ¬ ['$', '\x7b'] <:+: cs

instance (cs : List Char) : Decidable (NoVariable cs) :=
  inferInstanceAs (Decidable (¬ _))

/-- The characters that mean something outside of quotes, apart from blanks. -/
def marks : List Char :=
  ['\'', '"', '\\', '|', ';', '&', '<', '>']

def wordTokens (cs : List Char) : List Token :=
  (Text.words cs).map fun w => .word (String.ofList w)

/-- An open word outside of quotes: it has started with its first character, and has no blanks. -/
structure Pending.Bare (p : Pending) : Prop where
  started : p.started = !p.chars.isEmpty
  solid : ∀ c ∈ p.chars, Text.isBlank c = false

variable {t : Substitutions} {c : Char} {cs : List Char}

section Places

theorem NoVariable.of_suffix {ds : List Char} (h : NoVariable cs) (hds : ds <:+ cs) :
    NoVariable ds := by
  intro hmem
  exact h (hmem.trans hds.isInfix)

private theorem NoVariable.head_ne (h : NoVariable (c :: cs)) :
    c = '$' → cs.head? ≠ some '\x7b' := by
  rintro rfl hhead
  obtain ⟨rest, rfl⟩ := List.head?_eq_some_iff.mp hhead
  exact h ⟨[], rest, rfl⟩

theorem expansionAt_eq_matchAt (env : Dict String) (h : c = '$' → cs.head? ≠ some '\x7b') :
    expansionAt t env c cs =
      .ok ((t.matchAt (c :: cs)).map fun e => (e.2.toList, cs.drop (e.1.length - 1))) := by
  have hvariable : variableAt c cs = .ok none := by
    unfold variableAt
    split
    · exact absurd rfl (h rfl)
    · rfl
  unfold expansionAt
  rw [hvariable]
  cases t.matchAt (c :: cs) with
  | none => rfl
  | some e => rfl

end Places

section Quoted

private theorem step_double (env : Dict String) (hkeys : ∀ key ∈ t.keys, '"' ∉ key.toList)
    (hquote : c ≠ '"') (hslash : c ≠ '\\') (hvariable : NoVariable (c :: cs))
    (ps rest : List Char) :
    step t env .double ⟨ps, true, false⟩ c (cs ++ '"' :: rest) =
      match t.matchAt (c :: cs) with
      | some (key, value) => .ok ⟨[], .double, ⟨value.toList.reverse ++ ps, true, false⟩,
          cs.drop (key.length - 1) ++ '"' :: rest⟩
      | none => .ok ⟨[], .double, ⟨c :: ps, true, false⟩, cs ++ '"' :: rest⟩ := by
  have hhead : c = '$' → (cs ++ '"' :: rest).head? ≠ some '\x7b' := by
    intro hc
    cases cs with
    | nil => simp
    | cons d ds => exact hvariable.head_ne hc
  have hmatch : t.matchAt (c :: (cs ++ '"' :: rest)) = t.matchAt (c :: cs) :=
    Substitutions.matchAt_append hkeys (c :: cs) rest
  have hexpansion := expansionAt_eq_matchAt (t := t) env hhead
  rw [hmatch] at hexpansion
  simp only [step, stepDouble, beq_iff_eq, hquote, hslash, if_false, hexpansion]
  cases hfound : t.matchAt (c :: cs) with
  | none => rfl
  | some e =>
    have hlength := Substitutions.length_le_of_matchAt hfound
    simp only [Option.map_some, List.drop_append_of_le_length hlength]
    rfl

private theorem tokensFrom_double (env : Dict String) (hkeys : ∀ key ∈ t.keys, '"' ∉ key.toList)
    (hquote : '"' ∉ cs) (hslash : '\\' ∉ cs) (hvariable : NoVariable cs) (ps rest : List Char) :
    tokensFrom t env .double ⟨ps, true, false⟩ (cs ++ '"' :: rest) =
      tokensFrom t env .bare ⟨(t.applyChars cs).reverse ++ ps, true, false⟩ rest := by
  induction cs using Substitutions.applyChars.induct t generalizing ps with
  | case1 => simp [tokensFrom_cons, step, stepDouble, Substitutions.applyChars, bind, Except.bind]
  | case2 c cs key value hmatch ih =>
    rw [List.mem_cons, not_or] at hquote hslash
    have hstep := step_double env hkeys (Ne.symm hquote.1) (Ne.symm hslash.1) hvariable ps rest
    have hsuffix : cs.drop (key.length - 1) <:+ cs := List.drop_suffix _ _
    have hrest := ih (fun h => hquote.2 (hsuffix.subset h)) (fun h => hslash.2 (hsuffix.subset h))
      (hvariable.of_suffix (hsuffix.trans (List.suffix_cons c cs))) (value.toList.reverse ++ ps)
    rw [hmatch] at hstep
    rw [List.cons_append, tokensFrom_cons, hstep, Substitutions.applyChars, hmatch]
    simpa [bind, Except.bind] using hrest
  | case3 c cs hmatch ih =>
    rw [List.mem_cons, not_or] at hquote hslash
    have hstep := step_double env hkeys (Ne.symm hquote.1) (Ne.symm hslash.1) hvariable ps rest
    have hrest := ih hquote.2 hslash.2 (hvariable.of_suffix (List.suffix_cons c cs)) (c :: ps)
    rw [hmatch] at hstep
    rw [List.cons_append, tokensFrom_cons, hstep, Substitutions.applyChars, hmatch]
    simpa [bind, Except.bind] using hrest

private theorem tokenize_quoted (env : Dict String) (hkeys : ∀ key ∈ t.keys, '"' ∉ key.toList)
    {text : String} (hquote : '"' ∉ text.toList) (hslash : '\\' ∉ text.toList)
    (hvariable : NoVariable text.toList) :
    tokenize ("\"" ++ text ++ "\"") t env = .ok [.word (t.apply text)] := by
  have hline : ("\"" ++ text ++ "\"").toList = '"' :: (text.toList ++ ['"']) := by simp
  have hstep : step t env .bare .fresh '"' (text.toList ++ ['"']) =
      .ok ⟨[], .double, ⟨[], true, false⟩, text.toList ++ ['"']⟩ := by
    simp [step, stepBare, isSeparator, Pending.openQuote, Pending.fresh]
  have hread := tokensFrom_double env hkeys hquote hslash hvariable [] []
  rw [tokenize, hline, tokensFrom_cons, hstep]
  simp [bind, Except.bind, hread, finish, Pending.tokens, Pending.text, Substitutions.apply]

end Quoted

section Unquoted

private theorem wordTokens_append_blank (hc : Text.isBlank c = true) (before after : List Char) :
    wordTokens (before ++ c :: after) = wordTokens before ++ wordTokens after := by
  rw [wordTokens, Text.words_append_blank hc, List.map_append]
  rfl

namespace Pending

variable {p : Pending}

theorem Bare.fresh : Pending.fresh.Bare :=
  ⟨rfl, by simp [Pending.fresh]⟩

theorem Bare.tokens (h : p.Bare) : p.tokens = wordTokens p.chars.reverse := by
  have hwords : Text.words p.chars.reverse =
      if p.chars.reverse = [] then [] else [p.chars.reverse] := by
    refine Text.words_of_text ?_
    intro c hc
    exact h.solid c (List.mem_reverse.mp hc)
  rw [Pending.tokens, h.started, wordTokens, hwords]
  cases hchars : p.chars with
  | nil => simp
  | cons c cs => simp [Pending.text, hchars]

theorem Bare.add (h : p.Bare) (hc : Text.isBlank c = false) (plain : Bool) :
    Pending.Bare ⟨c :: p.chars, true, plain⟩ := by
  refine ⟨rfl, ?_⟩
  intro d hd
  rcases List.mem_cons.mp hd with rfl | hd
  · exact hc
  · exact h.solid d hd

theorem Bare.paste (h : p.Bare) (value rest : List Char) :
    (p.paste value).2.Bare ∧
      (p.paste value).1 ++ wordTokens ((p.paste value).2.chars.reverse ++ rest) =
        wordTokens (p.chars.reverse ++ (value ++ rest)) := by
  induction value generalizing p with
  | nil => exact ⟨⟨h.started, h.solid⟩, rfl⟩
  | cons c cs ih =>
    cases hc : Text.isBlank c with
    | true =>
      have hempty : Pending.Bare ⟨[], false, false⟩ := ⟨rfl, by simp⟩
      obtain ⟨hbare, htokens⟩ := ih hempty
      simp only [Pending.paste, hc, if_true]
      refine ⟨hbare, ?_⟩
      rw [List.append_assoc, htokens, h.tokens, List.cons_append, wordTokens_append_blank hc]
      rfl
    | false =>
      obtain ⟨hbare, htokens⟩ := ih (h.add hc false)
      simp only [Pending.paste, hc, Bool.false_eq_true, if_false]
      refine ⟨hbare, ?_⟩
      rw [htokens]
      simp

end Pending

private theorem isBlank_of_isSeparator (h : isSeparator c = true) : Text.isBlank c = true := by
  simp only [isSeparator, Bool.or_eq_true, beq_iff_eq] at h
  rcases h with ((rfl | rfl) | rfl) | rfl <;> decide

private theorem step_bare (env : Dict String) (p : Pending) (hmarks : c ∉ marks)
    (hblank : Text.isBlank c = true → c = ' ') (hvariable : NoVariable (c :: cs)) :
    step t env .bare p c cs =
      if c = ' ' then .ok ⟨p.tokens, .bare, .fresh, cs⟩
      else
        match t.matchAt (c :: cs) with
        | some (key, value) => .ok ⟨(p.paste value.toList).1, .bare, (p.paste value.toList).2,
            cs.drop (key.length - 1)⟩
        | none => .ok ⟨[], .bare, p.push c, cs⟩ := by
  by_cases hspace : c = ' '
  · simp [step, stepBare, isSeparator, hspace]
  · have hseparator : isSeparator c = false := by
      rw [Bool.eq_false_iff]
      intro hc
      exact hspace (hblank (isBlank_of_isSeparator hc))
    have hexpansion := expansionAt_eq_matchAt (t := t) env hvariable.head_ne
    simp only [marks, List.mem_cons, List.not_mem_nil, or_false, not_or] at hmarks
    simp only [step, stepBare, stepText, hseparator, hexpansion, hspace]
    cases t.matchAt (c :: cs) with
    | none => simp [hmarks]
    | some e => simp [hmarks]

private theorem tokensFrom_bare (env : Dict String)
    (hkeys : ∀ key ∈ t.keys, key.toList.head? ≠ some ' ')
    (hmarks : ∀ c ∈ cs, c ∉ marks) (hblank : ∀ c ∈ cs, Text.isBlank c = true → c = ' ')
    (hvariable : NoVariable cs) {p : Pending} (hp : p.Bare) :
    tokensFrom t env .bare p cs = .ok (wordTokens (p.chars.reverse ++ t.applyChars cs)) := by
  induction cs using Substitutions.applyChars.induct t generalizing p with
  | case1 => simp [finish, hp.tokens, Substitutions.applyChars]
  | case2 c cs key value hmatch ih =>
    rw [List.forall_mem_cons] at hmarks hblank
    have hsuffix : cs.drop (key.length - 1) <:+ cs := List.drop_suffix _ _
    have hspace : c ≠ ' ' := by
      rintro rfl
      rw [Substitutions.matchAt_eq_none_of_head hkeys] at hmatch
      cases hmatch
    obtain ⟨hbare, htokens⟩ :=
      hp.paste value.toList (t.applyChars (cs.drop (key.length - 1)))
    have hrest := ih (fun d hd => hmarks.2 d (hsuffix.subset hd))
      (fun d hd => hblank.2 d (hsuffix.subset hd))
      (hvariable.of_suffix (hsuffix.trans (List.suffix_cons c cs))) hbare
    rw [tokensFrom_cons, step_bare env p hmarks.1 hblank.1 hvariable, if_neg hspace,
      Substitutions.applyChars, hmatch]
    simp only [bind, Except.bind, hrest, Functor.map, Except.map, htokens]
  | case3 c cs hmatch ih =>
    rw [List.forall_mem_cons] at hmarks hblank
    have hvariable' := hvariable.of_suffix (List.suffix_cons c cs)
    rw [tokensFrom_cons, step_bare env p hmarks.1 hblank.1 hvariable, Substitutions.applyChars,
      hmatch]
    by_cases hspace : c = ' '
    · have hrest := ih hmarks.2 hblank.2 hvariable' .fresh
      have hc : Text.isBlank c = true := by rw [hspace]; decide
      rw [if_pos hspace, wordTokens_append_blank hc, ← hp.tokens]
      simp only [bind, Except.bind, hrest, Functor.map, Except.map]
      rfl
    · have hc : Text.isBlank c = false := by
        rw [Bool.eq_false_iff]
        exact fun h => hspace (hblank.1 h)
      have hrest := ih hmarks.2 hblank.2 hvariable' (hp.add hc p.plain)
      rw [if_neg hspace]
      simp only [bind, Except.bind, Pending.push, hrest, Functor.map, Except.map]
      simp

private theorem tokenize_unquoted (env : Dict String)
    (hkeys : ∀ key ∈ t.keys, key.toList.head? ≠ some ' ') {text : String}
    (hmarks : ∀ c ∈ text.toList, c ∉ marks)
    (hblank : ∀ c ∈ text.toList, Text.isBlank c = true → c = ' ')
    (hvariable : NoVariable text.toList) :
    tokenize text t env = .ok (wordTokens (t.apply text).toList) := by
  rw [tokenize, tokensFrom_bare env hkeys hmarks hblank hvariable .fresh]
  simp [Pending.fresh, Substitutions.apply]

end Unquoted

/-- Keys are replaced in a line as they are replaced in a text beforehand. In double quotes the line
is one word, the replaced text; outside of quotes its words are those of the replaced text, none of
them empty. -/
theorem tokenize_apply (t : Substitutions) (env : Dict String) :
    ((∀ key ∈ t.keys, '"' ∉ key.toList) → ∀ text : String, '"' ∉ text.toList →
      '\\' ∉ text.toList → NoVariable text.toList →
      tokenize ("\"" ++ text ++ "\"") t env = .ok [.word (t.apply text)]) ∧
    ((∀ key ∈ t.keys, key.toList.head? ≠ some ' ') → ∀ text : String,
      (∀ c ∈ text.toList, c ∉ marks) → (∀ c ∈ text.toList, Text.isBlank c = true → c = ' ') →
      NoVariable text.toList →
      tokenize text t env =
          .ok ((Text.words (t.apply text).toList).map fun w => .word (String.ofList w)) ∧
        ∀ w ∈ Text.words (t.apply text).toList, w ≠ []) := by
  constructor
  · intro hkeys text hquote hslash hvariable
    exact tokenize_quoted env hkeys hquote hslash hvariable
  · intro hkeys text hmarks hblank hvariable
    refine ⟨tokenize_unquoted env hkeys hmarks hblank hvariable, ?_⟩
    intro w hw
    exact Text.ne_nil_of_mem_words hw

/-- Two keys, one of which is the front of the other and has a text with blanks; the other one has
none. -/
def overlapping : Substitutions :=
  (Substitutions.empty.insert "%a" " x\u2003").insert "%a b" ""

theorem tokenize_apply_overlapping :
    (∀ key ∈ overlapping.keys, '"' ∉ key.toList ∧ key.toList.head? ≠ some ' ') ∧
    tokenize "\"p%aq%a b\"" overlapping .empty = .ok [.word "p x\u2003q"] ∧
    tokenize "p%aq%a b" overlapping .empty = .ok [.word "p", .word "x", .word "q"] := by
  have hkeys : overlapping.keys = ["%a b", "%a"] := by decide
  have happly : overlapping.apply "p%aq%a b" = "p x\u2003q" := by decide +kernel
  have hvariable : NoVariable "p%aq%a b".toList := by decide +kernel
  have hmarks : ∀ c ∈ "p%aq%a b".toList, c ∉ marks := by simp [marks]
  have hblank : ∀ c ∈ "p%aq%a b".toList, Text.isBlank c = true → c = ' ' := by
    simp [Text.isBlank]
  obtain ⟨hquoted, hbare⟩ := tokenize_apply overlapping .empty
  have hread := hquoted (by rw [hkeys]; decide) "p%aq%a b" (by decide) (by decide) hvariable
  have hwords := hbare (by rw [hkeys]; decide) "p%aq%a b" hmarks hblank hvariable
  refine ⟨by rw [hkeys]; decide, ?_, ?_⟩
  · rw [happly] at hread
    exact hread
  · rw [hwords.1, happly]
    decide

end RunLine

end ShellSuite
