import Mathlib.Data.List.TakeWhile
import ShellSuite.Proofs.Regex.Local

set_option autoImplicit false
set_option relaxedAutoImplicit false

/-!
Escapes and brackets in front of a closing parenthesis. Brackets are read to their end or not at
all: where they are open at the end of the characters, whatever closes them stands behind the
parenthesis.
-/

namespace ShellSuite.Regex

open Text (CharSet)

/-! ### Escapes -/

private theorem readBracedHex_local (f : Flags) (digits : List Char) :
    Local 0 0 (readBracedHex f digits) where
  leaves cs := by
    induction cs generalizing digits with
    | nil => exact leaves_error
    | cons c cs ih =>
      have hskip := f.skip_length_le cs
      simp only [readBracedHex, List.length_cons]
      repeat' split
      · exact (ih digits).mono (by omega)
      · exact leaves_error
      · exact leaves_ok (by omega)
      · exact (ih _).mono (by omega)
      · exact leaves_error
  meets cs := by
    induction cs generalizing digits with
    | nil => exact .of_errors rfl fun tail => ⟨.badEscape, rfl⟩
    | cons c cs ih =>
      simp only [readBracedHex, List.cons_append]
      repeat' split
      · exact ih digits
      · exact .of_errors rfl fun _ => ⟨_, rfl⟩
      · exact ((Local.ok _).skip f).meets cs
      · exact ih _
      · exact .of_errors rfl fun _ => ⟨_, rfl⟩

private theorem readHex_local (f : Flags) (width value : Nat) : Local 0 0
    (readHex f width value) := by
  induction width generalizing value with
  | zero => exact .ok value
  | succ width ih =>
    refine .take rfl fun c => ?_
    simp only [readHex]
    split
    · exact (ih _).skip f
    · exact .error _

private theorem readDigits_local (f : Flags) (width : Nat) : Local 0 0 (readDigits f width) := by
  refine .peek (readHex_local f width 0) rfl fun c => ?_
  by_cases hc : c = '\x7b'
  · subst hc
    exact .inr ⟨by decide, ((readBracedHex_local f []).skip f).mono (Nat.le_refl 0) (by decide)⟩
  · exact .inl fun cs => by simp [readDigits, hc]

private theorem readCode_local (f : Flags) (width : Nat) : Local 0 0 (readCode f width) := by
  refine ((readDigits_local f width).skip f).bind fun n => ?_
  dsimp only
  cases charOfCode? n with
  | none => exact .error _
  | some c => exact .ok _

private theorem readPropertyName_local (f : Flags) : Local 0 0 (readPropertyName f) := by
  refine .take rfl fun c => ?_
  by_cases hbrace : c = '\x7b'
  · subst hbrace
    exact .upTo rfl fun _ => .ok _
  · by_cases hslash : c = '\\'
    · subst hslash
      exact .error _
    · simp only [readPropertyName]
      exact .ok _

private theorem readProperty_local (f : Flags) (negated : Bool) : Local 0 0
    (readProperty f negated) := by
  refine ((readPropertyName_local f).skip f).bind fun name => ?_
  dsimp only
  split
  · exact .value _ _
  · exact .error _

private theorem readLetterClass_local (f : Flags) (s ascii : CharSet) (negated : Bool) :
    Local 0 0 (readLetterClass f s ascii negated) := by
  unfold readLetterClass
  split
  · exact .ok _
  · split
    · exact .error _
    · exact .ok _

/-- A character that was looked at but not read, with nothing but blanks and comments between it and
the parenthesis. -/
def Pending (f : Flags) (c : Char) (tail rest : List Char) : Prop :=
  ∃ idle, rest = c :: (idle ++ ')' :: tail) ∧ f.skip idle = []

/-- A brace behind `\b` is looked into, and may be left for a count. -/
def LostBoundary (f : Flags) (tail : List Char) (u : Atom) (rest : List Char) : Prop :=
  rest.length ≤ tail.length ∨ (∃ l, u = .look l) ∧ Pending f '\x7b' tail rest

private theorem readBraced_eq_ok {f : Flags} {cs inner rest : List Char} {u : Atom}
    (h : readBraced f cs inner = .ok (u, rest)) :
    (∃ l, u = .look l) ∧ (rest.length < inner.length ∨ rest = '\x7b' :: cs) := by
  cases inner with
  | nil => cases h
  | cons c inner =>
    simp only [readBraced] at h
    split at h
    · have hlength := dropWhile_length_le isBoundaryPart (c :: inner)
      split at h
      next rest' hrest =>
        rw [hrest, List.length_cons] at hlength
        split at h
        · cases h
          exact ⟨⟨_, rfl⟩, .inl hlength⟩
        · cases h
      next => cases h
    · cases h
      exact ⟨⟨_, rfl⟩, .inr rfl⟩

private theorem readBraced_append (f : Flags) (cs : List Char) (c : Char) (inner : List Char) :
    Meets (Within 0) (readBraced f cs (c :: inner)) fun tail =>
      readBraced f (cs ++ ')' :: tail) (c :: inner ++ ')' :: tail) := by
  simp only [readBraced, List.cons_append]
  split
  · cases h : (c :: inner).dropWhile isBoundaryPart with
    | nil =>
      refine .of_errors rfl fun tail => ⟨.badEscape, ?_⟩
      have hdrop : (c :: (inner ++ ')' :: tail)).dropWhile isBoundaryPart = ')' :: tail := by
        rw [← List.cons_append, List.dropWhile_append, h]
        rfl
      rw [hdrop]
      rfl
    | cons d rest =>
      simp only [← List.cons_append, dropWhile_append_of_eq_cons h]
      by_cases hd : d = '\x7d'
      · subst hd
        cases f.boundary? ((c :: inner).takeWhile isBoundaryPart) with
        | none => exact .of_errors rfl fun _ => ⟨_, rfl⟩
        | some l => exact .same _ rest rfl fun _ => rfl
      · exact .of_errors (e := .badEscape) (by simp [hd]) fun _ => ⟨.badEscape, by simp [hd]⟩
  · exact .same _ ('\x7b' :: cs) rfl fun _ => rfl

private theorem readBoundary_of_ne (f : Flags) {c : Char} (hc : c ≠ '\x7b') (cs : List Char) :
    readBoundary f (c :: cs) = .ok (.look (.wordBoundary f.word), c :: cs) := by
  simp [readBoundary, hc]

private theorem readBoundary_leaves (f : Flags) (cs : List Char) : Leaves cs.length
    (readBoundary f cs) := by
  cases cs with
  | nil => exact leaves_ok (Nat.le_refl _)
  | cons c cs =>
    by_cases hc : c = '\x7b'
    · subst hc
      rw [readBoundary]
      intro u rest h
      have hskip := f.skip_length_le cs
      rcases readBraced_eq_ok h with ⟨-, hlt | rfl⟩
      · rw [List.length_cons]
        omega
      · exact Nat.le_refl _
    · rw [readBoundary_of_ne f hc]
      exact leaves_ok (Nat.le_refl _)

private theorem readBoundary_meets (f : Flags) (cs : List Char) :
    Meets (LostBoundary f) (readBoundary f cs) fun tail => readBoundary f (cs ++ ')' :: tail) := by
  cases cs with
  | nil => exact .same _ _ rfl fun tail => rfl
  | cons c cs =>
    by_cases hc : c = '\x7b'
    · subst hc
      simp only [List.cons_append, readBoundary]
      cases hinner : f.skip cs with
      | cons d inner =>
        rcases f.skip_append cs with hsame | ⟨hnil, -⟩
        · simp only [hsame, hinner]
          exact (readBraced_append f cs d inner).imp fun tail u rest h => .inl h
        · rw [hnil] at hinner
          cases hinner
      | nil =>
        refine .of_error rfl fun tail u rest h => ?_
        have hskip : (f.skip (cs ++ ')' :: tail)).length ≤ tail.length + 1 := by
          rcases f.skip_append cs with hsame | ⟨-, -, hover⟩
          · rw [hsame, hinner]
            exact Nat.le_refl _
          · exact Nat.le_succ_of_le (hover tail)
        obtain ⟨hlook, hlt | rfl⟩ := readBraced_eq_ok h
        · exact .inl (by omega)
        · exact .inr ⟨hlook, cs, rfl, hinner⟩
    · simp only [List.cons_append, readBoundary_of_ne f hc]
      exact .same _ (c :: cs) rfl fun tail => rfl

private theorem readEscape_cons_local (f : Flags) {c : Char} (hc : c ≠ 'b') :
    Local 0 0 fun cs => readEscape f (c :: cs) := by
  simp only [readEscape]
  split
  · exact .ok _
  · split
    all_goals first
      | exact .ok _
      | exact .error _
      | exact readCode_local f _
      | exact readProperty_local f _
      | exact readLetterClass_local f _ _ _
      | exact absurd rfl hc

theorem readEscape_leaves (f : Flags) (cs : List Char) : Leaves cs.length (readEscape f cs) := by
  cases cs with
  | nil => exact leaves_error
  | cons c cs =>
    by_cases hc : c = 'b'
    · subst hc
      exact (readBoundary_leaves f cs).mono (Nat.le_succ _)
    · exact ((readEscape_cons_local f hc).leaves cs).mono (Nat.le_succ _)

theorem readEscape_meets (f : Flags) (cs : List Char) :
    Meets (LostBoundary f) (readEscape f cs) fun tail => readEscape f (cs ++ ')' :: tail) := by
  cases cs with
  | nil =>
    exact .of_error rfl fun tail u rest h =>
      .inl ((readEscape_cons_local f (by decide)).leaves tail u rest h)
  | cons c cs =>
    by_cases hc : c = 'b'
    · subst hc
      exact readBoundary_meets f cs
    · exact ((readEscape_cons_local f hc).meets cs).imp fun tail u rest h => .inl h

/-! ### Opening brackets -/

private theorem readNegation_local (f : Flags) : Local 0 0 fun cs => .ok (readNegation f cs) := by
  refine .peek (.ok false) rfl fun c => ?_
  by_cases hc : c = '^'
  · subst hc
    exact .inr ⟨by decide, ((Local.ok true).skip f).mono (Nat.le_refl 0) (by decide)⟩
  · exact .inl fun cs => by simp [readNegation, hc]

private theorem takeDashes_steps (f : Flags) (o : OpenClass) {m n : Nat} {cs : List Char}
    (hm : cs.length ≤ m) (hn : cs.length ≤ n) : takeDashes f o m cs = takeDashes f o n cs := by
  -- each dash takes a character, so that more steps than characters change nothing
  induction m generalizing o n cs with
  | zero =>
    obtain rfl := List.eq_nil_of_length_eq_zero (Nat.le_zero.mp hm)
    cases n <;> rfl
  | succ m ih =>
    cases cs with
    | nil => cases n <;> rfl
    | cons c cs =>
      rw [List.length_cons] at hm hn
      obtain ⟨n, rfl⟩ : ∃ k, n = k + 1 := ⟨n - 1, by omega⟩
      by_cases hc : c = '-'
      · subst hc
        have hskip := f.skip_length_le cs
        exact ih _ (by omega) (by omega)
      · simp [takeDashes, hc]

private theorem takeDashes_dash (f : Flags) (o : OpenClass) (cs : List Char) :
    takeDashes f o ('-' :: cs).length ('-' :: cs) =
      takeDashes f (o.add (.single '-')) (f.skip cs).length (f.skip cs) :=
  takeDashes_steps f _ (f.skip_length_le cs) (Nat.le_refl _)

private theorem takeDashes_of_ne (f : Flags) (o : OpenClass) {c : Char} (hc : c ≠ '-')
    (cs : List Char) :
    takeDashes f o (c :: cs).length (c :: cs) = (o, c :: cs) := by
  simp [takeDashes, hc]

private theorem takeDashes_leaves (f : Flags) (o : OpenClass) (cs : List Char) :
    Leaves cs.length (.ok (takeDashes f o cs.length cs)) := by
  induction h : cs.length using Nat.strongRecOn generalizing o cs with
  | _ n ih =>
    subst h
    cases cs with
    | nil => exact leaves_ok (Nat.le_refl 0)
    | cons c cs =>
      by_cases hc : c = '-'
      · subst hc
        have hskip := f.skip_length_le cs
        rw [takeDashes_dash]
        exact (ih _ (Nat.lt_succ_of_le hskip) _ (f.skip cs) rfl).mono (Nat.le_succ_of_le hskip)
      · rw [takeDashes_of_ne f o hc]
        exact leaves_ok (Nat.le_refl _)

private theorem takeDashes_meets (f : Flags) (o : OpenClass) (cs : List Char) :
    Meets (Within 0) (.ok (takeDashes f o cs.length cs)) fun tail =>
      .ok (takeDashes f o (cs ++ ')' :: tail).length (cs ++ ')' :: tail)) := by
  induction h : cs.length using Nat.strongRecOn generalizing o cs with
  | _ n ih =>
    subst h
    cases cs with
    | nil => exact .same o [] rfl fun tail => rfl
    | cons c cs =>
      by_cases hc : c = '-'
      · subst hc
        have hskip := f.skip_length_le cs
        simp only [List.cons_append, takeDashes_dash]
        exact Meets.skip (g := fun cs => .ok (takeDashes f _ cs.length cs)) f
          (ih _ (Nat.lt_succ_of_le hskip) _ (f.skip cs) rfl) (fun cs => takeDashes_leaves f _ cs)
          fun _ _ _ h => h
      · simp only [List.cons_append, takeDashes_of_ne f o hc]
        exact .same o (c :: cs) rfl fun tail => rfl

private theorem takeDashes_local (f : Flags) (o : OpenClass) :
    Local 0 0 fun cs => .ok (takeDashes f o cs.length cs) :=
  ⟨takeDashes_leaves f o, takeDashes_meets f o⟩

private theorem takeBracket_local (f : Flags) (o : OpenClass) : Local 1 0 (takeBracket f o) := by
  refine .next rfl (Nat.le_refl 1) (Nat.le_refl 1) fun c => ?_
  by_cases hc : c = ']'
  · subst hc
    simp only [takeBracket]
    split
    · have hnext : Local 1 0 fun cs : List Char =>
          if cs.isEmpty then Except.error Fault.unclosedClass else .ok (o.add (.single ']'), cs) := by
        exact .next rfl (Nat.le_refl 1) (Nat.le_refl 1) fun c => (Local.ok _).cons c
      exact (hnext.skip f).mono (Nat.le_refl 1) (Nat.zero_le 1)
    · exact (Local.ok o).cons ']'
  · have hkeep : (fun cs => takeBracket f o (c :: cs)) = fun cs => .ok (o, c :: cs) := by
      funext cs
      simp [takeBracket, hc]
    rw [hkeep]
    exact (Local.ok o).cons c

private theorem openClass_local (f : Flags) : Local 1 0 (openClass f) := by
  have hnegation := ((readNegation_local f).skip f).mono (Nat.zero_le 1) (Nat.le_refl 0)
  refine hnegation.bind (g := fun x =>
    .ok (takeDashes f ⟨x.1, .empty, [], none⟩ x.2.length x.2) >>= fun y => takeBracket f y.1 y.2)
    fun negated => ?_
  dsimp only
  exact ((takeDashes_local f _).mono (Nat.zero_le 1) (Nat.le_refl 0)).bind
    (g := fun y => takeBracket f y.1 y.2) fun o => takeBracket_local f o

/-! ### Inside brackets -/

private theorem not_mem_of_asciiClass? {name : List Char} {s : CharSet}
    (h : asciiClass? (String.ofList name) = some s) : ')' ∉ name := by
  have hnames : ∀ e ∈ asciiClasses, ')' ∉ e.1.toList := by decide
  obtain ⟨e, he, -⟩ := Option.map_eq_some_iff.mp h
  have hname : e.1 = String.ofList name := by simpa using List.find?_some he
  simpa [hname] using hnames e (List.mem_of_find?_eq_some he)

private theorem readAsciiName?_append (cs tail : List Char) :
    readAsciiName? (cs ++ ')' :: tail) =
      (readAsciiName? cs).map fun x => (x.1, x.2 ++ ')' :: tail) := by
  unfold readAsciiName?
  cases h : cs.dropWhile (· ≠ ':') with
  | cons c rest =>
    simp only [dropWhile_append_of_eq_cons h]
    cases rest with
    | nil => rfl
    | cons d rest =>
      by_cases hd : d = ']'
      · subst hd
        simp [Function.comp_def]
      · simp [hd]
  | nil =>
    -- The name would have a parenthesis in it.
    have hmem : ')' ∈ (cs ++ ')' :: tail).takeWhile (· ≠ ':') := by
      rw [List.takeWhile_append_of_pos (List.dropWhile_eq_nil_iff.mp h)]
      simp
    have hnone : asciiClass? (String.ofList ((cs ++ ')' :: tail).takeWhile (· ≠ ':'))) = none := by
      rw [Option.eq_none_iff_forall_ne_some]
      exact fun s hs => not_mem_of_asciiClass? hs hmem
    simp only [hnone]
    split <;> rfl

private theorem readAsciiClass?_append (cs tail : List Char) :
    readAsciiClass? (cs ++ ')' :: tail) =
      (readAsciiClass? cs).map fun x => (x.1, x.2 ++ ')' :: tail) := by
  cases cs with
  | nil => rfl
  | cons c cs =>
    by_cases hc : c = ':'
    · subst hc
      cases cs with
      | nil => simpa [readAsciiClass?] using readAsciiName?_append [] tail
      | cons d cs =>
        by_cases hd : d = '^'
        · subst hd
          simp [readAsciiClass?, readAsciiName?_append, Function.comp_def]
        · simpa [readAsciiClass?, hd] using readAsciiName?_append (d :: cs) tail
    · simp [readAsciiClass?, hc]

private theorem readAsciiName?_length {cs rest : List Char} {s : CharSet}
    (h : readAsciiName? cs = some (s, rest)) : rest.length ≤ cs.length := by
  have hlength := dropWhile_length_le (· ≠ ':') cs
  unfold readAsciiName? at h
  split at h
  next hdrop =>
    rw [hdrop] at hlength
    obtain ⟨t, -, hrest⟩ := Option.map_eq_some_iff.mp h
    cases hrest
    exact Nat.le_trans (Nat.le_add_right _ 2) hlength
  next => cases h

private theorem readAsciiClass?_length {cs rest : List Char} {s : CharSet}
    (h : readAsciiClass? cs = some (s, rest)) : rest.length ≤ cs.length := by
  unfold readAsciiClass? at h
  split at h
  next =>
    obtain ⟨⟨t, rest'⟩, ht, hrest⟩ := Option.map_eq_some_iff.mp h
    cases hrest
    exact Nat.le_trans (readAsciiName?_length ht) (Nat.le_add_right _ 2)
  next => exact Nat.le_succ_of_le (readAsciiName?_length h)
  next => cases h

private theorem readClassUnit_leaves (f : Flags) (cs : List Char) :
    Leaves (cs.length - 1) (readClassUnit f cs) := by
  unfold readClassUnit
  split
  · exact leaves_error
  · exact readEscape_leaves f _
  · exact leaves_ok (Nat.le_refl _)

private theorem readClassUnit_of_ne (f : Flags) {c : Char} (hc : c ≠ '\\') (cs : List Char) :
    readClassUnit f (c :: cs) = .ok (.literal c false, cs) := by
  simp [readClassUnit]

private theorem readClassUnit_meets (f : Flags) (cs : List Char) :
    Meets (LostBoundary f) (readClassUnit f cs) fun tail => readClassUnit f (cs ++ ')' :: tail) := by
  cases cs with
  | nil => exact .of_error rfl fun tail u rest h => .inl (readClassUnit_leaves f _ u rest h)
  | cons c cs =>
    by_cases hc : c = '\\'
    · subst hc
      exact readEscape_meets f cs
    · simp only [List.cons_append, readClassUnit_of_ne f hc]
      exact .same _ cs rfl fun _ => rfl

/-- A dash behind a unit is looked behind, and may be left. -/
def LostRange {α : Type} (f : Flags) (tail : List Char) (_ : α) (rest : List Char) : Prop :=
  rest.length ≤ tail.length + 1 ∨ Pending f '-' tail rest

private theorem readRange_of_ne (f : Flags) (first : Atom) {c : Char} (hc : c ≠ '-')
    (cs : List Char) :
    readRange f first (c :: cs) = do return (← first.members f, c :: cs) := by
  simp [readRange]

private theorem readRange_dash (f : Flags) (first : Atom) {after next : List Char} {c : Char}
    (h : f.skip after = c :: next) :
    readRange f first ('-' :: after) =
      if c == ']' || c == '-' then do return (← first.members f, '-' :: after)
      else readClassUnit f (c :: next) >>= fun x => do return (← first.through f x.1, x.2) := by
  simp only [readRange, h]

private theorem Flags.skip_append_length_le {f : Flags} {cs : List Char} (h : f.skip cs = [])
    (tail : List Char) : (f.skip (cs ++ ')' :: tail)).length ≤ tail.length + 1 := by
  rcases f.skip_append cs with hsame | ⟨-, -, hover⟩
  · rw [hsame, h]
    exact Nat.le_refl _
  · exact Nat.le_succ_of_le (hover tail)

private theorem readRange_leaves (f : Flags) (first : Atom) (cs : List Char) :
    Leaves cs.length (readRange f first cs) := by
  cases cs with
  | nil => exact leaves_error
  | cons c cs =>
    by_cases hc : c = '-'
    · subst hc
      have hskip := f.skip_length_le cs
      cases h : f.skip cs with
      | nil => simp [readRange, h, leaves_error]
      | cons d next =>
        rw [readRange_dash f first h]
        split
        · exact leaves_value _ _ (Nat.le_refl _)
        · rw [h, List.length_cons] at hskip
          refine (readClassUnit_leaves f _).bind fun second rest hrest => leaves_value _ _ ?_
          rw [List.length_cons, Nat.add_sub_cancel] at hrest
          exact Nat.le_trans hrest (by rw [List.length_cons]; omega)
    · rw [readRange_of_ne f first hc]
      exact leaves_value _ _ (Nat.le_refl _)

private theorem readRange_look (f : Flags) (l : Look) (cs : List Char) :
    ∃ e, readRange f (.look l) cs = .error e := by
  cases cs with
  | nil => exact ⟨_, rfl⟩
  | cons c cs =>
    by_cases hc : c = '-'
    · subst hc
      cases h : f.skip cs with
      | nil => exact ⟨.unclosedClass, by simp [readRange, h]⟩
      | cons d next =>
        rw [readRange_dash f _ h]
        split
        · exact ⟨_, rfl⟩
        · cases readClassUnit f (d :: next) with
          | error e => exact ⟨e, rfl⟩
          | ok x => exact ⟨_, rfl⟩
    · rw [readRange_of_ne f _ hc]
      exact ⟨_, rfl⟩

private theorem Atom.through_look (f : Flags) (first : Atom) (l : Look) :
    first.through f (.look l) = .error .badRange := by
  cases first <;> rfl

private theorem readRange_meets (f : Flags) (first : Atom) (cs : List Char) :
    Meets (LostRange f) (readRange f first cs) fun tail => readRange f first (cs ++ ')' :: tail) := by
  cases cs with
  | nil => exact .of_error rfl fun tail s rest h => .inl (readRange_leaves f first _ s rest h)
  | cons c cs =>
    by_cases hc : c = '-'
    · subst hc
      cases h : f.skip cs with
      | nil =>
        refine .of_error (e := .unclosedClass) (by simp [readRange, h]) fun tail s rest hs => ?_
        have hskip := Flags.skip_append_length_le h tail
        rw [List.cons_append] at hs
        cases hx : f.skip (cs ++ ')' :: tail) with
        | nil =>
          rw [readRange, hx] at hs
          cases hs
        | cons d next =>
          rw [readRange_dash f first hx] at hs
          rw [hx, List.length_cons] at hskip
          split at hs
          · obtain ⟨t, -, hrest⟩ := bind_eq_ok hs
            cases hrest
            exact .inr ⟨cs, rfl, h⟩
          · refine .inl ((readClassUnit_leaves f _).bind ?_ s rest hs)
            intro second rest' hrest'
            rw [List.length_cons, Nat.add_sub_cancel] at hrest'
            exact leaves_value _ _ (Nat.le_trans hrest' (Nat.le_of_succ_le hskip))
      | cons d next =>
        have hsame (tail : List Char) : f.skip (cs ++ ')' :: tail) = d :: (next ++ ')' :: tail) := by
          rcases f.skip_append cs with hsame | ⟨hnil, -⟩
          · rw [hsame, h, List.cons_append]
          · rw [hnil] at h
            cases h
        simp only [List.cons_append, readRange_dash f first h, readRange_dash f first (hsame _)]
        split
        · exact .value _ _ ('-' :: cs)
        · refine (readClassUnit_meets f (d :: next)).bind (fun second rest _ => .value _ _ rest)
            (fun second => leaves_value _ _ (Nat.le_refl 0)) ?_
          rintro tail second rest (hrest | ⟨⟨l, rfl⟩, -⟩) s rest' hs
          · exact .inl (Nat.le_succ_of_le (leaves_value _ _ hrest s rest' hs))
          · rw [Atom.through_look] at hs
            cases hs
    · simp only [List.cons_append, readRange_of_ne f first hc]
      exact .value _ _ (c :: cs)

private theorem readClassItem_leaves (f : Flags) (cs : List Char) :
    Leaves (cs.length - 1) (readClassItem f cs) := by
  refine (readClassUnit_leaves f cs).bind fun first rest hrest => ?_
  exact (readRange_leaves f first _).mono (Nat.le_trans (f.skip_length_le rest) hrest)

private theorem readClassItem_meets (f : Flags) (cs : List Char) :
    Meets (LostRange f) (readClassItem f cs) fun tail => readClassItem f (cs ++ ')' :: tail) := by
  refine (readClassUnit_meets f cs).bind ?_ ?_ ?_
  · intro first rest _
    exact Meets.skip f (readRange_meets f first _) (readRange_leaves f first)
      fun _ _ _ h => .inl (Nat.le_succ_of_le h)
  · exact fun first => (readRange_leaves f first _).mono (f.skip_length_le [])
  · rintro tail first rest (hrest | ⟨⟨l, rfl⟩, -⟩) s rest' hs
    · have hskip := f.skip_length_le rest
      have hlength := readRange_leaves f first _ s rest' hs
      exact .inl (by omega)
    · obtain ⟨e, he⟩ := readRange_look f l (f.skip rest)
      cases he.symm.trans hs

private theorem operator?_append (c : Char) (cs tail : List Char) :
    operator? c (cs ++ ')' :: tail) = operator? c cs := by
  cases cs with
  | cons d cs => rfl
  | nil =>
    simp only [operator?, List.nil_append, List.head?_cons, List.head?_nil, Option.some.injEq]
    split
    next h =>
      subst h
      rfl
    next => rfl

private theorem eq_cons_of_operator? {c : Char} {cs : List Char} {op : ClassOp}
    (h : operator? c cs = some op) : cs = c :: cs.drop 1 := by
  cases cs with
  | nil => cases h
  | cons d cs =>
    simp only [operator?, List.head?_cons, Option.some.injEq] at h
    split at h
    next hd => rw [hd]; rfl
    next => cases h

private theorem readClassStep_leaves (f : Flags) (o : OpenClass) (outer : List OpenClass) (c : Char)
    (cs : List Char) : Leaves cs.length (readClassStep f o outer c cs) := by
  unfold readClassStep
  split
  · split
    next h =>
      split
      · exact leaves_ok (readAsciiClass?_length h)
      · exact leaves_error
    next =>
      refine ((openClass_local f).leaves cs).bind fun inner rest hrest => ?_
      exact leaves_ok hrest
  · split
    · split
      · exact leaves_ok (Nat.le_refl _)
      · exact leaves_error
    · split
      · exact leaves_ok (by simp)
      · exact (readClassItem_leaves f _).bind fun s rest hrest => leaves_ok hrest

private theorem readClassStep_meets (f : Flags) (o : OpenClass) (outer : List OpenClass) (c : Char)
    (cs : List Char) :
    Meets (LostRange f) (readClassStep f o outer c cs) fun tail =>
      readClassStep f o outer c (cs ++ ')' :: tail) := by
  simp only [readClassStep]
  split
  · simp only [readAsciiClass?_append]
    cases h : readAsciiClass? cs with
    | some x =>
      simp only [Option.map_some]
      split
      · exact .same _ x.2 rfl fun _ => rfl
      · exact .of_errors rfl fun _ => ⟨_, rfl⟩
    | none =>
      refine ((openClass_local f).meets cs).bind (fun inner rest _ => .same _ rest rfl fun _ => rfl)
        (fun inner => leaves_ok (Nat.le_refl 0)) ?_
      rintro tail inner rest hrest _ _ ⟨⟩
      exact .inl hrest
  · split
    · split
      · exact .same _ cs rfl fun _ => rfl
      · exact .of_errors rfl fun _ => ⟨_, rfl⟩
    · simp only [operator?_append]
      cases h : operator? c cs with
      | some op =>
        obtain ⟨rest, rfl⟩ : ∃ rest, cs = c :: rest := ⟨_, eq_cons_of_operator? h⟩
        exact .same _ rest rfl fun _ => rfl
      | none =>
        refine (readClassItem_meets f (c :: cs)).bind
          (fun s rest _ => .same _ rest rfl fun _ => rfl) (fun s => leaves_ok (Nat.le_refl 0)) ?_
        rintro tail s rest hrest _ _ ⟨⟩
        exact hrest

/-! ### Brackets -/

/-- Reads brackets to their end, with as many steps as there are characters. -/
def readBrackets (f : Flags) (o : OpenClass) (outer : List OpenClass) (cs : List Char) :
    Except Fault ((CharSet × Nat) × List Char) :=
  readClassFrom f o outer (cs.length + 1) cs

/-- Reads brackets behind blanks and comments. -/
def readBody (f : Flags) (o : OpenClass) (outer : List OpenClass) :
    List Char → Except Fault ((CharSet × Nat) × List Char)
  | [] => .error .unclosedClass
  | c :: cs =>
    if c == ']' && outer.isEmpty then
      if f.unicode || (o.close f).isAscii then .ok ((o.close f, o.depth + 1), cs)
      else .error .notText
    else readClassStep f o outer c cs >>= fun x => readBrackets f x.1.1 x.1.2 x.2

private theorem readClassFrom_steps (f : Flags) (o : OpenClass) (outer : List OpenClass) {m n : Nat}
    {cs : List Char} (hm : cs.length < m) (hn : cs.length < n) :
    readClassFrom f o outer m cs = readClassFrom f o outer n cs := by
  -- each step takes a character, so that more steps than characters change nothing
  induction m generalizing o outer n cs with
  | zero => exact absurd hm (Nat.not_lt_zero _)
  | succ m ih =>
    obtain ⟨n, rfl⟩ : ∃ k, n = k + 1 := ⟨n - 1, by omega⟩
    have hskip := f.skip_length_le cs
    simp only [readClassFrom]
    cases h : f.skip cs with
    | nil => rfl
    | cons c cs' =>
      rw [h, List.length_cons] at hskip
      dsimp only
      split
      · rfl
      · cases hstep : readClassStep f o outer c cs' with
        | error e => rfl
        | ok x =>
          have hrest := readClassStep_leaves f o outer c cs' x.1 x.2 hstep
          exact ih _ _ (by omega) (by omega)

private theorem readBrackets_eq (f : Flags) (o : OpenClass) (outer : List OpenClass)
    (cs : List Char) :
    readBrackets f o outer cs = readBody f o outer (f.skip cs) := by
  have hskip := f.skip_length_le cs
  rw [readBrackets, readClassFrom]
  cases h : f.skip cs with
  | nil => rfl
  | cons c cs' =>
    rw [h, List.length_cons] at hskip
    simp only [readBody]
    split
    · rfl
    · cases hstep : readClassStep f o outer c cs' with
      | error e => rfl
      | ok x =>
        have hrest := readClassStep_leaves f o outer c cs' x.1 x.2 hstep
        exact readClassFrom_steps f _ _ (by omega) (Nat.lt_succ_self _)

private theorem readBrackets_leaves (f : Flags) (o : OpenClass) (outer : List OpenClass)
    (cs : List Char) :
    Leaves (cs.length - 1) (readBrackets f o outer cs) := by
  induction h : cs.length using Nat.strongRecOn generalizing o outer cs with
  | _ n ih =>
    subst h
    have hskip := f.skip_length_le cs
    rw [readBrackets_eq]
    cases h : f.skip cs with
    | nil => exact leaves_error
    | cons c cs' =>
      rw [h, List.length_cons] at hskip
      simp only [readBody]
      split
      · split
        · exact leaves_ok (by omega)
        · exact leaves_error
      · refine (readClassStep_leaves f o outer c cs').bind fun x rest hrest => ?_
        exact (ih rest.length (by omega) _ _ rest rfl).mono (by omega)

private theorem readBody_leaves (f : Flags) (o : OpenClass) (outer : List OpenClass)
    (cs : List Char) :
    Leaves (cs.length - 1) (readBody f o outer cs) := by
  cases cs with
  | nil => exact leaves_error
  | cons c cs =>
    simp only [readBody, List.length_cons, Nat.add_sub_cancel]
    split
    · split
      · exact leaves_ok (Nat.le_refl _)
      · exact leaves_error
    · refine (readClassStep_leaves f o outer c cs).bind fun x rest hrest => ?_
      exact (readBrackets_leaves f _ _ rest).mono (Nat.le_trans (Nat.sub_le _ 1) hrest)

theorem Flags.skip_cons {f : Flags} {c : Char} (hblank : Text.isBlank c = false) (hc : c ≠ '#')
    (cs : List Char) : f.skip (c :: cs) = c :: cs := by
  simp [skip, dropIdle, hblank, hc]

private theorem readBrackets_pending {f : Flags} (o : OpenClass) (outer : List OpenClass)
    {tail rest : List Char} (h : Pending f '-' tail rest) :
    Leaves tail.length (readBrackets f o outer rest) := by
  obtain ⟨idle, rfl, hidle⟩ := h
  have hdash : operator? '-' (idle ++ ')' :: tail) = none := by
    rw [operator?_append]
    cases idle with
    | nil => rfl
    | cons d idle =>
      refine if_neg fun hd => ?_
      obtain rfl : d = '-' := by simpa using hd
      rw [Flags.skip_cons rfl (by decide)] at hidle
      cases hidle
  have hstep : Leaves (tail.length + 1) (readClassStep f o outer '-' (idle ++ ')' :: tail)) := by
    unfold readClassStep
    rw [if_neg (by decide), if_neg (by decide), hdash]
    refine Leaves.bind (n := tail.length + 1) ?_ fun s rest hrest => leaves_ok hrest
    rw [readClassItem, readClassUnit_of_ne f (by decide)]
    exact (readRange_leaves f _ _).mono (Flags.skip_append_length_le hidle tail)
  rw [readBrackets_eq, Flags.skip_cons rfl (by decide)]
  refine hstep.bind fun x rest hrest => ?_
  exact (readBrackets_leaves f _ _ rest).mono (by omega)

private theorem readBrackets_meets (f : Flags) (o : OpenClass) (outer : List OpenClass)
    (cs : List Char) :
    Meets (Within 0) (readBrackets f o outer cs) fun tail =>
      readBrackets f o outer (cs ++ ')' :: tail) := by
  induction h : cs.length using Nat.strongRecOn generalizing o outer cs with
  | _ n ih =>
    subst h
    have hskip := f.skip_length_le cs
    simp only [readBrackets_eq]
    refine Meets.skip f ?_ (fun cs => (readBody_leaves f o outer cs).mono (Nat.sub_le _ 1))
      fun _ _ _ h => h
    cases h : f.skip cs with
    | nil => exact .of_error rfl fun tail => readBody_leaves f o outer (')' :: tail)
    | cons c cs' =>
      rw [h, List.length_cons] at hskip
      simp only [List.cons_append, readBody]
      split
      · split
        · exact .same _ cs' rfl fun _ => rfl
        · exact .of_errors rfl fun _ => ⟨_, rfl⟩
      · refine (readClassStep_meets f o outer c cs').bind ?_ ?_ ?_
        · intro x rest hx
          have hrest := readClassStep_leaves f o outer c cs' x rest hx
          exact ih rest.length (by omega) _ _ rest rfl
        · exact fun x => readBrackets_leaves f _ _ []
        · rintro tail x rest (hrest | hrest) s rest' hs
          · have := readBrackets_leaves f _ _ rest s rest' hs
            exact Nat.le_trans this (by omega)
          · exact readBrackets_pending _ _ hrest s rest' hs

theorem readClass_local (f : Flags) : Local 0 0 (readClass f) where
  leaves cs := ((openClass_local f).leaves cs).bind fun o rest hrest =>
    (readBrackets_leaves f o [] rest).mono (by omega)
  meets cs := ((openClass_local f).meets cs).bind (fun o rest _ => readBrackets_meets f o [] rest)
    (fun o => readBrackets_leaves f o [] []) fun tail o rest hrest s rest' hs => by
      have hlength := readBrackets_leaves f o [] rest s rest' hs
      unfold Within at *
      omega

end ShellSuite.Regex
