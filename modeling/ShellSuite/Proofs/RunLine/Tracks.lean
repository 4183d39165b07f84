import ShellSuite.Proofs.RunLine.Finer
import ShellSuite.Proofs.RunLine.Mentions
import ShellSuite.Proofs.Substitutions.History

set_option autoImplicit false
set_option relaxedAutoImplicit false

/-!
Readings of one line that put in different directories. Two absolute directories in front of the
same text give words with a common front up to a slash; blanks in the second one can cut its word
into more words. Hence what can be read with the first directory can be read with the second one.
-/

namespace ShellSuite.RunLine

/-- Replacement texts: the same one, or two directories in front of the same text, the first of them
without blanks. -/
def Redirected (a b : List Char) : Prop :=
  a = b ∨ ∃ x y tail, a = '/' :: (x ++ tail) ∧ b = '/' :: (y ++ tail) ∧
    ∀ c ∈ x, Text.isBlank c = false

/-- Two readings at one place, with the tokens and the open word of each. The second one may have
ended the word that the first one still has open. -/
inductive Tracks : List Token → Pending → List Token → Pending → Prop
  | same {ts us : List Token} (h : Finer ts us) (p : Pending) : Tracks ts p us p
  | forked {ts us : List Token} {p q : Pending} (h : Finer ts us) (started : p.started = q.started)
      (hp : p.plain = false) (hq : q.plain = false)
      (fork : Forked p.chars.reverse q.chars.reverse) : Tracks ts p us q
  | cut {ts us : List Token} {p q : Pending} (h : Finer ts us) (w : String) (extra : List String)
      (started : p.started = true) (hp : p.plain = false) (hq : q.plain = false)
      (fork : Forked p.chars.reverse w.toList) :
      Tracks ts p (us ++ .word w :: extra.map .word) q

/-! ### Open words -/

namespace Pending

private theorem toList_text (p : Pending) : p.text.toList = p.chars.reverse := by
  simp [text]

private theorem tokens_of_started {p : Pending} (h : p.started = true) : p.tokens =
    [.word p.text] := by
  simp [tokens, h]

private theorem exists_tokens (p : Pending) : ∃ words :
    List String, p.tokens = words.map .word := by
  unfold tokens
  split
  · exact ⟨[p.text], rfl⟩
  · exact ⟨[], rfl⟩

private theorem exists_paste (p : Pending) (cs : List Char) :
    ∃ words : List String, (p.paste cs).1 = words.map .word := by
  induction cs generalizing p with
  | nil => exact ⟨[], rfl⟩
  | cons c cs ih =>
    simp only [paste]
    split
    · obtain ⟨first, hfirst⟩ := p.exists_tokens
      obtain ⟨words, hwords⟩ := ih ⟨[], false, false⟩
      exact ⟨first ++ words, by simp [hfirst, hwords]⟩
    · exact ih _

private theorem paste_append (p : Pending) (cs ds : List Char) :
    p.paste (cs ++ ds) =
      ((p.paste cs).1 ++ ((p.paste cs).2.paste ds).1, ((p.paste cs).2.paste ds).2) := by
  induction cs generalizing p with
  | nil =>
    cases ds with
    | nil => rfl
    | cons d ds =>
      simp only [List.nil_append, paste]
      split <;> rfl
  | cons c cs ih =>
    simp only [List.cons_append, paste]
    split
    · simp [ih]
    · exact ih _

private theorem paste_of_no_blank {cs : List Char} (h : ∀ c ∈ cs, Text.isBlank c = false)
    (chars : List Char) :
    paste ⟨chars, true, false⟩ cs = ([], ⟨cs.reverse ++ chars, true, false⟩) := by
  induction cs generalizing chars with
  | nil => rfl
  | cons c cs ih =>
    have hc := h c List.mem_cons_self
    rw [paste, hc]
    simp [ih fun d hd => h d (List.mem_cons_of_mem c hd)]

end Pending

namespace Tracks

variable {ts us : List Token} {p q : Pending}

private theorem finer (h : Tracks ts p us q) : Finer (ts ++ p.tokens) (us ++ q.tokens) := by
  cases h with
  | same h p => exact h.append (.refl _)
  | forked h started hp hq fork =>
    refine h.append ?_
    unfold Pending.tokens
    rw [← started]
    split
    · exact .word (.inr (by simpa [Pending.toList_text] using fork)) [] .nil
    · exact .nil
  | cut h w extra started hp hq fork =>
    obtain ⟨more, hmore⟩ := q.exists_tokens
    rw [Pending.tokens_of_started started, hmore, List.append_assoc]
    refine h.append ?_
    have hword : Finer [.word p.text] (.word w :: ((extra ++ more).map .word ++ [])) :=
      .word (.inr (by rw [Pending.toList_text]; exact fork)) _ .nil
    simpa using hword

private theorem grow (h : Tracks ts p us q) (cs : List Char) (more : Bool) :
    Tracks ts ⟨cs.reverse ++ p.chars, p.started || more, false⟩ us
      ⟨cs.reverse ++ q.chars, q.started || more, false⟩ := by
  cases h with
  | same h p => exact .same h _
  | forked h started hp hq fork =>
    refine .forked h (by simp [started]) rfl rfl ?_
    simpa using fork.append cs cs
  | cut h w extra started hp hq fork =>
    refine .cut h w extra (by simp [started]) rfl rfl ?_
    simpa using fork.append cs []

theorem pushQuoted (h : Tracks ts p us q) (c : Char) :
    Tracks ts (p.pushQuoted c) us (q.pushQuoted c) := by
  simpa [Pending.pushQuoted] using h.grow [c] true

theorem openQuote (h : Tracks ts p us q) : Tracks ts p.openQuote us q.openQuote := by
  simpa [Pending.openQuote] using h.grow [] true

theorem push (h : Tracks ts p us q) (c : Char) : Tracks ts (p.push c) us (q.push c) := by
  cases h with
  | same h p => exact .same h _
  | forked h started hp hq fork =>
    have hpushed := (Tracks.forked h started hp hq fork).pushQuoted c
    simpa [Pending.push, Pending.pushQuoted, hp, hq] using hpushed
  | cut h w extra started hp hq fork =>
    have hpushed := (Tracks.cut h w extra started hp hq fork).pushQuoted c
    simpa [Pending.push, Pending.pushQuoted, hp, hq] using hpushed

theorem pushEscaped (h : Tracks ts p us q) (e : Char) :
    Tracks ts (p.pushEscaped e) us (q.pushEscaped e) := by
  unfold Pending.pushEscaped
  split
  · exact h.pushQuoted e
  · exact (h.pushQuoted '\\').pushQuoted e

private theorem pasteSame (h : Tracks ts p us q) (cs : List Char) :
    Tracks (ts ++ (p.paste cs).1) (p.paste cs).2 (us ++ (q.paste cs).1) (q.paste cs).2 := by
  induction cs generalizing ts us p q with
  | nil => simpa [Pending.paste] using h.grow [] false
  | cons c cs ih =>
    simp only [Pending.paste]
    split
    · rw [← List.append_assoc, ← List.append_assoc]
      exact ih (.same h.finer ⟨[], false, false⟩)
    · apply ih
      simpa using h.grow [c] true

private theorem pasteBehind {chars : List Char} (h : Finer ts us) (started : p.started = true)
    (hp : p.plain = false) (fork : Forked p.chars.reverse chars.reverse) (cs : List Char) :
    Tracks ts p (us ++ (Pending.paste ⟨chars, true, false⟩ cs).1)
      (Pending.paste ⟨chars, true, false⟩ cs).2 := by
  induction cs generalizing chars with
  | nil =>
    rw [Pending.paste, List.append_nil]
    exact .forked h started hp rfl fork
  | cons c cs ih =>
    simp only [Pending.paste]
    split
    · -- the word of the second reading ends here, and all that follows it are more words
      obtain ⟨extra, hextra⟩ := Pending.exists_paste ⟨[], false, false⟩ cs
      rw [hextra, Pending.tokens_of_started rfl, List.singleton_append]
      refine .cut h _ extra started hp (Pending.paste_plain _ _) ?_
      rw [Pending.toList_text]
      exact fork
    · apply ih
      simpa using fork.append [] [c]

private theorem pasteDirectory (h : Tracks ts p us q) {x : List Char} (y tail : List Char)
    (hblank : ∀ c ∈ x, Text.isBlank c = false) :
    Tracks (ts ++ (p.paste ('/' :: (x ++ tail))).1) (p.paste ('/' :: (x ++ tail))).2
      (us ++ (q.paste ('/' :: (y ++ tail))).1) (q.paste ('/' :: (y ++ tail))).2 := by
  have hslash : Text.isBlank '/' = false := by decide
  have hfirst : p.paste ('/' :: (x ++ tail)) =
      Pending.paste ⟨x.reverse ++ '/' :: p.chars, true, false⟩ tail := by
    rw [Pending.paste, hslash]
    simp [Pending.paste_append, Pending.paste_of_no_blank hblank]
  have hsecond : q.paste ('/' :: (y ++ tail)) =
      ((Pending.paste ⟨'/' :: q.chars, true, false⟩ y).1 ++
        ((Pending.paste ⟨'/' :: q.chars, true, false⟩ y).2.paste tail).1,
        ((Pending.paste ⟨'/' :: q.chars, true, false⟩ y).2.paste tail).2) := by
    rw [Pending.paste, hslash]
    simp [Pending.paste_append]
  have hmid : Tracks ts ⟨x.reverse ++ '/' :: p.chars, true, false⟩
      (us ++ (Pending.paste ⟨'/' :: q.chars, true, false⟩ y).1)
      (Pending.paste ⟨'/' :: q.chars, true, false⟩ y).2 := by
    cases h with
    | same h p =>
      refine pasteBehind h rfl rfl ?_ y
      simpa using Forked.of_slash p.chars.reverse x []
    | forked h started hp hq fork =>
      refine pasteBehind h rfl rfl ?_ y
      simpa using fork.append ('/' :: x) ['/']
    | cut h w extra started hp hq fork =>
      obtain ⟨more, hmore⟩ := Pending.exists_paste ⟨'/' :: q.chars, true, false⟩ y
      have hfork : Forked (x.reverse ++ '/' :: p.chars).reverse w.toList := by
        simpa using fork.append ('/' :: x) []
      have hcut := Tracks.cut (p := ⟨x.reverse ++ '/' :: p.chars, true, false⟩) h w (extra ++ more)
        rfl rfl (Pending.paste_plain ⟨'/' :: q.chars, true, false⟩ y) hfork
      simpa [hmore] using hcut
  rw [hfirst, hsecond, ← List.append_assoc]
  exact hmid.pasteSame tail

theorem paste (h : Tracks ts p us q) {a b : List Char} (hab : Redirected a b) :
    Tracks (ts ++ (p.paste a).1) (p.paste a).2 (us ++ (q.paste b).1) (q.paste b).2 := by
  rcases hab with rfl | ⟨x, y, tail, rfl, rfl, hblank⟩
  · exact h.pasteSame a
  · exact h.pasteDirectory y tail hblank

theorem pasteQuoted (h : Tracks ts p us q) {a b : List Char} (hab : Redirected a b) :
    Tracks ts (p.pasteQuoted a) us (q.pasteQuoted b) := by
  rcases hab with rfl | ⟨x, y, tail, rfl, rfl, -⟩
  · simpa [Pending.pasteQuoted] using h.grow a false
  · cases h with
    | same h p =>
      refine .forked h rfl rfl rfl ?_
      simpa [Pending.pasteQuoted] using Forked.of_slash p.chars.reverse (x ++ tail) (y ++ tail)
    | forked h started hp hq fork =>
      refine .forked h started rfl rfl ?_
      simpa [Pending.pasteQuoted] using fork.append ('/' :: (x ++ tail)) ('/' :: (y ++ tail))
    | cut h w extra started hp hq fork =>
      refine .cut h w extra started rfl rfl ?_
      simpa [Pending.pasteQuoted] using fork.append ('/' :: (x ++ tail)) []

end Tracks

end ShellSuite.RunLine

namespace ShellSuite.Substitutions

open RunLine (Redirected)
open Dict (valueIn)

/-- Tables of the same keys. The values of those that are written in a line differ in their
directories at most. -/
def Redirects (t₁ t₂ : Substitutions) (line : List Char) : Prop :=
  ∀ key, Option.Rel (fun a b : String => key.toList <:+: line → Redirected a.toList b.toList)
    (valueIn t₁.entries key) (valueIn t₂.entries key)

theorem mem_keys_iff (t : Substitutions) (key : String) :
    key ∈ t.keys ↔ (valueIn t.entries key).isSome := by
  rw [Option.isSome_iff_exists, keys, List.mem_map]
  constructor
  · rintro ⟨⟨_, value⟩, hmem, rfl⟩
    exact ⟨value, (mem_entries_iff t _ value).mp hmem⟩
  · rintro ⟨value, hvalue⟩
    exact ⟨(key, value), (mem_entries_iff t key value).mpr hvalue, rfl⟩

variable {t₁ t₂ : Substitutions} {line : List Char}

theorem Redirects.keys_eq (h : t₁.Redirects t₂ line) : t₁.keys = t₂.keys := by
  apply keys_eq_of_mem_iff
  intro key
  rw [mem_keys_iff, mem_keys_iff]
  have hkey := h key
  generalize valueIn t₁.entries key = x at hkey
  generalize valueIn t₂.entries key = y at hkey
  cases hkey <;> simp

theorem Redirects.refl (t : Substitutions) (line : List Char) : t.Redirects t line := by
  intro key
  cases valueIn t.entries key with
  | none => exact .none
  | some value => exact .some fun _ => .inl rfl

theorem Redirects.insert (h : t₁.Redirects t₂ line) (key : String) {a b : String}
    (hab : key.toList <:+: line → Redirected a.toList b.toList) :
    (t₁.insert key a).Redirects (t₂.insert key b) line := by
  intro other
  rw [valueIn_insert, valueIn_insert]
  split
  case isTrue hkey =>
    obtain ⟨rfl, -⟩ := hkey
    exact .some hab
  case isFalse => exact h other

theorem Redirects.extend (h : t₁.Redirects t₂ line) (d : Dict String) :
    (t₁.extend d).Redirects (t₂.extend d) line := by
  unfold Substitutions.extend
  induction d.entries generalizing t₁ t₂ with
  | nil => exact h
  | cons e es ih => exact ih (h.insert e.1 fun _ => .inl rfl)

theorem Redirects.of_suffix (h : t₁.Redirects t₂ line) {rest : List Char} (hrest : rest <:+ line) :
    t₁.Redirects t₂ rest := by
  intro key
  have hkey := h key
  generalize valueIn t₁.entries key = x at hkey ⊢
  generalize valueIn t₂.entries key = y at hkey ⊢
  cases hkey with
  | none => exact .none
  | some hab => exact .some fun hwritten => hab (hwritten.trans hrest.isInfix)

theorem Redirects.matchAt (h : t₁.Redirects t₂ line) :
    Option.Rel (fun a b : String × String => a.1 = b.1 ∧ Redirected a.2.toList b.2.toList)
      (t₁.matchAt line) (t₂.matchAt line) := by
  have hmatch : (t₁.matchAt line).map (·.1) = (t₂.matchAt line).map (·.1) := by
    rw [matchAt_map_key, matchAt_map_key, h.keys_eq]
  cases h₁ : t₁.matchAt line with
  | none =>
    have h₂ : t₂.matchAt line = none := by simpa [h₁] using hmatch.symm
    rw [h₂]
    exact .none
  | some e₁ =>
    obtain ⟨e₂, h₂, hkey⟩ : ∃ e₂, t₂.matchAt line = some e₂ ∧ e₂.1 = e₁.1 := by
      simpa [h₁] using hmatch.symm
    have hwritten : e₁.1.toList <:+: line := by
      have hfront := List.find?_some h₁
      exact (List.isPrefixOf_iff_prefix.mp hfront).isInfix
    have hvalues := h e₁.1
    rw [(mem_entries_iff t₁ e₁.1 e₁.2).mp (List.mem_of_find?_eq_some h₁), ← hkey,
      (mem_entries_iff t₂ e₂.1 e₂.2).mp (List.mem_of_find?_eq_some h₂)] at hvalues
    rw [h₂]
    cases hvalues with
    | some hab => exact .some ⟨hkey.symm, hab (hkey ▸ hwritten)⟩

end ShellSuite.Substitutions

namespace ShellSuite.RunLine

/-! ### Steps -/

section Steps

variable {t₁ t₂ : Substitutions} {env₁ env₂ : Dict String} {ts us : List Token} {p q : Pending}
  {c : Char} {cs : List Char}

private theorem expansionAt_tracks (htable : t₁.Redirects t₂ (c :: cs))
    (henv : Agree env₁ env₂ (c :: cs)) :
    Lockstep (Option.Rel fun a b => Redirected a.1 b.1 ∧ a.2 = b.2)
      (expansionAt t₁ env₁ c cs) (expansionAt t₂ env₂ c cs) := by
  have hmatch := htable.matchAt
  unfold expansionAt
  generalize t₁.matchAt (c :: cs) = x at hmatch
  generalize t₂.matchAt (c :: cs) = y at hmatch
  cases hmatch with
  | some hab => exact .ok (.some ⟨hab.2, by rw [hab.1]⟩)
  | none =>
    cases hvariable : variableAt c cs with
    | error e => exact .error e
    | ok found =>
      cases found with
      | none => exact .ok .none
      | some found =>
        have hvalue := henv found.1 (mentions_of_variableAt hvariable)
        refine .ok (.some ⟨.inl ?_, rfl⟩)
        exact congrArg String.toList hvalue

private theorem stepText_tracks (htable : t₁.Redirects t₂ (c :: cs))
    (henv : Agree env₁ env₂ (c :: cs))
    (h : Tracks ts p us q) :
    Lockstep (Move.InStep Tracks ts us) (stepText t₁ env₁ p c cs) (stepText t₂ env₂ q c cs) := by
  have hfound := expansionAt_tracks htable henv
  unfold stepText
  generalize expansionAt t₁ env₁ c cs = x at hfound
  generalize expansionAt t₂ env₂ c cs = y at hfound
  cases hfound with
  | error e => exact .error e
  | ok hab =>
    cases hab with
    | none => exact .ok ⟨rfl, rfl, by simpa using h.push c⟩
    | some hab => exact .ok ⟨rfl, hab.2, h.paste hab.1⟩

private theorem stepDouble_tracks (htable : t₁.Redirects t₂ (c :: cs))
    (henv : Agree env₁ env₂ (c :: cs))
    (h : Tracks ts p us q) :
    Lockstep (Move.InStep Tracks ts us) (stepDouble t₁ env₁ p c cs)
      (stepDouble t₂ env₂ q c cs) := by
  unfold stepDouble
  split
  · exact .ok ⟨rfl, rfl, by simpa using h⟩
  split
  · cases cs with
    | nil => exact .error _
    | cons e rest => exact .ok ⟨rfl, rfl, by simpa using h.pushEscaped e⟩
  · have hfound := expansionAt_tracks htable henv
    generalize expansionAt t₁ env₁ c cs = x at hfound
    generalize expansionAt t₂ env₂ c cs = y at hfound
    cases hfound with
    | error e => exact .error e
    | ok hab =>
      cases hab with
      | none => exact .ok ⟨rfl, rfl, by simpa using h.pushQuoted c⟩
      | some hab => exact .ok ⟨rfl, hab.2, by simpa using h.pasteQuoted hab.1⟩

private theorem takeDescriptor_tracks (h : Tracks ts p us q) :
    Lockstep (fun a b => a.1 = b.1 ∧ Finer (ts ++ a.2) (us ++ b.2))
      (takeDescriptor p) (takeDescriptor q) := by
  have hended := h.finer
  have hplain : p.plain = false → q.plain = false →
      Lockstep (fun a b => a.1 = b.1 ∧ Finer (ts ++ a.2) (us ++ b.2))
        (takeDescriptor p) (takeDescriptor q) := by
    intro hp hq
    simp only [takeDescriptor, Pending.isDescriptor_of_not_plain hp,
      Pending.isDescriptor_of_not_plain hq, Bool.false_eq_true, ↓reduceIte]
    exact .ok ⟨rfl, hended⟩
  cases h with
  | same h p => exact .of_eq rfl fun a => ⟨rfl, h.append (.refl a.2)⟩
  | forked h started hp hq fork => exact hplain hp hq
  | cut h w extra started hp hq fork => exact hplain hp hq

private theorem stepBare_tracks (htable : t₁.Redirects t₂ (c :: cs))
    (henv : Agree env₁ env₂ (c :: cs))
    (h : Tracks ts p us q) :
    Lockstep (Move.InStep Tracks ts us) (stepBare t₁ env₁ p c cs) (stepBare t₂ env₂ q c cs) := by
  unfold stepBare
  split
  · exact .ok ⟨rfl, rfl, .same h.finer _⟩
  split
  · exact .ok ⟨rfl, rfl, by simpa using h.openQuote⟩
  split
  · exact .ok ⟨rfl, rfl, by simpa using h.openQuote⟩
  split
  · cases cs with
    | nil => exact .error _
    | cons e rest => exact .ok ⟨rfl, rfl, by simpa using h.pushQuoted e⟩
  split
  · refine Lockstep.bind (R := Eq) (.of_eq rfl fun _ => rfl) ?_
    rintro ⟨token, rest⟩ _ rfl
    refine .ok ⟨rfl, rfl, .same ?_ _⟩
    have hended := h.finer.append (.refl [token])
    simpa using hended
  split
  · refine (takeDescriptor_tracks h).bind ?_
    rintro ⟨fd, ended₁⟩ ⟨_, ended₂⟩ ⟨rfl, hended⟩
    refine Lockstep.bind (R := Eq) (.of_eq rfl fun _ => rfl) ?_
    rintro ⟨op, rest⟩ _ rfl
    refine .ok ⟨rfl, rfl, .same ?_ _⟩
    have hboth := hended.append (.refl [.redirect (fd.getD op.defaultDescriptor) op])
    simpa using hboth
  · exact stepText_tracks htable henv h

/-- What one step preserves: the readings fail alike, or the first one still tracks the second. -/
theorem step_tracks (htable : t₁.Redirects t₂ (c :: cs)) (henv : Agree env₁ env₂ (c :: cs))
    (quoting : Quoting) (h : Tracks ts p us q) :
    Lockstep (Move.InStep Tracks ts us) (step t₁ env₁ quoting p c cs)
      (step t₂ env₂ quoting q c cs) := by
  cases quoting with
  | single =>
    simp only [step, stepSingle]
    split
    · exact .ok ⟨rfl, rfl, by simpa using h⟩
    · exact .ok ⟨rfl, rfl, by simpa using h.pushQuoted c⟩
  | double => exact stepDouble_tracks htable henv h
  | bare => exact stepBare_tracks htable henv h

end Steps

theorem tokensFrom_tracks {t₁ t₂ : Substitutions} {env₁ env₂ : Dict String} {ts us : List Token}
    {p q : Pending} {cs : List Char} (htable : t₁.Redirects t₂ cs) (henv : Agree env₁ env₂ cs)
    (quoting : Quoting) (h : Tracks ts p us q) :
    Lockstep (fun more others => Finer (ts ++ more) (us ++ others))
      (tokensFrom t₁ env₁ quoting p cs) (tokensFrom t₂ env₂ quoting q cs) := by
  refine tokensFrom_lockstep (I := fun cs => t₁.Redirects t₂ cs ∧ Agree env₁ env₂ cs) ?_ ?_
    Tracks.finer quoting ⟨htable, henv⟩ h
  · intro quoting p c cs m hmove ⟨htable, henv⟩
    have hrest : m.rest <:+ c :: cs := (step_suffix hmove).trans (List.suffix_cons c cs)
    exact ⟨htable.of_suffix hrest, henv.of_suffix hrest⟩
  · intro quoting ts p us q c cs ⟨htable, henv⟩ htracks
    exact step_tracks htable henv quoting htracks

/-- A line that can be read with directories without blanks can be read with any other absolute
directories, as long as its variables keep their values. -/
theorem parseLine_redirects {line : String} {t₁ t₂ : Substitutions}
    (htable : t₁.Redirects t₂ line.toList) {env₁ env₂ : Dict String}
    (henv : Agree env₁ env₂ line.toList) {s : Script} (hs : parseLine line t₁ env₁ = .ok s) :
    ∃ s', parseLine line t₂ env₂ = .ok s' := by
  have hrun := tokensFrom_tracks htable henv .bare (.same .nil .fresh)
  obtain ⟨ts, hts, hparse⟩ := bind_eq_ok hs
  unfold parseLine tokenize
  unfold tokenize at hts
  rw [hts] at hrun
  generalize tokensFrom t₂ env₂ .bare .fresh line.toList = y at hrun
  cases hrun with
  | ok hfiner => exact parse_finer (by simpa using hfiner) hparse

end ShellSuite.RunLine
