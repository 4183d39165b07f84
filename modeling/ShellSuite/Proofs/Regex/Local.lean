import ShellSuite.Regex.Parser
import ShellSuite.Proofs.Except

set_option autoImplicit false
set_option relaxedAutoImplicit false

/-!
Readers of parts of a pattern, and what they do when a closing parenthesis stands behind the
characters they read. Whatever can be read of characters alone is read of them in front of a
parenthesis, too, except that a comment may go on behind it. Readers are composed, and this property
with them.
-/

namespace ShellSuite.Regex

variable {α β : Type} {n m : Nat}

/-! ### How much is read -/

/-- At most so many characters are left behind what was read. -/
def Leaves (n : Nat) (x : Except Fault (α × List Char)) : Prop :=
  ∀ v rest, x = .ok (v, rest) → rest.length ≤ n

theorem leaves_ok {v : α} {rest : List Char} (h : rest.length ≤ n) : Leaves n (.ok (v, rest)) := by
  rintro _ _ ⟨⟩
  exact h

theorem leaves_error {e : Fault} : Leaves n (.error e : Except Fault (α × List Char)) := by
  rintro _ _ ⟨⟩

theorem Leaves.mono {x : Except Fault (α × List Char)} (h : Leaves n x) (hnm : n ≤ m) :
    Leaves m x :=
  fun v rest hx => Nat.le_trans (h v rest hx) hnm

theorem Leaves.bind {x : Except Fault (α × List Char)}
    {g : α × List Char → Except Fault (β × List Char)} (h : Leaves n x)
    (hg : ∀ v rest, rest.length ≤ n → Leaves m (g (v, rest))) : Leaves m (x >>= g) := by
  intro v rest hx
  obtain ⟨⟨w, middle⟩, hw, hgw⟩ := bind_eq_ok hx
  exact hg w middle (h w middle hw) v rest hgw

theorem leaves_value {γ : Type} (x : Except Fault γ) (g : γ → α) {rest : List Char}
    (h : rest.length ≤ n) : Leaves n (do return (g (← x), rest)) := by
  cases x with
  | error e => exact leaves_error
  | ok v => exact leaves_ok h

/-! ### A parenthesis behind the characters -/

/-- What is read alone, and what is read if a parenthesis and other characters stand behind. Either
the same is read and these are left. Or the end was reached; then the parenthesis alone changes
nothing of what was read, and together with the others it may change everything, up to what is said
of such readings. -/
inductive Meets (lost : List Char → α → List Char → Prop) (alone : Except Fault (α × List Char))
    (inside : List Char → Except Fault (α × List Char)) : Prop
  | same (v : α) (rest : List Char) (halone : alone = .ok (v, rest))
      (hinside : ∀ tail, inside tail = .ok (v, rest ++ ')' :: tail))
  | past (halone : ∀ v rest, alone = .ok (v, rest) → rest = [] ∧ inside [] = .ok (v, []))
      (hinside : ∀ tail v rest, inside tail = .ok (v, rest) → lost tail v rest)

/-- All but so many of the characters behind the parenthesis, and the parenthesis itself, are read. -/
def Within (slack : Nat) (tail : List Char) (_ : α) (rest : List Char) : Prop :=
  rest.length ≤ tail.length + slack

namespace Meets

variable {alone : Except Fault (α × List Char)} {inside : List Char → Except Fault (α × List Char)}
  {lost lost' : List Char → α → List Char → Prop}

theorem of_error {e : Fault} (halone : alone = .error e)
    (hinside : ∀ tail v rest, inside tail = .ok (v, rest) → lost tail v rest) :
    Meets lost alone inside :=
  .past (by rw [halone]; rintro _ _ ⟨⟩) hinside

theorem of_errors {e : Fault} (halone : alone = .error e)
    (hinside : ∀ tail, ∃ e, inside tail = .error e) : Meets lost alone inside :=
  .of_error halone fun tail v rest h => by
    obtain ⟨e, he⟩ := hinside tail
    rw [he] at h
    cases h

theorem imp (h : Meets lost alone inside)
    (himp : ∀ tail v rest, lost tail v rest → lost' tail v rest) : Meets lost' alone inside := by
  cases h with
  | same v rest halone hinside => exact .same v rest halone hinside
  | past halone hinside =>
    exact .past halone fun tail v rest hx => himp tail v rest (hinside tail v rest hx)

theorem value {γ : Type} (x : Except Fault γ) (g : γ → α) (rest : List Char) :
    Meets lost (do return (g (← x), rest)) fun tail => do return (g (← x), rest ++ ')' :: tail) := by
  cases x with
  | error e => exact .of_errors rfl fun _ => ⟨e, rfl⟩
  | ok v => exact .same (g v) rest rfl fun _ => rfl

theorem bind {lost' : List Char → β → List Char → Prop}
    {g : α × List Char → Except Fault (β × List Char)} (h : Meets lost alone inside)
    (hmeets : ∀ v rest, alone = .ok (v, rest) →
      Meets lost' (g (v, rest)) fun tail => g (v, rest ++ ')' :: tail))
    (hleaves : ∀ v, Leaves 0 (g (v, [])))
    (hlost : ∀ tail v rest, lost tail v rest →
      ∀ w rest', g (v, rest) = .ok (w, rest') → lost' tail w rest') :
    Meets lost' (alone >>= g) fun tail => inside tail >>= g := by
  cases h with
  | same v rest halone hinside =>
    simp only [hinside]
    rw [halone]
    exact hmeets v rest halone
  | past halone hinside =>
    refine .past ?_ ?_
    · intro v rest hx
      obtain ⟨⟨w, middle⟩, hw, hgw⟩ := bind_eq_ok hx
      obtain ⟨rfl, hnil⟩ := halone w middle hw
      obtain rfl : rest = [] := List.eq_nil_of_length_eq_zero (Nat.le_zero.mp (hleaves w v rest hgw))
      exact ⟨rfl, by rw [hnil]; exact hgw⟩
    · intro tail v rest hx
      obtain ⟨⟨w, middle⟩, hw, hgw⟩ := bind_eq_ok hx
      exact hlost tail w middle (hinside tail w middle hw) v rest hgw

end Meets

/-- A reader that takes a parenthesis behind its characters for what it is, or reads beyond it; of
the characters in front, up to `more` may have been read before. -/
structure Local (slack more : Nat) (read : List Char → Except Fault (α × List Char)) : Prop where
  leaves : ∀ cs, Leaves (cs.length + more) (read cs)
  meets : ∀ cs, Meets (Within slack) (read cs) fun tail => read (cs ++ ')' :: tail)

namespace Local

variable {read : List Char → Except Fault (α × List Char)} {s : Nat}

theorem ok (v : α) : Local s m fun cs => .ok (v, cs) where
  leaves _ := leaves_ok (Nat.le_add_right _ _)
  meets cs := .same v cs rfl fun _ => rfl

theorem error (e : Fault) : Local s m fun _ => (.error e : Except Fault (α × List Char)) where
  leaves _ := leaves_error
  meets _ := .of_errors rfl fun _ => ⟨e, rfl⟩

theorem value {γ : Type} (x : Except Fault γ) (g : γ → α) :
    Local s m fun cs => do return (g (← x), cs) where
  leaves _ := leaves_value x g (Nat.le_add_right _ _)
  meets cs := .value x g cs

theorem mono {s' m' : Nat} (h : Local s m read) (hs : s ≤ s') (hm : m ≤ m') : Local s' m' read where
  leaves cs := (h.leaves cs).mono (by omega)
  meets cs := (h.meets cs).imp fun _ _ _ hlost => Nat.le_trans hlost (by omega)

theorem bind {g : α × List Char → Except Fault (β × List Char)} (h : Local s m read)
    (hg : ∀ v, Local s 0 fun rest => g (v, rest)) : Local s m fun cs => read cs >>= g where
  leaves cs := (h.leaves cs).bind fun v rest hrest => ((hg v).leaves rest).mono hrest
  meets cs := (h.meets cs).bind (fun v rest _ => (hg v).meets rest) (fun v => (hg v).leaves [])
    fun _ v rest hlost w rest' hw => Nat.le_trans ((hg v).leaves rest w rest' hw) hlost

theorem cons (c : Char) (h : Local s 0 read) : Local s 1 fun cs => read (c :: cs) where
  leaves cs := h.leaves (c :: cs)
  meets cs := h.meets (c :: cs)

theorem next {e : Fault} (hnil : read [] = .error e) (hms : m ≤ s) (hm : m ≤ 1)
    (hcons : ∀ c, Local s m fun cs => read (c :: cs)) : Local s 0 read where
  leaves
    | [] => by rw [hnil]; exact leaves_error
    | c :: cs => ((hcons c).leaves cs).mono (Nat.add_le_add_left hm _)
  meets
    | [] => .of_error hnil fun tail v rest h =>
      Nat.le_trans ((hcons ')').leaves tail v rest h) (Nat.add_le_add_left hms _)
    | c :: cs => (hcons c).meets cs

theorem take {e : Fault} (hnil : read [] = .error e)
    (hcons : ∀ c, Local s 0 fun cs => read (c :: cs)) : Local s 0 read :=
  next hnil (Nat.zero_le s) (Nat.zero_le 1) hcons

theorem peek {plain : List Char → Except Fault (α × List Char)} (hplain : Local s 0 plain)
    (hnil : read [] = plain []) (hcons : ∀ c, (∀ cs, read (c :: cs) = plain (c :: cs)) ∨
      (c ≠ ')' ∧ Local s 1 fun cs => read (c :: cs))) : Local s 0 read where
  leaves
    | [] => by rw [hnil]; exact hplain.leaves []
    | c :: cs => by
      rcases hcons c with heq | ⟨-, hlocal⟩
      · rw [heq]; exact hplain.leaves (c :: cs)
      · exact hlocal.leaves cs
  meets
    | [] => by
      rcases hcons ')' with heq | ⟨hne, -⟩
      · simpa only [hnil, List.nil_append, heq] using hplain.meets []
      · exact absurd rfl hne
    | c :: cs => by
      rcases hcons c with heq | ⟨-, hlocal⟩
      · simpa only [List.cons_append, heq] using hplain.meets (c :: cs)
      · exact hlocal.meets cs

end Local

/-! ### Blanks and comments -/

private theorem dropIdle_length_le (comment : Bool) (cs : List Char) :
    (dropIdle comment cs).length ≤ cs.length := by
  induction cs generalizing comment with
  | nil => simp [dropIdle]
  | cons c cs ih =>
    simp only [dropIdle, List.length_cons]
    have := ih (c != '\n')
    have := ih false
    have := ih true
    repeat' split
    all_goals first | omega | simp

theorem Flags.skip_length_le (f : Flags) (cs : List Char) : (f.skip cs).length ≤ cs.length := by
  rw [skip]
  split
  · exact dropIdle_length_le false cs
  · exact Nat.le_refl _

private theorem dropIdle_meets (comment : Bool) (cs : List Char) :
    Meets (Within 0) (.ok ((), dropIdle comment cs)) fun tail =>
      .ok ((), dropIdle comment (cs ++ ')' :: tail)) := by
  induction cs generalizing comment with
  | nil =>
    cases comment with
    | false => exact .same () [] rfl fun tail => by simp [dropIdle, Text.isBlank]
    | true =>
      refine .past ?_ ?_
      · rintro ⟨⟩ rest h
        simp [dropIdle] at h ⊢
        exact h
      · rintro tail _ rest ⟨⟩
        simpa [dropIdle, Within] using dropIdle_length_le true tail
  | cons c cs ih =>
    simp only [dropIdle, List.cons_append]
    repeat' split
    · exact ih _
    · exact ih _
    · exact ih _
    · exact .same () (c :: cs) rfl fun tail => rfl

private theorem Flags.skip_local (f : Flags) : Local 0 0 fun cs => .ok ((), f.skip cs) where
  leaves cs := leaves_ok (f.skip_length_le cs)
  meets cs := by
    simp only [skip]
    split
    · exact dropIdle_meets false cs
    · exact .same () cs rfl fun _ => rfl

theorem Local.skip {s : Nat} {read : List Char → Except Fault (α × List Char)} (h : Local s 0 read)
    (f : Flags) : Local s 0 fun cs => read (f.skip cs) :=
  (f.skip_local.mono (Nat.zero_le s) (Nat.le_refl 0)).bind (g := fun x => read x.2) fun _ => h

theorem Flags.skip_append (f : Flags) (cs : List Char) :
    (∀ tail, f.skip (cs ++ ')' :: tail) = f.skip cs ++ ')' :: tail) ∨
      f.skip cs = [] ∧ f.skip (cs ++ [')']) = [] ∧
        ∀ tail, (f.skip (cs ++ ')' :: tail)).length ≤ tail.length := by
  rcases f.skip_local.meets cs with ⟨v, rest, halone, hinside⟩ | ⟨halone, hinside⟩
  · left
    intro tail
    injection halone with halone
    injection hinside tail with hinside
    simp_all
  · right
    obtain ⟨hnil, hparen⟩ := halone () (f.skip cs) rfl
    refine ⟨hnil, ?_, fun tail => hinside tail () _ rfl⟩
    injection hparen with hparen
    simp_all

theorem Meets.skip {lost : List Char → α → List Char → Prop}
    {g : List Char → Except Fault (α × List Char)} {cs : List Char} (f : Flags)
    (h : Meets lost (g (f.skip cs)) fun tail => g (f.skip cs ++ ')' :: tail))
    (hleaves : ∀ cs, Leaves cs.length (g cs))
    (hlost : ∀ tail v rest, rest.length ≤ tail.length → lost tail v rest) :
    Meets lost (g (f.skip cs)) fun tail => g (f.skip (cs ++ ')' :: tail)) := by
  refine (f.skip_local.meets cs).bind (g := fun x => g x.2) ?_ (fun _ => hleaves []) ?_
  · rintro _ _ ⟨⟩
    exact h
  · intro tail _ rest hrest v rest' hv
    exact hlost tail v rest' (Nat.le_trans (hleaves rest v rest' hv) hrest)

/-! ### Runs of characters -/

theorem dropWhile_length_le (p : Char → Bool) (cs : List Char) :
    (cs.dropWhile p).length ≤ cs.length :=
  (List.dropWhile_suffix p).length_le

theorem dropWhile_append_of_eq_cons {p : Char → Bool} {cs rest : List Char} {c : Char}
    (h : cs.dropWhile p = c :: rest) (tail : List Char) :
    (cs ++ tail).dropWhile p = c :: (rest ++ tail) ∧ (cs ++ tail).takeWhile p = cs.takeWhile p := by
  have hlength := congrArg List.length (List.takeWhile_append_dropWhile (p := p) (l := cs))
  rw [List.length_append, h, List.length_cons] at hlength
  constructor
  · rw [List.dropWhile_append, if_neg (by simp [h]), h, List.cons_append]
  · rw [List.takeWhile_append, if_neg (by omega)]

theorem dropWhile_append_paren {p : Char → Bool} (hp : p ')' = false) (cs tail : List Char) :
    (cs ++ ')' :: tail).dropWhile p = cs.dropWhile p ++ ')' :: tail ∧
      (cs ++ ')' :: tail).takeWhile p = cs.takeWhile p := by
  induction cs with
  | nil => simp [hp]
  | cons c cs ih =>
    cases hc : p c with
    | false => simp [hc]
    | true => simpa [hc] using ih

theorem Local.upTo {p : Char → Bool} (hp : p ')' = true) {e : Fault}
    {g : List Char → List Char → Except Fault (α × List Char)} (hg : ∀ name, Local 0 0 (g name)) :
    Local 0 0 fun cs => match cs.dropWhile p with
      | [] => .error e
      | _ :: rest => g (cs.takeWhile p) rest where
  leaves cs := by
    have hlength := dropWhile_length_le p cs
    split
    next => exact leaves_error
    next h =>
      rw [h, List.length_cons] at hlength
      exact ((hg _).leaves _).mono (by omega)
  meets cs := by
    cases h : cs.dropWhile p with
    | cons c rest =>
      simp only [dropWhile_append_of_eq_cons h]
      exact (hg _).meets rest
    | nil =>
      refine .of_error rfl fun tail => ?_
      have hdrop : (cs ++ ')' :: tail).dropWhile p = tail.dropWhile p := by
        simp [List.dropWhile_append, h, hp]
      have hlength := dropWhile_length_le p tail
      rw [hdrop]
      split
      next => rintro _ _ ⟨⟩
      next h' =>
        rw [h', List.length_cons] at hlength
        exact ((hg _).leaves _).mono (by omega)

end ShellSuite.Regex
