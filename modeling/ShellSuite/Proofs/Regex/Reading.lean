import ShellSuite.Proofs.Regex.Construct

set_option autoImplicit false
set_option relaxedAutoImplicit false

/-!
Reading a pattern construct by construct. The places that the reader comes to are looked at with
other characters behind the pattern, and inside groups that are open around it.
-/

namespace ShellSuite.Regex

variable {r r' : Reader} {cs rest : List Char} {depth : Nat}

/-- The reader comes from one place of a pattern to another one, and wherever it is in between at
least `depth` groups are open. -/
inductive Reads (depth : Nat) : Reader → List Char → Reader → List Char → Prop
  | refl (r : Reader) (cs : List Char) : Reads depth r cs r cs
  | step {r r₁ r' : Reader} {c : Char} {cs cs₁ rest rest' : List Char} {x : Construct}
      (hskip : r.flags.skip cs = c :: rest) (hread : readConstruct r.flags c rest = .ok (x, cs₁))
      (happly : r.apply x = .ok r₁) (hdepth : depth ≤ r₁.outer.length)
      (hreads : Reads depth r₁ cs₁ r' rest') : Reads depth r cs r' rest'

/-- The reader comes to some characters, behind blanks and comments. -/
def ComesTo (depth : Nat) (r : Reader) (cs : List Char) (r' : Reader) (goal : List Char) : Prop :=
  ∃ rest, Reads depth r cs r' rest ∧ r'.flags.skip rest = goal

private theorem length_lt_of_readConstruct {f : Flags} {c : Char} {cs₁ : List Char} {x : Construct}
    (hskip : f.skip cs = c :: rest) (hread : readConstruct f c rest = .ok (x, cs₁)) :
    cs₁.length < cs.length := by
  have hlength := f.skip_length_le cs
  have hrest := readConstruct_leaves _ _ _ x cs₁ hread
  rw [hskip, List.length_cons] at hlength
  omega

namespace Reads

theorem length_le (h : Reads depth r cs r' rest) : rest.length ≤ cs.length := by
  induction h with
  | refl => exact Nat.le_refl _
  | step hskip hread _ _ _ ih =>
    exact Nat.le_trans ih (Nat.le_of_lt (length_lt_of_readConstruct hskip hread))

theorem unique {depth' : Nat} {s : Reader} (h : Reads depth r cs r' rest)
    (h' : Reads depth' r cs s rest) : r' = s := by
  induction h with
  | refl r cs =>
    cases h' with
    | refl => rfl
    | step hskip hread _ _ hreads =>
      have hlt := length_lt_of_readConstruct hskip hread
      exact absurd hreads.length_le (Nat.not_le.mpr hlt)
  | step hskip hread happly _ hreads ih =>
    cases h' with
    | refl =>
      have hlt := length_lt_of_readConstruct hskip hread
      exact absurd hreads.length_le (Nat.not_le.mpr hlt)
    | step hskip' hread' happly' _ hreads' =>
      cases hskip.symm.trans hskip'
      cases hread.symm.trans hread'
      cases happly.symm.trans happly'
      exact ih hreads'

theorem single {c : Char} {cs₁ : List Char} {x : Construct} (hskip : r.flags.skip cs = c :: rest)
    (hread : readConstruct r.flags c rest = .ok (x, cs₁)) (happly : r.apply x = .ok r') :
    Reads 0 r cs r' cs₁ :=
  .step hskip hread happly (Nat.zero_le _) (.refl r' cs₁)

theorem trans {r'' : Reader} {rest' : List Char} (h : Reads depth r cs r' rest)
    (h' : Reads depth r' rest r'' rest') : Reads depth r cs r'' rest' := by
  induction h with
  | refl => exact h'
  | step hskip hread happly hdepth _ ih => exact .step hskip hread happly hdepth (ih h')

theorem mono {depth' : Nat} (h : Reads depth r cs r' rest) (hle : depth' ≤ depth) :
    Reads depth' r cs r' rest := by
  induction h with
  | refl => exact .refl _ _
  | step hskip hread happly hdepth _ ih =>
    exact .step hskip hread happly (Nat.le_trans hle hdepth) ih

end Reads

theorem ComesTo.length_le {goal : List Char} (h : ComesTo depth r cs r' goal) :
    goal.length ≤ cs.length := by
  obtain ⟨rest, hreads, rfl⟩ := h
  exact Nat.le_trans (r'.flags.skip_length_le rest) hreads.length_le

theorem ComesTo.step {r₁ : Reader} {c : Char} {cs₁ rest goal : List Char} {x : Construct}
    (hskip : r.flags.skip cs = c :: rest) (hread : readConstruct r.flags c rest = .ok (x, cs₁))
    (happly : r.apply x = .ok r₁) (hdepth : depth ≤ r₁.outer.length)
    (h : ComesTo depth r₁ cs₁ r' goal) : ComesTo depth r cs r' goal := by
  obtain ⟨rest', hreads, hgoal⟩ := h
  exact ⟨rest', .step hskip hread happly hdepth hreads, hgoal⟩

/-! ### The whole pattern -/

private theorem Reader.step_eq_ok {c : Char} :
    r.step c cs = .ok (r', rest) ↔
      ∃ x, readConstruct r.flags c cs = .ok (x, rest) ∧ r.apply x = .ok r' := by
  constructor
  · intro h
    obtain ⟨⟨x, rest'⟩, hread, hx⟩ := bind_eq_ok h
    obtain ⟨r₁, happly, hpure⟩ := bind_eq_ok hx
    cases hpure
    exact ⟨x, hread, happly⟩
  · rintro ⟨x, hread, happly⟩
    simp only [step, hread]
    change (r.apply x >>= fun r₁ => pure (r₁, rest)) = _
    rw [happly]
    rfl

private theorem Reader.run_eq_ok_iff {n : Nat} (hn : cs.length < n) :
    r.run n cs = .ok r' ↔ ComesTo 0 r cs r' [] := by
  constructor
  · intro h
    induction n generalizing r cs with
    | zero => exact absurd hn (Nat.not_lt_zero _)
    | succ n ih =>
      simp only [run] at h
      cases hskip : r.flags.skip cs with
      | nil =>
        rw [hskip] at h
        cases h
        exact ⟨cs, .refl _ cs, hskip⟩
      | cons c rest =>
        rw [hskip] at h
        dsimp only at h
        split at h
        next r₁ cs₁ hstep =>
          obtain ⟨x, hread, happly⟩ := step_eq_ok.mp hstep
          have hlt := length_lt_of_readConstruct hskip hread
          exact .step hskip hread happly (Nat.zero_le _) (ih (by omega) h)
        next => cases h
  · rintro ⟨rest, hreads, hend⟩
    induction hreads generalizing n with
    | refl r cs =>
      obtain ⟨n, rfl⟩ : ∃ k, n = k + 1 := ⟨n - 1, by omega⟩
      rw [run, hend]
    | @step r r₁ _ c cs cs₁ rest _ x hskip hread happly _ _ ih =>
      obtain ⟨n, rfl⟩ : ∃ k, n = k + 1 := ⟨n - 1, by omega⟩
      have hlt := length_lt_of_readConstruct hskip hread
      rw [run, hskip]
      simp only [step_eq_ok.mpr ⟨x, hread, happly⟩]
      exact ih (by omega) hend

theorem read_eq_ok_iff : read cs = .ok r ↔ ComesTo 0 .start cs r [] ∧ r.outer = [] := by
  rw [← Reader.run_eq_ok_iff (Nat.lt_succ_self cs.length), read]
  constructor
  · intro h
    obtain ⟨r₁, hrun, hr⟩ := bind_eq_ok h
    split at hr
    next hopen =>
      cases hr
      exact ⟨hrun, List.isEmpty_iff.mp hopen⟩
    next => cases hr
  · rintro ⟨hrun, hopen⟩
    rw [hrun]
    exact if_pos (List.isEmpty_iff.mpr hopen)

/-! ### Other characters behind a pattern -/

theorem ComesTo.of_append {tail : List Char}
    (h : ComesTo depth r (cs ++ ')' :: tail) r' (')' :: tail)) :
    ComesTo depth r cs r' [] ∧
      ∀ tail, ComesTo depth r (cs ++ ')' :: tail) r' (')' :: tail) := by
  obtain ⟨rest, hreads, hgoal⟩ := h
  generalize hwhole : cs ++ ')' :: tail = whole at hreads
  induction hreads generalizing cs with
  | refl r whole =>
    subst hwhole
    rcases r.flags.skip_append cs with hsame | ⟨-, -, hover⟩
    · have hnil : r.flags.skip cs = [] := by simpa [hsame] using hgoal
      refine ⟨⟨cs, .refl r cs, hnil⟩, fun tail' => ⟨_, .refl r _, ?_⟩⟩
      rw [hsame, hnil, List.nil_append]
    · have hlength := hover tail
      rw [hgoal, List.length_cons] at hlength
      omega
  | @step r r₁ r' c whole cs₁ rest rest' x hskip hread happly hdepth hreads ih =>
    subst hwhole
    -- The reader does not come back to the parenthesis once it has passed it.
    have hpassed : tail.length < cs₁.length := ComesTo.length_le ⟨rest', hreads, hgoal⟩
    have hrest := readConstruct_leaves _ _ _ x cs₁ hread
    rcases r.flags.skip_append cs with hsame | ⟨-, -, hover⟩
    · rw [hsame] at hskip
      cases hcs : r.flags.skip cs with
      | nil =>
        rw [hcs] at hskip
        cases hskip
        omega
      | cons d front =>
        rw [hcs] at hskip
        cases hskip
        rcases readConstruct_meets r.flags c front with ⟨v, front', halone, hinside⟩ | ⟨-, hlost⟩
        · cases (hinside tail).symm.trans hread
          obtain ⟨hfront, hall⟩ := ih hgoal rfl
          refine ⟨hfront.step hcs halone happly hdepth, fun tail' => ?_⟩
          exact (hall tail').step (by rw [hsame, hcs]; rfl) (hinside tail') happly hdepth
        · rcases hlost tail x cs₁ hread with hle | ⟨⟨y, rfl⟩, idle, rfl, hidle⟩
          · omega
          · -- The construct that starts with the brace passes the parenthesis.
            cases happly
            cases hreads with
            | refl =>
              rw [Flags.skip_cons rfl (by decide)] at hgoal
              cases hgoal
            | step hskip' hread' _ _ hreads' =>
              rw [Flags.skip_cons rfl (by decide)] at hskip'
              cases hskip'
              have hle := readConstruct_brace hidle tail _ _ hread'
              have hlt := ComesTo.length_le ⟨rest', hreads', hgoal⟩
              rw [List.length_cons] at hlt
              omega
    · have hlength := hover tail
      rw [hskip, List.length_cons] at hlength
      omega

/-- A pattern that is read alone is read in front of a parenthesis, too, unless it ends in a
comment, to which the parenthesis then belongs. -/
theorem ComesTo.append (h : ComesTo depth r cs r' []) :
    (∀ tail, ComesTo depth r (cs ++ ')' :: tail) r' (')' :: tail)) ∨
      ComesTo depth r (cs ++ [')']) r' [] := by
  obtain ⟨rest, hreads, hend⟩ := h
  induction hreads with
  | refl r cs =>
    rcases r.flags.skip_append cs with hsame | ⟨-, hover, -⟩
    · exact .inl fun tail => ⟨_, .refl r _, by rw [hsame, hend, List.nil_append]⟩
    · exact .inr ⟨_, .refl r _, hover⟩
  | @step r r₁ r' c cs cs₁ front rest x hskip hread happly hdepth hreads ih =>
    have hsame (tail : List Char) :
        r.flags.skip (cs ++ ')' :: tail) = c :: (front ++ ')' :: tail) := by
      rcases r.flags.skip_append cs with hsame | ⟨hnil, -, -⟩
      · rw [hsame, hskip, List.cons_append]
      · rw [hnil] at hskip
        cases hskip
    rcases readConstruct_meets r.flags c front with ⟨v, front', halone, hinside⟩ | ⟨hover, -⟩
    · cases halone.symm.trans hread
      rcases ih hend with hall | hcomment
      · exact .inl fun tail => (hall tail).step (hsame tail) (hinside tail) happly hdepth
      · exact .inr (hcomment.step (hsame []) (hinside []) happly hdepth)
    · obtain ⟨rfl, hparen⟩ := hover x cs₁ hread
      exact .inr (.step (hsame []) hparen happly hdepth ⟨rest, hreads, hend⟩)

theorem Reads.comesTo_of_comesTo {depth' : Nat} {s : Reader} (h : Reads depth r cs r' rest)
    (hend : ComesTo depth' r cs s []) : ComesTo depth' r' rest s [] := by
  induction h with
  | refl => exact hend
  | step hskip hread happly _ _ ih =>
    obtain ⟨rest', hreads, hnil⟩ := hend
    cases hreads with
    | refl =>
      rw [hskip] at hnil
      cases hnil
    | step hskip' hread' happly' _ hreads' =>
      cases hskip.symm.trans hskip'
      cases hread.symm.trans hread'
      cases happly.symm.trans happly'
      exact ih ⟨rest', hreads', hnil⟩

/-! ### Groups around a pattern -/

/-- The reader inside other groups, if other names are taken. -/
def Reader.within (r : Reader) (outer : List (Flags × Branches)) (names : List String) : Reader :=
  { r with outer := r.outer ++ outer, names := r.names ++ names }

namespace Reader

variable {outer : List (Flags × Branches)} {names : List String} {x : Construct}

@[simp] theorem within_flags : (r.within outer names).flags = r.flags := rfl

@[simp] theorem within_current : (r.within outer names).current = r.current := rfl

@[simp] theorem within_outer : (r.within outer names).outer = r.outer ++ outer := rfl

@[simp] theorem within_names : (r.within outer names).names = r.names ++ names := rfl

private theorem names_of_apply (h : r.apply x = .ok r') :
    r'.names = r.names ∨ ∃ name, name ∉ r.names ∧ r'.names = name :: r.names := by
  cases x with
  | part | flags | branch =>
    cases h
    exact .inl rfl
  | again make =>
    simp only [apply] at h
    split at h
    · cases h
      exact .inl rfl
    · cases h
  | enter f name =>
    simp only [apply] at h
    split at h
    · cases h
    next hname =>
      cases h
      cases name with
      | none => exact .inl rfl
      | some n => exact .inr ⟨n, by simpa using hname, rfl⟩
  | leave =>
    simp only [apply] at h
    split at h
    · cases h
    · cases h
      exact .inl rfl

private theorem apply_within_iff_of_eq {s : Reader}
    (h : (r.within outer names).apply x = .ok (r'.within outer names)) (hnames : r'.names = r.names) :
    (r.within outer names).apply x = .ok s ↔
      s = r'.within outer names ∧ ∀ name ∈ r'.names, name ∈ r.names ∨ name ∉ names := by
  rw [h, hnames]
  constructor
  · rintro ⟨⟩
    exact ⟨rfl, fun name hname => .inl hname⟩
  · rintro ⟨rfl, -⟩
    rfl

private theorem apply_within_iff {s : Reader} (h : r.apply x = .ok r') :
    (r.within outer names).apply x = .ok s ↔
      s = r'.within outer names ∧ ∀ name ∈ r'.names, name ∈ r.names ∨ name ∉ names := by
  cases x with
  | part | flags | branch =>
    cases h
    exact apply_within_iff_of_eq rfl rfl
  | again make =>
    simp only [apply] at h
    split at h
    next hparts =>
      cases h
      exact apply_within_iff_of_eq (by simp only [apply, within_current, hparts]; rfl) rfl
    next => cases h
  | enter f name =>
    simp only [apply] at h
    split at h
    · cases h
    next hname =>
      cases h
      cases name with
      | none => exact apply_within_iff_of_eq rfl rfl
      | some n =>
        have hold : n ∉ r.names := by simpa using hname
        simp only [apply, Option.any_some, within_names, List.contains_append, Bool.or_eq_true,
          List.contains_iff_mem, hold, false_or]
        by_cases hnew : n ∈ names
        · simp [hold, hnew]
        · rw [if_neg hnew]
          constructor
          · rintro ⟨⟩
            refine ⟨rfl, fun name hmem => ?_⟩
            rcases List.mem_cons.mp hmem with rfl | hmem
            · exact .inr hnew
            · exact .inl hmem
          · rintro ⟨rfl, -⟩
            rfl
  | leave =>
    simp only [apply] at h
    split at h
    · cases h
    next houter =>
      cases h
      exact apply_within_iff_of_eq (by simp only [apply, within_outer, houter]; rfl) rfl

private theorem exists_apply_of_within {s : Reader} (h : (r.within outer names).apply x = .ok s)
    (hdepth : outer.length ≤ s.outer.length) : ∃ r', r.apply x = .ok r' := by
  cases x with
  | part | flags | branch => exact ⟨_, rfl⟩
  | again make =>
    simp only [apply, within_current] at h ⊢
    split at h
    · exact ⟨_, rfl⟩
    · cases h
  | enter f name =>
    simp only [apply] at h ⊢
    split at h
    · cases h
    next hname =>
      cases name with
      | none => exact ⟨_, rfl⟩
      | some n =>
        have hold : n ∉ r.names := fun hn => hname (by simp [hn])
        exact ⟨_, if_neg (by simpa using hold)⟩
  | leave =>
    simp only [apply, within_outer] at h ⊢
    cases houter : r.outer with
    | nil =>
      -- The group that is left is one of the others.
      rw [houter] at h
      cases outer with
      | nil => cases h
      | cons g outer =>
        cases h
        exact absurd hdepth (Nat.not_succ_le_self _)
    | cons g outer' => exact ⟨_, rfl⟩

end Reader

namespace Reads

variable {outer : List (Flags × Branches)} {names : List String}

private theorem names_subset (h : Reads depth r cs r' rest) :
    ∀ name ∈ r.names, name ∈ r'.names := by
  induction h with
  | refl => exact fun _ h => h
  | step _ _ happly _ _ ih =>
    intro name hname
    rcases Reader.names_of_apply happly with hsame | ⟨new, -, hcons⟩
    · exact ih name (hsame ▸ hname)
    · exact ih name (hcons ▸ List.mem_cons_of_mem new hname)

theorem nodup_names (h : Reads depth r cs r' rest) (hnodup : r.names.Nodup) : r'.names.Nodup := by
  induction h with
  | refl => exact hnodup
  | step _ _ happly _ _ ih =>
    rcases Reader.names_of_apply happly with hsame | ⟨new, hnew, hcons⟩
    · exact ih (hsame ▸ hnodup)
    · exact ih (hcons ▸ List.nodup_cons.mpr ⟨hnew, hnodup⟩)

theorem within (h : Reads depth r cs r' rest) (hfresh : ∀ name ∈ r'.names, name ∉ names) :
    Reads outer.length (r.within outer names) cs (r'.within outer names) rest := by
  induction h with
  | refl => exact .refl _ _
  | step hskip hread happly _ hreads ih =>
    refine .step hskip hread ((Reader.apply_within_iff happly).mpr ⟨rfl, fun name hname => ?_⟩)
      (by simp) (ih hfresh)
    exact .inr (hfresh name (hreads.names_subset name hname))

private theorem of_within {s : Reader} (h : Reads outer.length (r.within outer names) cs s rest) :
    ∃ r', Reads 0 r cs r' rest ∧ s = r'.within outer names ∧
      ∀ name ∈ r'.names, name ∈ r.names ∨ name ∉ names := by
  generalize hr : r.within outer names = r₀ at h
  induction h generalizing r with
  | refl =>
    subst hr
    exact ⟨r, .refl _ _, rfl, fun name hname => .inl hname⟩
  | step hskip hread happly hdepth _ ih =>
    subst hr
    obtain ⟨r₁, happly₁⟩ := Reader.exists_apply_of_within happly hdepth
    obtain ⟨rfl, hnames₁⟩ := (Reader.apply_within_iff happly₁).mp happly
    obtain ⟨r', hreads, hs, hnames⟩ := ih rfl
    refine ⟨r', .step hskip hread happly₁ (Nat.zero_le _) hreads, hs, ?_⟩
    intro name hname
    rcases hnames name hname with hmem | hnew
    · exact hnames₁ name hmem
    · exact .inr hnew

theorem fresh_of_comesTo {depth' : Nat} {s : Reader} (h : Reads depth r cs r' rest)
    (hend : ComesTo depth' (r.within outer names) cs s [])
    (hfresh : ∀ name ∈ r.names, name ∉ names) : ∀ name ∈ r'.names, name ∉ names := by
  induction h with
  | refl => exact hfresh
  | step hskip hread happly _ _ ih =>
    obtain ⟨rest', hreads, hnil⟩ := hend
    cases hreads with
    | refl =>
      rw [Reader.within_flags, hskip] at hnil
      cases hnil
    | step hskip' hread' happly' _ hreads' =>
      cases hskip.symm.trans hskip'
      cases hread.symm.trans hread'
      obtain ⟨rfl, hnames⟩ := (Reader.apply_within_iff happly).mp happly'
      refine ih ⟨rest', hreads', hnil⟩ fun name hname => ?_
      rcases hnames name hname with hold | hnew
      · exact hfresh name hold
      · exact hnew

end Reads

/-! ### Patterns that stand between parentheses -/

/-- A pattern is read on its own, and a parenthesis behind it does not become a part of it. -/
def Whole (cs : List Char) (r : Reader) : Prop :=
  read cs = .ok r ∧ ∀ s, read (cs ++ [')']) ≠ .ok s

theorem whole_iff : Whole cs r ↔
    r.outer = [] ∧ ∀ tail, ComesTo 0 .start (cs ++ ')' :: tail) r (')' :: tail) := by
  constructor
  · rintro ⟨hread, hparen⟩
    obtain ⟨hend, houter⟩ := read_eq_ok_iff.mp hread
    rcases hend.append with hall | hcomment
    · exact ⟨houter, hall⟩
    · exact absurd (read_eq_ok_iff.mpr ⟨hcomment, houter⟩) (hparen r)
  · rintro ⟨houter, hall⟩
    refine ⟨read_eq_ok_iff.mpr ⟨(hall []).of_append.1, houter⟩, fun s hs => ?_⟩
    -- The reader comes to the parenthesis, and no group is open.
    obtain ⟨rest, hreads, hrest⟩ := hall []
    obtain ⟨rest', hreads', hend⟩ := hreads.comesTo_of_comesTo (read_eq_ok_iff.mp hs).1
    cases hreads' with
    | refl =>
      rw [hrest] at hend
      cases hend
    | step hskip hread happly _ _ =>
      cases hrest.symm.trans hskip
      cases hread
      simp [Reader.apply, houter] at happly

/-- What the reader comes to in other groups, at the parenthesis that closes the innermost one. -/
theorem comesTo_within_iff {outer : List (Flags × Branches)} {names : List String} {s : Reader}
    {tail : List Char} :
    ComesTo outer.length (Reader.start.within outer names) (cs ++ ')' :: tail) s (')' :: tail) ∧
        s.outer.length = outer.length ↔
      ∃ r, Whole cs r ∧ (∀ name ∈ r.names, name ∉ names) ∧ s = r.within outer names := by
  constructor
  · rintro ⟨⟨rest, hreads, hrest⟩, houter⟩
    obtain ⟨r, hreads', rfl, hnames⟩ := hreads.of_within
    have hcomes : ComesTo 0 .start (cs ++ ')' :: tail) r (')' :: tail) := ⟨rest, hreads', hrest⟩
    have hopen : r.outer = [] := by simpa using houter
    refine ⟨r, whole_iff.mpr ⟨hopen, hcomes.of_append.2⟩, fun name hname => ?_, rfl⟩
    exact (hnames name hname).resolve_left (by simp [Reader.start])
  · rintro ⟨r, hwhole, hnames, rfl⟩
    obtain ⟨hopen, hall⟩ := whole_iff.mp hwhole
    obtain ⟨rest, hreads, hrest⟩ := hall tail
    exact ⟨⟨rest, hreads.within hnames, hrest⟩, by simp [hopen]⟩

end ShellSuite.Regex
