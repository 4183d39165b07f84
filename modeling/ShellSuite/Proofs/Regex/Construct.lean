import ShellSuite.Proofs.Regex.Bracket

set_option autoImplicit false
set_option relaxedAutoImplicit false

/-!
Constructs in front of a closing parenthesis.
-/

namespace ShellSuite.Regex

/-! ### Groups -/

private theorem readFlags_local (f : Flags) (named : List Char) (negated last : Bool) :
    Local 0 0 (readFlags f named negated last) where
  leaves cs := by
    induction cs generalizing f named negated last with
    | nil => exact leaves_error
    | cons c cs ih =>
      simp only [readFlags]
      repeat' split
      · exact leaves_error
      · exact leaves_ok (Nat.le_succ _)
      · exact leaves_error
      · exact (ih _ _ _ _).mono (Nat.le_succ _)
      · exact leaves_error
      · exact (ih _ _ _ _).mono (Nat.le_succ _)
      · exact leaves_error
  meets cs := by
    induction cs generalizing f named negated last with
    | nil =>
      refine .of_error rfl fun tail => ?_
      cases last with
      | false => exact leaves_ok (Nat.le_refl _)
      | true => exact leaves_error
    | cons c cs ih =>
      simp only [readFlags, List.cons_append]
      repeat' split
      · exact .of_errors rfl fun _ => ⟨_, rfl⟩
      · exact .same _ cs rfl fun _ => rfl
      · exact .of_errors rfl fun _ => ⟨_, rfl⟩
      · exact ih _ _ _ _
      · exact .of_errors rfl fun _ => ⟨_, rfl⟩
      · exact ih _ _ _ _
      · exact .of_errors rfl fun _ => ⟨_, rfl⟩

private theorem readNamed_local (f : Flags) : Local 0 0 (readNamed f) := by
  have hname (name : List Char) : Local 0 0 fun rest =>
      if isGroupName name then .ok (Construct.enter f (some (String.ofList name)), rest)
      else .error .badGroupName := by
    split
    · exact .ok _
    · exact .error _
  exact .upTo rfl hname

private theorem readSetting_local (f : Flags) : Local 0 0 (readSetting f) := by
  have hlocal (named : Bool) : Local 0 0 fun cs =>
      readFlags f [] false false cs >>= fun x => do return (← x.1.1.setting x.1.2 named, x.2) :=
    (readFlags_local f [] false false).bind fun x => by dsimp only; exact .value _ _
  constructor
  · exact fun cs => (hlocal (cs.head? ≠ some ')')).leaves cs
  · intro cs
    cases cs with
    | nil => exact .of_errors rfl fun _ => ⟨_, rfl⟩
    | cons c cs => exact (hlocal (some c ≠ some ')')).meets (c :: cs)

private theorem readModifier_local (f : Flags) : Local 0 0 (readModifier f) := by
  refine .peek (readSetting_local f) rfl fun c => ?_
  by_cases hname : c = '<'
  · subst hname
    exact .inr ⟨by decide, (readNamed_local f).mono (Nat.le_refl 0) (Nat.zero_le 1)⟩
  · by_cases hp : c = 'P'
    · subst hp
      refine .inr ⟨by decide, .mono (.peek (.error .badFlags) rfl fun d => ?_) (Nat.le_refl 0)
        (Nat.zero_le 1)⟩
      by_cases hd : d = '<'
      · subst hd
        exact .inr ⟨by decide, (readNamed_local f).mono (Nat.le_refl 0) (Nat.zero_le 1)⟩
      · exact .inl fun cs => by simp [readModifier, hd]; rfl
    · exact .inl fun cs => by simp [readModifier, hname, hp]

private theorem readGroup_local (f : Flags) : Local 0 0 (readGroup f) := by
  refine .peek (.ok (.enter f none)) rfl fun c => ?_
  by_cases hc : c = '?'
  · subst hc
    exact .inr ⟨by decide, (readModifier_local f).mono (Nat.le_refl 0) (Nat.zero_le 1)⟩
  · exact .inl fun cs => by simp [readGroup, hc]

/-! ### Repetitions -/

private theorem readGreed_local (f : Flags) : Local 0 0 fun cs => .ok (readGreed f cs) := by
  refine .peek (.ok (!f.swapGreed)) rfl fun c => ?_
  by_cases hc : c = '?'
  · subst hc
    exact .inr ⟨by decide, (Local.ok f.swapGreed).mono (Nat.le_refl 0) (Nat.zero_le 1)⟩
  · exact .inl fun cs => by simp [readGreed, hc]

private theorem readLoop_local (f : Flags) (make : Bool → Regex → Regex) :
    Local 0 0 fun cs => .ok (readLoop f make cs) :=
  (readGreed_local f).bind (g := fun x => .ok (Construct.again (make x.1), x.2))
    fun greedy => .ok (Construct.again (make greedy))

private theorem readCount_local (f : Flags) : Local 0 0 (readCount f) where
  leaves cs := by
    refine leaves_value _ _ (Nat.le_trans (f.skip_length_le _) ?_)
    exact Nat.le_trans (dropWhile_length_le _ _)
      (Nat.le_trans (dropWhile_length_le _ _) (dropWhile_length_le _ cs))
  meets cs := by
    have hdigit : f.isDigit ')' = false := by simp [Flags.isDigit, Text.isBlank]
    simp only [readCount, Text.dropBlanks, dropWhile_append_paren (p := Text.isBlank) rfl,
      dropWhile_append_paren hdigit]
    exact ((Local.value (countOf _) fun count => count).skip f).meets _

private theorem closeCount_local (f : Flags) (make : Bool → Regex → Regex) :
    Local 0 0 (closeCount f make) := by
  refine .take rfl fun c => ?_
  by_cases hc : c = '\x7d'
  · subst hc
    exact (readLoop_local f make).skip f
  · have herror : (fun cs => closeCount f make (c :: cs)) = fun _ => .error .badCount := by
      funext cs
      simp [closeCount, hc]
    rw [herror]
    exact .error _

private theorem readUpTo_local (f : Flags) (least : Nat) : Local 0 0 (readUpTo f least) := by
  refine (readCount_local f).bind fun most => ?_
  cases most with
  | none => exact .error _
  | some most =>
    dsimp only
    split
    · exact .error _
    · exact closeCount_local f _

private theorem readMost_local (f : Flags) (least : Nat) : Local 0 0 (readMost f least) := by
  refine .peek (readUpTo_local f least) rfl fun c => ?_
  by_cases hc : c = '\x7d'
  · subst hc
    refine .inr ⟨by decide, ?_⟩
    simp only [readMost, List.head?_cons, if_true]
    exact (closeCount_local f _).cons '\x7d'
  · refine .inl fun cs => ?_
    have hhead : (c :: cs).head? ≠ some '\x7d' := by simpa using hc
    exact if_neg hhead

private theorem readRepeat_local (f : Flags) (least : Nat) : Local 0 0 (readRepeat f least) := by
  refine .peek (closeCount_local f fun _ x => .times x least) rfl fun c => ?_
  by_cases hc : c = ','
  · subst hc
    exact .inr ⟨by decide, ((readMost_local f least).skip f).mono (Nat.le_refl 0) (Nat.zero_le 1)⟩
  · exact .inl fun cs => by simp [readRepeat, hc]

private theorem readCounted_local (f : Flags) : Local 0 0 (readCounted f) := by
  refine (readCount_local f).bind fun least => ?_
  cases least with
  | none => exact .error _
  | some least => exact readRepeat_local f least

/-! ### Constructs -/

private theorem readConstruct_local (f : Flags) {c : Char} (hc : c ≠ '\\') :
    Local 0 0 (readConstruct f c) := by
  unfold readConstruct
  split
  all_goals first
    | exact (readGroup_local f).skip f
    | exact (readCounted_local f).skip f
    | exact readLoop_local f _
    | exact .ok _
    | exact .value _ _
    | exact (readClass_local f).bind fun x => .ok _
    | exact absurd rfl hc

theorem readConstruct_leaves (f : Flags) (c : Char) (cs : List Char) :
    Leaves cs.length (readConstruct f c cs) := by
  by_cases hc : c = '\\'
  · subst hc
    exact (readEscape_leaves f cs).bind fun u rest hrest => leaves_value _ _ hrest
  · exact (readConstruct_local f hc).leaves cs

def LostConstruct (f : Flags) (tail : List Char) (x : Construct) (rest : List Char) : Prop :=
  rest.length ≤ tail.length ∨ (∃ y, x = .part y 0) ∧ Pending f '\x7b' tail rest

theorem readConstruct_meets (f : Flags) (c : Char) (cs : List Char) :
    Meets (LostConstruct f) (readConstruct f c cs) fun tail =>
      readConstruct f c (cs ++ ')' :: tail) := by
  by_cases hc : c = '\\'
  · subst hc
    refine (readEscape_meets f cs).bind (fun u rest _ => .value _ _ rest)
      (fun u => leaves_value _ _ (Nat.le_refl 0)) ?_
    rintro tail u rest hlost x rest' hx
    obtain ⟨y, -, hrest⟩ := bind_eq_ok hx
    cases hrest
    exact hlost.imp_right fun h => ⟨⟨y, rfl⟩, h.2⟩
  · exact ((readConstruct_local f hc).meets cs).imp fun _ _ _ h => .inl h

theorem readConstruct_brace {f : Flags} {idle : List Char} (h : f.skip idle = [])
    (tail : List Char) : Leaves tail.length (readConstruct f '\x7b' (idle ++ ')' :: tail)) := by
  rcases f.skip_append idle with hsame | ⟨-, -, hover⟩
  · -- There is no count at all.
    have hcount : readCount f (')' :: tail) = .ok (none, f.skip (')' :: tail)) := by
      simp [readCount, Text.dropBlanks, Text.isBlank, Flags.isDigit, countOf]
    change Leaves _ (readCounted f (f.skip (idle ++ ')' :: tail)))
    rw [hsame, h, List.nil_append, readCounted, hcount]
    exact leaves_error
  · exact ((readCounted_local f).leaves _).mono (hover tail)

end ShellSuite.Regex
