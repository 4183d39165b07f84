import ShellSuite.Dict
import ShellSuite.Path

set_option autoImplicit false
set_option relaxedAutoImplicit false

/-!
Literal substitutions. Where several keys match at one place, the longest one wins, and what is
put in is not looked at again.
-/

namespace ShellSuite

/-- Whether a key stands before another one in a table; lengths are in bytes. -/
def Substitutions.keyBefore (a b : String) : Bool :=
  b.utf8ByteSize < a.utf8ByteSize || (a.utf8ByteSize = b.utf8ByteSize && a < b)

/-- A table of literal substitutions: longer keys first, keys of one length in ascending order, and
no empty key. -/
structure Substitutions where
  entries : List (String × String)
  sorted : entries.Pairwise fun a b => Substitutions.keyBefore a.1 b.1
  nonempty : ∀ e ∈ entries, e.1 ≠ ""
  deriving DecidableEq, Repr

namespace Substitutions

def empty : Substitutions := ⟨[], List.Pairwise.nil, by simp⟩

instance : Inhabited Substitutions := ⟨empty⟩

theorem keyBefore_irrefl (a : String) : keyBefore a a = false := by
  simp only [keyBefore, Nat.lt_irrefl, String.lt_irrefl, decide_false, Bool.and_false, Bool.or_self]

theorem keyBefore_trans {a b c : String} (hab : keyBefore a b) (hbc : keyBefore b c) :
    keyBefore a c := by
  simp only [keyBefore, Bool.or_eq_true, Bool.and_eq_true, decide_eq_true_eq] at hab hbc ⊢
  rcases hab with hab | ⟨hab, lab⟩ <;> rcases hbc with hbc | ⟨hbc, lbc⟩
  · left; omega
  · left; omega
  · left; omega
  · exact Or.inr ⟨hab.trans hbc, String.lt_trans lab lbc⟩

private theorem keyBefore_of_not {a b : String} (hne : b ≠ a) (h : ¬ keyBefore a b) :
    keyBefore b a := by
  simp only [keyBefore, Bool.or_eq_true, Bool.and_eq_true, decide_eq_true_eq, not_or, not_and,
    Nat.not_lt] at h ⊢
  rcases Nat.lt_or_eq_of_le h.1 with hlt | heq
  · exact Or.inl hlt
  · refine Or.inr ⟨heq.symm, Decidable.byContradiction fun notLess => hne ?_⟩
    exact String.le_antisymm (String.not_lt.mp (h.2 heq)) (String.not_lt.mp notLess)

def place (key value : String) : List (String × String) → List (String × String)
  | [] => [(key, value)]
  | e :: es =>
    if e.1 = key then (key, value) :: es
    else if keyBefore key e.1 then (key, value) :: e :: es
    else e :: place key value es

private theorem mem_place {key value : String} {es : List (String × String)} {x : String × String}
    (h : x ∈ place key value es) : x = (key, value) ∨ x ∈ es := by
  induction es with
  | nil => simpa [place] using h
  | cons e es ih =>
    simp only [place] at h
    split at h
    · rcases List.mem_cons.mp h with h | h
      · exact Or.inl h
      · exact Or.inr (List.mem_cons_of_mem _ h)
    · split at h
      · simpa using h
      · rcases List.mem_cons.mp h with h | h
        · exact Or.inr (h ▸ List.mem_cons_self)
        · exact (ih h).imp_right (List.mem_cons_of_mem _)

private theorem place_sorted {key value : String} {es : List (String × String)}
    (h : es.Pairwise fun a b => keyBefore a.1 b.1) :
    (place key value es).Pairwise fun a b => keyBefore a.1 b.1 := by
  induction es with
  | nil => simp [place]
  | cons e es ih =>
    rw [List.pairwise_cons] at h
    simp only [place]
    split
    · rename_i same
      exact List.Pairwise.cons (fun x hx => same ▸ h.1 x hx) h.2
    · rename_i different
      split
      · rename_i before
        refine List.Pairwise.cons ?_ (List.Pairwise.cons h.1 h.2)
        intro x hx
        rcases List.mem_cons.mp hx with hx | hx
        · exact hx ▸ before
        · exact keyBefore_trans before (h.1 x hx)
      · rename_i notBefore
        refine List.Pairwise.cons ?_ (ih h.2)
        intro x hx
        rcases mem_place hx with hx | hx
        · exact hx ▸ keyBefore_of_not different notBefore
        · exact h.1 x hx

/-- Adds or replaces a substitution; the empty key is ignored. -/
def insert (t : Substitutions) (key value : String) : Substitutions :=
  if h : key = "" then t
  else ⟨place key value t.entries, place_sorted t.sorted, by
    intro e he
    rcases mem_place he with he | he
    · exact he ▸ h
    · exact t.nonempty e he⟩

def extend (t : Substitutions) (d : Dict String) : Substitutions :=
  d.entries.foldl (fun t e => t.insert e.1 e.2) t

def keys (t : Substitutions) : List String :=
  t.entries.map (·.1)

def isEmpty (t : Substitutions) : Bool :=
  t.entries.isEmpty

def matchAt (t : Substitutions) (cs : List Char) : Option (String × String) :=
  t.entries.find? fun e => e.1.toList.isPrefixOf cs

def applyChars (t : Substitutions) : List Char → List Char
  | [] => []
  | c :: cs =>
    match t.matchAt (c :: cs) with
    | some (key, value) => value.toList ++ applyChars t (cs.drop (key.length - 1))
    | none => c :: applyChars t cs
termination_by cs => cs.length
decreasing_by
  all_goals simp only [List.length_drop, List.length_cons]; omega

/-- Replaces every key in a text in one pass from left to right. -/
def apply (t : Substitutions) (s : String) : String :=
  String.ofList (t.applyChars s.toList)

def sourceDir (test : Path) : Path :=
  test.parent.getD ⟨"."⟩

/-- What every test can write: `%s` the test file, `%S` and `%p` its directory, `%t` a file in the
scratch directory, `%T` that directory, and `%%` a percent sign. -/
def forTest (test scratch : Path) : Substitutions :=
  let file := test.fileName.getD "test"
  empty
    |>.insert "%s" test.text
    |>.insert "%S" (sourceDir test).text
    |>.insert "%p" (sourceDir test).text
    |>.insert "%t" (scratch.child (file ++ ".tmp")).text
    |>.insert "%T" scratch.text
    |>.insert "%%" "%"

end Substitutions

end ShellSuite
