import ShellSuite.Diff.Compact
import ShellSuite.Proofs.Diff.Script

set_option autoImplicit false
set_option relaxedAutoImplicit false

/-!
Edits as a way from the start of both lists of lines to their ends. Every move of the compaction
keeps the way, whatever lines it shifts an edit over. What an edit that only deletes or only inserts
says about its place in the other list is never looked at, and is not always true.
-/

namespace ShellSuite.Diff

/-- A place between lines: so many old and so many new ones are before it. -/
structure Point where
  old : Nat
  new : Nat
  deriving DecidableEq, Repr

namespace Point

/-- The place behind lines that are in both lists. -/
def on (p : Point) (n : Nat) : Point :=
  ⟨p.old + n, p.new + n⟩

@[simp]
theorem on_old (p : Point) (n : Nat) : (p.on n).old = p.old + n :=
  rfl

@[simp]
theorem on_new (p : Point) (n : Nat) : (p.on n).new = p.new + n :=
  rfl

@[simp]
theorem on_zero (p : Point) : p.on 0 = p :=
  rfl

@[simp]
theorem on_on (p : Point) (m n : Nat) : (p.on m).on n = p.on (m + n) := by
  simp [on, Nat.add_assoc]

end Point

namespace Lines

variable {ls : Lines} {p : Point} {m n : Nat}

/-- Behind a place, so many lines are the same in both lists. -/
def Same (ls : Lines) (p : Point) (n : Nat) : Prop :=
  ∀ i < n, ∃ line, ls.old[p.old + i]? = some line ∧ ls.new[p.new + i]? = some line

def stop (ls : Lines) : Point :=
  ⟨ls.old.length, ls.new.length⟩

theorem same_zero (ls : Lines) (p : Point) : ls.Same p 0 :=
  nofun

theorem Same.add (hm : ls.Same p m) (hn : ls.Same (p.on m) n) : ls.Same p (m + n) := by
  intro i hi
  by_cases him : i < m
  · exact hm i him
  · have hline := hn (i - m) (by omega)
    simp only [Point.on_old, Point.on_new, Nat.add_assoc] at hline
    rwa [show m + (i - m) = i by omega] at hline

theorem Same.first (h : ls.Same p n) (hm : m ≤ n) : ls.Same p m :=
  fun i hi => h i (Nat.lt_of_lt_of_le hi hm)

theorem Same.last (h : ls.Same p n) (hm : m ≤ n) : ls.Same (p.on m) (n - m) := by
  intro i hi
  have hline := h (m + i) (by omega)
  simpa only [Point.on_old, Point.on_new, Nat.add_assoc] using hline

theorem same_add_iff : ls.Same p (m + n) ↔ ls.Same p m ∧ ls.Same (p.on m) n := by
  constructor
  · intro h
    refine ⟨h.first (Nat.le_add_right m n), ?_⟩
    simpa only [Nat.add_sub_cancel_left] using h.last (Nat.le_add_right m n)
  · rintro ⟨hm, hn⟩
    exact hm.add hn

theorem Same.old_le (h : ls.Same p n) (hn : 0 < n) : p.old + n ≤ ls.old.length := by
  obtain ⟨line, hline, -⟩ := h (n - 1) (by omega)
  have hlt := (List.getElem?_eq_some_iff.mp hline).1
  omega

theorem Same.new_le (h : ls.Same p n) (hn : 0 < n) : p.new + n ≤ ls.new.length := by
  obtain ⟨line, -, hline⟩ := h (n - 1) (by omega)
  have hlt := (List.getElem?_eq_some_iff.mp hline).1
  omega

private theorem same_of_take_eq (h : (ls.old.drop p.old).take n = (ls.new.drop p.new).take n)
    (hn : p.old + n ≤ ls.old.length) : ls.Same p n := by
  intro i hi
  have hline := congrArg (·[i]?) h
  simp only [List.getElem?_take_of_lt hi, List.getElem?_drop] at hline
  have hlt : p.old + i < ls.old.length := by omega
  exact ⟨_, List.getElem?_eq_getElem hlt, hline ▸ List.getElem?_eq_getElem hlt⟩

theorem Same.take_eq (h : ls.Same p n) :
    (ls.old.drop p.old).take n = (ls.new.drop p.new).take n := by
  refine List.ext_getElem? ?_
  intro i
  by_cases hi : i < n
  · obtain ⟨line, hold, hnew⟩ := h i hi
    rw [List.getElem?_take_of_lt hi, List.getElem?_take_of_lt hi, List.getElem?_drop,
      List.getElem?_drop, hold, hnew]
  · rw [List.getElem?_take_eq_none (by omega), List.getElem?_take_eq_none (by omega)]

private theorem same_shared (old new : Span) :
    ls.Same ⟨old.start, new.start⟩ (shared (old.of ls.old) (new.of ls.new)) := by
  have hle := shared_le_left (old.of ls.old) (new.of ls.new)
  have hle' := shared_le_right (old.of ls.old) (new.of ls.new)
  have htake := take_shared (old.of ls.old) (new.of ls.new)
  generalize shared (old.of ls.old) (new.of ls.new) = n at *
  simp only [Span.of, List.length_take, List.length_drop, List.take_take] at hle hle' htake
  rw [Nat.min_eq_left (by omega), Nat.min_eq_left (by omega)] at htake
  intro i hi
  exact same_of_take_eq (p := ⟨old.start, new.start⟩) htake (by simp only; omega) i hi

private theorem same_sharedEnd (old new : Span) (hold : old.stop ≤ ls.old.length)
    (hnew : new.stop ≤ ls.new.length) {n : Nat}
    (hn : n = sharedEnd (old.of ls.old) (new.of ls.new)) :
    ls.Same ⟨old.stop - n, new.stop - n⟩ n := by
  have hle := sharedEnd_le_left (old.of ls.old) (new.of ls.new)
  have hle' := sharedEnd_le_right (old.of ls.old) (new.of ls.new)
  have hdrop := drop_sharedEnd (old.of ls.old) (new.of ls.new)
  rw [← hn] at hle hle' hdrop
  simp only [Span.stop] at hold hnew ⊢
  simp only [Span.of, List.length_take, List.length_drop] at hle hle' hdrop
  rw [Nat.min_eq_left (by omega), Nat.min_eq_left (by omega), List.drop_take, List.drop_take,
    List.drop_drop, List.drop_drop] at hdrop
  refine same_of_take_eq ?_ (by simp only; omega)
  simp only
  rwa [show old.start + (old.count - n) = old.start + old.count - n by omega,
    show new.start + (new.count - n) = new.start + new.count - n by omega,
    show old.count - (old.count - n) = n by omega,
    show new.count - (new.count - n) = n by omega] at hdrop

end Lines

/-! Ways -/

/-- An edit that keeps, deletes or inserts lines leads from one place to another one. For an edit
that only deletes or only inserts, the place in the other list that it names does not matter. -/
inductive Edit.Leads (ls : Lines) : Edit → Point → Point → Prop
  | keep {p : Point} {n : Nat} : 0 < n → ls.Same p n →
      Leads ls ⟨.keep, ⟨p.old, n⟩, ⟨p.new, n⟩⟩ p (p.on n)
  | delete {p : Point} {n : Nat} (place : Nat) : p.old + n ≤ ls.old.length →
      Leads ls ⟨.delete, ⟨p.old, n⟩, ⟨place, 0⟩⟩ p ⟨p.old + n, p.new⟩
  | insert {p : Point} {n : Nat} (place : Nat) : p.new + n ≤ ls.new.length →
      Leads ls ⟨.insert, ⟨place, 0⟩, ⟨p.new, n⟩⟩ p ⟨p.old, p.new + n⟩

/-- Steps that lead from one place to another one, one behind the other. -/
inductive Path (step : Edit → Point → Point → Prop) : List Edit → Point → Point → Prop
  | nil (p : Point) : Path step [] p p
  | cons {e : Edit} {es : List Edit} {p q r : Point} : step e p q → Path step es q r →
      Path step (e :: es) p r

section Path

variable {step : Edit → Point → Point → Prop} {p q r : Point} {e : Edit} {es fs : List Edit}

theorem path_cons_iff : Path step (e :: es) p r ↔ ∃ q, step e p q ∧ Path step es q r := by
  constructor
  · rintro ⟨⟩
    exact ⟨_, ‹_›, ‹_›⟩
  · rintro ⟨q, he, hes⟩
    exact .cons he hes

theorem path_append_iff : Path step (es ++ fs) p r ↔ ∃ q, Path step es p q ∧ Path step fs q r := by
  induction es generalizing p with
  | nil =>
    constructor
    · intro h
      exact ⟨p, .nil p, h⟩
    · rintro ⟨q, ⟨⟩, h⟩
      exact h
  | cons e es ih =>
    simp only [List.cons_append, path_cons_iff, ih]
    constructor
    · rintro ⟨q, he, q', hes, hfs⟩
      exact ⟨q', ⟨q, he, hes⟩, hfs⟩
    · rintro ⟨q', ⟨q, he, hes⟩, hfs⟩
      exact ⟨q, he, q', hes, hfs⟩

theorem path_singleton_iff : Path step [e] p q ↔ step e p q := by
  constructor
  · rintro (_ | ⟨he, ⟨⟩⟩)
    exact he
  · intro he
    exact .cons he (.nil q)

end Path

variable {ls : Lines} {p q r : Point} {n : Nat} {e f kept : Edit} {es front behind : List Edit}

/-! Kept lines at the ends of a way -/

private theorem path_unlessEmpty (hsame : ls.Same p n) (h : Path (Edit.Leads ls) es (p.on n) q) :
    Path (Edit.Leads ls) (unlessEmpty ⟨.keep, ⟨p.old, n⟩, ⟨p.new, n⟩⟩ es) p q := by
  by_cases hn : n = 0
  · simpa [unlessEmpty, Edit.isEmpty, hn] using h
  · have hkeep := Edit.Leads.keep (Nat.pos_of_ne_zero hn) hsame
    simpa [unlessEmpty, Edit.isEmpty, hn] using Path.cons hkeep h

private theorem path_unlessEmpty_reverse (h : Path (Edit.Leads ls) front.reverse p q)
    (hsame : ls.Same q n) :
    Path (Edit.Leads ls) (unlessEmpty ⟨.keep, ⟨q.old, n⟩, ⟨q.new, n⟩⟩ front).reverse p
      (q.on n) := by
  by_cases hn : n = 0
  · simpa [unlessEmpty, Edit.isEmpty, hn] using h
  · have hkeep := Edit.Leads.keep (Nat.pos_of_ne_zero hn) hsame
    simpa [unlessEmpty, Edit.isEmpty, hn] using
      path_append_iff.mpr ⟨q, h, path_singleton_iff.mpr hkeep⟩

private theorem path_keepBefore (hn : 0 < n) (hsame : ls.Same p n)
    (h : Path (Edit.Leads ls) es (p.on n) q) :
    Path (Edit.Leads ls) (keepBefore ⟨.keep, ⟨p.old, n⟩, ⟨p.new, n⟩⟩ es) p q := by
  have hcons := Path.cons (.keep hn hsame) h
  cases h with
  | nil => exact hcons
  | cons he hes =>
    cases he with
    | @keep _ m _ hnext =>
      have hboth := Edit.Leads.keep (Nat.add_pos_left hn m) (hsame.add hnext)
      rw [Point.on_on] at hes
      simpa [keepBefore, Edit.back, Edit.longer, Nat.add_comm] using Path.cons hboth hes
    | delete => exact hcons
    | insert => exact hcons

private theorem path_keepAfter (hn : 0 < n) (h : Path (Edit.Leads ls) front.reverse p q)
    (hsame : ls.Same q n) :
    Path (Edit.Leads ls) (keepAfter ⟨.keep, ⟨q.old, n⟩, ⟨q.new, n⟩⟩ front).reverse p (q.on n) := by
  have hlast := path_append_iff.mpr ⟨q, h, path_singleton_iff.mpr (.keep hn hsame)⟩
  cases front with
  | nil => exact hlast
  | cons e front =>
    rw [List.reverse_cons, path_append_iff] at h
    obtain ⟨r, hfront, he⟩ := h
    cases path_singleton_iff.mp he with
    | @keep _ m hm hnext =>
      have hboth := Edit.Leads.keep (Nat.add_pos_left hm n) (hnext.add hsame)
      rw [← Point.on_on] at hboth
      simpa [keepAfter, Edit.longer] using
        path_append_iff.mpr ⟨r, hfront, path_singleton_iff.mpr hboth⟩
    | delete => simpa [keepAfter] using hlast
    | insert => simpa [keepAfter] using hlast

/-! Edits by their kinds -/

/-- Kinds of edits that only delete or only insert. -/
def Kind.IsOneSided (kind : Kind) : Prop :=
  kind = .delete ∨ kind = .insert

namespace Edit.Leads

theorem of_keep (h : e.Leads ls p q) (hkind : e.kind = .keep) :
    ∃ n, 0 < n ∧ ls.Same p n ∧ e = ⟨.keep, ⟨p.old, n⟩, ⟨p.new, n⟩⟩ ∧ q = p.on n := by
  cases h with
  | keep hn hsame => exact ⟨_, hn, hsame, rfl, rfl⟩
  | delete => cases hkind
  | insert => cases hkind

private theorem of_delete (h : e.Leads ls p q) (hkind : e.kind = .delete) :
    ∃ place n, p.old + n ≤ ls.old.length ∧ e = ⟨.delete, ⟨p.old, n⟩, ⟨place, 0⟩⟩ ∧
      q = ⟨p.old + n, p.new⟩ := by
  cases h with
  | delete place hn => exact ⟨place, _, hn, rfl, rfl⟩
  | keep => cases hkind
  | insert => cases hkind

private theorem of_insert (h : e.Leads ls p q) (hkind : e.kind = .insert) :
    ∃ place n, p.new + n ≤ ls.new.length ∧ e = ⟨.insert, ⟨place, 0⟩, ⟨p.new, n⟩⟩ ∧
      q = ⟨p.old, p.new + n⟩ := by
  cases h with
  | insert place hn => exact ⟨place, _, hn, rfl, rfl⟩
  | keep => cases hkind
  | delete => cases hkind

private theorem isOneSided (h : e.Leads ls p q) (hkind : e.kind ≠ .keep) : e.kind.IsOneSided := by
  cases h with
  | keep => exact absurd rfl hkind
  | delete => exact .inl rfl
  | insert => exact .inr rfl

theorem longer (he : e.Leads ls p q) (hf : f.Leads ls q r) (hkind : e.kind = f.kind)
    (hsided : f.kind.IsOneSided) : (e.longer f.size).Leads ls p r := by
  rcases hsided with hdelete | hinsert
  · obtain ⟨place, m, hm, rfl, rfl⟩ := he.of_delete (hkind.trans hdelete)
    obtain ⟨place', n, hn, rfl, rfl⟩ := hf.of_delete hdelete
    simp only [Nat.add_assoc] at hn
    simpa [Edit.longer, size, Nat.add_assoc] using Leads.delete place hn
  · obtain ⟨place, m, hm, rfl, rfl⟩ := he.of_insert (hkind.trans hinsert)
    obtain ⟨place', n, hn, rfl, rfl⟩ := hf.of_insert hinsert
    simp only [Nat.add_assoc] at hn
    simpa [Edit.longer, size, Nat.add_assoc] using Leads.insert place hn

theorem swap (he : e.Leads ls p q) (hf : f.Leads ls q r) (hkind : e.kind ≠ f.kind)
    (hesided : e.kind.IsOneSided) (hfsided : f.kind.IsOneSided) :
    ∃ q', f.Leads ls p q' ∧ e.Leads ls q' r := by
  rcases hesided with he' | he' <;> rcases hfsided with hf' | hf'
  · exact absurd (he'.trans hf'.symm) hkind
  · obtain ⟨place, m, hm, rfl, rfl⟩ := he.of_delete he'
    obtain ⟨place', n, hn, rfl, rfl⟩ := hf.of_insert hf'
    have hinsert := Leads.insert (p := p) place' hn
    exact ⟨_, hinsert, .delete (p := ⟨p.old, p.new + n⟩) place hm⟩
  · obtain ⟨place, m, hm, rfl, rfl⟩ := he.of_insert he'
    obtain ⟨place', n, hn, rfl, rfl⟩ := hf.of_delete hf'
    have hdelete := Leads.delete (p := p) place' hn
    exact ⟨_, hdelete, .insert (p := ⟨p.old + n, p.new⟩) place hm⟩
  · exact absurd (he'.trans hf'.symm) hkind

end Edit.Leads

private theorem Edit.longer_kind (e : Edit) (n : Nat) : (e.longer n).kind = e.kind := by
  unfold Edit.longer
  split <;> rfl

/-! Moves -/

namespace Cursor

def edits (c : Cursor) : List Edit :=
  c.front.reverse ++ c.edit :: c.behind

/-- The edits lead from one place to another one. The one that moves deletes or inserts. -/
structure Fits (ls : Lines) (p q : Point) (kind : Kind) (c : Cursor) : Prop where
  path : Path (Edit.Leads ls) c.edits p q
  kind_eq : c.edit.kind = kind
  sided : kind.IsOneSided

variable {c c' : Cursor} {kind : Kind} {previous next : Edit} {m k place : Nat}

private theorem path_edits_iff : Path (Edit.Leads ls) c.edits p q ↔ ∃ r₁ r₂,
    Path (Edit.Leads ls) c.front.reverse p r₁ ∧ c.edit.Leads ls r₁ r₂ ∧
      Path (Edit.Leads ls) c.behind r₂ q := by
  simp only [edits, path_append_iff, path_cons_iff]
  constructor
  · rintro ⟨r₁, hfront, r₂, hedit, hbehind⟩
    exact ⟨r₁, r₂, hfront, hedit, hbehind⟩
  · rintro ⟨r₁, r₂, hfront, hedit, hbehind⟩
    exact ⟨r₁, hfront, r₂, hedit, hbehind⟩

private theorem shiftUp_path
    (hk : k = sharedEnd (Span.of ⟨p.old, n⟩ ls.old) (Span.of ⟨p.new + n, m⟩ ls.new)) (hpos : k ≠ 0)
    (hn : 0 < n) (hsame : ls.Same p n) (hm : p.new + n + m ≤ ls.new.length)
    (hfront : Path (Edit.Leads ls) front.reverse q p)
    (hbehind : Path (Edit.Leads ls) behind ⟨p.old + n, p.new + n + m⟩ r) :
    Path (Edit.Leads ls) (edits ⟨unlessEmpty ⟨.keep, ⟨p.old, n - k⟩, ⟨p.new, n - k⟩⟩ front,
      ⟨.insert, ⟨place, 0⟩, ⟨p.new + n - k, m⟩⟩,
      keepBefore ⟨.keep, ⟨p.old + n - k, k⟩, ⟨p.new + n + m - k, k⟩⟩ behind⟩) q r := by
  have hleft := sharedEnd_le_left (Span.of ⟨p.old, n⟩ ls.old) (Span.of ⟨p.new + n, m⟩ ls.new)
  have hright := sharedEnd_le_right (Span.of ⟨p.old, n⟩ ls.old) (Span.of ⟨p.new + n, m⟩ ls.new)
  rw [← hk] at hleft hright
  simp only [Span.of, List.length_take] at hleft hright
  have hkept : ls.Same ⟨p.old + n - k, p.new + n + m - k⟩ k :=
    Lines.same_sharedEnd ⟨p.old, n⟩ ⟨p.new + n, m⟩ (hsame.old_le hn) hm hk
  have hstart : ({ old := p.old + n - k, new := p.new + n + m - k } : Point) =
      ⟨(p.on (n - k)).old, (p.on (n - k)).new + m⟩ := by
    simp only [Point.on_old, Point.on_new, Point.mk.injEq]
    omega
  have hinsert : Edit.Leads ls ⟨.insert, ⟨place, 0⟩, ⟨p.new + n - k, m⟩⟩ (p.on (n - k))
      ⟨p.old + n - k, p.new + n + m - k⟩ := by
    rw [hstart, Nat.add_sub_assoc (by omega)]
    refine .insert (p := p.on (n - k)) place ?_
    simp only [Point.on_new]
    omega
  have hback : Path (Edit.Leads ls) behind (Point.on ⟨p.old + n - k, p.new + n + m - k⟩ k) r := by
    simpa [Point.on, Nat.sub_add_cancel (show k ≤ p.old + n by omega),
      Nat.sub_add_cancel (show k ≤ p.new + n + m by omega)] using hbehind
  exact path_edits_iff.mpr ⟨_, _, path_unlessEmpty_reverse hfront (hsame.first (Nat.sub_le n k)),
    hinsert, path_keepBefore (Nat.pos_of_ne_zero hpos) hkept hback⟩

private theorem up?_fits (h : c.Fits ls p q kind) (hup : c.up? ls = some c') :
    c'.Fits ls p q kind := by
  obtain ⟨front, edit, behind⟩ := c
  obtain ⟨hpath, rfl, hsided⟩ := h
  obtain ⟨r₂, r₃, hfront, hedit, hbehind⟩ := path_edits_iff.mp hpath
  cases front with
  | nil => cases hup
  | cons previous front =>
    rw [List.reverse_cons, path_append_iff] at hfront
    obtain ⟨r₁, hfront, hprevious⟩ := hfront
    rw [path_singleton_iff] at hprevious
    simp only [up?] at hup
    split at hup
    next hkeep =>
      obtain ⟨n, hn, hsame, rfl, rfl⟩ := hprevious.of_keep hkeep
      split at hup
      next hzero =>
        have hne : ¬ n = 0 := by omega
        simp [Edit.isEmpty, hne] at hup
      next hpos =>
        rcases hsided with hdelete | hinsert
        · -- a deletion has no new lines, so that it passes no kept ones
          obtain ⟨place, m, hm, rfl, rfl⟩ := hedit.of_delete hdelete
          simp [Span.of, sharedEnd, shared] at hpos
        · obtain ⟨place, m, hm, rfl, rfl⟩ := hedit.of_insert hinsert
          obtain rfl := Option.some.inj hup
          exact ⟨shiftUp_path rfl hpos hn hsame hm hfront hbehind, rfl, .inr rfl⟩
    next hkeep =>
      have hpreviousSided := hprevious.isOneSided hkeep
      split at hup
      next hsame =>
        obtain rfl := Option.some.inj hup
        refine ⟨path_edits_iff.mpr ⟨r₁, r₃, hfront, ?_, hbehind⟩, ?_, hsided⟩
        · exact hprevious.longer hedit hsame hsided
        · exact (Edit.longer_kind previous _).trans hsame
      next hother =>
        obtain rfl := Option.some.inj hup
        -- both edits keep the places they name, which are now wrong in the other list
        obtain ⟨r, hedit', hprevious'⟩ := hprevious.swap hedit hother hpreviousSided hsided
        exact ⟨path_edits_iff.mpr ⟨r₁, r, hfront, hedit', .cons hprevious' hbehind⟩, rfl, hsided⟩

private theorem shiftDown_path
    (hk : k = shared (Span.of ⟨p.old, n⟩ ls.old) (Span.of ⟨p.new, m⟩ ls.new)) (hpos : k ≠ 0)
    (hn : 0 < n) (hsame : ls.Same ⟨p.old, p.new + m⟩ n)
    (hfront : Path (Edit.Leads ls) front.reverse q p)
    (hbehind : Path (Edit.Leads ls) behind ⟨p.old + n, p.new + m + n⟩ r) :
    Path (Edit.Leads ls) (edits ⟨keepAfter ⟨.keep, ⟨p.old, k⟩, ⟨p.new, k⟩⟩ front,
      ⟨.insert, ⟨place, 0⟩, ⟨p.new + k, m⟩⟩,
      unlessEmpty ⟨.keep, ⟨p.old + k, n - k⟩, ⟨p.new + m + k, n - k⟩⟩ behind⟩) q r := by
  have hleft := shared_le_left (Span.of ⟨p.old, n⟩ ls.old) (Span.of ⟨p.new, m⟩ ls.new)
  have hkept : ls.Same p k := hk ▸ Lines.same_shared ⟨p.old, n⟩ ⟨p.new, m⟩
  rw [← hk] at hleft
  simp only [Span.of, List.length_take] at hleft
  have hkn : k ≤ n := by omega
  have hbound := hsame.new_le hn
  have hinsert : Edit.Leads ls ⟨.insert, ⟨place, 0⟩, ⟨p.new + k, m⟩⟩ (p.on k)
      ⟨p.old + k, p.new + m + k⟩ := by
    rw [Nat.add_right_comm]
    refine .insert (p := p.on k) place ?_
    simp only [Point.on_new] at hbound ⊢
    omega
  have hback : Path (Edit.Leads ls) behind (Point.on ⟨p.old + k, p.new + m + k⟩ (n - k)) r := by
    simpa [Point.on, Nat.add_assoc, Nat.add_sub_cancel' hkn] using hbehind
  exact path_edits_iff.mpr ⟨_, _, path_keepAfter (Nat.pos_of_ne_zero hpos) hfront hkept, hinsert,
    path_unlessEmpty (hsame.last hkn) hback⟩

private theorem down?_fits (h : c.Fits ls p q kind) (hdown : c.down? ls = some c') :
    c'.Fits ls p q kind := by
  obtain ⟨front, edit, behind⟩ := c
  obtain ⟨hpath, rfl, hsided⟩ := h
  obtain ⟨r₁, r₂, hfront, hedit, hbehind⟩ := path_edits_iff.mp hpath
  cases behind with
  | nil => cases hdown
  | cons next behind =>
    obtain ⟨r₃, hnext, hrest⟩ := path_cons_iff.mp hbehind
    simp only [down?] at hdown
    split at hdown
    next hkeep =>
      obtain ⟨n, hn, hsame, rfl, rfl⟩ := hnext.of_keep hkeep
      split at hdown
      next hzero =>
        have hne : ¬ n = 0 := by omega
        simp [Edit.isEmpty, hne] at hdown
      next hpos =>
        rcases hsided with hdelete | hinsert
        · obtain ⟨place, m, hm, rfl, rfl⟩ := hedit.of_delete hdelete
          simp [Span.of, shared] at hpos
        · obtain ⟨place, m, hm, rfl, rfl⟩ := hedit.of_insert hinsert
          obtain rfl := Option.some.inj hdown
          exact ⟨shiftDown_path rfl hpos hn hsame hfront hrest, rfl, .inr rfl⟩
    next hkeep =>
      have hnextSided := hnext.isOneSided hkeep
      split at hdown
      next hsame =>
        obtain rfl := Option.some.inj hdown
        refine ⟨path_edits_iff.mpr ⟨r₁, r₃, hfront, ?_, hrest⟩, Edit.longer_kind edit _, hsided⟩
        exact hedit.longer hnext hsame.symm hnextSided
      next hother =>
        obtain rfl := Option.some.inj hdown
        obtain ⟨r, hnext', hedit'⟩ := hedit.swap hnext (Ne.symm hother) hsided hnextSided
        refine ⟨path_edits_iff.mpr ⟨r, r₃, ?_, hedit', hrest⟩, rfl, hsided⟩
        rw [List.reverse_cons, path_append_iff]
        exact ⟨r₁, hfront, path_singleton_iff.mpr hnext'⟩

private theorem moves_fits {move : Cursor → Option Cursor}
    (hmove : ∀ c c', c.Fits ls p q kind → move c = some c' → c'.Fits ls p q kind) (n : Nat)
    (h : c.Fits ls p q kind) : (c.moves move n).Fits ls p q kind := by
  induction n generalizing c with
  | zero => exact h
  | succ n ih =>
    rw [moves]
    split
    next c' hc' => exact ih (hmove c c' h hc')
    next => exact h

private theorem settle_fits (h : c.Fits ls p q kind) : (c.settle ls).Fits ls p q kind :=
  moves_fits (fun _ _ => down?_fits) _ (moves_fits (fun _ _ => up?_fits) _ h)

end Cursor

private theorem settleAll_path {kind : Kind} (hsided : kind.IsOneSided) (fuel : Nat)
    (h : Path (Edit.Leads ls) (front.reverse ++ behind) p q) :
    Path (Edit.Leads ls) (settleAll ls kind fuel front behind) p q := by
  fun_induction settleAll ls kind fuel front behind with
  | case1 => exact h
  | case2 => simpa using h
  | case3 n front e behind hkind c ih =>
    have hfits := Cursor.settle_fits (c := ⟨front, e, behind⟩) ⟨h, hkind, hsided⟩
    refine ih ?_
    simpa [Cursor.edits] using hfits.path
  | case4 n front e behind hkind ih => exact ih (by simpa using h)

private theorem compact_path (h : Path (Edit.Leads ls) es p q) :
    Path (Edit.Leads ls) (compact ls es) p q :=
  settleAll_path (.inr rfl) _ (settleAll_path (.inl rfl) _ h)

/-! Edits between two lists -/

private theorem locate_path {old new : List String} {steps : List Step} (h : Connects old steps new)
    (before₁ before₂ : List String) (hls : ls = ⟨before₁ ++ old, before₂ ++ new⟩) :
    Path (Edit.Leads ls) (Edit.locate before₁.length before₂.length steps)
      ⟨before₁.length, before₂.length⟩ ls.stop := by
  induction h generalizing before₁ before₂ with
  | nil =>
    have hstop : ls.stop = ⟨before₁.length, before₂.length⟩ := by simp [hls, Lines.stop]
    rw [hstop]
    exact .nil _
  | @keep kept old new steps hne _ ih =>
    have hsame : ls.Same ⟨before₁.length, before₂.length⟩ kept.length :=
      Lines.same_of_take_eq (by simp [hls]) (by simp [hls])
    have hrest := ih (before₁ ++ kept) (before₂ ++ kept) (by simp [hls])
    rw [List.length_append, List.length_append] at hrest
    exact .cons (.keep (List.length_pos_iff.mpr hne) hsame) hrest
  | @delete gone old new steps _ ih =>
    have hrest := ih (before₁ ++ gone) before₂ (by simp [hls])
    rw [List.length_append] at hrest
    refine .cons (.delete (p := ⟨before₁.length, before₂.length⟩) before₂.length ?_) hrest
    simp [hls]
  | @insert added old new steps _ ih =>
    have hrest := ih before₁ (before₂ ++ added) (by simp [hls])
    rw [List.length_append] at hrest
    refine .cons (.insert (p := ⟨before₁.length, before₂.length⟩) before₁.length ?_) hrest
    simp [hls]

/-- An edit that may also replace lines leads from one place to another one. -/
inductive Edit.Replaces (ls : Lines) : Edit → Point → Point → Prop
  | plain {e : Edit} {p q : Point} : e.Leads ls p q → Replaces ls e p q
  | replace {p : Point} {m n : Nat} : p.old + m ≤ ls.old.length → p.new + n ≤ ls.new.length →
      Replaces ls ⟨.replace, ⟨p.old, m⟩, ⟨p.new, n⟩⟩ p ⟨p.old + m, p.new + n⟩

private theorem mergeInto_path (he : e.Replaces ls p q) (hes : Path (Edit.Leads ls) es q r) :
    Path (Edit.Replaces ls) (mergeInto e es) p r := by
  induction es generalizing e p q with
  | nil =>
    cases hes
    exact .cons he (.nil _)
  | cons next rest ih =>
    obtain ⟨q', hnext, hrest⟩ := path_cons_iff.mp hes
    -- neighbours that do not become one
    have happart : Path (Edit.Replaces ls) (e :: mergeInto next rest) p r :=
      .cons he (ih (.plain hnext) hrest)
    cases he with
    | plain he =>
      cases he with
      | @keep _ m hm hsame =>
        cases hnext with
        | @keep _ n _ hsame' =>
          refine ih (.plain ?_) hrest
          have hboth := Edit.Leads.keep (Nat.add_pos_left hm n) (hsame.add hsame')
          rwa [← Point.on_on] at hboth
        | delete => exact happart
        | insert => exact happart
      | @delete _ m place hm =>
        cases hnext with
        | keep => exact happart
        | @delete _ n _ hn =>
          simp only [Nat.add_assoc] at hn hrest
          exact ih (.plain (.delete place hn)) hrest
        | insert _ hn => exact ih (.replace hm hn) hrest
      | @insert _ m place hm =>
        cases hnext with
        | keep => exact happart
        | delete _ hn => exact ih (.replace (p := p) hn hm) hrest
        | @insert _ n _ hn =>
          simp only [Nat.add_assoc] at hn hrest
          exact ih (.plain (.insert place hn)) hrest
    | @replace _ m n hm hn =>
      cases hnext with
      | keep => exact happart
      | @delete _ k _ hk =>
        simp only [Nat.add_assoc] at hk hrest
        exact ih (.replace hk hn) hrest
      | @insert _ k _ hk =>
        simp only [Nat.add_assoc] at hk hrest
        exact ih (.replace hm hk) hrest

private theorem merge_path (h : Path (Edit.Leads ls) es p q) : Path (Edit.Replaces ls)
    (merge es) p q := by
  cases h with
  | nil => exact .nil p
  | cons he hes => exact mergeInto_path (.plain he) hes

theorem edits_path (ls : Lines) : Path (Edit.Replaces ls) (edits ls) ⟨0, 0⟩ ls.stop :=
  merge_path (compact_path (locate_path (script_connects ls.old ls.new) [] [] rfl))

theorem Path.same (h : Path (Edit.Replaces ls) es p q) (hkeep : ∀ e ∈ es, e.kind = .keep) :
    ∃ n, ls.Same p n ∧ q = p.on n := by
  induction h with
  | nil p => exact ⟨0, ls.same_zero p, rfl⟩
  | @cons e es p q r he _ ih =>
    rw [List.forall_mem_cons] at hkeep
    obtain ⟨n, hrest, rfl⟩ := ih hkeep.2
    cases he with
    | plain he =>
      obtain ⟨m, -, hsame, -, rfl⟩ := he.of_keep hkeep.1
      exact ⟨m + n, hsame.add hrest, Point.on_on p m n⟩
    | replace => cases hkeep.1

private theorem Lines.eq_of_same (h : ls.Same ⟨0, 0⟩ n) (hstop : ls.stop = Point.on ⟨0, 0⟩ n) :
    ls.old = ls.new := by
  obtain ⟨hold, hnew⟩ : ls.old.length = n ∧ ls.new.length = n := by
    simpa [Lines.stop, Point.on] using hstop
  have htake := h.take_eq
  rwa [List.drop_zero, List.drop_zero, List.take_of_length_le (Nat.le_of_eq hold),
    List.take_of_length_le (Nat.le_of_eq hnew)] at htake

theorem edits_all_keep_iff (ls : Lines) :
    (edits ls).all (·.kind = .keep) = true ↔ ls.old = ls.new := by
  constructor
  · intro h
    obtain ⟨n, hsame, hstop⟩ := (edits_path ls).same (by simpa using h)
    exact Lines.eq_of_same hsame hstop
  · intro h
    rw [edits, h, script_self, some?]
    split
    · rfl
    · rfl

end ShellSuite.Diff
