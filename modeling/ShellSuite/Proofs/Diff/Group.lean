import ShellSuite.Diff.Hunk
import ShellSuite.Proofs.Diff.Compact

set_option autoImplicit false
set_option relaxedAutoImplicit false

/-!
How edits are cut into groups that become hunks. All groups but the first start with kept lines, and
all but the last end with some, so only the first and the last edit of all can name their places
wrongly where a hunk starts or stops.
-/

namespace ShellSuite.Diff

variable {ls : Lines} {p q r s : Point} {n least : Nat} {e : Edit} {es group : List Edit}

/-! Places of edits -/

namespace Edit

def start (e : Edit) : Point :=
  ⟨e.old.start, e.new.start⟩

def stop (e : Edit) : Point :=
  ⟨e.old.stop, e.new.stop⟩

def kept (p : Point) (n : Nat) : Edit :=
  ⟨.keep, ⟨p.old, n⟩, ⟨p.new, n⟩⟩

private theorem firstLines_kept (p : Point) (n k : Nat) : (kept p n).firstLines k = kept p
    (n - (n - k)) :=
  rfl

private theorem lastLines_kept (p : Point) (n k : Nat) :
    (kept p n).lastLines k = kept (p.on (n - k)) (n - (n - k)) :=
  rfl

@[simp]
theorem start_kept (p : Point) (n : Nat) : (kept p n).start = p :=
  rfl

@[simp]
theorem stop_kept (p : Point) (n : Nat) : (kept p n).stop = p.on n :=
  rfl

theorem Replaces.kept (hn : 0 < n) (hsame : ls.Same p n) : (kept p n).Replaces ls p (p.on n) :=
  .plain (.keep hn hsame)

theorem Replaces.eq_kept (h : e.Replaces ls p q) (hkind : e.kind = .keep) :
    ∃ n, 0 < n ∧ ls.Same p n ∧ e = .kept p n ∧ q = p.on n := by
  cases h with
  | plain h => exact h.of_keep hkind
  | replace => cases hkind

theorem Replaces.start_old_or_new (h : e.Replaces ls p q) :
    e.start.old = p.old ∨ e.start.new = p.new := by
  cases h with
  | plain h =>
    cases h with
    | keep => exact .inl rfl
    | delete => exact .inl rfl
    | insert => exact .inr rfl
  | replace => exact .inl rfl

end Edit

/-- The first of some edits says that it starts at a place. -/
def StartsAt (p : Point) (es : List Edit) : Prop :=
  ∀ e ∈ es.head?, e.start = p

/-- The last of some edits says that it stops at a place. -/
def StopsAt (q : Point) (es : List Edit) : Prop :=
  ∀ e ∈ es.getLast?, e.stop = q

@[simp]
theorem startsAt_cons : StartsAt p (e :: es) ↔ e.start = p := by
  simp [StartsAt]

private theorem startsAt_append_cons {e' : Edit} {es' : List Edit} (h : e.start = e'.start) :
    StartsAt p (group ++ e :: es) ↔ StartsAt p (group ++ e' :: es') := by
  cases group <;> simp [h]

@[simp]
theorem stopsAt_append_singleton : StopsAt q (es ++ [e]) ↔ e.stop = q := by
  simp [StopsAt]

private theorem stopsAt_append_cons (group group' : List Edit) {e' : Edit} (h : e.stop = e'.stop) :
    StopsAt q (group ++ e :: es) ↔ StopsAt q (group' ++ e' :: es) := by
  cases es.eq_nil_or_concat with
  | inl hnil => simp [hnil, h]
  | inr hconcat =>
    obtain ⟨es, last, rfl⟩ := hconcat
    have hlast : ∀ l f, StopsAt q (l ++ f :: (es ++ [last])) ↔ last.stop = q := by
      intro l f
      rw [← List.cons_append, ← List.append_assoc, stopsAt_append_singleton]
    rw [List.concat_eq_append, hlast, hlast]

/-! Groups -/

/-- Edits that become a hunk, and the ranges they are truly about. -/
structure Group where
  edits : List Edit
  old : Span
  new : Span

def Group.start (g : Group) : Point :=
  ⟨g.old.start, g.new.start⟩

def Group.stop (g : Group) : Point :=
  ⟨g.old.stop, g.new.stop⟩

/-- Edits that start with kept lines, unless they start where both lists do. -/
def Anchored (r : Point) (es : List Edit) : Prop :=
  r = ⟨0, 0⟩ ∨ ∀ e ∈ es.head?, e.kind = .keep

private theorem anchored_append_cons {e' : Edit} {es' : List Edit} (h : e.kind = e'.kind) :
    Anchored r (group ++ e :: es) ↔ Anchored r (group ++ e' :: es') := by
  cases group <;> simp [Anchored, h]

/-- Edits that lead from the start of the ranges they are about to their end, and start with kept
lines unless they start where both lists do. -/
structure Group.Fits (ls : Lines) (g : Group) : Prop where
  path : Path (Edit.Replaces ls) g.edits g.start g.stop
  nonempty : g.edits ≠ []
  anchored : Anchored g.start g.edits

/-- Groups that lead from one place to another one. Lines that are the same stand between them,
also before the first and behind the last one: at least so many before the first, and some between
two. -/
inductive Cut (ls : Lines) : Nat → Point → List Group → Point → Prop
  | done {least : Nat} {p : Point} {n : Nat} : ls.Same p n → Cut ls least p [] (p.on n)
  | group {least : Nat} {p q : Point} {n : Nat} {g : Group} {gs : List Group} : least ≤ n →
      ls.Same p n → g.start = p.on n → g.Fits ls → Cut ls 1 g.stop gs q →
      Cut ls least p (g :: gs) q

/-- The edits of each group say truly where they start and stop. -/
def Right (gs : List Group) : Prop :=
  ∀ g ∈ gs, StartsAt g.start g.edits ∧ StopsAt g.stop g.edits

theorem Path.le (h : Path (Edit.Replaces ls) es p q) : p.old ≤ q.old ∧ p.new ≤ q.new := by
  induction h with
  | nil p => exact ⟨Nat.le_refl _, Nat.le_refl _⟩
  | cons he _ ih =>
    cases he with
    | plain he => cases he <;> simp only [Point.on_old, Point.on_new] at ih <;> omega
    | replace => simp only at ih; omega

def Group.between (es : List Edit) (p q : Point) : Group :=
  ⟨es, ⟨p.old, q.old - p.old⟩, ⟨p.new, q.new - p.new⟩⟩

private theorem Group.stop_between (h : Path (Edit.Replaces ls) es p q) :
    (between es p q).stop = q := by
  have hle := h.le
  simp only [between, stop, Span.stop, Nat.add_sub_cancel' hle.1, Nat.add_sub_cancel' hle.2]

theorem Cut.between {gs : List Group} (hleast : least ≤ n) (hsame : ls.Same p n) (hes : es ≠ [])
    (hanchored : Anchored (p.on n) es) (hpath : Path (Edit.Replaces ls) es (p.on n) r)
    (hrest : Cut ls 1 r gs q) : Cut ls least p (.between es (p.on n) r :: gs) q := by
  have hstop := Group.stop_between hpath
  refine .group hleast hsame rfl ⟨?_, hes, hanchored⟩ ?_
  · rwa [hstop]
  · rwa [hstop]

private theorem right_cons_between {gs : List Group} (h : Path (Edit.Replaces ls) es p q) :
    Right (.between es p q :: gs) ↔ (StartsAt p es ∧ StopsAt q es) ∧ Right gs := by
  rw [Right, List.forall_mem_cons, Group.stop_between h]
  rfl

private theorem startsAt_and_stopsAt_of_keep (h : Path (Edit.Replaces ls) es p q)
    (hkeep : ∀ e ∈ es, e.kind = .keep) (hlength : es.length ≤ 1) :
    StartsAt p es ∧ StopsAt q es := by
  cases h with
  | nil => simp [StartsAt, StopsAt]
  | @cons e es p r q he hes =>
    obtain rfl : es = [] := List.eq_nil_of_length_eq_zero (by simpa using hlength)
    cases hes
    obtain ⟨n, -, -, rfl, rfl⟩ := he.eq_kept (hkeep e List.mem_cons_self)
    simp [StartsAt, StopsAt]

private theorem groups_cut (group : List Edit) (hleast : least ≤ n) (hsame : ls.Same p n)
    (hgroup : Path (Edit.Replaces ls) group.reverse (p.on n) s)
    (hes : Path (Edit.Replaces ls) es s q)
    (hanchored : Anchored (p.on n) (group.reverse ++ es)) :
    ∃ gs, gs.map Group.edits = groups group es ∧ Cut ls least p gs q ∧
      (Right gs ↔ StartsAt (p.on n) (group.reverse ++ es) ∧ StopsAt q (group.reverse ++ es)) := by
  induction es generalizing group p n s least with
  | nil =>
    obtain rfl : s = q := by
      cases hes
      rfl
    rw [List.append_nil] at hanchored ⊢
    rw [groups]
    split
    next hkeep =>
      simp only [Bool.and_eq_true, List.all_eq_true, decide_eq_true_eq] at hkeep
      obtain ⟨k, hkept, rfl⟩ := hgroup.same (by simpa using hkeep.1)
      refine ⟨[], rfl, ?_, ?_⟩
      · rw [Point.on_on]
        exact .done (hsame.add hkept)
      · have htrue := startsAt_and_stopsAt_of_keep hgroup (by simpa using hkeep.1)
          (by simpa using hkeep.2)
        simpa [Right] using htrue
    next hchange =>
      refine ⟨[.between group.reverse (p.on n) s], rfl, ?_, ?_⟩
      · refine .between hleast hsame ?_ hanchored hgroup (.done (n := 0) (ls.same_zero s))
        rintro hnil
        simp [List.reverse_eq_nil_iff.mp hnil] at hchange
      · rw [right_cons_between hgroup]
        simp [Right]
  | cons e es ih =>
    obtain ⟨s', he, hes⟩ := path_cons_iff.mp hes
    rw [groups]
    split
    next hcut =>
      simp only [Bool.and_eq_true, decide_eq_true_eq] at hcut
      obtain ⟨k, hk, hkept, rfl, rfl⟩ := he.eq_kept hcut.1
      obtain ⟨gap, hgap, rfl⟩ : ∃ gap, 1 ≤ gap ∧ k = context + gap + context := by
        have hk : 2 * context < k := hcut.2
        exact ⟨k - 2 * context, by omega, by omega⟩
      rw [Edit.firstLines_kept, Edit.lastLines_kept, Nat.add_sub_cancel, ← Point.on_on,
        Nat.add_sub_cancel_left]
      rw [Lines.same_add_iff, Lines.same_add_iff, ← Point.on_on] at hkept
      obtain ⟨⟨hbefore, hbetween⟩, hbehind⟩ := hkept
      rw [← Point.on_on, ← Point.on_on] at hes
      -- the lines before the gap end one hunk, those behind it start the next
      have hfirst : Path (Edit.Replaces ls) (group.reverse ++ [Edit.kept s context]) (p.on n)
          (s.on context) :=
        path_append_iff.mpr ⟨s, hgroup, path_singleton_iff.mpr (.kept (by decide) hbefore)⟩
      have hlast := path_singleton_iff.mpr (Edit.Replaces.kept (by decide) hbehind)
      obtain ⟨gs, hgs, hcuts, hright⟩ := ih [.kept ((s.on context).on gap) context]
        hgap hbetween hlast hes (.inr (by simp [Edit.kept]))
      refine ⟨.between (group.reverse ++ [.kept s context]) (p.on n) (s.on context) :: gs,
        ?_, ?_, ?_⟩
      · rw [List.map_cons, hgs, List.reverse_cons]
        rfl
      · refine .between hleast hsame (by simp) ((anchored_append_cons ?_).mp hanchored) hfirst hcuts
        rfl
      · have hstart : StartsAt (p.on n) (group.reverse ++ [.kept s context]) ↔
            StartsAt (p.on n) (group.reverse ++ .kept s (context + gap + context) :: es) :=
          startsAt_append_cons rfl
        have hstop : StopsAt q ([] ++ .kept ((s.on context).on gap) context :: es) ↔
            StopsAt q (group.reverse ++ .kept s (context + gap + context) :: es) :=
          stopsAt_append_cons [] group.reverse (by simp [Nat.add_assoc])
        rw [right_cons_between hfirst, hright, hstart, ← hstop]
        simp
    next hcut =>
      obtain ⟨gs, hgs, hcut, hright⟩ := ih (e :: group) hleast hsame
        (by
          rw [List.reverse_cons, path_append_iff]
          exact ⟨s, hgroup, path_singleton_iff.mpr he⟩) hes (by simpa using hanchored)
      refine ⟨gs, hgs, hcut, ?_⟩
      simpa using hright

private theorem trimFirst_path (h : Path (Edit.Replaces ls) es ⟨0, 0⟩ q) :
    ∃ n, ls.Same ⟨0, 0⟩ n ∧ Path (Edit.Replaces ls) (trimFirst es) (Point.on ⟨0, 0⟩ n) q ∧
      Anchored (Point.on ⟨0, 0⟩ n) (trimFirst es) ∧
      (StartsAt (Point.on ⟨0, 0⟩ n) (trimFirst es) ↔ StartsAt ⟨0, 0⟩ es) ∧
      (StopsAt q (trimFirst es) ↔ StopsAt q es) := by
  cases h with
  | nil => exact ⟨0, ls.same_zero _, .nil _, .inl rfl, Iff.rfl, Iff.rfl⟩
  | @cons e es p s q he hes =>
    rw [trimFirst]
    split
    next hkind =>
      obtain ⟨n, hn, hsame, rfl, rfl⟩ := he.eq_kept hkind
      have hstop : (Point.on ⟨0, 0⟩ (n - context)).on (n - (n - context)) = Point.on ⟨0, 0⟩ n := by
        rw [Point.on_on, Nat.add_sub_cancel' (Nat.sub_le n context)]
      rw [Edit.lastLines_kept]
      refine ⟨n - context, hsame.first (Nat.sub_le n context), .cons ?_ hes, .inr ?_, ?_, ?_⟩
      · rw [← hstop]
        refine .kept ?_ (hsame.last (Nat.sub_le n context))
        simp only [context]
        omega
      · simp [Edit.kept]
      · simp
      · exact stopsAt_append_cons [] [] (by simp [hstop])
    next => exact ⟨0, ls.same_zero _, .cons he hes, .inl rfl, Iff.rfl, Iff.rfl⟩

private theorem trimLast_path (h : Path (Edit.Replaces ls) es p q) :
    ∃ r n, ls.Same r n ∧ q = r.on n ∧ Path (Edit.Replaces ls) (trimLast es) p r ∧
      (Anchored p (trimLast es) ↔ Anchored p es) ∧ (StartsAt p (trimLast es) ↔ StartsAt p es) ∧
      (StopsAt r (trimLast es) ↔ StopsAt q es) := by
  cases es.eq_nil_or_concat with
  | inl hnil =>
    subst hnil
    exact ⟨q, 0, ls.same_zero q, rfl, h, Iff.rfl, Iff.rfl, Iff.rfl⟩
  | inr hconcat =>
    obtain ⟨es, e, rfl⟩ := hconcat
    rw [List.concat_eq_append] at h ⊢
    rw [trimLast, List.getLast?_concat]
    simp only
    split
    next hkind =>
      obtain ⟨s, hes, he⟩ := path_append_iff.mp h
      obtain ⟨n, hn, hsame, rfl, rfl⟩ := (path_singleton_iff.mp he).eq_kept hkind
      have hle := Nat.sub_le n (n - context)
      rw [List.dropLast_concat, Edit.firstLines_kept]
      refine ⟨s.on (n - (n - context)), n - (n - (n - context)), hsame.last hle, ?_, ?_, ?_, ?_, ?_⟩
      · rw [Point.on_on, Nat.add_sub_cancel' hle]
      · refine path_append_iff.mpr ⟨s, hes, path_singleton_iff.mpr (.kept ?_ (hsame.first hle))⟩
        simp only [context]
        omega
      · exact anchored_append_cons rfl
      · exact startsAt_append_cons rfl
      · simp
    next => exact ⟨q, 0, ls.same_zero q, rfl, h, Iff.rfl, Iff.rfl, Iff.rfl⟩

theorem Cut.extend {gs : List Group} (h : Cut ls least p gs q) (hsame : ls.Same q n) :
    Cut ls least p gs (q.on n) := by
  induction h with
  | done hgap =>
    rw [Point.on_on]
    exact .done (hgap.add hsame)
  | group hleast hgap hstart hfits _ ih => exact .group hleast hgap hstart hfits (ih hsame)

theorem hunks_cut (h : Path (Edit.Replaces ls) es ⟨0, 0⟩ q) :
    ∃ gs, gs.map Group.edits = hunks es ∧ Cut ls 0 ⟨0, 0⟩ gs q ∧
      (Right gs ↔ StartsAt ⟨0, 0⟩ es ∧ StopsAt q es) := by
  obtain ⟨n, hbefore, hfirst, hanchored, hstart, hstop⟩ := trimFirst_path h
  obtain ⟨r, k, hbehind, rfl, hlast, hanchored', hstart', hstop'⟩ := trimLast_path hfirst
  obtain ⟨gs, hgs, hcut, hright⟩ := groups_cut [] (Nat.zero_le n) hbefore (.nil _) hlast
    (hanchored'.mpr hanchored)
  refine ⟨gs, hgs, hcut.extend hbehind, ?_⟩
  rw [hright, List.reverse_nil, List.nil_append, hstart', hstop', hstart, hstop]

end ShellSuite.Diff
