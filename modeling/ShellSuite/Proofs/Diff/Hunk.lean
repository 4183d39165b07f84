import Mathlib.Data.List.Forall2
import ShellSuite.Proofs.Diff.Group
import ShellSuite.Proofs.Diff.Patch

set_option autoImplicit false
set_option relaxedAutoImplicit false

/-!
Hunks as they are printed. Their lines are always those of a patch. Their headers take the ranges
from the first and the last edit of a hunk, and are right exactly if these name their places in both
lists truly.
-/

namespace ShellSuite.Diff

variable {key : String → String} {old new : List String} {ls : Lines} {p q : Point} {least : Nat}
  {e : Edit} {es : List Edit}

def Edit.body (old new : List String) (e : Edit) : List (Mark × String) :=
  if e.kind = .keep then (e.old.of old).map (.kept, ·)
  else (e.old.of old).map (.removed, ·) ++ (e.new.of new).map (.added, ·)

def printed (old new : List String) (es : List Edit) : Hunk :=
  match es.head?, es.getLast? with
  | some first, some last =>
    ⟨⟨first.old.start, last.old.stop - first.old.start⟩,
      ⟨first.new.start, last.new.stop - first.new.start⟩, es.flatMap (Edit.body old new)⟩
  | _, _ => ⟨⟨0, 0⟩, ⟨0, 0⟩, []⟩

/-! The text of hunks -/

private theorem rangeText_eq (start stop : Nat) :
    rangeText start stop = Span.text ⟨start, stop - start⟩ := by
  unfold rangeText
  split
  next h => simp only [Span.text, Span.number, h]; rfl
  next h => simp [Span.text, Span.number, h]
  next n hzero hone =>
    have hzero : stop - start ≠ 0 := hzero
    have hone : stop - start ≠ 1 := hone
    simp [Span.text, Span.number, hzero, hone, String.append_assoc]

private theorem editText_eq (old new : List String) (e : Edit) :
    editText old new e = String.join ((e.body old new).map fun l => l.1.sign ++ l.2 ++ "\n") := by
  unfold editText Edit.body
  split
  · simp [marked, Mark.sign, Function.comp_def]
  · simp [marked, Mark.sign, Function.comp_def]

private theorem join_editText (old new : List String) (es : List Edit) :
    String.join (es.map (editText old new)) =
      String.join ((es.flatMap (Edit.body old new)).map fun l => l.1.sign ++ l.2 ++ "\n") := by
  induction es with
  | nil => rfl
  | cons e es ih => simp [String.join_cons, String.join_append, editText_eq, ih]

private theorem hunkText_eq (old new : List String) (hes : es ≠ []) :
    hunkText old new es = patchText [printed old new es] := by
  obtain ⟨first, hfirst⟩ : ∃ first, es.head? = some first := ⟨_, List.head?_eq_some_head hes⟩
  obtain ⟨last, hlast⟩ : ∃ last, es.getLast? = some last := ⟨_, List.getLast?_eq_some_getLast hes⟩
  have hend : " @@\n" = " @@" ++ "\n" := rfl
  simp [hunkText, printed, hfirst, hlast, patchText, Hunk.lines, Hunk.header, rangeText_eq,
    join_editText, String.join_cons, String.append_assoc, hend, Function.comp_def]

private theorem join_hunkText (old new : List String) {gs : List (List Edit)}
    (h : ∀ g ∈ gs, g ≠ []) :
    String.join (gs.map (hunkText old new)) = patchText (gs.map (printed old new)) := by
  induction gs with
  | nil => rfl
  | cons g gs ih =>
    rw [List.forall_mem_cons] at h
    simp [String.join_cons, hunkText_eq old new h.1, ih h.2, patchText, String.join_append]

/-! Right hunks -/

/-- Some lines are those of a list from one position to another one. -/
def Reads (lines : List String) (x : Nat) (part : List String) (y : Nat) : Prop :=
  y = x + part.length ∧ (lines.drop x).take part.length = part

theorem Reads.nil (lines : List String) (x : Nat) : Reads lines x [] x :=
  ⟨rfl, rfl⟩

theorem Reads.append {lines part part' : List String} {x y z : Nat} (h : Reads lines x part y)
    (h' : Reads lines y part' z) : Reads lines x (part ++ part') z := by
  obtain ⟨rfl, hpart⟩ := h
  obtain ⟨rfl, hpart'⟩ := h'
  refine ⟨by simp [Nat.add_assoc], ?_⟩
  rw [List.length_append, List.take_add, hpart, List.drop_drop, hpart']

theorem Reads.drop {lines part : List String} {x y : Nat} (h : Reads lines x part y) :
    lines.drop x = part ++ lines.drop y := by
  obtain ⟨rfl, hpart⟩ := h
  have hcut := List.take_append_drop part.length (lines.drop x)
  rw [hpart, List.drop_drop] at hcut
  exact hcut.symm

private theorem reads_of {lines : List String} {x n : Nat} (h : x + n ≤ lines.length) :
    Reads lines x (Span.of ⟨x, n⟩ lines) (x + n) := by
  have hlength : (Span.of ⟨x, n⟩ lines).length = n := by
    simp only [Span.of, List.length_take, List.length_drop]
    omega
  exact ⟨by rw [hlength], by rw [hlength]; rfl⟩

def Lines.keyed (key : String → String) (old new : List String) : Lines :=
  ⟨old.map key, new.map key⟩

private theorem Span.map_of {α β : Type} (f : α → β) (s : Span) (lines : List α) :
    (s.of lines).map f = s.of (lines.map f) := by
  simp [Span.of, List.map_take, List.map_drop]

namespace Edit

/-- The lines an edit leaves: for kept ones, the old lines stand. -/
def result (old new : List String) (e : Edit) : List String :=
  if e.kind = .keep then e.old.of old else e.new.of new

private theorem mem_of_mem_body {l : Mark × String} (h : l ∈ e.body old new) :
    l.2 ∈ old ++ new := by
  have hspan : ∀ {s : Span} {lines : List String} {line : String}, line ∈ s.of lines →
      line ∈ lines :=
    fun h => List.mem_of_mem_drop (List.mem_of_mem_take h)
  unfold body at h
  split at h
  · obtain ⟨line, hline, rfl⟩ := List.mem_map.mp h
    exact List.mem_append_left _ (hspan hline)
  · rcases List.mem_append.mp h with h | h
    · obtain ⟨line, hline, rfl⟩ := List.mem_map.mp h
      exact List.mem_append_left _ (hspan hline)
    · obtain ⟨line, hline, rfl⟩ := List.mem_map.mp h
      exact List.mem_append_right _ (hspan hline)

private theorem filter_map_mark (select : Mark → Bool) (mark : Mark) (lines : List String) :
    ((lines.map (mark, ·)).filter (select ·.1)).map Prod.snd =
      if select mark then lines else [] := by
  induction lines with
  | nil => simp
  | cons line lines ih => cases h : select mark <;> simp_all

private theorem oldLines_body (e : Edit) :
    ((e.body old new).filter (·.1 ≠ .added)).map Prod.snd = e.old.of old := by
  have hmark := filter_map_mark (· ≠ .added)
  unfold body
  split <;> simp only [List.filter_append, List.map_append, hmark] <;> simp

private theorem newLines_body (e : Edit) :
    ((e.body old new).filter (·.1 ≠ .removed)).map Prod.snd = e.result old new := by
  have hmark := filter_map_mark (· ≠ .removed)
  unfold body result
  split <;> simp only [List.filter_append, List.map_append, hmark] <;> simp

private theorem Replaces.reads_old (h : e.Replaces (.keyed key old new) p q) :
    Reads old p.old (e.old.of old) q.old := by
  cases h with
  | plain h =>
    cases h with
    | keep hn hsame => exact reads_of (by simpa [Lines.keyed] using hsame.old_le hn)
    | delete _ hn => exact reads_of (by simpa [Lines.keyed] using hn)
    | insert place => simpa [Span.of] using Reads.nil old p.old
  | replace hm => exact reads_of (by simpa [Lines.keyed] using hm)

private theorem Replaces.reads_new (h : e.Replaces (.keyed key old new) p q) :
    Reads (new.map key) p.new ((e.result old new).map key) q.new := by
  cases h with
  | plain h =>
    cases h with
    | @keep _ n hn hsame =>
      have hkeys : Span.of ⟨p.old, n⟩ (old.map key) = Span.of ⟨p.new, n⟩ (new.map key) :=
        hsame.take_eq
      have hresult : ((Edit.kept p n).result old new).map key = Span.of ⟨p.new, n⟩ (new.map key) :=
        (Span.map_of key _ old).trans hkeys
      exact hresult ▸ reads_of (hsame.new_le hn)
    | delete place => simpa [result, Span.of] using Reads.nil (new.map key) p.new
    | insert _ hn => exact Span.map_of key _ new ▸ reads_of hn
  | replace _ hn => exact Span.map_of key _ new ▸ reads_of hn

end Edit

private theorem Path.reads_old (h : Path (Edit.Replaces (.keyed key old new)) es p q) :
    Reads old p.old (es.flatMap fun e => e.old.of old) q.old := by
  induction h with
  | nil p => exact .nil old p.old
  | cons he _ ih => exact he.reads_old.append ih

private theorem Path.reads_new (h : Path (Edit.Replaces (.keyed key old new)) es p q) :
    Reads (new.map key) p.new ((es.flatMap (Edit.result old new)).map key) q.new := by
  induction h with
  | nil p => exact .nil _ p.new
  | cons he _ ih =>
    rw [List.flatMap_cons, List.map_append]
    exact he.reads_new.append ih

def Group.hunk (old new : List String) (g : Group) : Hunk :=
  ⟨g.old, g.new, g.edits.flatMap (Edit.body old new)⟩

private theorem Group.oldLines_hunk (g : Group) :
    (g.hunk old new).oldLines = g.edits.flatMap fun e => e.old.of old := by
  simp only [hunk, Hunk.oldLines, List.filter_flatMap, List.map_flatMap, Edit.oldLines_body]

private theorem Group.newLines_hunk (g : Group) :
    (g.hunk old new).newLines = g.edits.flatMap (Edit.result old new) := by
  simp only [hunk, Hunk.newLines, List.filter_flatMap, List.map_flatMap, Edit.newLines_body]

private theorem Group.start_of_eq {g : Group} {n : Nat} (h : g.start = p.on n) :
    g.old.start = p.old + n ∧ g.new.start = p.new + n := by
  simpa [start, Point.on] using h

namespace Cut

variable {gs : List Group}

theorem fits (h : Cut ls least p gs q) : ∀ g ∈ gs, g.Fits ls := by
  induction h with
  | done => exact fun g hg => absurd hg List.not_mem_nil
  | group _ _ _ hfits _ ih => exact List.forall_mem_cons.mpr ⟨hfits, ih⟩

private theorem le_start (h : Cut ls least p gs q) :
    ∀ g ∈ gs, p.old + least ≤ g.old.start ∧ p.new + least ≤ g.new.start := by
  induction h with
  | done => exact fun g hg => absurd hg List.not_mem_nil
  | @group least p q n g gs hleast _ hstart _ _ ih =>
    obtain ⟨hold, hnew⟩ := Group.start_of_eq hstart
    refine List.forall_mem_cons.mpr ⟨by omega, ?_⟩
    intro g' hg'
    have hnext := ih g' hg'
    simp only [Group.stop, Span.stop] at hnext
    omega

theorem ordered (h : Cut ls least p gs q) :
    gs.Pairwise fun a b => a.old.stop < b.old.start ∧ a.new.stop < b.new.start := by
  induction h with
  | done => exact .nil
  | group _ _ _ _ hrest ih => exact .cons hrest.le_start ih

theorem aligned (h : Cut ls least p gs q) : Aligned p.old p.new (gs.map (Group.hunk old new)) := by
  induction h with
  | done => trivial
  | @group least p q n g gs _ _ hstart _ _ ih =>
    obtain ⟨hold, hnew⟩ := Group.start_of_eq hstart
    exact ⟨⟨n, hold, hnew⟩, ih⟩

theorem result (h : Cut (.keyed key old new) least p gs q)
    (hq : q = (Lines.keyed key old new).stop) :
    (patched old p.old (gs.map (Group.hunk old new))).map key = (new.map key).drop p.new := by
  induction h with
  | @done least p n hsame =>
    obtain ⟨hold, hnew⟩ : p.old + n = old.length ∧ p.new + n = new.length := by
      simpa [Point.on, Lines.stop, Lines.keyed] using hq
    have hkeys : ((old.map key).drop p.old).take n = ((new.map key).drop p.new).take n :=
      hsame.take_eq
    rw [List.take_of_length_le (by simp; omega), List.take_of_length_le (by simp; omega)] at hkeys
    simpa [patched] using hkeys
  | @group least p q n g gs _ hsame hstart hfits _ ih =>
    obtain ⟨hold, hnew⟩ := Group.start_of_eq hstart
    have hgap : g.old.start - p.old = n := by omega
    have hkeys : ((old.map key).drop p.old).take n = ((new.map key).drop p.new).take n :=
      hsame.take_eq
    have hlines := hfits.path.reads_new.drop
    have hrest := ih hq
    calc (patched old p.old ((g :: gs).map (Group.hunk old new))).map key
        = ((old.map key).drop p.old).take n ++ ((g.hunk old new).newLines.map key ++
            (patched old g.stop.old (gs.map (Group.hunk old new))).map key) := by
          simp [patched, Group.hunk, Group.stop, hgap, List.map_take, List.map_drop]
      _ = ((new.map key).drop p.new).take n ++ (new.map key).drop g.start.new := by
          rw [hkeys, hrest, Group.newLines_hunk, hlines]
      _ = (new.map key).drop p.new := by
          rw [hstart, Point.on_new, ← List.drop_drop, List.take_append_drop]

private theorem isPatch (h : Cut (.keyed key old new) 0 ⟨0, 0⟩ gs (Lines.keyed key old new).stop)
    (hfree : ∀ line ∈ old ++ new, '\n' ∉ line.toList) :
    IsPatch key old new (gs.map (Group.hunk old new)) where
  oneLine := by
    intro _ hh l hl
    obtain ⟨g, -, rfl⟩ := List.mem_map.mp hh
    obtain ⟨e, -, hl⟩ := List.mem_flatMap.mp hl
    exact hfree l.2 (Edit.mem_of_mem_body hl)
  oldCount := by
    intro _ hh
    obtain ⟨g, hg, rfl⟩ := List.mem_map.mp hh
    rw [Group.oldLines_hunk]
    exact Nat.add_left_cancel (h.fits g hg).path.reads_old.1
  newCount := by
    intro _ hh
    obtain ⟨g, hg, rfl⟩ := List.mem_map.mp hh
    have hlength := (h.fits g hg).path.reads_new.1
    rw [List.length_map] at hlength
    rw [Group.newLines_hunk]
    exact Nat.add_left_cancel hlength
  oldLines := by
    intro _ hh
    obtain ⟨g, hg, rfl⟩ := List.mem_map.mp hh
    have hread := (h.fits g hg).path.reads_old
    have hcount : g.old.count = _ := Nat.add_left_cancel hread.1
    rw [Group.oldLines_hunk, ← hread.2, ← hcount]
    rfl
  ordered := List.pairwise_map.mpr h.ordered
  aligned := h.aligned
  result := by simpa using h.result rfl

end Cut

/-! Printed hunks -/

private theorem printed_eq {first last : Edit} (hfirst : es.head? = some first)
    (hlast : es.getLast? = some last) : printed old new es =
      ⟨⟨first.old.start, last.old.stop - first.old.start⟩,
        ⟨first.new.start, last.new.stop - first.new.start⟩, es.flatMap (Edit.body old new)⟩ := by
  simp [printed, hfirst, hlast]

private theorem Group.Fits.start_eq_or_pos {g : Group} (h : g.Fits ls) :
    (g.old.start = 0 ∧ g.new.start = 0) ∨ (0 < g.old.count ∧ 0 < g.new.count) := by
  -- a group that starts with kept lines has lines in both ranges
  rcases h.anchored with hzero | hkeep
  · exact .inl (by simpa [start] using hzero)
  · obtain ⟨e, es, hes⟩ := List.exists_cons_of_ne_nil h.nonempty
    have hpath := h.path
    rw [hes] at hkeep hpath
    obtain ⟨q, he, hrest⟩ := path_cons_iff.mp hpath
    obtain ⟨n, hn, -, -, rfl⟩ := he.eq_kept (hkeep e rfl)
    have hle := hrest.le
    simp only [start, stop, Span.stop, Point.on_old, Point.on_new] at hle
    exact .inr (by omega)

private theorem printed_eq_hunk_iff {g : Group} (h : g.Fits ls) :
    printed old new g.edits = g.hunk old new ↔
    StartsAt g.start g.edits ∧ StopsAt g.stop g.edits := by
  have hplace := h.start_eq_or_pos
  have hfirst := List.head?_eq_some_head h.nonempty
  have hlast := List.getLast?_eq_some_getLast h.nonempty
  generalize g.edits.head h.nonempty = first at hfirst
  generalize g.edits.getLast h.nonempty = last at hlast
  have hranges : printed old new g.edits = g.hunk old new ↔
      (first.old.start = g.old.start ∧ last.old.stop - first.old.start = g.old.count) ∧
        first.new.start = g.new.start ∧ last.new.stop - first.new.start = g.new.count := by
    rw [printed_eq hfirst hlast]
    simp only [Group.hunk, Hunk.mk.injEq, and_true, ← Span.mk.injEq]
  have hpoints : StartsAt g.start g.edits ∧ StopsAt g.stop g.edits ↔
      (first.old.start = g.old.start ∧ first.new.start = g.new.start) ∧
        last.old.stop = g.old.start + g.old.count ∧ last.new.stop = g.new.start + g.new.count := by
    simp only [StartsAt, StopsAt, hfirst, hlast, Option.mem_some_iff, forall_eq', Edit.start,
      Edit.stop, Group.start, Group.stop, Point.mk.injEq]
    rfl
  -- the difference of two places is cut off at zero, which hides a wrong place only of a range
  -- without lines; such a range starts where the lists do
  rw [hranges, hpoints]
  omega

/-- Hunks of the same lines that stand at the same place in one of the lists. -/
def Hunk.Resembles (h h' : Hunk) : Prop :=
  h.body = h'.body ∧ (h.old.start = h'.old.start ∨ h.new.start = h'.new.start)

def Hunk.Counts (h : Hunk) : Prop :=
  h.old.count = h.oldLines.length ∧ h.new.count = h.newLines.length

theorem Aligned.eq {x y : Nat} {hs hs' : List Hunk} (h : List.Forall₂ Hunk.Resembles hs hs')
    (hcounts : ∀ h ∈ hs, h.Counts) (hcounts' : ∀ h ∈ hs', h.Counts) (haligned : Aligned x y hs)
    (haligned' : Aligned x y hs') : hs = hs' := by
  induction h generalizing x y with
  | nil => rfl
  | @cons k k' hs hs' hk _ ih =>
    rw [List.forall_mem_cons] at hcounts hcounts'
    obtain ⟨⟨gap, hold, hnew⟩, hrest⟩ := haligned
    obtain ⟨⟨gap', hold', hnew'⟩, hrest'⟩ := haligned'
    -- one true start gives the gap, and the gap gives the other start
    have hgap : gap = gap' := by
      rcases hk.2 with hsame | hsame
      · omega
      · omega
    have holdCount : k.old.count = k'.old.count := by
      rw [hcounts.1.1, hcounts'.1.1, Hunk.oldLines, Hunk.oldLines, hk.1]
    have hnewCount : k.new.count = k'.new.count := by
      rw [hcounts.1.2, hcounts'.1.2, Hunk.newLines, Hunk.newLines, hk.1]
    obtain rfl : k = k' := by
      obtain ⟨⟨_, _⟩, ⟨_, _⟩, _⟩ := k
      obtain ⟨⟨_, _⟩, ⟨_, _⟩, _⟩ := k'
      simp_all [Hunk.Resembles]
    rw [ih hcounts.2 hcounts'.2 hrest hrest']

/-- The first edit between two lists says truly that it starts where they do, and the last one that
it ends where they do. -/
def Located (ls : Lines) : Prop :=
  StartsAt ⟨0, 0⟩ (edits ls) ∧ StopsAt ls.stop (edits ls)

instance (ls : Lines) : Decidable (Located ls) :=
  inferInstanceAs (Decidable ((∀ e ∈ (edits ls).head?, e.start = ⟨0, 0⟩) ∧
    ∀ e ∈ (edits ls).getLast?, e.stop = ls.stop))

theorem IsPatch.counts {hs : List Hunk} (h : IsPatch key old new hs) : ∀ k ∈ hs, k.Counts :=
  fun k hk => ⟨h.oldCount k hk, h.newCount k hk⟩

private theorem Group.Fits.resembles {g : Group} (h : g.Fits ls) :
    (printed old new g.edits).Resembles (g.hunk old new) := by
  have hlast := List.getLast?_eq_some_getLast h.nonempty
  obtain ⟨e, es, hes⟩ := List.exists_cons_of_ne_nil h.nonempty
  have hpath := h.path
  rw [hes] at hpath
  obtain ⟨q, he, -⟩ := path_cons_iff.mp hpath
  rw [printed_eq (by rw [hes]; rfl) hlast]
  exact ⟨rfl, he.start_old_or_new⟩

/-- The hunks between two lists as they are printed. -/
def shown (key : String → String) (old new : List String) : List Hunk :=
  (hunks (edits (.keyed key old new))).map (printed old new)

private theorem exists_groups (key : String → String) (old new : List String) :
    ∃ gs, Cut (.keyed key old new) 0 ⟨0, 0⟩ gs (Lines.keyed key old new).stop ∧
      gs.map Group.edits = hunks (edits (.keyed key old new)) ∧
      shown key old new = gs.map (fun g => printed old new g.edits) ∧
      (Right gs ↔ Located (.keyed key old new)) := by
  obtain ⟨gs, hgs, hcut, hright⟩ := hunks_cut (edits_path (.keyed key old new))
  refine ⟨gs, hcut, hgs, ?_, hright⟩
  rw [shown, ← hgs, List.map_map]
  rfl

theorem join_hunkText_eq (key : String → String) (old new : List String) :
    String.join ((hunks (edits (.keyed key old new))).map (hunkText old new)) =
      patchText (shown key old new) := by
  obtain ⟨gs, hcut, hgs, -, -⟩ := exists_groups key old new
  refine join_hunkText old new ?_
  intro es hes
  rw [← hgs] at hes
  obtain ⟨g, hg, rfl⟩ := List.mem_map.mp hes
  exact (hcut.fits g hg).nonempty

theorem exists_isPatch (key : String → String) (hfree : ∀ line ∈ old ++ new, '\n' ∉ line.toList) :
    ∃ hs, IsPatch key old new hs ∧ (shown key old new).map Hunk.body = hs.map Hunk.body := by
  obtain ⟨gs, hcut, -, hshown, -⟩ := exists_groups key old new
  refine ⟨gs.map (Group.hunk old new), hcut.isPatch hfree, ?_⟩
  rw [hshown, List.map_map, List.map_map]
  exact List.map_congr_left fun g hg => (hcut.fits g hg).resembles.1

private theorem shown_isPatch_iff (key : String → String)
    (hfree : ∀ line ∈ old ++ new, '\n' ∉ line.toList) :
    IsPatch key old new (shown key old new) ↔ Located (.keyed key old new) := by
  obtain ⟨gs, hcut, -, hshown, hright⟩ := exists_groups key old new
  have hpatch := hcut.isPatch hfree
  rw [← hright, hshown]
  constructor
  · intro h g hg
    have hresembles : List.Forall₂ Hunk.Resembles (gs.map fun g => printed old new g.edits)
        (gs.map (Group.hunk old new)) := by
      rw [List.forall₂_map_left_iff, List.forall₂_map_right_iff, List.forall₂_same]
      exact fun g hg => (hcut.fits g hg).resembles
    have heq := h.aligned.eq hresembles h.counts hpatch.counts hpatch.aligned
    exact (printed_eq_hunk_iff (hcut.fits g hg)).mp (List.map_inj_left.mp heq g hg)
  · intro h
    have heq : (gs.map fun g => printed old new g.edits) = gs.map (Group.hunk old new) :=
      List.map_congr_left fun g hg => (printed_eq_hunk_iff (hcut.fits g hg)).mpr (h g hg)
    rwa [heq]

/-- What is printed is the text of a patch exactly if the edits are located truly. -/
theorem exists_patchText_iff (key : String → String)
    (hfree : ∀ line ∈ old ++ new, '\n' ∉ line.toList) :
    (∃ hs, IsPatch key old new hs ∧ patchText (shown key old new) = patchText hs) ↔
      Located (.keyed key old new) := by
  rw [← shown_isPatch_iff key hfree]
  constructor
  · rintro ⟨hs, hpatch, htext⟩
    obtain ⟨hs', hpatch', hbodies⟩ := exists_isPatch key hfree
    have honeLine : ∀ h ∈ shown key old new, ∀ l ∈ h.body, '\n' ∉ l.2.toList := by
      intro h hh
      have hbody := List.mem_map_of_mem (f := Hunk.body) hh
      rw [hbodies] at hbody
      obtain ⟨h', hh', heq⟩ := List.mem_map.mp hbody
      exact heq ▸ hpatch'.oneLine h' hh'
    rwa [patchText_injective honeLine hpatch.oneLine htext]
  · intro h
    exact ⟨_, h, rfl⟩

end ShellSuite.Diff
