import ShellSuite.Proofs.Path
import ShellSuite.Proofs.RunLine.Outline

set_option autoImplicit false
set_option relaxedAutoImplicit false

/-!
Lines that name their scratch directory. The tables of two scratch directories differ only in what
`%t` and `%T` stand for, and these are two directories in front of the same text. So a line can be
read with one absolute path of one word if it can be read with another, as a script of the same
outline.
-/

namespace ShellSuite

namespace Path

structure OneWord (p : Path) : Prop where
  absolute : p.isAbsolute = true
  noBlank : ∀ c ∈ p.text.toList, Text.isBlank c = false

private theorem exists_of_isAbsolute {p : Path} (h : p.isAbsolute = true) :
    ∃ rest, p.text.toList = '/' :: rest := by
  have hhead : p.text.toList.head? = some '/' := by simpa [isAbsolute] using h
  exact ⟨_, List.eq_cons_of_mem_head? hhead⟩

private theorem lead_eq_of_isAbsolute {p : Path} {rest : List Char}
    (h : p.text.toList = '/' :: rest) :
    ∃ after, p.lead = '/' :: after ∧ ∀ c ∈ after, c ∈ rest ∨ c = '/' := by
  unfold lead
  rw [h]
  split
  · exact ⟨rest, rfl, fun c hc => .inl hc⟩
  · refine ⟨rest ++ ['/'], rfl, ?_⟩
    simp

variable {a b : Path}

theorem OneWord.redirected (ha : a.OneWord) (hb : b.isAbsolute = true) :
    RunLine.Redirected a.text.toList b.text.toList := by
  obtain ⟨x, hx⟩ := exists_of_isAbsolute ha.absolute
  obtain ⟨y, hy⟩ := exists_of_isAbsolute hb
  refine .inr ⟨x, y, [], by simp [hx], by simp [hy], ?_⟩
  intro c hc
  exact ha.noBlank c (by rw [hx]; exact List.mem_cons_of_mem _ hc)

private theorem OneWord.redirected_child (ha : a.OneWord) (hb : b.isAbsolute = true)
    (name : String) :
    RunLine.Redirected (a.child name).text.toList (b.child name).text.toList := by
  cases hname : isAbsolute ⟨name⟩ with
  | true => exact .inl (by simp [child, join, hname])
  | false =>
    obtain ⟨x, hx⟩ := exists_of_isAbsolute ha.absolute
    obtain ⟨y, hy⟩ := exists_of_isAbsolute hb
    obtain ⟨x', hx', hmem⟩ := lead_eq_of_isAbsolute hx
    obtain ⟨y', hy', -⟩ := lead_eq_of_isAbsolute hy
    refine .inr ⟨x', y', name.toList, ?_, ?_, ?_⟩
    · rw [child, join_toList a hname, hx', List.cons_append]
    · rw [child, join_toList b hname, hy', List.cons_append]
    · intro c hc
      rcases hmem c hc with hc | rfl
      · exact ha.noBlank c (by rw [hx]; exact List.mem_cons_of_mem _ hc)
      · decide

end Path

theorem Substitutions.redirects_forTest (test : Path) {a b : Path} {line : List Char}
    (hfile : "%t".toList <:+: line → a.OneWord ∧ b.isAbsolute = true)
    (hdir : "%T".toList <:+: line → a.OneWord ∧ b.isAbsolute = true) :
    (forTest test a).Redirects (forTest test b) line := by
  refine .insert (.insert (.insert (.refl _ line) "%t" ?_) "%T" ?_) "%%" fun _ => .inl rfl
  · intro hwritten
    obtain ⟨ha, hb⟩ := hfile hwritten
    exact ha.redirected_child hb _
  · intro hwritten
    obtain ⟨ha, hb⟩ := hdir hwritten
    exact ha.redirected hb

namespace RunLine

/-- With two scratch directories that are absolute paths of one word, a line is read both times or
never, and the scripts have the same outline. -/
theorem parseLine_scratch (test : Path) (map env : Dict String) (line : String) {a b : Path}
    (ha : a.OneWord) (hb : b.OneWord) :
    ((∃ s, parseLine line ((Substitutions.forTest test a).extend map) env = .ok s) ↔
      ∃ s, parseLine line ((Substitutions.forTest test b).extend map) env = .ok s) ∧
    ∀ s s', parseLine line ((Substitutions.forTest test a).extend map) env = .ok s →
      parseLine line ((Substitutions.forTest test b).extend map) env = .ok s' →
      s.SameOutline s' := by
  have hthere : (Substitutions.forTest test a).Redirects (Substitutions.forTest test b)
      line.toList :=
    Substitutions.redirects_forTest test (fun _ => ⟨ha, hb.absolute⟩) fun _ => ⟨ha, hb.absolute⟩
  have hback : (Substitutions.forTest test b).Redirects (Substitutions.forTest test a)
      line.toList :=
    Substitutions.redirects_forTest test (fun _ => ⟨hb, ha.absolute⟩) fun _ => ⟨hb, ha.absolute⟩
  have hboth := parseLine_sided (hthere.extend map) (hback.extend map) env
  exact ⟨hboth.exists_iff, fun s s' hs hs' => hboth.rel hs hs'⟩

/-- A directory with an `=` in its name makes no assignment of a word it stands in front of, and a
blank in the name of the test file cuts a word in both directories. -/
theorem parseLine_scratch_assigned :
    (Path.mk "/a=1").OneWord ∧ (Path.mk "/b").OneWord ∧
    parseLine "A=%T %T=2 >%t" (Substitutions.forTest ⟨"/d/x y"⟩ ⟨"/a=1"⟩) .empty =
      .ok ⟨⟨⟨[("A", "/a=1")], "/a=1=2", ["y.tmp"], [⟨1, .write, "/a=1/x"⟩]⟩, []⟩, []⟩ ∧
    ∃ s, parseLine "A=%T %T=2 >%t" (Substitutions.forTest ⟨"/d/x y"⟩ ⟨"/b"⟩) .empty = .ok s ∧
      s.connectors = [] ∧ s.pipelines.map Pipeline.outline = [[⟨["A"], 1, [(1, .write)]⟩]] := by
  have ha : (Path.mk "/a=1").OneWord := ⟨by decide, by simp [Text.isBlank]⟩
  have hb : (Path.mk "/b").OneWord := ⟨by decide, by simp [Text.isBlank]⟩
  have hread : parseLine "A=%T %T=2 >%t" (Substitutions.forTest ⟨"/d/x y"⟩ ⟨"/a=1"⟩) .empty =
      .ok ⟨⟨⟨[("A", "/a=1")], "/a=1=2", ["y.tmp"], [⟨1, .write, "/a=1/x"⟩]⟩, []⟩, []⟩ := by
    decide +kernel
  obtain ⟨hreads, houtline⟩ :=
    parseLine_scratch ⟨"/d/x y"⟩ .empty .empty "A=%T %T=2 >%t" ha hb
  obtain ⟨s, hs⟩ := hreads.mp ⟨_, hread⟩
  obtain ⟨hconnectors, hpipelines⟩ := houtline _ s hread hs
  exact ⟨ha, hb, hread, s, hs, hconnectors.symm, hpipelines.symm⟩

end RunLine

end ShellSuite
