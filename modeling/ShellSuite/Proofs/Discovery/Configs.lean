import ShellSuite.Proofs.Config.Valid
import ShellSuite.Proofs.Discovery.Search

set_option autoImplicit false
set_option relaxedAutoImplicit false

/-!
The configurations a search works with. What holds of the configuration of the root, and is kept by
the settings of every directory, holds of the configuration of every test that is found, even if the
file tree changes while the search goes on.
-/

namespace ShellSuite.Discovery

/-- What a search can find when every step sees a file tree of its own. -/
inductive Search.Finds : Search → Item → Prop
  | now {s s' : Search} {fs : FileSystem} {item : Item} (h : s.step fs = some (some item, s')) :
      Finds s item
  | later {s s' : Search} {fs : FileSystem} {found : Option Item} {item : Item}
      (h : s.step fs = some (found, s')) (rest : Finds s' item) : Finds s item

theorem Search.finds_of_mem_collect {fs : FileSystem} {n : Nat} {s : Search} {item : Item}
    (h : item ∈ Search.all.collect fs n s) : s.Finds item := by
  induction n generalizing s with
  | zero => cases h
  | succ n ih =>
    unfold Search.all.collect at h
    split at h
    next => cases h
    next found s' hstep =>
      rcases List.mem_append.mp h with hnow | hlater
      · rw [Option.mem_toList] at hnow
        subst hnow
        exact .now hstep
      · exact .later hstep (ih hlater)

private theorem Search.finds_of_mem_all {fs : FileSystem} {s : Search} {item : Item}
    (h : item ∈ s.all fs) : s.Finds item :=
  finds_of_mem_collect h

structure Search.Holds (P : Config → Prop) (s : Search) : Prop where
  root : P s.root.config
  scopes : ∀ e ∈ s.scopes, P e.2.config

section Kept

variable {P : Config → Prop} {fs : FileSystem} {s s' : Search} {item : Option Item}

theorem Search.Holds.scopeOf? (h : s.Holds P) {dir : Path} {scope : Scope}
    (hscope : s.scopeOf? dir = some scope) : P scope.config := by
  obtain ⟨front, back, hsplit, -⟩ := List.lookup_eq_some_iff.mp hscope
  exact h.scopes (dir.components, scope) (by simp [hsplit])

theorem Search.Holds.record (h : s.Holds P) {dir : Path} {scope : Scope} (hscope : P scope.config) :
    (s.record dir scope).Holds P :=
  ⟨h.root, List.forall_mem_cons.mpr ⟨hscope, h.scopes⟩⟩

theorem Search.Holds.walker (h : s.Holds P) (w : Walker) : Holds P { s with walker := w } :=
  ⟨h.root, h.scopes⟩

variable (hkeep : ∀ fs dir c c', P c → Config.resolve fs dir c = .ok c' → P c')
include hkeep

theorem Search.Holds.lookAtEntry {path : Path} {name : String} {isDir : Bool} (hs : s.Holds P)
    (h : s.lookAtEntry fs path name isDir = (item, s')) :
    s'.Holds P ∧ ∀ t, item = some (.test t) → P t.config := by
  unfold Search.lookAtEntry at h
  split at h
  · cases h
    exact ⟨hs, by simp⟩
  next scope hparent =>
    obtain ⟨dir, -, hscope⟩ := Option.bind_eq_some_iff.mp hparent
    have hconfig : P scope.config := hs.scopeOf? hscope
    split at h
    · cases h
      refine ⟨?_, by simp⟩
      split
      · exact hs.walker _
      · exact hs
    split at h
    · split at h
      · cases h
        exact ⟨hs.walker _, by simp⟩
      next inner henter =>
        cases h
        rw [enter_eq] at henter
        obtain ⟨config, hresolve, rfl⟩ := map_eq_ok henter
        refine ⟨hs.record ?_, by simp⟩
        rw [Scope.inner_config]
        exact hkeep _ _ _ _ hconfig hresolve
    · cases h
      refine ⟨hs, ?_⟩
      intro t ht
      obtain ⟨t', htest, heq⟩ := Option.map_eq_some_iff.mp ht
      obtain rfl := Item.test.inj heq
      unfold testOf? at htest
      split at htest
      · obtain rfl := Option.some.inj htest
        exact hconfig
      · cases htest

theorem Search.Holds.lookAt {sight : Sight} (hs : s.Holds P)
    (h : s.lookAt fs sight = (item, s')) :
    s'.Holds P ∧ ∀ t, item = some (.test t) → P t.config := by
  unfold Search.lookAt at h
  split at h
  · cases h
    exact ⟨hs, by simp⟩
  · cases h
    exact ⟨hs.record hs.root, by simp⟩
  · split at h
    · cases h
      refine ⟨hs, ?_⟩
      rintro t ⟨⟩
      exact hs.root
    · cases h
      exact ⟨hs, by simp⟩
  · exact hs.lookAtEntry hkeep h

/-- What a step finds and holds afterwards has configurations of before, or such as settings make of
them. -/
theorem Search.Holds.step (hs : s.Holds P) (h : s.step fs = some (item, s')) :
    s'.Holds P ∧ ∀ t, item = some (.test t) → P t.config := by
  unfold Search.step at h
  split at h
  · cases h
  · cases h
    exact ⟨hs.walker _, by simp⟩
  · exact (hs.walker _).lookAt hkeep (Option.some.inj h)

theorem Search.Finds.keeps {t : Test} (h : s.Finds (.test t)) (hs : s.Holds P) : P t.config := by
  generalize hitem : Item.test t = item at h
  induction h with
  | now hstep => exact (hs.step hkeep hstep).2 t (by rw [hitem])
  | later hstep _ ih => exact ih (hs.step hkeep hstep).1 hitem

end Kept

private theorem valid_of_ofDirectory {fs : FileSystem} {dir : Path} {o : Override}
    (h : Override.ofDirectory fs dir = .ok (some o)) : o.Valid := by
  unfold Override.ofDirectory at h
  split at h
  · cases h
  · cases h
  split at h
  · cases h
  split at h
  · cases h
  next hfault =>
    obtain rfl := Option.some.inj (Except.ok.inj h)
    exact Override.fault?_eq_none_iff.mp hfault

private theorem wellFormed_resolve {fs : FileSystem} {dir root : Path} {c c' : Config}
    (hc : c.WellFormed ∧ c.sourceRoot = root) (h : Config.resolve fs dir c = .ok c') :
    c'.WellFormed ∧ c'.sourceRoot = root := by
  obtain ⟨o, hload, rfl⟩ := resolve_eq_ok h
  cases o with
  | none => exact hc
  | some o => exact ⟨hc.1.merge (valid_of_ofDirectory hload) dir, hc.2⟩

/-- The configuration of every test that a search can find is well-formed and has the root of the
suite that the configuration at the start has. -/
theorem finds_wellFormed {fs : FileSystem} {path : Path} {s : Search}
    (h : start fs path = .ok s) :
    ∃ config, Config.ofRoot fs (rootOf fs path) = .ok config ∧
      ∀ t, s.Finds (.test t) →
        t.config.WellFormed ∧ t.config.sourceRoot = config.sourceRoot := by
  obtain ⟨config, hconfig, hs⟩ := bind_eq_ok h
  obtain rfl := Except.ok.inj hs
  refine ⟨config, hconfig, ?_⟩
  intro t ht
  have hroot := wellFormed_resolve ⟨Config.wellFormed_initial _, rfl⟩ hconfig
  exact ht.keeps (fun _ _ _ _ => wellFormed_resolve) ⟨⟨hroot.1, rfl⟩, by simp⟩

theorem finds_wellFormed_sample :
    let config := (sampleScope ⟨"/s"⟩).config
    let t := Test.ofFile ⟨"/s/a.t"⟩ config ⟨"/s"⟩
    ∃ search, start sample ⟨"/s"⟩ = .ok search ∧ search.Finds (.test t) ∧
      t.config.WellFormed ∧ t.config.sourceRoot = ⟨"/s"⟩ := by
  intro config t
  have hplain : sample.IsPlain ⟨"/s"⟩ ["s"] := by decide
  have hroot : sample.node false ⟨"/s"⟩ = .ok (.directory sampleEntries) := hplain.node false
  have hconfig : Config.ofRoot sample ⟨"/s"⟩ = .ok config := ofRoot_of_settings sample_settings
  have hstart := start_of_directory (FileSystem.node_follow hroot) hconfig
  have hfound : Search.Finds ⟨sampleScope ⟨"/s"⟩, ⟨some ⟨"/s"⟩, []⟩, []⟩ (.test t) := by
    refine Search.finds_of_mem_all (?_ : _ ∈ Search.all sample _)
    rw [all_eq_walk _ sample_wellFormed hroot,
      walk_sampleEntries ⟨"/s"⟩ sample_sub.1 sample_sub.2]
    exact List.mem_cons_self
  obtain ⟨config', hconfig', hall⟩ := finds_wellFormed hstart
  rw [rootOf_directory (FileSystem.node_follow hroot), hconfig] at hconfig'
  obtain rfl := Except.ok.inj hconfig'
  exact ⟨_, hstart, hfound, hall t hfound⟩

end ShellSuite.Discovery
