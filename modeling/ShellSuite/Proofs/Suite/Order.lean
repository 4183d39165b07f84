import ShellSuite.Proofs.Discovery.Ends
import ShellSuite.Proofs.Summary
import ShellSuite.Proofs.Test.Setting
import ShellSuite.Proofs.Test.World
import ShellSuite.Suite

set_option autoImplicit false
set_option relaxedAutoImplicit false

/-!
Reports show results in the order in which discovery found the items. Discovery finds them in the
order of their paths, also if the tests change files while it goes on; and a single worker records
the result of an item before it takes the next one.
-/

namespace ShellSuite

private theorem Summary.snapshot_results_of_sorted {s : Summary}
    (h : s.results.Pairwise fun a b => a.path.less b.path = true) (elapsed : Duration) :
    (s.snapshot elapsed).results = s.results := by
  refine List.mergeSort_of_pairwise (h.imp ?_)
  intro a b hab
  exact TestResult.atMost_iff.mpr (.inl hab)

private theorem Test.path_of_run {site : Site} {o : RunOptions} {t : Test} {s after : RunState}
    {r : TestResult} (h : t.run site o s = some (r, after)) : r.path = t.path := by
  rw [run, runWith] at h
  split at h
  · cases h
    rfl
  · split at h
    · cases h
      rfl
    · split at h
      · cases h
        rfl
      · rw [runPlan] at h
        simp only at h
        split at h
        · cases h
          rfl
        · rw [Option.map_eq_some_iff] at h
          obtain ⟨w, -, hrun⟩ := h
          cases hrun
          rfl

namespace Suite

open Discovery

variable {site : Site} {o : RunOptions} {s after : RunState}

/-- The items that a run takes from a source, at most so many. -/
def taken {ι : Type} (next : Source ι) (site : Site) (o : RunOptions) :
    Nat → ι → RunState → List Item
  | 0, _, _ => []
  | n + 1, source, s =>
    match next s.world.files source with
    | none => []
    | some (item, source) =>
      match runItem site o s item with
      | none => [item]
      | some (_, s) => item :: taken next site o n source s

private theorem path_of_runItem {item : Item} {r : TestResult}
    (h : runItem site o s item = some (r, after)) : r.path = item.path := by
  unfold runItem at h
  cases item with
  | broken cause =>
    cases h
    rfl
  | unreadable path cause =>
    cases h
    rfl
  | test t =>
    simp only [admission] at h
    cases hidle : idleResult? o s.world.token.cancelled t with
    | none =>
      rw [hidle] at h
      exact Test.path_of_run h
    | some known =>
      rw [hidle] at h
      cases h
      unfold idleResult? at hidle
      split at hidle
      · cases hidle
        rfl
      · split at hidle
        · split at hidle
          · cases hidle
          · cases hidle
            rfl
        · cases hidle

private theorem runItem_moves {R : World → World → Prop} (hm : site.machine.Moves R) {item : Item}
    {r : TestResult} (h : runItem site o s item = some (r, after)) : R s.world after.world := by
  unfold runItem at h
  split at h
  · cases h
    exact hm.refl s.world
  · exact Test.run_moves hm h

section Items

variable {ι : Type} {next : Source ι} {source source' : ι} {rs : List TestResult}

theorem runItems_of_end (h : next s.world.files source = none) (room : Nat) :
    runItems next site o room source s = some ([], s) := by
  rw [runItems.eq_def, h]

theorem runItems_of_item {room : Nat} {item : Item} {r : TestResult} {s' : RunState}
    (hnext : next s.world.files source = some (item, source'))
    (hitem : runItem site o s item = some (r, s'))
    (hitems : runItems next site o room source' s' = some (rs, after)) :
    runItems next site o (room + 1) source s = some (r :: rs, after) := by
  rw [runItems.eq_def, hnext]
  simp [hitem, hitems]

theorem exists_of_runItems {room : Nat} {item : Item}
    (hnext : next s.world.files source = some (item, source'))
    (h : runItems next site o room source s = some (rs, after)) :
    ∃ k r s' rs', runItem site o s item = some (r, s') ∧
      runItems next site o k source' s' = some (rs', after) ∧ rs = r :: rs' := by
  rw [runItems.eq_def, hnext] at h
  cases room with
  | zero => cases h
  | succ k =>
    obtain ⟨⟨r, s'⟩, hitem, h⟩ := Option.bind_eq_some_iff.mp h
    obtain ⟨⟨rs', s''⟩, hitems, hrs⟩ := Option.bind_eq_some_iff.mp h
    cases hrs
    exact ⟨k, r, s', rs', hitem, hitems, rfl⟩

/-- There is one result for each item taken, in the same order; and a run that has results has taken
all items. -/
theorem paths_of_runItems {room : Nat}
    (h : runItems next site o room source s = some (rs, after)) (n : Nat) :
    (taken next site o n source s).map (·.path) = (rs.map (·.path)).take n := by
  induction n generalizing room source s rs with
  | zero => rfl
  | succ n ih =>
    unfold taken
    cases hnext : next s.world.files source with
    | none =>
      rw [runItems_of_end hnext] at h
      cases h
      rfl
    | some x =>
      obtain ⟨item, source'⟩ := x
      obtain ⟨k, r, s', rs', hitem, hitems, rfl⟩ := exists_of_runItems hnext h
      simp only [hitem, List.map_cons, List.take_succ_cons, path_of_runItem hitem, ih hitems]

end Items

/-- The items taken come in the order of their paths, behind all that the search was past. -/
theorem less_of_taken (hm : site.machine.KeepsTrees) {search : Search}
    (htree : s.world.files.root.WellFormed) (hsearch : search.walker.Orderly) (n : Nat) :
    ((taken found site o n search s).Pairwise fun a b => a.path.less b.path = true) ∧
      ∀ p, search.walker.Past p → ∀ i ∈ taken found site o n search s,
        p.less i.path = true := by
  induction n generalizing search s with
  | zero => exact ⟨.nil, by simp [taken]⟩
  | succ n ih =>
    unfold taken
    cases hnext : found s.world.files search with
    | none => exact ⟨.nil, by simp⟩
    | some x =>
      obtain ⟨item, search'⟩ := x
      have hmoves := Search.next_moves htree hsearch hnext
      have hfirst : ∀ p, search.walker.Past p → p.less item.path = true :=
        fun p hp => (hmoves.onward p hp).2 item rfl
      simp only
      cases hitem : runItem site o s item with
      | none =>
        refine ⟨List.pairwise_singleton _ _, ?_⟩
        intro p hp i hi
        rw [List.mem_singleton.mp hi]
        exact hfirst p hp
      | some y =>
        obtain ⟨r, s'⟩ := y
        have htree' := runItem_moves hm.moves hitem htree
        obtain ⟨hpairwise, hbehind⟩ := ih htree' hmoves.orderly
        constructor
        · rw [List.pairwise_cons]
          exact ⟨hbehind item.path (hmoves.past item rfl), hpairwise⟩
        · intro p hp i hi
          rcases List.mem_cons.mp hi with rfl | hi
          · exact hfirst p hp
          · exact hbehind p (hmoves.onward p hp).1 i hi

/-- Discovery finds items in the order in which reports show them, also while tests run. So the
report of a run on one worker shows the results in the order in which their items were taken: its
first results are those of the first items, for any number of them. -/
theorem snapshot_follows_discovery {fs : FileSystem} {root : Path} {search : Search}
    (htree : fs.root.WellFormed) (hstart : Discovery.start fs root = .ok search) :
    ((search.all fs).Pairwise fun a b => a.path.less b.path = true) ∧
    ∀ (site : Site) (o : RunOptions) (w : World),
      site.machine.KeepsTrees → w.files.root.WellFormed →
      (∀ n, (taken found site o n search ⟨w, []⟩).Pairwise fun a b =>
        a.path.less b.path = true) ∧
      ∀ (after : World) (summary : Summary) (elapsed : Duration),
        run site o search w = some (summary, after) →
        (summary.snapshot elapsed).results = summary.results ∧
        ∀ n, (taken found site o n search ⟨w, []⟩).map (·.path) =
          ((summary.snapshot elapsed).results.map (·.path)).take n := by
  have hsearch := Discovery.orderly_of_start hstart
  refine ⟨(Search.less_of_collect htree hsearch _).1, ?_⟩
  intro site o w hm hfiles
  have htaken (n : Nat) : (taken found site o n search ⟨w, []⟩).Pairwise fun a b =>
      a.path.less b.path = true := (less_of_taken hm hfiles hsearch n).1
  refine ⟨htaken, ?_⟩
  intro after summary elapsed hrun
  obtain ⟨⟨rs, s⟩, hitems, hsummary⟩ := Option.bind_eq_some_iff.mp hrun
  cases hsummary
  have hresults : rs.Pairwise fun a b => a.path.less b.path = true := by
    have hmapped : ((taken found site o rs.length search ⟨w, []⟩).map (·.path)).Pairwise
        fun p q => p.less q = true := List.pairwise_map.mpr (htaken rs.length)
    rw [paths_of_runItems hitems, List.take_of_length_le (by simp)] at hmapped
    exact List.pairwise_map.mp hmapped
  have hsnapshot := Summary.snapshot_results_of_sorted (s := ⟨rs⟩) hresults elapsed
  refine ⟨hsnapshot, ?_⟩
  rw [hsnapshot]
  exact paths_of_runItems hitems

/-! ### A directory before a file -/

/-- A suite in which the name of a test begins with the name of a directory. -/
def nestedEntries : List (String × Node) :=
  [("a", .directory [("b.t", .file 0 false)]), ("a.t", .file 2 false), ("lit.toml", .file 1 false)]

def nested : FileSystem where
  root := .directory [("d", .directory []), ("s", .directory nestedEntries)]
  contents := #[[], Text.encode "suffixes=[\"t\"]", Text.encode "# RUN: echo\n"]
  home := ⟨"/"⟩

def nestedScope : Scope := sampleScope ⟨"/s"⟩

def nestedTest (file : String) : Test :=
  .ofFile ⟨file⟩ nestedScope.config ⟨"/s"⟩

private theorem nested_root (follow : Bool) :
    nested.node follow ⟨"/s"⟩ = .ok (.directory nestedEntries) := by
  have hplain : nested.IsPlain ⟨"/s"⟩ ["s"] := by decide
  exact hplain.node follow

private theorem nested_start :
    start nested ⟨"/s"⟩ = .ok ⟨nestedScope, ⟨some ⟨"/s"⟩, []⟩, []⟩ := by
  have htoml : nested.IsPlain ⟨"/s/lit.toml"⟩ ["s", "lit.toml"] := by decide
  have hyaml : nested.IsPlain ⟨"/s/lit.yaml"⟩ ["s", "lit.yaml"] := by decide
  have hsettings : Override.ofDirectory nested ⟨"/s"⟩ = .ok (some sampleSettings) :=
    ofDirectory_of_toml (hyaml.isFile.trans rfl) (htoml.node true) (by decide +kernel)
  exact start_of_directory (nested_root true) (ofRoot_of_settings hsettings)

private theorem nested_enter : enter nested ⟨"/s/a"⟩ nestedScope = .ok nestedScope := by
  have htoml : nested.IsPlain ⟨"/s/a/lit.toml"⟩ ["s", "a", "lit.toml"] := by decide
  have hyaml : nested.IsPlain ⟨"/s/a/lit.yaml"⟩ ["s", "a", "lit.yaml"] := by decide
  have hnone : Override.ofDirectory nested ⟨"/s/a"⟩ = .ok none :=
    ofDirectory_of_none (hyaml.isFile.trans rfl) (htoml.isFile.trans rfl)
  have hresolve : Config.resolve nested ⟨"/s/a"⟩ nestedScope.config = .ok nestedScope.config := by
    rw [Config.resolve, hnone]
    rfl
  rw [enter, hresolve]
  exact congrArg Except.ok (if_pos rfl)

def nestedScopes : Scopes :=
  [((Path.mk "/s/a").components, nestedScope), ((Path.mk "/s").components, nestedScope)]

/-- The search that is left when the test in the directory has been found. -/
def nestedRest : Search :=
  .amid nestedScope nestedScopes
    [⟨⟨"/s/a"⟩, []⟩, ⟨⟨"/s"⟩, [.named "a.t" false, .named "lit.toml" false]⟩]

private theorem step_file {fs : FileSystem} {root scope : Scope} {scopes : Scopes} {dir path : Path}
    {name : String} {entries : List Entry} {outer : List Level} (hname : Path.IsName name)
    (hpath : dir.child name = path) (hscope : scopes.lookup dir.components = some scope)
    (hhidden : isHidden scope.config name = false) :
    Search.step fs (.amid root scopes (⟨dir, .named name false :: entries⟩ :: outer)) =
      some ((testOf? scope path).map .test, .amid root scopes (⟨dir, entries⟩ :: outer)) := by
  subst hpath
  rw [step_named hname hscope false _ rfl, hhidden]
  rfl

private theorem step_directory {fs : FileSystem} {root scope inner : Scope} {scopes : Scopes}
    {dir path : Path} {name : String} {entries : List Entry} {outer : List Level}
    (hname : Path.IsName name) (hpath : dir.child name = path)
    (hscope : scopes.lookup dir.components = some scope)
    (hhidden : isHidden scope.config name = false) (henter : enter fs path scope = .ok inner) :
    Search.step fs (.amid root scopes (⟨dir, .named name true :: entries⟩ :: outer)) =
      some (none, .amid root ((path.components, inner) :: scopes)
        (.ofDirectory fs path :: ⟨dir, entries⟩ :: outer)) := by
  subst hpath
  rw [step_named hname hscope true _ rfl, hhidden, henter]
  rfl

private theorem nested_names : ∀ name ∈ ["a", "a.t", "b.t", "lit.toml"],
    isHidden nestedScope.config name = false := by
  decide +kernel

private theorem nested_testOf? :
    testOf? nestedScope ⟨"/s/a/b.t"⟩ = some (nestedTest "/s/a/b.t") ∧
      testOf? nestedScope ⟨"/s/a.t"⟩ = some (nestedTest "/s/a.t") ∧
      testOf? nestedScope ⟨"/s/lit.toml"⟩ = none :=
  ⟨if_pos (by decide +kernel), if_pos (by decide +kernel), if_neg (by decide +kernel)⟩

private theorem nested_first :
    found nested ⟨nestedScope, ⟨some ⟨"/s"⟩, []⟩, []⟩ =
      some (.test (nestedTest "/s/a/b.t"), nestedRest) := by
  have hplain : nested.IsPlain ⟨"/s/a"⟩ ["s", "a"] := by decide
  have hsuite := ofDirectory_of_list (list_of_node (nested_root true))
  have hdirectory : Level.ofDirectory nested ⟨"/s/a"⟩ = ⟨⟨"/s/a"⟩, [.named "b.t" false]⟩ :=
    ofDirectory_of_list (list_of_node (hplain.node true))
  have hstart : Search.step nested ⟨nestedScope, ⟨some ⟨"/s"⟩, []⟩, []⟩ =
      some (none, .amid nestedScope [((Path.mk "/s").components, nestedScope)]
        [⟨⟨"/s"⟩, nestedEntries.map listed⟩]) := by
    have hvisit : Walker.visitStart nested ⟨"/s"⟩ =
        (.start ⟨"/s"⟩ true, [.ofDirectory nested ⟨"/s"⟩]) := by
      rw [Walker.visitStart, nested_root]
      rfl
    simp only [Search.step, Walker.step, hvisit, hsuite]
    rfl
  have hopen : Search.step nested (.amid nestedScope [((Path.mk "/s").components, nestedScope)]
      [⟨⟨"/s"⟩, nestedEntries.map listed⟩]) =
      some (none, .amid nestedScope nestedScopes [⟨⟨"/s/a"⟩, [.named "b.t" false]⟩,
        ⟨⟨"/s"⟩, [.named "a.t" false, .named "lit.toml" false]⟩]) := by
    rw [← hdirectory]
    exact step_directory (by decide) (by decide) List.lookup_cons_self
      (nested_names "a" (by decide)) nested_enter
  have htest : Search.step nested (.amid nestedScope nestedScopes
      [⟨⟨"/s/a"⟩, [.named "b.t" false]⟩,
        ⟨⟨"/s"⟩, [.named "a.t" false, .named "lit.toml" false]⟩]) =
      some (some (.test (nestedTest "/s/a/b.t")), nestedRest) := by
    have hpath : Path.child ⟨"/s/a"⟩ "b.t" = ⟨"/s/a/b.t"⟩ := by decide
    have hscope : nestedScopes.lookup (Path.mk "/s/a").components = some nestedScope :=
      List.lookup_cons_self
    rw [step_file (by decide) hpath hscope (nested_names "b.t" (by decide)), nested_testOf?.1]
    rfl
  have htree : nested.root.WellFormed := by decide
  calc found nested ⟨nestedScope, ⟨some ⟨"/s"⟩, []⟩, []⟩
    _ = _ := Search.next_of_idle htree hstart
    _ = _ := Search.next_of_idle htree hopen
    _ = _ := Search.next_of_found htest

private theorem nested_second {fs : FileSystem} (htree : fs.root.WellFormed) :
    ∃ rest, found fs nestedRest = some (.test (nestedTest "/s/a.t"), rest) ∧
      ∀ files : FileSystem, files.root.WellFormed → found files rest = none := by
  -- what has been entered needs no look at the files any more
  have hscope : nestedScopes.lookup (Path.mk "/s").components = some nestedScope := by
    have hother : ((Path.mk "/s").components == (Path.mk "/s/a").components) = false := by decide
    rw [nestedScopes, List.lookup_cons, hother]
    exact List.lookup_cons_self
  have hleave : Search.step fs nestedRest = some (none, .amid nestedScope nestedScopes
      [⟨⟨"/s"⟩, [.named "a.t" false, .named "lit.toml" false]⟩]) := rfl
  have htest : Search.step fs (.amid nestedScope nestedScopes
      [⟨⟨"/s"⟩, [.named "a.t" false, .named "lit.toml" false]⟩]) =
      some (some (.test (nestedTest "/s/a.t")), .amid nestedScope nestedScopes
        [⟨⟨"/s"⟩, [.named "lit.toml" false]⟩]) := by
    have hpath : Path.child ⟨"/s"⟩ "a.t" = ⟨"/s/a.t"⟩ := by decide
    rw [step_file (by decide) hpath hscope (nested_names "a.t" (by decide)), nested_testOf?.2.1]
    rfl
  refine ⟨.amid nestedScope nestedScopes [⟨⟨"/s"⟩, [.named "lit.toml" false]⟩],
    (Search.next_of_idle htree hleave).trans (Search.next_of_found htest), ?_⟩
  intro files hfiles
  have hsettings : Search.step files (.amid nestedScope nestedScopes
      [⟨⟨"/s"⟩, [.named "lit.toml" false]⟩]) =
      some (none, .amid nestedScope nestedScopes [⟨⟨"/s"⟩, []⟩]) := by
    have hpath : Path.child ⟨"/s"⟩ "lit.toml" = ⟨"/s/lit.toml"⟩ := by decide
    rw [step_file (by decide) hpath hscope (nested_names "lit.toml" (by decide)),
      nested_testOf?.2.2]
    rfl
  have hclose : Search.step files (.amid nestedScope nestedScopes [⟨⟨"/s"⟩, []⟩]) =
      some (none, .amid nestedScope nestedScopes []) := rfl
  calc found files (.amid nestedScope nestedScopes [⟨⟨"/s"⟩, [.named "lit.toml" false]⟩])
    _ = _ := Search.next_of_idle hfiles hsettings
    _ = _ := Search.next_of_idle hfiles hclose
    _ = none := Search.next_of_done rfl

def nestedOptions : RunOptions := { RunOptions.usual with execRoot := some (.path ⟨"/d"⟩) }

private theorem bench_keepsTrees : (Test.bench "/d").machine.KeepsTrees :=
  fun _ _ _ h => h

def nestedState : RunState := ⟨⟨nested, 0, .fresh 0⟩, []⟩

private theorem nested_unsupported : ∃ r,
    runItem (Test.bench "/d") nestedOptions nestedState (.test (nestedTest "/s/a/b.t")) =
      some (r, nestedState) ∧ r.outcome = .unsupported := by
  have hplain : nested.IsPlain ⟨"/s/a/b.t"⟩ ["s", "a", "b.t"] := by decide
  have hplan : (nestedTest "/s/a/b.t").plan nested = .ok (.ofDirectives []) :=
    Test.plan_of_read (t := nestedTest "/s/a/b.t") (hplain.read rfl) (by decide +kernel)
  have hfiles : nestedState.world.files = nested := rfl
  refine ⟨(nestedTest "/s/a/b.t").result .unsupported 0 ["no RUN lines"] [], ?_, rfl⟩
  change (nestedTest "/s/a/b.t").run (Test.bench "/d") nestedOptions nestedState = _
  simp only [Test.run, Test.runWith, hfiles, hplan]
  rfl

private theorem nested_pass : ∃ r after,
    runItem (Test.bench "/d") nestedOptions nestedState (.test (nestedTest "/s/a.t")) =
      some (r, after) ∧ r.outcome = .pass := by
  have hplain : nested.IsPlain ⟨"/s/a.t"⟩ ["s", "a.t"] := by decide
  have hplan : (nestedTest "/s/a.t").plan nested = .ok (.ofDirectives [⟨.run, "echo", 1⟩]) :=
    Test.plan_of_read (t := nestedTest "/s/a.t") (hplain.read rfl) (by decide +kernel)
  have hbase : nested.IsPlain ⟨"/d"⟩ ["d"] := by decide
  have hcreate : Scratch.create nested ⟨"/d"⟩ =
      (nested.put ["d"] (Scratch.name 0) (.directory []),
        .ok ((Path.mk "/d").child (Scratch.name 0))) :=
    Scratch.create_of_plain hbase (by decide) rfl (by decide) (by decide)
  have hcomesTo : Test.ComesTo (Test.bench "/d") nestedOptions (nestedTest "/s/a.t") nestedState
      ⟨.ofDirectives [⟨.run, "echo", 1⟩], (Path.mk "/d").child (Scratch.name 0), ⟨none, none⟩,
        ⟨nested.put ["d"] (Scratch.name 0) (.directory []), 0, .fresh 0⟩⟩ :=
    ⟨hplan, rfl, rfl, hcreate, rfl, rfl⟩
  exact hcomesTo.pass rfl (by decide +kernel)

private theorem nested_run : ∃ rs after,
    run (Test.bench "/d") nestedOptions ⟨nestedScope, ⟨some ⟨"/s"⟩, []⟩, []⟩ nestedState.world =
      some (⟨rs⟩, after) ∧
    rs.map (fun r => (r.path.text, r.outcome)) =
      [("/s/a/b.t", .unsupported), ("/s/a.t", .pass)] := by
  have htree : nested.root.WellFormed := by decide
  obtain ⟨r₁, hfirst, hunsupported⟩ := nested_unsupported
  obtain ⟨r₂, after, hsecond, hpass⟩ := nested_pass
  obtain ⟨rest, hnext, hend⟩ := nested_second htree
  have hafter : after.world.files.root.WellFormed :=
    runItem_moves bench_keepsTrees.moves hsecond htree
  have hitems : runItems found (Test.bench "/d") nestedOptions capacity
      ⟨nestedScope, ⟨some ⟨"/s"⟩, []⟩, []⟩ nestedState = some ([r₁, r₂], after) := by
    have hroom : capacity = (capacity - 2) + 2 := by decide
    rw [hroom]
    refine runItems_of_item nested_first hfirst (runItems_of_item hnext hsecond ?_)
    exact runItems_of_end (hend _ hafter) _
  refine ⟨[r₁, r₂], _, congrArg (Option.bind · _) hitems, ?_⟩
  simp only [List.map_cons, List.map_nil, path_of_runItem hfirst, path_of_runItem hsecond,
    hunsupported, hpass]
  rfl

/-- The test in the directory comes first, though the text of its path is the greater one. The
other test is run. -/
theorem snapshot_follows_discovery_nested : ∃ search summary after,
    Discovery.start nested ⟨"/s"⟩ = .ok search ∧
    run (Test.bench "/d") nestedOptions search nestedState.world = some (summary, after) ∧
    (summary.snapshot 0).results.map (fun r => (r.path.text, r.outcome)) =
      [("/s/a/b.t", .unsupported), ("/s/a.t", .pass)] ∧
    (∀ n, (taken found (Test.bench "/d") nestedOptions n search nestedState).map (·.path.text) =
      ["/s/a/b.t", "/s/a.t"].take n) ∧
    "/s/a.t" < "/s/a/b.t" := by
  have htree : nested.root.WellFormed := by decide
  obtain ⟨rs, after, hrun, hrs⟩ := nested_run
  obtain ⟨-, hreport⟩ := snapshot_follows_discovery htree nested_start
  obtain ⟨-, hresults⟩ := hreport (Test.bench "/d") nestedOptions nestedState.world
    bench_keepsTrees htree
  obtain ⟨hsnapshot, htaken⟩ := hresults after _ 0 hrun
  refine ⟨_, _, after, nested_start, hrun, ?_, ?_, by decide +kernel⟩
  · rw [hsnapshot]
    exact hrs
  · intro n
    have hpaths := congrArg (List.map Path.text) (htaken n)
    have htexts := congrArg (List.map Prod.fst) hrs
    simp only [hsnapshot, List.map_map, List.map_take] at hpaths htexts
    exact hpaths.trans (congrArg (List.take n) htexts)

end Suite

end ShellSuite
