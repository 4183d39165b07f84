import ShellSuite.Proofs.Files.Change
import ShellSuite.Test.Run

set_option autoImplicit false
set_option relaxedAutoImplicit false

/-!
How a test comes to its lines: it has a plan that applies, a scratch directory and a deadline that
the clock can show. From there on its result depends on what its lines do.
-/

namespace ShellSuite

theorem Scratch.create_of_plain {fs : FileSystem} {dir : Path} {names : List String}
    (hdir : fs.IsPlain dir names) (hbare : FileSystem.bare dir = dir)
    (hempty : fs.root.descend? names = some (.directory []))
    (hscratch : fs.IsPlain ((fs.absolute dir).child (name 0)) (names ++ [name 0]))
    (hscratchBare : FileSystem.bare ((fs.absolute dir).child (name 0)) =
      (fs.absolute dir).child (name 0)) :
    create fs dir =
      (fs.put names (name 0) (.directory []), .ok ((fs.absolute dir).child (name 0))) := by
  have hfresh : freshName fs dir = name 0 := by
    have hlist : fs.list dir = .ok [] := by
      simp only [FileSystem.list, hdir.node, hempty]
      rfl
    simp only [freshName, hlist]
    rfl
  have hnone : fs.root.descend? (names ++ [name 0]) = none := by
    rw [Node.descend?_concat, hempty]
    rfl
  have hmade := hscratch.createDir hscratchBare hnone
  rw [List.dropLast_concat, List.getLast?_concat] at hmade
  unfold create
  simp only [hdir.createDirs hbare hempty, hfresh, hmade, Option.getD_some]

namespace Test

structure Setting where
  plan : TestPlan
  scratch : Path
  watchdog : Watchdog
  world : World

def scratchBase (site : Site) (o : RunOptions) (t : Test) : Path :=
  Scratch.base site.temp t.config.sourceRoot site.stamp (o.execRoot.getD t.config.execRoot)

structure ComesTo (site : Site) (o : RunOptions) (t : Test) (s : RunState) (x : Setting) :
    Prop where
  plan : t.plan s.world.files = .ok x.plan
  nonempty : x.plan.runs.isEmpty = false
  applies : x.plan.refusal? t.config = none
  scratch : Scratch.create s.world.files (t.scratchBase site o) = (x.world.files, .ok x.scratch)
  watchdog : Watchdog.start? s.world.clock (o.timeout.or t.config.timeout) = some x.watchdog
  world : x.world = { s.world with files := x.world.files }

def Setting.execute (site : Site) (t : Test) (x : Setting) :
    String → Shell → Except ShellError LineResult × Shell :=
  executeIn site.machine t.config.format x.watchdog (t.substitutions x.scratch)

def Setting.shell (site : Site) (o : RunOptions) (t : Test) (x : Setting) : Shell :=
  ⟨⟨x.scratch, site.environment t.config, o.pipefail || t.config.pipefail⟩, x.world⟩

variable {site : Site} {o : RunOptions} {t : Test} {s : RunState} {x : Setting}

theorem ComesTo.unique {y : Setting} (hx : ComesTo site o t s x) (hy : ComesTo site o t s y) :
    x = y := by
  obtain ⟨hfiles, hscratch⟩ := Prod.mk.inj (hx.scratch.symm.trans hy.scratch)
  have hworld : x.world = y.world := by rw [hx.world, hy.world, hfiles]
  have hplan := Except.ok.inj (hx.plan.symm.trans hy.plan)
  have hwatchdog := Option.some.inj (hx.watchdog.symm.trans hy.watchdog)
  cases x
  cases y
  cases hplan
  cases hscratch
  cases hwatchdog
  cases hworld
  rfl

theorem ComesTo.runWith (h : ComesTo site o t s x) (execute : LineRunner) :
    ∃ runDirs, t.runWith execute site o s =
      some (t.runIn execute site o x.plan x.scratch x.watchdog ⟨x.world, runDirs⟩) := by
  have hscratch := h.scratch
  unfold scratchBase at hscratch
  simp only [Test.runWith, h.plan, h.nonempty, h.applies, runPlan, hscratch, h.watchdog,
    Option.map_some, Bool.false_eq_true, if_false, ← h.world]
  exact ⟨_, rfl⟩

theorem ComesTo.outcome (h : ComesTo site o t s x) {status : RunStatus}
    (hstatus : (runLines (x.execute site t) x.plan.checks "" x.plan.runs
      (x.shell site o t)).1 = status) :
    ∃ r after, t.run site o s = some (r, after) ∧
      r.outcome = status.outcome (x.plan.expectsFailure t.config) := by
  obtain ⟨runDirs, hrun⟩ := h.runWith (executeIn site.machine t.config.format)
  refine ⟨_, _, hrun, ?_⟩
  unfold Setting.execute Setting.shell at hstatus
  simp only [hstatus, result]

theorem ComesTo.pass (h : ComesTo site o t s x) (hxfail : x.plan.expectsFailure t.config = false)
    (hstatus : (runLines (x.execute site t) x.plan.checks "" x.plan.runs
      (x.shell site o t)).1 = .passed) :
    ∃ r after, t.run site o s = some (r, after) ∧ r.outcome = .pass := by
  obtain ⟨r, after, hrun, houtcome⟩ := h.outcome hstatus
  rw [hxfail] at houtcome
  exact ⟨r, after, hrun, houtcome⟩

theorem plan_of_read {fs : FileSystem} {bytes : Bytes} {ds : List Directive}
    (hread : fs.read t.path = .ok bytes)
    (hparse : Directive.parse (Text.decodeLossy bytes) (t.config.markerFor t.path) = .ok ds) :
    t.plan fs = .ok (.ofDirectives ds) := by
  simp only [plan, hread, hparse]

/-! ### A shelf of small tests -/

/-- Tests of a few lines, and two directories to run them in. -/
def shelf : FileSystem where
  root := .directory [("assigned", .file 0 false), ("cleared", .file 1 false),
    ("d", .directory []), ("d e", .directory []), ("doubled", .file 2 false),
    ("named", .file 3 false), ("negated", .file 4 false), ("offered", .file 5 false),
    ("steady", .file 6 false), ("withdrawn", .file 7 false)]
  contents := #[
    Text.encode "# RUN: echo || A=%T\n",
    Text.encode "# RUN: export A=\n# RUN: $\x7bA\x7d\n",
    Text.encode "# RUN: echo >&%T\n",
    Text.encode "# RUN: export A=echo\n# RUN: $\x7bA\x7d\n",
    Text.encode "# RUN: not\n",
    Text.encode "# RUN: echo || %T\n",
    Text.encode "# RUN: export B=1\n# RUN: echo $\x7bA\x7d%T\n# CHECK: /d/\n",
    Text.encode "# XFAIL: *\n# RUN: not echo\n"]
  home := ⟨"/"⟩

def shelfState : RunState := ⟨⟨shelf, 0, .fresh 0⟩, []⟩

/-- A test of the shelf, with the directory that its scratch directory is made in and with
variables. -/
def shelved (file dir : String) (env : Dict String) : Test :=
  ⟨⟨"/" ++ file⟩, file,
    { Config.initial ⟨"/"⟩ with execRoot := .path ⟨"/" ++ dir⟩, env := env }, ⟨"/"⟩⟩

/-- A site without programs, with a directory for temporary files. -/
def bench (temp : String) : Site := ⟨Pipeline.stopped, .empty, ⟨temp⟩, ""⟩

def shelfSetting (dir : String) (ds : List Directive) : Setting :=
  ⟨.ofDirectives ds, (Path.mk ("/" ++ dir)).child (Scratch.name 0), ⟨none, none⟩,
    ⟨shelf.put [dir] (Scratch.name 0) (.directory []), 0, .fresh 0⟩⟩

private theorem shelf_create {dir : String} (hdir : dir = "d" ∨ dir = "d e") :
    Scratch.create shelf ⟨"/" ++ dir⟩ = (shelf.put [dir] (Scratch.name 0) (.directory []),
      .ok ((Path.mk ("/" ++ dir)).child (Scratch.name 0))) := by
  rcases hdir with rfl | rfl
  · have hplain : shelf.IsPlain ⟨"/d"⟩ ["d"] := by decide
    exact Scratch.create_of_plain hplain (by decide) rfl (by decide) (by decide)
  · have hplain : shelf.IsPlain ⟨"/d e"⟩ ["d e"] := by decide
    exact Scratch.create_of_plain hplain (by decide) rfl (by decide) (by decide)

theorem shelved_plan {file : String} {id : Nat} {ds : List Directive}
    (hplain : shelf.IsPlain ⟨"/" ++ file⟩ [file])
    (hfile : shelf.root.descend? [file] = some (.file id false))
    (hparse : Directive.parse (Text.decodeLossy (shelf.bytesOf id))
      ((Config.initial ⟨"/"⟩).markerFor ⟨"/" ++ file⟩) = .ok ds) (dir : String) (env : Dict String) :
    (shelved file dir env).plan shelf = .ok (.ofDirectives ds) :=
  plan_of_read (t := shelved file dir env) (hplain.read hfile) hparse

theorem shelved_comesTo {file dir : String} {env : Dict String} {ds : List Directive}
    (hdir : dir = "d" ∨ dir = "d e")
    (hplan : (shelved file dir env).plan shelf = .ok (.ofDirectives ds))
    (hruns : (TestPlan.ofDirectives ds).runs.isEmpty = false)
    (happlies : (TestPlan.ofDirectives ds).refusal? (shelved file dir env).config = none)
    (site : Site) : ComesTo site .usual (shelved file dir env) shelfState (shelfSetting dir ds) :=
  ⟨hplan, hruns, happlies, shelf_create hdir, rfl, rfl⟩

/-- A test whose lines set a variable and use another one. -/
def steadyTest : Test := shelved "steady" "d" .empty

def steadySetting : Setting := shelfSetting "d"
  [⟨.run, "export B=1", 1⟩, ⟨.run, "echo $\x7bA\x7d%T", 2⟩, ⟨.check, "/d/", 3⟩]

theorem steady_comesTo : ComesTo (bench "/d") .usual steadyTest shelfState steadySetting :=
  shelved_comesTo (.inl rfl) (shelved_plan (by decide) rfl (by decide +kernel) "d" .empty) rfl rfl _

end Test

end ShellSuite
