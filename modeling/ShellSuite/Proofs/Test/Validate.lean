import ShellSuite.Proofs.Files.Change
import ShellSuite.Proofs.RunLine.Scratch
import ShellSuite.Proofs.Shell.Fault
import ShellSuite.Proofs.Test.Lines
import ShellSuite.Test.Validate

set_option autoImplicit false
set_option relaxedAutoImplicit false

/-!
What validating a test says about running it. Both read the same lines, but a run has a scratch
directory in place of the directory for temporary files, and each line finds the variables that the
lines before it have left. Where these make no difference to a line, it is read by both or by none.
-/

namespace ShellSuite

/-! ### Scratch directories -/

private theorem FileSystem.isAbsolute_absolute {fs : FileSystem} (h : fs.home.isAbsolute = true)
    (p : Path) : (fs.absolute p).isAbsolute = true := by
  unfold FileSystem.absolute
  split
  case isTrue hp => exact hp
  case isFalse => exact Path.isAbsolute_join h p

private theorem Scratch.isAbsolute_of_create {fs after : FileSystem} {dir scratch : Path}
    (hhome : fs.home.isAbsolute = true) (h : create fs dir = (after, .ok scratch)) :
    scratch.isAbsolute = true := by
  have hdirs := FileSystem.home_createDirs fs dir
  unfold create at h
  split at h
  next => cases h
  next made hmade =>
    simp only at h
    split at h
    next =>
      obtain ⟨-, hscratch⟩ := Prod.mk.inj h
      obtain rfl := Except.ok.inj hscratch
      rw [hmade] at hdirs
      exact Path.isAbsolute_join (FileSystem.isAbsolute_absolute (hdirs ▸ hhome) dir) _
    next => cases h

/-! ### Tables of different directories -/

/-- Whether the scratch directory is written somewhere in a line. -/
def Test.NamesScratch (line : List Char) : Prop :=
  "%t".toList <:+: line ∨ "%T".toList <:+: line

instance : DecidablePred Test.NamesScratch :=
  fun _ => inferInstanceAs (Decidable (_ ∨ _))

private theorem Test.redirects_substitutions (t : Test) {a b : Path} {line : List Char}
    (h : NamesScratch line → a.OneWord ∧ b.isAbsolute = true) :
    (t.substitutions a).Redirects (t.substitutions b) line := by
  refine (Substitutions.redirects_forTest t.path ?_ ?_).extend t.config.substitutions
  · exact fun hwritten => h (.inl hwritten)
  · exact fun hwritten => h (.inr hwritten)

private theorem Test.keys_substitutions (t : Test) (a b : Path) :
    (t.substitutions a).keys = (t.substitutions b).keys := by
  have hnone : ¬ NamesScratch [] := by decide
  have htables : (t.substitutions a).Redirects (t.substitutions b) [] :=
    t.redirects_substitutions fun hnames => absurd hnames hnone
  exact htables.keys_eq

/-! ### Patterns -/

namespace Check

def Compiles (checks : List Directive) : Prop :=
  ∀ d ∈ checks, ∃ p, compile d.text = .ok p

private theorem Compiles.check_ne_invalid {checks : List Directive} (h : Compiles checks)
    (output : String)
    (line : Nat) (cause : PatternError) : check output checks ≠ .error (.invalid line cause) := by
  unfold check
  generalize Cursor.start output.toList = c
  induction checks generalizing c with
  | nil => simp [checkFrom]
  | cons d ds ih =>
    obtain ⟨p, hp⟩ := h d List.mem_cons_self
    rw [checkFrom, hp]
    simp only
    split
    · simp
    · exact ih (fun e he => h e (List.mem_cons_of_mem d he)) _

private theorem compiles_of_check {checks : List Directive} {output : String}
    (h : check output checks = .ok ()) : Compiles checks := by
  unfold check at h
  generalize Cursor.start output.toList = c at h
  induction checks generalizing c with
  | nil => simp [Compiles]
  | cons d ds ih =>
    rw [checkFrom] at h
    split at h
    next => cases h
    next p hp =>
      split at h
      next => cases h
      next => exact List.forall_mem_cons.mpr ⟨⟨p, hp⟩, ih _ h⟩

end Check

/-! ### Validation -/

namespace Test

def Reads (table : Substitutions) (env : Dict String) (runs : List Directive) : Prop :=
  ∀ d ∈ runs, ∃ script, RunLine.parseLine d.text table env = .ok script

private theorem checkPatterns_eq_ok_iff {checks : List Directive} :
    checkPatterns checks = .ok () ↔ Check.Compiles checks := by
  induction checks with
  | nil => simp [checkPatterns, Check.Compiles]
  | cons d ds ih =>
    rw [checkPatterns, Check.Compiles, List.forall_mem_cons]
    cases hcompile : Check.compile d.text with
    | error cause => simp
    | ok p =>
      simp only [Except.ok.injEq, exists_eq', true_and]
      exact ih

private theorem checkRuns_eq_ok_iff {table : Substitutions} {env : Dict String}
    {runs : List Directive} :
    checkRuns table env runs = .ok () ↔ Reads table env runs := by
  induction runs with
  | nil => simp [checkRuns, Reads]
  | cons d ds ih =>
    rw [checkRuns, Reads, List.forall_mem_cons]
    cases hread : RunLine.parseLine d.text table env with
    | error cause => simp
    | ok script =>
      simp only [Except.ok.injEq, exists_eq', true_and]
      exact ih

/-- A test is valid if it has a plan of patterns that can be compiled and of lines that can be
read in the directory for temporary files. -/
theorem validate_eq_ok_iff {site : Site} {t : Test} {fs : FileSystem} {n : Nat}
    (hformat : t.config.format = .internal) :
    t.validate site fs = .ok n ↔ ∃ p, t.plan fs = .ok p ∧ Check.Compiles p.checks ∧
      Reads (t.substitutions site.temp) (site.environment t.config) p.runs ∧ p.runs.length = n := by
  unfold validate
  cases hplan : t.plan fs with
  | error cause => simp
  | ok p =>
    simp only [hformat, if_true, Except.ok.injEq, exists_eq_left', ← checkPatterns_eq_ok_iff,
      ← checkRuns_eq_ok_iff]
    cases checkPatterns p.checks with
    | error cause => simp [bind, Except.bind]
    | ok =>
      cases checkRuns (t.substitutions site.temp) (site.environment t.config) p.runs with
      | error cause => simp [bind, Except.bind]
      | ok => simp [bind, Except.bind, pure, Except.pure]

/-! ### Faults of tests on the shelf -/

/-- A test of the shelf that is valid, and in which a fault is found when it is run. -/
def Misses (site : Site) (t : Test) (fault : String) : Prop :=
  t.config.format = .internal ∧ (∃ n, t.validate site shelf = .ok n) ∧
    ∃ r after, t.run site .usual shelfState = some (r, after) ∧ fault ∈ r.failures

def Alarms (site : Site) (t : Test) (fault : Invalid) : Prop :=
  t.config.format = .internal ∧ t.validate site shelf = .error fault ∧
    ∃ r after, t.run site .usual shelfState = some (r, after) ∧ r.outcome = .pass

variable {site : Site} {o : RunOptions} {t : Test} {s after : RunState} {x : Setting} {n : Nat}

private theorem Setting.execute_internal (site : Site) (x : Setting)
    (hformat : t.config.format = .internal) :
    x.execute site t = Shell.runLine site.machine x.watchdog (t.substitutions x.scratch) := by
  unfold Setting.execute
  rw [hformat]
  rfl

/-- What a valid test can still fail by. None of its patterns is faulty, and no line ends in a fault
of its tokens. A line can end in a fault of its script if it finds another value of a variable that
it mentions, or if it names the scratch directory and was validated with a directory that is no
absolute path of one word. And commands being prepared can be faulty. -/
theorem faults_of_valid (hformat : t.config.format = .internal)
    (hhome : s.world.files.home.isAbsolute = true)
    (hvalid : t.validate site s.world.files = .ok n) (o : RunOptions) :
    ∀ x, ComesTo site o t s x →
      (∀ d sh e, Starts (x.execute site t) x.plan.runs (x.shell site o t) d sh →
        (x.execute site t d.text sh).1 = .error (.syntaxError e) →
        e.phase = .command ∨ e.phase = .script ∧
          ((∃ name, RunLine.Mentions d.text.toList name ∧ RunLine.valueOf sh.session.env name ≠
              RunLine.valueOf (site.environment t.config) name) ∨
            NamesScratch d.text.toList ∧ ¬ site.temp.OneWord)) ∧
      ∀ output line cause, Check.check output x.plan.checks ≠ .error (.invalid line cause) := by
  obtain ⟨p, hplan, hcompiles, hreads, -⟩ := (validate_eq_ok_iff hformat).mp hvalid
  intro x hx
  obtain rfl : x.plan = p := Except.ok.inj (hx.plan.symm.trans hplan)
  refine ⟨?_, hcompiles.check_ne_invalid⟩
  intro d sh e hstarts hfault
  have hscratch := Scratch.isAbsolute_of_create hhome hx.scratch
  obtain ⟨script, hread⟩ := hreads d hstarts.mem
  rw [x.execute_internal site hformat] at hfault
  rcases Shell.runLine_syntaxError hfault with hparse | hphase
  · have hkeys := t.keys_substitutions site.temp x.scratch
    refine .inr ⟨RunLine.phase_of_parseLine hkeys hread hparse, ?_⟩
    -- if neither the variables nor the directory made a difference, the run would have read the line
    by_contra hnone
    push Not at hnone
    obtain ⟨hvalues, hword⟩ := hnone
    have hagree : RunLine.Agree (site.environment t.config) sh.session.env d.text.toList :=
      fun name hname => (hvalues name hname).symm
    have htables := t.redirects_substitutions fun hnames => ⟨hword hnames, hscratch⟩
    obtain ⟨script', hread'⟩ := RunLine.parseLine_redirects htables hagree hread
    rw [hparse] at hread'
    cases hread'
  · exact .inl hphase

/-- A test with a line that is empty when a variable has been cleared. -/
def clearedTest : Test := shelved "cleared" "d" (Dict.empty.insert "A" "echo")

private theorem cleared_plan : clearedTest.plan shelf =
    .ok (.ofDirectives [⟨.run, "export A=", 1⟩, ⟨.run, "$\x7bA\x7d", 2⟩]) :=
  shelved_plan (by decide) rfl (by decide +kernel) "d" _

private theorem cleared_valid : clearedTest.validate (bench "/d") shelf = .ok 2 := by
  simp only [validate, cleared_plan]
  decide +kernel

private theorem cleared_faulty : ∃ x sh, ComesTo (bench "/d") .usual clearedTest shelfState x ∧
    Starts (x.execute (bench "/d") clearedTest) x.plan.runs
      (x.shell (bench "/d") .usual clearedTest) ⟨.run, "$\x7bA\x7d", 2⟩ sh ∧
    (x.execute (bench "/d") clearedTest "$\x7bA\x7d" sh).1 =
      .error (.syntaxError .emptyCommand) := by
  let log : LineResult :=
    ⟨"export A=", 0, "", "", 0, false, [⟨"export A=", 0, "", ""⟩]⟩
  refine ⟨_, _, shelved_comesTo (.inl rfl) cleared_plan rfl rfl (bench "/d"),
    .later (r := log) ?_ rfl .first, ?_⟩
  · decide +kernel
  · decide +kernel

theorem faults_of_valid_cleared :
    clearedTest.validate (bench "/d") shelf = .ok 2 ∧ ∃ x d sh,
      ComesTo (bench "/d") .usual clearedTest shelfState x ∧
      Starts (x.execute (bench "/d") clearedTest) x.plan.runs
        (x.shell (bench "/d") .usual clearedTest) d sh ∧
      ∃ name, RunLine.Mentions d.text.toList name ∧ RunLine.valueOf sh.session.env name ≠
        RunLine.valueOf ((bench "/d").environment clearedTest.config) name := by
  obtain ⟨x, sh, hx, hstarts, hfault⟩ := cleared_faulty
  have hfaults := faults_of_valid (s := shelfState) rfl rfl cleared_valid .usual x hx
  refine ⟨cleared_valid, x, _, sh, hx, hstarts, ?_⟩
  rcases hfaults.1 _ sh .emptyCommand hstarts hfault with hphase | ⟨-, hchanged | ⟨hnames, -⟩⟩
  · cases hphase
  · exact hchanged
  · exact absurd hnames (by decide)

private theorem assigned_plan (dir : String) : (shelved "assigned" dir .empty).plan shelf =
    .ok (.ofDirectives [⟨.run, "echo || A=%T", 1⟩]) :=
  shelved_plan (by decide) rfl (by decide +kernel) dir .empty

/-- Faults that a valid test can end in: of a line that finds a variable cleared, of a command being
prepared, and, where temporary files are kept in a directory with a blank or in a relative one, of
lines that are read with another directory. -/
theorem valid_tests_with_faults :
    Misses (bench "/d") clearedTest "line 2: shell syntax error: empty command" ∧
    Misses (bench "/d") (shelved "negated" "d" .empty)
      "line 1: shell syntax error: 'not' needs a command" ∧
    Misses (bench "/d e") (shelved "assigned" "d" .empty)
      "line 1: shell syntax error: empty command" ∧
    Misses (bench "1") (shelved "doubled" "d" .empty)
      "line 1: shell syntax error: cannot duplicate file descriptor '/d/shlit-aaaaaa'" := by
  have hnegated : (shelved "negated" "d" .empty).plan shelf =
      .ok (.ofDirectives [⟨.run, "not", 1⟩]) :=
    shelved_plan (by decide) rfl (by decide +kernel) "d" .empty
  have hdoubled : (shelved "doubled" "d" .empty).plan shelf =
      .ok (.ofDirectives [⟨.run, "echo >&%T", 1⟩]) :=
    shelved_plan (by decide) rfl (by decide +kernel) "d" .empty
  refine ⟨⟨rfl, ⟨2, cleared_valid⟩, ?_⟩, ⟨rfl, ⟨1, ?_⟩, ?_⟩, ⟨rfl, ⟨1, ?_⟩, ?_⟩,
    ⟨rfl, ⟨1, ?_⟩, ?_⟩⟩
  · obtain ⟨x, sh, hx, hstarts, hfault⟩ := cleared_faulty
    exact hx.failures hstarts hfault (by decide)
  · simp only [validate, hnegated]
    decide +kernel
  · have hx := shelved_comesTo (.inl rfl) hnegated rfl rfl (bench "/d")
    exact hx.failures .first (e := .syntaxError .missingNegated) (by decide +kernel) (by decide)
  · simp only [validate, assigned_plan]
    decide +kernel
  · have hx := shelved_comesTo (.inl rfl) (assigned_plan "d") rfl rfl (bench "/d e")
    exact hx.failures .first (e := .syntaxError .emptyCommand) (by decide +kernel) (by decide)
  · simp only [validate, hdoubled]
    decide +kernel
  · have hx := shelved_comesTo (.inl rfl) hdoubled rfl rfl (bench "1")
    exact hx.failures .first (e := .syntaxError (.badDuplicate "/d/shlit-aaaaaa"))
      (by decide +kernel) (by decide)

/-- A test that passes is valid, if its lines find the values that variables have at the start and
those that name the scratch directory put in one word. -/
theorem validate_of_pass {r : TestResult} (hformat : t.config.format = .internal)
    (hrun : t.run site o s = some (r, after)) (hpass : r.outcome = .pass)
    (hfound : ∀ x, ComesTo site o t s x → ∀ d sh,
      Starts (x.execute site t) x.plan.runs (x.shell site o t) d sh →
        (∀ name, RunLine.Mentions d.text.toList name → RunLine.valueOf sh.session.env name =
          RunLine.valueOf (site.environment t.config) name) ∧
        (NamesScratch d.text.toList → x.scratch.OneWord ∧ site.temp.isAbsolute = true)) :
    t.validate site s.world.files =
      .ok ((t.directives s.world.files).filter (·.kind = .run)).length := by
  obtain ⟨x, hx, hlines, output, hcheck⟩ := starts_of_pass hrun hpass
  refine (validate_eq_ok_iff hformat).mpr ⟨x.plan, hx.plan, Check.compiles_of_check hcheck, ?_, ?_⟩
  · intro d hd
    obtain ⟨sh, result, hstarts, hresult⟩ := hlines d hd
    obtain ⟨hagree, hword⟩ := hfound x hx d sh hstarts
    rw [x.execute_internal site hformat] at hresult
    obtain ⟨script, hread⟩ := Shell.parseLine_of_runLine hresult
    exact RunLine.parseLine_redirects (t.redirects_substitutions hword) hagree hread
  · rw [plan_eq_ok hx.plan]
    rfl

theorem validate_of_pass_steady : ∃ r after,
    steadyTest.run (bench "/d") .usual shelfState = some (r, after) ∧ r.outcome = .pass ∧
    steadyTest.validate (bench "/d") shelf = .ok 2 := by
  obtain ⟨r, after, hrun, hpass⟩ := steady_comesTo.pass rfl (by decide +kernel)
  have hcount : 2 = ((steadyTest.directives shelf).filter (·.kind = .run)).length :=
    congrArg (fun p => p.runs.length) (plan_eq_ok steady_comesTo.plan)
  have hvalid := validate_of_pass rfl hrun hpass ?_
  · exact ⟨r, after, hrun, hpass, hvalid.trans (congrArg Except.ok hcount.symm)⟩
  intro x hx d sh hstarts
  obtain rfl := hx.unique steady_comesTo
  have hscratch : steadySetting.scratch = ⟨"/d/shlit-aaaaaa"⟩ := by decide
  refine ⟨?_, fun _ => ⟨⟨rfl, by simp [hscratch, Text.isBlank]⟩, rfl⟩⟩
  intro name hname
  change Starts _ [⟨.run, "export B=1", 1⟩, ⟨.run, "echo $\x7bA\x7d%T", 2⟩] _ d sh at hstarts
  cases hstarts with
  | first => rfl
  | later _ _ hstarts =>
    cases hstarts with
    | first =>
      have hother : "B" ≠ name := by
        rintro rfl
        exact absurd hname (by decide +kernel)
      have henv : (steadySetting.execute (bench "/d") steadyTest "export B=1"
          (steadySetting.shell (bench "/d") .usual steadyTest)).2.session.env =
          Dict.empty.insert "B" "1" := by
        decide +kernel
      rw [henv, RunLine.valueOf, Dict.get?_insert, if_neg hother]
      rfl
    | later _ _ hstarts => cases hstarts

/-- Tests that pass and are not valid: with a line that a variable completes, with a scratch
directory whose path has a blank, and where temporary files are kept in a relative directory. -/
theorem passing_tests_with_alarms :
    Alarms (bench "/d") (shelved "named" "d" .empty) (.run 2 .emptyCommand) ∧
    Alarms (bench "/d") (shelved "assigned" "d e" .empty) (.run 1 .emptyCommand) ∧
    Alarms (bench "A=b") (shelved "offered" "d" .empty) (.run 1 .emptyCommand) := by
  have hnamed : (shelved "named" "d" .empty).plan shelf =
      .ok (.ofDirectives [⟨.run, "export A=echo", 1⟩, ⟨.run, "$\x7bA\x7d", 2⟩]) :=
    shelved_plan (by decide) rfl (by decide +kernel) "d" .empty
  have hoffered : (shelved "offered" "d" .empty).plan shelf =
      .ok (.ofDirectives [⟨.run, "echo || %T", 1⟩]) :=
    shelved_plan (by decide) rfl (by decide +kernel) "d" .empty
  refine ⟨⟨rfl, ?_, ?_⟩, ⟨rfl, ?_, ?_⟩, ⟨rfl, ?_, ?_⟩⟩
  · simp only [validate, hnamed]
    decide +kernel
  · have hx := shelved_comesTo (.inl rfl) hnamed rfl rfl (bench "/d")
    exact hx.pass rfl (by decide +kernel)
  · simp only [validate, assigned_plan]
    decide +kernel
  · have hx := shelved_comesTo (.inr rfl) (assigned_plan "d e") rfl rfl (bench "/d")
    exact hx.pass rfl (by decide +kernel)
  · simp only [validate, hoffered]
    decide +kernel
  · have hx := shelved_comesTo (.inl rfl) hoffered rfl rfl (bench "A=b")
    exact hx.pass rfl (by decide +kernel)

end Test

end ShellSuite
