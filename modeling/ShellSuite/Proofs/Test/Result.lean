import ShellSuite.Proofs.Test.Setting

set_option autoImplicit false
set_option relaxedAutoImplicit false

/-!
Results of tests. However the lines of a test behave, its outcome, what is said about it and the log
of its lines fit together, and fit the directives of its file.
-/

namespace ShellSuite

def CommandLog.Succeeded (e : CommandLog) : Prop :=
  e.result.exitCode = 0 ∧ e.result.timedOut = false

def CommandLog.output (log : List CommandLog) : String :=
  String.join (log.map (·.result.stdout))

/-- A log of all lines of a list of directives, each of which succeeded. -/
structure CommandLog.Complete (runs : List Directive) (log : List CommandLog) : Prop where
  lines : log.map (·.line) = runs.map (·.line)
  succeeded : ∀ e ∈ log, e.Succeeded

/-- The directives in the file of a test; there are none if they cannot be read. -/
def Test.directives (t : Test) (fs : FileSystem) : List Directive :=
  match fs.read t.path with
  | .error _ => []
  | .ok bytes =>
    (Directive.parse (Text.decodeLossy bytes) (t.config.markerFor t.path)).toOption.getD []

/-- Whether a directive expects the test to fail under a configuration. -/
def Directive.ExpectsFailure (c : Config) (d : Directive) : Prop :=
  d.kind = .xfail ∧ ∃ feature ∈ Directive.features d.text, feature = "*" ∨ c.hasFeature feature

/-- A result that fits the directives of a test under a configuration. -/
structure TestResult.Consistent (c : Config) (ds : List Directive) (r : TestResult) : Prop where
  failures : r.failures = [] ↔ r.outcome = .pass
  lines : r.commands.map (·.line) <+: (ds.filter (·.kind = .run)).map (·.line)
  earlier : ∀ e ∈ r.commands.dropLast, e.Succeeded
  timedOut : r.outcome = .timedOut ↔ ∃ e ∈ r.commands.getLast?, e.result.timedOut = true
  pass : r.outcome = .pass →
    CommandLog.Complete (ds.filter (·.kind = .run)) r.commands ∧
      Check.check (CommandLog.output r.commands) (ds.filter (·.kind = .check)) = .ok ()
  expectedFail : r.outcome = .expectedFail →
    (∃ d ∈ ds, d.ExpectsFailure c) ∧
      ((∃ e ∈ r.commands.getLast?, e.result.exitCode ≠ 0) ∨
        CommandLog.Complete (ds.filter (·.kind = .run)) r.commands ∧
          ∃ cause, Check.check (CommandLog.output r.commands) (ds.filter (·.kind = .check)) =
            .error cause)

/-! Lines -/

/-- What a status says about the log that comes with it, for the lines of a test after an output. -/
structure Test.Explains (checks : List Directive) (output : String) (runs : List Directive)
    (status : RunStatus) (log : List CommandLog) : Prop where
  lines : log.map (·.line) <+: runs.map (·.line)
  earlier : ∀ e ∈ log.dropLast, e.Succeeded
  timedOut : status = .timedOut ↔ ∃ e ∈ log.getLast?, e.result.timedOut = true
  passed : status = .passed →
    CommandLog.Complete runs log ∧ Check.check (output ++ CommandLog.output log) checks = .ok ()
  failed : ∀ message, status = .failed message →
    (∃ e ∈ log.getLast?, e.result.exitCode ≠ 0) ∨
      CommandLog.Complete runs log ∧
        ∃ cause, Check.check (output ++ CommandLog.output log) checks = .error cause

namespace Test

variable {checks runs : List Directive} {output : String} {status : RunStatus}
  {log : List CommandLog}

private theorem explains_checked (checks : List Directive) (output : String) :
    Explains checks output [] (checked checks output) [] := by
  have hcomplete : CommandLog.Complete [] [] := ⟨rfl, by simp⟩
  have houtput : output ++ CommandLog.output [] = output := by simp [CommandLog.output]
  cases hcheck : Check.check output checks with
  | ok =>
    have hstatus : checked checks output = .passed := by simp [checked, hcheck]
    rw [hstatus]
    refine ⟨by simp, by simp, by simp, fun _ => ⟨hcomplete, ?_⟩, by simp⟩
    rw [houtput, hcheck]
  | error cause =>
    have hstatus : checked checks output = .failed cause.message := by simp [checked, hcheck]
    rw [hstatus]
    refine ⟨by simp, by simp, by simp, by simp, fun _ _ => Or.inr ⟨hcomplete, cause, ?_⟩⟩
    rw [houtput, hcheck]

private theorem explains_unlogged (htime : status ≠ .timedOut) (hpass : status ≠ .passed)
    (hfail : ∀ message, status ≠ .failed message) : Explains checks output runs status [] :=
  ⟨by simp, by simp, by simp [htime], fun h => absurd h hpass, fun m h => absurd h (hfail m)⟩

private theorem explains_last {d : Directive} {r : LineResult} (h : lineStatus? d r = some status) :
    Explains checks output (d :: runs) status [⟨d.line, r⟩] := by
  have hlines : [CommandLog.mk d.line r].map (·.line) <+: (d :: runs).map (·.line) := by simp
  unfold lineStatus? at h
  split at h
  · rename_i htime
    obtain rfl := Option.some.inj h
    exact ⟨hlines, by simp, by simp [htime], by simp, by simp⟩
  · rename_i htime
    split at h
    · rename_i hcode
      obtain rfl := Option.some.inj h
      exact ⟨hlines, by simp, by simp [htime], by simp, fun _ _ => Or.inl ⟨⟨d.line, r⟩, rfl, hcode⟩⟩
    · cases h

private theorem succeeded_of_lineStatus? {d : Directive} {r : LineResult}
    (h : lineStatus? d r = none) :
    CommandLog.Succeeded ⟨d.line, r⟩ := by
  unfold lineStatus? at h
  split at h
  · cases h
  · rename_i htime
    split at h
    · cases h
    · rename_i hcode
      exact ⟨by simpa using hcode, by simpa using htime⟩

private theorem complete_cons {d : Directive} {r : LineResult}
    (hr : CommandLog.Succeeded ⟨d.line, r⟩)
    (h : CommandLog.Complete runs log) :
    CommandLog.Complete (d :: runs) (⟨d.line, r⟩ :: log) := by
  refine ⟨by simp [h.lines], ?_⟩
  intro e he
  rcases List.mem_cons.mp he with rfl | he
  · exact hr
  · exact h.succeeded e he

theorem Explains.cons {d : Directive} {r : LineResult} (hr : CommandLog.Succeeded ⟨d.line, r⟩)
    (h : Explains checks (output ++ r.stdout) runs status log) :
    Explains checks output (d :: runs) status (⟨d.line, r⟩ :: log) := by
  have houtput : output ++ CommandLog.output (⟨d.line, r⟩ :: log) =
      output ++ r.stdout ++ CommandLog.output log := by
    simp [CommandLog.output, String.append_assoc]
  constructor
  case lines =>
    rw [List.map_cons, List.map_cons]
    exact List.cons_prefix_cons.mpr ⟨rfl, h.lines⟩
  case earlier =>
    intro e he
    cases log with
    | nil => cases he
    | cons next log =>
      rcases List.mem_cons.mp he with rfl | he
      · exact hr
      · exact h.earlier e he
  case timedOut =>
    rw [h.timedOut]
    cases log with
    | nil => simpa using hr.2
    | cons next log => simp
  case passed =>
    intro hstatus
    obtain ⟨hcomplete, hcheck⟩ := h.passed hstatus
    rw [houtput]
    exact ⟨complete_cons hr hcomplete, hcheck⟩
  case failed =>
    intro message hstatus
    rw [houtput]
    rcases h.failed message hstatus with ⟨e, he, hcode⟩ | ⟨hcomplete, hcheck⟩
    · refine Or.inl ⟨e, ?_, hcode⟩
      cases log with
      | nil => cases he
      | cons next log => simpa using he
    · exact Or.inr ⟨complete_cons hr hcomplete, hcheck⟩

/-- However its lines behave, a test ends with a status that explains its log. -/
theorem runLines_explains {σ : Type}
    (execute : String → σ → Except ShellError LineResult × σ) (checks : List Directive)
    (output : String) (runs : List Directive) (s : σ) :
    Explains checks output runs (runLines execute checks output runs s).1
      (runLines execute checks output runs s).2.1 := by
  induction runs generalizing output s with
  | nil => exact explains_checked checks output
  | cons d runs ih =>
    rw [runLines]
    split
    · exact explains_unlogged (by simp) (by simp) (by simp)
    · exact explains_unlogged (by simp) (by simp) (by simp)
    · split
      · rename_i status hstatus
        exact explains_last hstatus
      · rename_i hstatus
        exact (ih _ _).cons (succeeded_of_lineStatus? hstatus)

/-! Results -/

theorem plan_eq_ok {t : Test} {fs : FileSystem} {p : TestPlan} (h : t.plan fs = .ok p) :
    p = .ofDirectives (t.directives fs) := by
  unfold plan at h
  unfold directives
  cases hread : fs.read t.path with
  | error cause =>
    rw [hread] at h
    cases h
  | ok bytes =>
    simp only [hread] at h ⊢
    cases hparse : Directive.parse (Text.decodeLossy bytes) (t.config.markerFor t.path) with
    | error cause =>
      rw [hparse] at h
      cases h
    | ok ds =>
      rw [hparse] at h
      exact (Except.ok.inj h).symm

private theorem expectsFailure_ofDirectives (c : Config) (ds : List Directive) :
    (TestPlan.ofDirectives ds).expectsFailure c = true ↔ ∃ d ∈ ds, d.ExpectsFailure c := by
  simp only [TestPlan.expectsFailure, TestPlan.ofDirectives, TestPlan.featuresOf, TestPlan.ofKind,
    TestPlan.applies, List.any_eq_true, List.mem_flatMap, List.mem_filter, Directive.ExpectsFailure,
    Bool.or_eq_true, decide_eq_true_eq]
  constructor
  · rintro ⟨feature, ⟨d, ⟨hd, hkind⟩, hfeature⟩, happlies⟩
    exact ⟨d, hd, hkind, feature, hfeature, happlies⟩
  · rintro ⟨d, hd, hkind, feature, hfeature, happlies⟩
    exact ⟨feature, ⟨d, ⟨hd, hkind⟩, hfeature⟩, happlies⟩

private theorem remarks_eq_nil_iff (expectFailure : Bool) (timeout : Option Duration)
    (status : RunStatus) :
    remarks expectFailure timeout status = [] ↔ status.outcome expectFailure = .pass := by
  cases status <;> cases expectFailure <;> cases timeout <;> simp [remarks, RunStatus.outcome]

private theorem outcome_eq_timedOut_iff (expectFailure : Bool) (status : RunStatus) :
    status.outcome expectFailure = .timedOut ↔ status = .timedOut := by
  cases status <;> cases expectFailure <;> simp [RunStatus.outcome]

theorem outcome_eq_pass {expectFailure : Bool} (h : status.outcome expectFailure = .pass) :
    status = .passed := by
  cases status <;> cases expectFailure <;> simp_all [RunStatus.outcome]

private theorem outcome_eq_expectedFail {expectFailure : Bool}
    (h : status.outcome expectFailure = .expectedFail) :
    expectFailure = true ∧ ∃ message, status = .failed message := by
  cases status <;> cases expectFailure <;> simp_all [RunStatus.outcome]

private theorem outcome_ne_unsupported (expectFailure : Bool) (status : RunStatus) :
    status.outcome expectFailure ≠ .unsupported := by
  cases status <;> cases expectFailure <;> simp [RunStatus.outcome]

private theorem Explains.consistent {ds : List Directive} {c : Config}
    (h : Explains (ds.filter (·.kind = .check)) "" (ds.filter (·.kind = .run)) status log)
    {expectFailure : Bool} (hx : expectFailure = true → ∃ d ∈ ds, d.ExpectsFailure c)
    {more : List String} (hmore : status.outcome expectFailure = .pass → more = [])
    (t : Test) (timeout : Option Duration) (duration : Duration) :
    (t.result (status.outcome expectFailure) duration
      (remarks expectFailure timeout status ++ more) log).Consistent c ds := by
  constructor
  case failures =>
    change remarks expectFailure timeout status ++ more = [] ↔ status.outcome expectFailure = .pass
    rw [List.append_eq_nil_iff, remarks_eq_nil_iff]
    exact and_iff_left_of_imp hmore
  case lines => exact h.lines
  case earlier => exact h.earlier
  case timedOut => exact (outcome_eq_timedOut_iff expectFailure status).trans h.timedOut
  case pass =>
    intro hpass
    obtain ⟨hcomplete, hcheck⟩ := h.passed (outcome_eq_pass hpass)
    rw [String.empty_append] at hcheck
    exact ⟨hcomplete, hcheck⟩
  case expectedFail =>
    intro hfail
    obtain ⟨hexpect, message, hstatus⟩ := outcome_eq_expectedFail hfail
    have hfailed := h.failed message hstatus
    rw [String.empty_append] at hfailed
    exact ⟨hx hexpect, hfailed⟩

private theorem consistent_unlogged {outcome : Outcome}
    (h : outcome = .fail ∨ outcome = .unsupported)
    (t : Test) (c : Config) (ds : List Directive) (duration : Duration) (reason : String) :
    (t.result outcome duration [reason] []).Consistent c ds := by
  rcases h with rfl | rfl <;>
    exact ⟨by simp [result], by simp [result], by simp [result], by simp [result],
      by simp [result], by simp [result]⟩

private theorem runIn_consistent (execute : LineRunner) (site : Site) (o : RunOptions) (t : Test)
    (ds : List Directive) (scratch : Path) (w : Watchdog) (s : RunState) :
    (t.runIn execute site o (.ofDirectives ds) scratch w s).1.Consistent t.config ds ∧
      (t.runIn execute site o (.ofDirectives ds) scratch w s).1.outcome ≠ .unsupported := by
  have hexplains := runLines_explains (execute w (t.substitutions scratch))
    (TestPlan.ofDirectives ds).checks "" (TestPlan.ofDirectives ds).runs
    ⟨⟨scratch, site.environment t.config, o.pipefail || t.config.pipefail⟩, s.world⟩
  have hexpects := (expectsFailure_ofDirectives t.config ds).mp
  refine ⟨hexplains.consistent hexpects ?_ t w.timeout _, outcome_ne_unsupported _ _⟩
  intro hpass
  simp [hpass, Outcome.isFailure]

private theorem exists_of_start?_eq_none {now : Duration} {timeout : Option Duration}
    (h : Watchdog.start? now timeout = none) :
    ∃ span, timeout = some span ∧ Watchdog.clockLimit ≤ now + span := by
  cases timeout with
  | none => cases h
  | some span =>
    refine ⟨span, rfl, Nat.not_lt.mp ?_⟩
    intro hlimit
    simp [Watchdog.start?, hlimit] at h

private theorem runPlan_consistent (execute : LineRunner) (site : Site) (o : RunOptions) (t : Test)
    (ds : List Directive) (s : RunState) :
    (∃ r after, t.runPlan execute site o (.ofDirectives ds) s = some (r, after) ∧
      r.Consistent t.config ds ∧ r.outcome ≠ .unsupported) ∨
    t.runPlan execute site o (.ofDirectives ds) s = none ∧
      ∃ span, o.timeout.or t.config.timeout = some span ∧
        Watchdog.clockLimit ≤ s.world.clock + span := by
  unfold runPlan
  simp only
  split
  · exact Or.inl ⟨_, _, rfl, consistent_unlogged (Or.inl rfl) t _ _ 0 _, by simp [result]⟩
  · cases hstart : Watchdog.start? s.world.clock (o.timeout.or t.config.timeout) with
    | none => exact Or.inr ⟨rfl, exists_of_start?_eq_none hstart⟩
    | some w => exact Or.inl ⟨_, _, rfl, runIn_consistent execute site o t ds _ w _⟩

/-- However its lines behave, a test has a result, unless the clock cannot show its deadline. The
result is consistent with the directives of its file; and if the test is unsupported, it is so with
any behaviour of its lines, since none of them is run. -/
theorem runWith_consistent (execute : LineRunner) (site : Site) (o : RunOptions) (t : Test)
    (s : RunState) :
    (∃ r after, t.runWith execute site o s = some (r, after) ∧
      r.Consistent t.config (t.directives s.world.files) ∧
      (r.outcome = .unsupported → r.commands = [] ∧ after = s ∧
        ∀ other : LineRunner, t.runWith other site o s = some (r, s))) ∨
    t.runWith execute site o s = none ∧ ∃ span, o.timeout.or t.config.timeout = some span ∧
      Watchdog.clockLimit ≤ s.world.clock + span := by
  unfold runWith
  cases hplan : t.plan s.world.files with
  | error e =>
    exact Or.inl ⟨_, _, rfl, consistent_unlogged (Or.inl rfl) t _ _ 0 _, by simp [result]⟩
  | ok p =>
    obtain rfl := plan_eq_ok hplan
    simp only
    split
    · refine Or.inl ⟨_, _, rfl, consistent_unlogged (Or.inr rfl) t _ _ 0 _, ?_⟩
      exact fun _ => ⟨rfl, rfl, fun _ => rfl⟩
    · split
      · refine Or.inl ⟨_, _, rfl, consistent_unlogged (Or.inr rfl) t _ _ 0 _, ?_⟩
        exact fun _ => ⟨rfl, rfl, fun _ => rfl⟩
      · rcases runPlan_consistent execute site o t (t.directives s.world.files) s with
          ⟨r, after, hrun, hconsistent, hsupported⟩ | hnone
        · exact Or.inl ⟨r, after, hrun, hconsistent, fun h => absurd h hsupported⟩
        · exact Or.inr hnone

private theorem directives_of_read {t : Test} {fs : FileSystem} {bytes : Bytes}
    {ds : List Directive}
    (hread : fs.read t.path = .ok bytes)
    (hparse : Directive.parse (Text.decodeLossy bytes) (t.config.markerFor t.path) = .ok ds) :
    t.directives fs = ds := by
  simp only [directives, hread, hparse]
  rfl

/-- A test that is expected to fail, and whose line does. -/
def withdrawnTest : Test := shelved "withdrawn" "d" .empty

def withdrawnSetting : Setting := shelfSetting "d" [⟨.xfail, "*", 1⟩, ⟨.run, "not echo", 2⟩]

private theorem withdrawn_fails : ∃ r after,
    withdrawnTest.run (bench "/d") .usual shelfState = some (r, after) ∧
      r.outcome = .expectedFail := by
  have hcomesTo : ComesTo (bench "/d") .usual withdrawnTest shelfState withdrawnSetting :=
    shelved_comesTo (.inl rfl) (shelved_plan (by decide) rfl (by decide +kernel) "d" .empty)
      rfl rfl _
  have hfails : (runLines (withdrawnSetting.execute (bench "/d") withdrawnTest) [] ""
      [⟨.run, "not echo", 2⟩] (withdrawnSetting.shell (bench "/d") .usual
        withdrawnTest)).1.outcome true = .expectedFail := by
    decide +kernel
  obtain ⟨r, after, hrun, houtcome⟩ := hcomesTo.outcome rfl
  exact ⟨r, after, hrun, houtcome.trans hfails⟩

/-- A test that passes has all of its lines in the log, and one that fails as it should has a log
that ends with the line that failed. -/
theorem runWith_consistent_shelf :
    (∃ r after, steadyTest.run (bench "/d") .usual shelfState = some (r, after) ∧
      r.outcome = .pass ∧ r.failures = [] ∧ r.commands.map (·.line) = [1, 2] ∧
      (∀ e ∈ r.commands, e.Succeeded) ∧
      Check.check (CommandLog.output r.commands) [⟨.check, "/d/", 3⟩] = .ok ()) ∧
    ∃ r after, withdrawnTest.run (bench "/d") .usual shelfState = some (r, after) ∧
      r.outcome = .expectedFail ∧ r.failures ≠ [] ∧ r.commands.map (·.line) = [2] ∧
      ∃ e ∈ r.commands.getLast?, e.result.exitCode ≠ 0 := by
  constructor
  · obtain ⟨r, after, hrun, hpass⟩ := steady_comesTo.pass rfl (by decide +kernel)
    have hplain : shelf.IsPlain ⟨"/steady"⟩ ["steady"] := by decide
    have hds : steadyTest.directives shelfState.world.files =
        [⟨.run, "export B=1", 1⟩, ⟨.run, "echo $\x7bA\x7d%T", 2⟩, ⟨.check, "/d/", 3⟩] :=
      directives_of_read (FileSystem.IsPlain.read hplain rfl) (by decide +kernel)
    rcases runWith_consistent (executeIn (bench "/d").machine steadyTest.config.format)
      (bench "/d") .usual steadyTest shelfState with ⟨r', after', hrun', hconsistent, -⟩ | ⟨hnone, -⟩
    · obtain ⟨rfl, rfl⟩ := Prod.mk.inj (Option.some.inj (hrun.symm.trans hrun'))
      rw [hds] at hconsistent
      obtain ⟨hcomplete, hcheck⟩ := hconsistent.pass hpass
      exact ⟨r, after, hrun, hpass, hconsistent.failures.mpr hpass, hcomplete.lines,
        hcomplete.succeeded, hcheck⟩
    · cases hrun.symm.trans hnone
  · obtain ⟨r, after, hrun, hfails⟩ := withdrawn_fails
    have hplain : shelf.IsPlain ⟨"/withdrawn"⟩ ["withdrawn"] := by decide
    have hds : withdrawnTest.directives shelfState.world.files =
        [⟨.xfail, "*", 1⟩, ⟨.run, "not echo", 2⟩] :=
      directives_of_read (FileSystem.IsPlain.read hplain rfl) (by decide +kernel)
    rcases runWith_consistent (executeIn (bench "/d").machine withdrawnTest.config.format)
      (bench "/d") .usual withdrawnTest shelfState with
      ⟨r', after', hrun', hconsistent, -⟩ | ⟨hnone, -⟩
    · obtain ⟨rfl, rfl⟩ := Prod.mk.inj (Option.some.inj (hrun.symm.trans hrun'))
      rw [hds] at hconsistent
      have hfailures : r.failures ≠ [] := by
        intro hnil
        cases (hconsistent.failures.mp hnil).symm.trans hfails
      -- without patterns to look for, only a line can have failed
      obtain ⟨-, hlast | ⟨-, cause, hcheck⟩⟩ := hconsistent.expectedFail hfails
      · refine ⟨r, after, hrun, hfails, hfailures, ?_, hlast⟩
        obtain ⟨e, he, -⟩ := hlast
        have hlines : r.commands.map (·.line) <+: [2] := hconsistent.lines
        rcases List.prefix_cons_iff.mp hlines with hnil | ⟨rest, hrest, hprefix⟩
        · simp [List.map_eq_nil_iff.mp hnil] at he
        · rw [hrest, List.prefix_nil.mp hprefix]
      · cases hcheck
    · cases hrun.symm.trans hnone

end Test

end ShellSuite
