import ShellSuite.Proofs.Test.Result

set_option autoImplicit false
set_option relaxedAutoImplicit false

/-!
The lines of a test that are started, and what each of them finds. A test comes to its lines if it
has a plan that applies, a scratch directory and a deadline that the clock can show. Its first line
is started then, and each line behind one that succeeded.
-/

namespace ShellSuite

namespace Test

inductive Starts {σ : Type} (execute : String → σ → Except ShellError LineResult × σ) :
    List Directive → σ → Directive → σ → Prop
  | first {d : Directive} {ds : List Directive} {s : σ} : Starts execute (d :: ds) s d s
  | later {d e : Directive} {ds : List Directive} {s found : σ} {r : LineResult}
      (ran : (execute d.text s).1 = .ok r) (succeeded : lineStatus? d r = none)
      (rest : Starts execute ds (execute d.text s).2 e found) : Starts execute (d :: ds) s e found

section Lines

variable {σ : Type} {execute : String → σ → Except ShellError LineResult × σ}
  {checks runs : List Directive} {output : String} {s found : σ} {d : Directive}

private theorem lineStatus?_ne_passed (d : Directive) (r : LineResult) :
    lineStatus? d r ≠ some .passed := by
  unfold lineStatus?
  split
  · simp
  · split <;> simp

private theorem starts_of_passed (h : (runLines execute checks output runs s).1 = .passed)
    (hd : d ∈ runs) :
    ∃ found r, Starts execute runs s d found ∧ (execute d.text found).1 = .ok r := by
  induction runs generalizing output s with
  | nil => cases hd
  | cons first runs ih =>
    rw [runLines] at h
    split at h
    next => cases h
    next => cases h
    next r next hran =>
      split at h
      next hstatus => exact absurd (hstatus.trans (congrArg some h)) (lineStatus?_ne_passed first r)
      next hgo =>
        rcases List.mem_cons.mp hd with rfl | hd
        · exact ⟨s, r, .first, by rw [hran]⟩
        · obtain ⟨found, r', hstarts, hr'⟩ := ih h hd
          exact ⟨found, r', .later (by rw [hran]) hgo (by rwa [hran]), hr'⟩

theorem Starts.mem (h : Starts execute runs s d found) : d ∈ runs := by
  induction h with
  | first => exact List.mem_cons_self
  | later _ _ _ ih => exact List.mem_cons_of_mem _ ih

theorem Starts.broken (h : Starts execute runs s d found) {e : ShellError}
    (hd : (execute d.text found).1 = .error e) (he : e ≠ .interrupted) (checks : List Directive)
    (output : String) :
    (runLines execute checks output runs s).1 =
      .broken ("line " ++ toString d.line ++ ": " ++ e.message) := by
  induction h generalizing output with
  | first =>
    rw [runLines]
    split
    next hran =>
      rw [hran] at hd
      exact absurd (Except.error.inj hd).symm he
    next hran =>
      rw [hran] at hd
      rw [Except.error.inj hd]
    next hran =>
      rw [hran] at hd
      cases hd
  | @later first _ _ s _ r hran hgo _ ih =>
    have hpair : execute first.text s = (.ok r, (execute first.text s).2) := Prod.ext hran rfl
    rw [runLines, hpair]
    simp only [hgo]
    exact ih hd (output ++ r.stdout)

end Lines

variable {site : Site} {o : RunOptions} {t : Test} {s after : RunState} {x : Setting}
  {r : TestResult}

theorem ComesTo.failures (h : ComesTo site o t s x) {d : Directive} {sh : Shell}
    (hd : Starts (x.execute site t) x.plan.runs (x.shell site o t) d sh) {e : ShellError}
    (herror : (x.execute site t d.text sh).1 = .error e) (he : e ≠ .interrupted) :
    ∃ r after, t.run site o s = some (r, after) ∧
      "line " ++ toString d.line ++ ": " ++ e.message ∈ r.failures := by
  obtain ⟨runDirs, hrun⟩ := h.runWith (executeIn site.machine t.config.format)
  refine ⟨_, _, hrun, List.mem_append_left _ ?_⟩
  have hstatus := hd.broken herror he x.plan.checks ""
  unfold Setting.execute Setting.shell at hstatus
  simp only [hstatus, remarks, List.mem_singleton]

/-- A test that does not come to its lines does not pass, and has its result however lines are
run. -/
theorem comesTo_or_idle {execute : LineRunner}
    (h : t.runWith execute site o s = some (r, after)) :
    (∃ x runDirs, ComesTo site o t s x ∧
      t.runIn execute site o x.plan x.scratch x.watchdog ⟨x.world, runDirs⟩ = (r, after)) ∨
    r.outcome ≠ .pass ∧ ∀ other : LineRunner, t.runWith other site o s = some (r, after) := by
  unfold Test.runWith at h ⊢
  cases hplan : t.plan s.world.files with
  | error cause =>
    rw [hplan] at h
    obtain ⟨rfl, rfl⟩ := h
    exact .inr ⟨by simp [result], fun _ => rfl⟩
  | ok p =>
    simp only [hplan] at h ⊢
    split at h
    next hruns =>
      obtain ⟨rfl, rfl⟩ := h
      exact .inr ⟨by simp [result], fun _ => if_pos hruns⟩
    next hruns =>
      simp only [hruns, Bool.false_eq_true, if_false]
      cases happlies : p.refusal? t.config with
      | some reason =>
        rw [happlies] at h
        obtain ⟨rfl, rfl⟩ := h
        exact .inr ⟨by simp [result], fun _ => rfl⟩
      | none =>
        simp only [happlies, runPlan] at h ⊢
        split at h
        next hscratch =>
          obtain ⟨rfl, rfl⟩ := h
          exact .inr ⟨by simp [result], fun _ => rfl⟩
        next files scratch hscratch =>
          obtain ⟨w, hw, hrun⟩ := Option.map_eq_some_iff.mp h
          exact .inl ⟨⟨p, scratch, w, { s.world with files := files }⟩, _,
            ⟨hplan, by simpa using hruns, happlies, hscratch, hw, rfl⟩, hrun⟩

theorem starts_of_pass (h : t.run site o s = some (r, after)) (hpass : r.outcome = .pass) :
    ∃ x, ComesTo site o t s x ∧
      (∀ d ∈ x.plan.runs, ∃ sh r, Starts (x.execute site t) x.plan.runs (x.shell site o t) d sh ∧
        (x.execute site t d.text sh).1 = .ok r) ∧
      ∃ output, Check.check output x.plan.checks = .ok () := by
  obtain ⟨x, runDirs, hx, hrun⟩ := (comesTo_or_idle h).resolve_right fun hidle => hidle.1 hpass
  have hstatus : (runLines (x.execute site t) x.plan.checks "" x.plan.runs
      (x.shell site o t)).1 = .passed := by
    obtain ⟨rfl, -⟩ := hrun
    exact outcome_eq_pass hpass
  refine ⟨x, hx, fun d hd => starts_of_passed hstatus hd, ?_⟩
  have hexplains := runLines_explains (x.execute site t) x.plan.checks "" x.plan.runs
    (x.shell site o t)
  exact ⟨_, (hexplains.passed hstatus).2⟩

end Test

end ShellSuite
