import ShellSuite.CommandLine.Request
import ShellSuite.Proofs.Config.Valid
import ShellSuite.Proofs.Test.Validate

set_option autoImplicit false
set_option relaxedAutoImplicit false

/-!
Deadlines that the clock can show. Every number of seconds but zero is admitted as a timeout, by the
settings of a directory and by the arguments of a run; but the clock ends before some of the
deadlines that come of them, and a test with such a deadline has no result.
-/

namespace ShellSuite

private theorem Watchdog.start?_seconds_eq_none_iff (now n : Nat) :
    start? now (some (.ofSeconds n)) = none ↔ 2 ^ 63 ≤ now / 1000000000 + n := by
  have hlimit : clockLimit = 2 ^ 63 * 1000000000 := rfl
  have hfits : now + Duration.ofSeconds n < clockLimit ↔ ¬ 2 ^ 63 ≤ now / 1000000000 + n := by
    rw [hlimit, Duration.ofSeconds]
    omega
  simp only [start?, hfits]
  by_cases h : 2 ^ 63 ≤ now / 1000000000 + n
  · simp only [h, not_true_eq_false, if_false]
  · simp only [h, not_false_eq_true, if_true, reduceCtorEq]

namespace Test

/-- The number of seconds is in force as a timeout: the settings of the directory say so, those of a
directory around it, or the arguments of the run. -/
inductive Admits (n : Nat) : RunOptions → Config → Prop
  | setting {o : RunOptions} {ov : Override} (free : o.timeout = none) (valid : ov.fault? = none)
      (given : ov.timeout = some n) (c : Config) (dir : Path) : Admits n o (c.merge dir ov)
  | inherited {o : RunOptions} {ov : Override} {c : Config} (outer : Admits n o c)
      (unset : ov.timeout = none) (dir : Path) : Admits n o (c.merge dir ov)
  | argument {r : CommandLine.Reading} (given : r.number? "timeout" = some n)
      (valid : (CommandLine.runRequest r).options.timeout ≠ some 0) (c : Config) :
      Admits n (CommandLine.runRequest r).options c

theorem Admits.timeout {n : Nat} {o : RunOptions} {c : Config} (h : Admits n o c) :
    1 ≤ n ∧ o.timeout.or c.timeout = some (.ofSeconds n) := by
  induction h with
  | @setting o ov hfree hvalid hgiven c dir =>
    refine ⟨?_, by simp [Config.merge, hfree, hgiven]⟩
    have hzero := (Override.fault?_eq_none_iff.mp hvalid).timeout
    rw [hgiven] at hzero
    exact Nat.one_le_iff_ne_zero.mpr fun hn => hzero (congrArg some hn)
  | inherited outer hunset dir ih => exact ⟨ih.1, by simpa [Config.merge, hunset] using ih.2⟩
  | @argument r hgiven hvalid c =>
    have htimeout : (CommandLine.runRequest r).options.timeout = some (.ofSeconds n) := by
      simp [CommandLine.runRequest, hgiven]
    refine ⟨?_, by simp [htimeout]⟩
    rw [htimeout] at hvalid
    exact Nat.one_le_iff_ne_zero.mpr fun hn => hvalid (by rw [hn]; rfl)

def Prepared (site : Site) (o : RunOptions) (t : Test) (s : RunState) : Prop :=
  ∃ p files scratch, t.plan s.world.files = .ok p ∧ p.runs.isEmpty = false ∧
    p.refusal? t.config = none ∧
    Scratch.create s.world.files (t.scratchBase site o) = (files, .ok scratch)

variable {site : Site} {o : RunOptions} {t : Test} {s : RunState}

private theorem runPlan_eq_none_iff (execute : LineRunner) (p : TestPlan) :
    t.runPlan execute site o p s = none ↔
      (∃ files scratch, Scratch.create s.world.files (t.scratchBase site o) = (files, .ok scratch)) ∧
      Watchdog.start? s.world.clock (o.timeout.or t.config.timeout) = none := by
  unfold runPlan scratchBase
  simp only
  split
  next files cause hscratch => simp [hscratch]
  next files scratch hscratch => simp [hscratch]

private theorem runWith_eq_none_iff (execute : LineRunner) :
    t.runWith execute site o s = none ↔ t.Prepared site o s ∧
      Watchdog.start? s.world.clock (o.timeout.or t.config.timeout) = none := by
  unfold Test.runWith
  constructor
  · intro h
    split at h
    next => cases h
    next p hplan =>
      split at h
      next => cases h
      next hruns =>
        split at h
        next => cases h
        next happlies =>
          obtain ⟨⟨files, scratch, hscratch⟩, hstart⟩ := (runPlan_eq_none_iff execute p).mp h
          exact ⟨⟨p, files, scratch, hplan, by simpa using hruns, happlies, hscratch⟩, hstart⟩
  · rintro ⟨⟨p, files, scratch, hplan, hruns, happlies, hscratch⟩, hstart⟩
    simp only [hplan, hruns, happlies, Bool.false_eq_true, if_false]
    exact (runPlan_eq_none_iff execute p).mpr ⟨⟨files, scratch, hscratch⟩, hstart⟩

/-- A test whose timeout was admitted has no result exactly if it gets as far as its lines, and the
whole seconds of the clock and the timeout together are not less than `2 ^ 63`. -/
theorem run_eq_none_iff_of_admits {n : Nat} (h : Admits n o t.config) :
    1 ≤ n ∧ (t.run site o s = none ↔
      t.Prepared site o s ∧ 2 ^ 63 ≤ s.world.clock / 1000000000 + n) := by
  obtain ⟨hpositive, htimeout⟩ := h.timeout
  refine ⟨hpositive, ?_⟩
  rw [Test.run, runWith_eq_none_iff, htimeout, Watchdog.start?_seconds_eq_none_iff]

def timeoutOnly (n : Nat) : Override :=
  { Override.empty with timeout := some n }

private theorem timeoutOnly_valid {n : Nat} (h : 1 ≤ n) : (timeoutOnly n).fault? = none := by
  have hzero : n ≠ 0 := Nat.one_le_iff_ne_zero.mp h
  simp [timeoutOnly, Override.fault?, Override.empty, hzero, Dict.contains, Dict.keys,
    Dict.empty]

/-- A test of the shelf, with a timeout that the settings of its directory give. -/
def timedTest (n : Nat) : Test :=
  { steadyTest with config := steadyTest.config.merge ⟨"/"⟩ (timeoutOnly n) }

private theorem timedTest_admits {n : Nat} (h : 1 ≤ n) : Admits n .usual (timedTest n).config :=
  .setting rfl (timeoutOnly_valid h) rfl _ _

private theorem timedTest_prepared (n : Nat) : (timedTest n).Prepared
    (bench "/d") .usual shelfState := by
  have hplan (fs : FileSystem) : (timedTest n).plan fs = steadyTest.plan fs := by
    have hpath : (timedTest n).path = steadyTest.path := rfl
    have hmarker : (timedTest n).config.commentMarker = steadyTest.config.commentMarker := rfl
    simp only [Test.plan, Config.markerFor, hpath, hmarker]
  exact ⟨steadySetting.plan, steadySetting.world.files, steadySetting.scratch,
    (hplan _).trans steady_comesTo.plan, steady_comesTo.nonempty, steady_comesTo.applies,
    steady_comesTo.scratch⟩

theorem run_eq_none_iff_of_admits_minute :
    Admits 60 .usual (timedTest 60).config ∧
      (timedTest 60).run (bench "/d") .usual shelfState ≠ none := by
  have hadmits : Admits 60 .usual (timedTest 60).config := timedTest_admits (by decide)
  refine ⟨hadmits, ?_⟩
  rw [ne_eq, (run_eq_none_iff_of_admits hadmits).2]
  rintro ⟨-, hlimit⟩
  exact absurd hlimit (by decide)

/-- The largest timeout that can be written is admitted, but it gives no deadline whatever the clock
shows, and the test has no result. -/
theorem largest_timeout_overflows :
    (timeoutOnly Override.maxNumber).fault? = none ∧
    (∀ now, Watchdog.start? now (timedTest Override.maxNumber).config.timeout = none) ∧
    (timedTest Override.maxNumber).run (bench "/d") .usual shelfState = none := by
  have hstart (now : Nat) :
      Watchdog.start? now (timedTest Override.maxNumber).config.timeout = none := by
    refine (Watchdog.start?_seconds_eq_none_iff now Override.maxNumber).mpr ?_
    have hmax : 2 ^ 63 ≤ Override.maxNumber := by decide
    exact hmax.trans (Nat.le_add_left _ _)
  exact ⟨timeoutOnly_valid (by decide), hstart,
    (runWith_eq_none_iff _).mpr ⟨timedTest_prepared _, hstart _⟩⟩

end Test

end ShellSuite
