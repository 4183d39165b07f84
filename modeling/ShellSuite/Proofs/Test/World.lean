import ShellSuite.Proofs.Shell.World
import ShellSuite.Test.Run

set_option autoImplicit false
set_option relaxedAutoImplicit false

/-!
What running a test does to the world: no more than the lines of commands it runs. Around them a
scratch directory is made and removed.
-/

namespace ShellSuite

theorem Scratch.wellFormed_create (fs : FileSystem) (dir : Path) (htree : fs.root.WellFormed) :
    (create fs dir).1.root.WellFormed := by
  have hdirs := FileSystem.wellFormed_createDirs htree dir
  unfold create
  split
  next heq =>
    rw [heq] at hdirs
    exact hdirs
  next heq =>
    rw [heq] at hdirs
    simp only
    split
    next hmade => exact FileSystem.wellFormed_createDir hdirs hmade
    next => exact hdirs

namespace Test

private theorem runLines_rel {σ : Type} {execute : String → σ → Except ShellError LineResult × σ}
    {S : σ → σ → Prop} (hrefl : ∀ s, S s s) (htrans : ∀ {a b c}, S a b → S b c → S a c)
    (hx : ∀ line s, S s (execute line s).2) (checks : List Directive) (output : String)
    (ds : List Directive) (s : σ) : S s (runLines execute checks output ds s).2.2 := by
  induction ds generalizing output s with
  | nil => exact hrefl s
  | cons d ds ih =>
    have hstep := hx d.text s
    rw [runLines]
    split
    next hexecute => simpa [hexecute] using hstep
    next hexecute => simpa [hexecute] using hstep
    next hexecute =>
      rw [hexecute] at hstep
      split
      · exact hstep
      · exact htrans hstep (ih _ _)

variable {m : Machine} {R : World → World → Prop}

private theorem executeIn_moves (hm : m.Moves R) (format : Format) (w : Watchdog)
    (subst : Substitutions)
    (line : String) (sh : Shell) : R sh.world (executeIn m format w subst line sh).2.world := by
  cases format with
  | internal => exact Shell.runLine_moves hm w subst line sh
  | external => exact Shell.runExternal_moves hm w subst line sh

variable {site : Site} {o : RunOptions} {t : Test} {s after : RunState} {r : TestResult}

private theorem runIn_moves {execute : LineRunner} (hm : m.Moves R)
    (hx : ∀ w subst line sh, R sh.world (execute w subst line sh).2.world) {p : TestPlan}
    {scratch : Path} {w : Watchdog} (h : t.runIn execute site o p scratch w s = (r, after)) :
    R s.world after.world := by
  have hlines := runLines_rel (S := fun a b : Shell => R a.world b.world)
    (fun sh => hm.refl sh.world) hm.trans (hx w (t.substitutions scratch)) p.checks "" p.runs
    ⟨⟨scratch, site.environment t.config, o.pipefail || t.config.pipefail⟩, s.world⟩
  simp only [runIn] at h
  obtain ⟨-, rfl⟩ := h
  simp only
  split
  · exact hlines
  · refine hm.trans hlines (hm.files _ _ ?_)
    exact fun htree => FileSystem.wellFormed_removeAll htree scratch

theorem run_moves (hm : site.machine.Moves R) (h : t.run site o s = some (r, after)) :
    R s.world after.world := by
  rw [run, runWith] at h
  split at h
  · obtain ⟨-, rfl⟩ := h
    exact hm.refl s.world
  · split at h
    · obtain ⟨-, rfl⟩ := h
      exact hm.refl s.world
    · split at h
      · obtain ⟨-, rfl⟩ := h
        exact hm.refl s.world
      · rw [runPlan] at h
        simp only at h
        have hscratch := Scratch.wellFormed_create s.world.files
          (Scratch.base site.temp t.config.sourceRoot site.stamp
            (o.execRoot.getD t.config.execRoot))
        split at h
        next heq =>
          obtain ⟨-, rfl⟩ := h
          rw [heq] at hscratch
          exact hm.files _ _ hscratch
        next heq =>
          rw [heq] at hscratch
          rw [Option.map_eq_some_iff] at h
          obtain ⟨w, -, hrun⟩ := h
          refine hm.trans (hm.files _ _ hscratch) ?_
          exact (runIn_moves hm (executeIn_moves hm t.config.format) hrun :)

end Test

end ShellSuite
