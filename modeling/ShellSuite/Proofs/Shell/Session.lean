import ShellSuite.Proofs.Dict
import ShellSuite.Proofs.RunLine.Command
import ShellSuite.Proofs.Shell.World

set_option autoImplicit false
set_option relaxedAutoImplicit false

/-!
What one command hands on to the next. Commands joined to a pipeline change nothing of the session,
and a command on its own changes it only if it is `cd` or `export`, behind whatever prefixes. A line
runs some of its pipelines in order, so nothing else changes the session of a line.
-/

namespace ShellSuite

/-- The session after a command on its own, by its words behind the prefixes and by the files it
finds. -/
def Session.after (s : Session) (files : FileSystem) : List String → Session
  | ["cd", dir] =>
    if files.isDirectory (s.resolve dir) then { s with cwd := s.resolve dir } else s
  | "export" :: args => s.exported args
  | _ => s

private theorem Session.after_cases (s : Session) (files : FileSystem) (argv : List String) :
    s.after files argv = s ∨
    (∃ dir, argv = ["cd", dir] ∧ files.isDirectory (s.resolve dir) = true ∧
      s.after files argv = { s with cwd := s.resolve dir }) ∨
    ∃ args, argv = "export" :: args ∧ s.after files argv = s.exported args := by
  unfold Session.after
  split
  next dir =>
    split
    next hdir => exact .inr (.inl ⟨dir, rfl, hdir, rfl⟩)
    next => exact .inl rfl
  next args => exact .inr (.inr ⟨args, rfl, rfl⟩)
  next => exact .inl rfl

private theorem Session.after_of_not_changesSession (s : Session) (files : FileSystem)
    {name : String}
    (h : Builtin.changesSession name = false) (args : List String) :
    s.after files (name :: args) = s := by
  rcases s.after_cases files (name :: args) with hsame | ⟨dir, hargv, -, -⟩ | ⟨args', hargv, -⟩
  · exact hsame
  · cases hargv
    cases h
  · cases hargv
    cases h

private theorem Session.get?_exported (s : Session) (args : List String) (key : String) :
    (s.exported args).env.get? key = s.env.get? key ∨
    ∃ arg ∈ args, ∃ value, RunLine.isName key = true ∧ arg = key ++ "=" ++ value ∧
      (s.exported args).env.get? key = some value := by
  induction args generalizing s with
  | nil => exact .inl rfl
  | cons arg args ih =>
    rw [← Builtin.exported_cons]
    rcases ih (s.exported [arg]) with hsame | ⟨arg', harg', hvalue⟩
    · rw [hsame]
      cases hassign : RunLine.assignment? arg with
      | none =>
        left
        simp [Session.exported, hassign, Dict.insertAll]
      | some a =>
        obtain ⟨hname, hword⟩ := RunLine.assignment?_eq_some_iff.mp hassign
        have henv : (s.exported [arg]).env = s.env.insert a.1 a.2 := by
          simp [Session.exported, hassign, Dict.insertAll]
        rw [henv, Dict.get?_insert]
        split
        next hkey =>
          subst hkey
          exact .inr ⟨arg, List.mem_cons_self, a.2, hname, hword, rfl⟩
        next => exact .inl rfl
    · exact .inr ⟨arg', List.mem_cons_of_mem _ harg', hvalue⟩

/-- Words that end in the words of a command, behind `not` and `env` in any number and order. The
arguments of `env` stand right behind it. -/
inductive Prefixed.Behind : Bool → List String → List String → Prop
  | command (inEnv : Bool) (argv : List String) : Behind inEnv argv argv
  | not {inEnv : Bool} {ws argv : List String} (rest : Behind false ws argv) :
      Behind inEnv ("not" :: ws) argv
  | env {inEnv : Bool} {ws argv : List String} (rest : Behind true ws argv) :
      Behind inEnv ("env" :: ws) argv
  | clear {ws argv : List String} (rest : Behind true ws argv) : Behind true ("-i" :: ws) argv
  | unset (name : String) {ws argv : List String} (rest : Behind true ws argv) :
      Behind true ("-u" :: name :: ws) argv
  | assign {word : String} {ws argv : List String} (h : RunLine.IsAssignment word)
      (rest : Behind true ws argv) : Behind true (word :: ws) argv

private theorem Prefixed.behind_of_resolve {p p' : Prefixed} {inEnv : Bool} {ws : List String}
    (h : p.resolve inEnv ws = .ok p') : Behind inEnv ws p'.argv := by
  fun_induction Prefixed.resolve p inEnv ws generalizing p' with
  | case1 p inEnv =>
    cases h
    exact .command inEnv []
  | case2 p ws ih => exact .clear (ih h)
  | case3 p => cases h
  | case4 p name ws ih => exact .unset name (ih h)
  | case5 p inEnv w ws _ _ _ name value hassign ih =>
    cases inEnv with
    | false => cases hassign
    | true => exact .assign ⟨_, RunLine.assignment?_eq_some_iff.mp hassign⟩ (ih h)
  | case6 p inEnv ws _ _ _ _ ih => exact .not (ih h)
  | case7 p inEnv ws _ _ _ _ _ ih => exact .env (ih h)
  | case8 p inEnv w ws =>
    cases h
    exact .command inEnv (w :: ws)

namespace Builtin

private theorem cd_session (args : List String) (s : Scene) :
    (cd args s).2.session = s.session.after s.files ("cd" :: args) := by
  match args with
  | [] => rfl
  | [dir] =>
    simp only [cd, Session.after]
    split
    · rfl
    · rfl
  | _ :: _ :: _ => rfl

private theorem session_of_find? {name : String} {run : Builtin} (h : find? name = some run)
    (args : List String) (s : Scene) :
    (run args s).2.session = s.session.after s.files (name :: args) := by
  cases hname : changesSession name with
  | false =>
    rw [s.session.after_of_not_changesSession s.files hname]
    exact (keeps_of_find? h hname args s).session
  | true =>
    rcases changesSession_iff.mp hname with rfl | rfl
    · obtain rfl : cd = run := Option.some.inj h
      exact cd_session args s
    · obtain rfl : «export» = run := Option.some.inj h
      exact (export_session args s).1

end Builtin

namespace Pipeline

variable {m : Machine} {deadline : Option Duration} {p : RunLine.Pipeline} {sh : Shell}

private theorem runStages_session (m : Machine) (deadline : Option Duration) (sh : Shell)
    (o : OpenFiles)
    (stages : List Stage) : (runStages m deadline sh o stages).2.session = sh.session := by
  unfold runStages
  split
  · rfl
  · simp only
    split
    · rfl
    · rfl

private theorem length_prepareAll {session : Session} {inPipeline : Bool} {o o' : OpenFiles}
    {cs : List RunLine.Command} {stages : List Stage}
    (h : Stage.prepareAll session inPipeline o cs = (o', .ok stages)) :
    stages.length = cs.length := by
  induction cs generalizing o stages with
  | nil =>
    cases h
    rfl
  | cons c cs ih =>
    unfold Stage.prepareAll at h
    split at h
    · cases h
    · split at h
      · cases h
      next heq =>
        cases h
        rw [List.length_cons, List.length_cons, ih heq]

private theorem run_session_joined (h : p.rest ≠ []) :
    (run m deadline p sh).2.session = sh.session := by
  unfold run
  simp only
  split
  · rfl
  next o stages heq =>
    split
    next =>
      have hlength : 1 = p.rest.length + 1 := length_prepareAll heq
      exact absurd (List.length_eq_zero_iff.mp (Nat.succ.inj hlength).symm) h
    next =>
      split
      · rfl
      · exact runStages_session m deadline sh o stages

/-- A pipeline of one command whose prefixes and redirections succeed, with what they leave. -/
structure Lone (p : RunLine.Pipeline) (sh : Shell) (pre : Prefixed) (o : OpenFiles)
    (d : Descriptors) : Prop where
  rest : p.rest = []
  prefixed : Prefixed.ofCommand sh.session.env p.first = .ok pre
  redirected : Descriptors.redirectAll sh.session ⟨sh.world.files, []⟩ .initial p.first.redirects =
    (o, .ok d)

private theorem run_session_or_lone (m : Machine) (deadline : Option Duration)
    (p : RunLine.Pipeline)
    (sh : Shell) :
    (run m deadline p sh).2.session = sh.session ∨ ∃ pre o d, Lone p sh pre o d := by
  by_cases hrest : p.rest = []
  · cases hpre : Prefixed.ofCommand sh.session.env p.first with
    | error e =>
      left
      simp [run, RunLine.Pipeline.commands, hrest, Stage.prepareAll, Stage.prepare, hpre]
    | ok pre =>
      rcases hopened : Descriptors.redirectAll sh.session ⟨sh.world.files, []⟩ .initial
        p.first.redirects with ⟨o, e | d⟩
      · left
        simp [run, RunLine.Pipeline.commands, hrest, Stage.prepareAll, Stage.prepare, hpre, hopened]
      · exact .inr ⟨pre, o, d, hrest, hpre, hopened⟩
  · exact .inl (run_session_joined hrest)

variable {pre : Prefixed} {o : OpenFiles} {d : Descriptors}

theorem Lone.behind (h : Lone p sh pre o d) :
    Prefixed.Behind false (p.first.name :: p.first.args) pre.argv :=
  Prefixed.behind_of_resolve h.prefixed

theorem Lone.run_eq (h : Lone p sh pre o d) :
    run m deadline p sh =
      match Stage.actionOf false pre with
      | .error e =>
        (.error (.syntaxError e), { sh with world := { sh.world with files := o.files } })
      | .ok action =>
        let stage : Stage := ⟨p.first.render, pre.negate, d, action⟩
        match action with
        | .here work => (.ok (runHere sh o stage work).1, (runHere sh o stage work).2)
        | .program _ _ =>
          if sh.world.token.shouldKill sh.world.clock then
            (.error .interrupted, { sh with world := { sh.world with files := o.files } })
          else runStages m deadline sh o [stage] := by
  simp only [run, RunLine.Pipeline.commands, h.rest, List.isEmpty_nil, Bool.not_true,
    Stage.prepareAll, Stage.prepare, h.prefixed, h.redirected]
  cases Stage.actionOf false pre with
  | error e => rfl
  | ok action =>
    cases action with
    | here work => rfl
    | program argv env => rfl

theorem actionOf_builtin {name : String} {args : List String} {builtin : Builtin}
    (hargv : pre.argv = name :: args) (hfind : Builtin.find? name = some builtin) :
    Stage.actionOf false pre = .ok (.here (.builtin name builtin args)) := by
  simp [Stage.actionOf, hargv, hfind]

private theorem actionOf_program {name : String} {args : List String}
    (hargv : pre.argv = name :: args)
    (hfind : Builtin.find? name = none) :
    Stage.actionOf false pre = .ok (.program (name :: args) pre.env) := by
  simp [Stage.actionOf, hargv, hfind]

theorem Lone.session (h : Lone p sh pre o d) :
    (run m deadline p sh).2.session = sh.session.after o.files pre.argv := by
  rw [h.run_eq]
  cases hargv : pre.argv with
  | nil =>
    unfold Stage.actionOf
    rw [hargv]
    cases pre.listing with
    | true => rfl
    | false => rfl
  | cons name args =>
    cases hfind : Builtin.find? name with
    | some builtin =>
      rw [actionOf_builtin hargv hfind]
      exact Builtin.session_of_find? hfind args (.start o.files sh.session d.stdin)
    | none =>
      have hname : Builtin.changesSession name = false := by
        rw [← Bool.not_eq_true, Builtin.changesSession_iff]
        rintro (rfl | rfl)
        · cases hfind
        · cases hfind
      rw [actionOf_program hargv hfind, sh.session.after_of_not_changesSession o.files hname]
      simp only
      split
      · rfl
      · exact runStages_session m deadline sh o _

/-- Where `cd` succeeds, its exit code is zero, or one behind `not`. The output of a command does not
change which directories there are. -/
theorem Lone.cd (h : Lone p sh pre o d) (m : Machine) (deadline : Option Duration)
    {dir : String} (hargv : pre.argv = ["cd", dir])
    (hdir : o.files.isDirectory (sh.session.resolve dir) = true) :
    ∃ out, (run m deadline p sh).1 = .ok out ∧ out.exitCode = negated pre.negate 0 ∧
      (run m deadline p sh).2.world.files.isDirectory (sh.session.resolve dir) = true := by
  rw [h.run_eq, actionOf_builtin hargv (rfl : Builtin.find? "cd" = some Builtin.cd)]
  have hscene : Builtin.cd [dir] (.start o.files sh.session d.stdin) =
      (0, { Scene.start o.files sh.session d.stdin with
        session := { sh.session with cwd := sh.session.resolve dir } }) :=
    if_pos hdir
  refine ⟨_, rfl, ?_, ?_⟩
  · unfold runHere
    simp only [hscene]
  · rw [(runHere_sameTree sh o _ "cd" Builtin.cd [dir]).isDirectory]
    simp only [hscene]
    exact hdir

structure SessionFrame (p : RunLine.Pipeline) (before : Shell)
    (result : Except ShellError PipelineOutput × Shell) : Prop where
  pipefail : result.2.session.pipefail = before.session.pipefail
  joined : p.rest ≠ [] → result.2.session = before.session
  lone : ∀ pre o d, Lone p before pre o d →
    Prefixed.Behind false (p.first.name :: p.first.args) pre.argv ∧
    result.2.session = before.session.after o.files pre.argv
  cwd : result.2.session.cwd ≠ before.session.cwd →
    ∃ pre o d dir out, Lone p before pre o d ∧ pre.argv = ["cd", dir] ∧
      result.1 = .ok out ∧ out.exitCode = negated pre.negate 0 ∧
      result.2.session.cwd = before.session.resolve dir ∧
      result.2.world.files.isDirectory result.2.session.cwd = true
  env : result.2.session.env ≠ before.session.env →
    ∃ pre o d args, Lone p before pre o d ∧ pre.argv = "export" :: args ∧
      ∀ key, result.2.session.env.get? key = before.session.env.get? key ∨
        ∃ arg ∈ args, ∃ value, RunLine.isName key = true ∧ arg = key ++ "=" ++ value ∧
          result.2.session.env.get? key = some value

private theorem frame_of_same (hsame : (run m deadline p sh).2.session = sh.session) :
    SessionFrame p sh (run m deadline p sh) where
  pipefail := by rw [hsame]
  joined _ := hsame
  lone _ _ _ h := ⟨h.behind, h.session⟩
  cwd hcwd := absurd (by rw [hsame]) hcwd
  env henv := absurd (by rw [hsame]) henv

private theorem Lone.frame (h : Lone p sh pre o d) (m : Machine) (deadline : Option Duration) :
    SessionFrame p sh (run m deadline p sh) := by
  have hafter : (run m deadline p sh).2.session = sh.session.after o.files pre.argv := h.session
  rcases sh.session.after_cases o.files pre.argv with
    hsame | ⟨dir, hargv, hdir, hcd⟩ | ⟨args, hargv, hexport⟩
  · exact frame_of_same (hafter.trans hsame)
  · obtain ⟨out, hok, hcode, hdir'⟩ := h.cd m deadline hargv hdir
    rw [hcd] at hafter
    exact {
      pipefail := by rw [hafter]
      joined := absurd h.rest
      lone := fun _ _ _ h' => ⟨h'.behind, h'.session⟩
      cwd := fun _ => by
        rw [hafter]
        exact ⟨pre, o, d, dir, out, h, hargv, hok, hcode, rfl, hdir'⟩
      env := absurd (by rw [hafter]) }
  · rw [hexport] at hafter
    exact {
      pipefail := by
        rw [hafter]
        rfl
      joined := absurd h.rest
      lone := fun _ _ _ h' => ⟨h'.behind, h'.session⟩
      cwd := absurd (by
        rw [hafter]
        rfl)
      env := fun _ => by
        rw [hafter]
        exact ⟨pre, o, d, args, h, hargv, sh.session.get?_exported args⟩ }

private theorem run_frame (m : Machine) (deadline : Option Duration) (p : RunLine.Pipeline)
    (sh : Shell) :
    SessionFrame p sh (run m deadline p sh) := by
  rcases run_session_or_lone m deadline p sh with hsame | ⟨pre, o, d, h⟩
  · exact frame_of_same hsame
  · exact h.frame m deadline

end Pipeline

theorem Line.runScript_single {σ : Type} {x : Executor σ} {s : σ} (h : x.stop s = none)
    (p : RunLine.Pipeline) : runScript x ⟨p, []⟩ s = x.execute p s := by
  have hextend : ∀ out : PipelineOutput, extend ⟨0, "", "", [], false⟩ out = out := by
    intro out
    simp [extend]
  unfold runScript runFrom
  simp only [runs, h, hextend]
  rcases x.execute p s with ⟨e | out, after⟩
  · rfl
  · simp [runFrom]

/-- A line that does not parse changes nothing. Of any other line, some pipelines run, in order, and
each of them keeps to its frame. -/
theorem Shell.runLine_session_frame (m : Machine) (w : Watchdog) (t : Substitutions)
    (line : String) (sh : Shell) :
    (runLine m w t line sh).2.session.pipefail = sh.session.pipefail ∧
    (∀ e, RunLine.parseLine line t sh.session.env = .error e →
      runLine m w t line sh = (.error (.syntaxError e), sh)) ∧
    (∀ script, RunLine.parseLine line t sh.session.env = .ok script →
      Line.Reaches (executor m w) script.pipelines sh (runLine m w t line sh).2) ∧
    ∀ p before, Pipeline.SessionFrame p before ((executor m w).execute p before) := by
  have hframe := Pipeline.run_frame m w.deadline
  have hreaches : ∀ script, RunLine.parseLine line t sh.session.env = .ok script →
      Line.Reaches (executor m w) script.pipelines sh (runLine m w t line sh).2 := by
    intro script hparse
    rw [runLine, hparse]
    exact Line.runScript_reaches (executor m w) script sh
  have hrefused : ∀ e, RunLine.parseLine line t sh.session.env = .error e →
      runLine m w t line sh = (.error (.syntaxError e), sh) := by
    intro e hparse
    rw [runLine, hparse]
  refine ⟨?_, hrefused, hreaches, hframe⟩
  cases hparse : RunLine.parseLine line t sh.session.env with
  | error e => rw [hrefused e hparse]
  | ok script =>
    exact (hreaches script hparse).rel
      (S := fun a b => b.session.pipefail = a.session.pipefail) (fun _ => rfl)
      (fun hab hbc => hbc.trans hab) (fun p sh => (hframe p sh).pipefail)

/-- The command `env A=1 not export B=2=3`. -/
def hiddenExport : RunLine.Pipeline :=
  ⟨⟨[], "env", ["A=1", "not", "export", "B=2=3"], []⟩, []⟩

def narrowShell : Shell :=
  ⟨⟨⟨"/"⟩, Dict.empty.insert "A" "0", true⟩,
    ⟨⟨.directory [], #[], ⟨"/"⟩⟩, 0, .fresh CancelToken.defaultGrace⟩⟩

theorem Shell.runLine_session_frame_hidden :
    RunLine.parseLine "env A=1 not export B=2=3" .empty narrowShell.session.env =
      .ok ⟨hiddenExport, []⟩ ∧
    ((executor Pipeline.stopped ⟨none, none⟩).execute hiddenExport narrowShell).2.session =
      ⟨⟨"/"⟩, (Dict.empty.insert "A" "0").insert "B" "2=3", true⟩ := by
  have hlone : Pipeline.Lone hiddenExport narrowShell
      ⟨true, true, Dict.empty.insert "A" "1", ["export", "B=2=3"]⟩ ⟨narrowShell.world.files, []⟩
      .initial :=
    ⟨rfl, rfl, rfl⟩
  obtain ⟨-, -, -, hframe⟩ := runLine_session_frame Pipeline.stopped ⟨none, none⟩ .empty
    "env A=1 not export B=2=3" narrowShell
  refine ⟨by cbv, ?_⟩
  rw [((hframe hiddenExport narrowShell).lone _ _ _ hlone).2]
  rfl

end ShellSuite
