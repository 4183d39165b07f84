import ShellSuite.Proofs.Shell.Input
import ShellSuite.Proofs.Shell.Session

set_option autoImplicit false
set_option relaxedAutoImplicit false

/-!
A command behind a pipe that brings nothing. It runs apart from the shell, with an empty input in
place of none, and `cat` hands its input on instead of reading it. None of this can be seen.
-/

namespace ShellSuite

/-! ### Commands that run without a program -/

/-- The words behind the prefixes are a built-in command that does not change the session, or there
are none and the environment is listed. -/
def Prefixed.RunsHere (p : Prefixed) : Prop :=
  match p.argv with
  | [] => p.listing = true
  | name :: _ => (Builtin.find? name).isSome = true ∧ Builtin.changesSession name = false

inductive Work.Apart : Work → Prop
  | output (stdout stderr : Bytes) (code : Int) : Apart (.output stdout stderr code)
  | builtin {name : String} {run : Builtin} (args : List String)
      (find : Builtin.find? name = some run) (keeps : Builtin.changesSession name = false) :
      Apart (.builtin name run args)

namespace Stage

private theorem actionOf_here {p : Prefixed} (h : p.RunsHere) :
    ∃ work : Work, work.Apart ∧ ∀ inPipeline, actionOf inPipeline p = .ok (.here work) := by
  unfold Prefixed.RunsHere at h
  split at h
  next hargv =>
    refine ⟨_, .output (listing p.env) [] 0, fun inPipeline => ?_⟩
    simp [actionOf, hargv, h]
  next name args hargv =>
    obtain ⟨run, hfind⟩ := Option.isSome_iff_exists.mp h.1
    refine ⟨_, .builtin args hfind h.2, fun inPipeline => ?_⟩
    simp [actionOf, hargv, hfind, h.2]

private theorem prepare_here (s : Session) (o : OpenFiles) {c : RunLine.Command}
    (h : ∀ p, Prefixed.ofCommand s.env c = .ok p → p.RunsHere) :
    (∃ o' e, ∀ inPipeline, prepare s inPipeline o c = (o', .error e)) ∨
    ∃ o' text negate d work, Work.Apart work ∧
      ∀ inPipeline, prepare s inPipeline o c = (o', .ok ⟨text, negate, d, .here work⟩) := by
  unfold prepare
  cases hpre : Prefixed.ofCommand s.env c with
  | error e => exact .inl ⟨o, _, fun _ => rfl⟩
  | ok p =>
    rcases Descriptors.redirectAll s o .initial c.redirects with ⟨o', e | d⟩
    · exact .inl ⟨o', e, fun _ => rfl⟩
    · obtain ⟨work, hwork, haction⟩ := actionOf_here (h p hpre)
      refine .inr ⟨o', c.render, p.negate, d, work, hwork, fun inPipeline => ?_⟩
      simp only [haction]

end Stage

namespace Pipeline

/-! ### What a stage writes -/

/-- Deliveries of the same bytes, whatever their times. -/
structure Delivery.SameBytes (a b : Delivery) : Prop where
  opened : a.opened = b.opened
  out : a.out.flatMap (·.2) = b.out.flatMap (·.2)
  err : a.err = b.err

theorem Delivery.SameBytes.put {a b : Delivery} (h : a.SameBytes b) (t : Target)
    (time time' : Duration) (bytes : Bytes) :
    (a.put t time bytes).SameBytes (b.put t time' bytes) := by
  unfold Delivery.put
  split
  · exact h
  · cases t with
    | out => exact ⟨h.opened, by simp [h.out], h.err⟩
    | err => exact ⟨h.opened, h.out, by simp [h.err]⟩
    | file handle => exact ⟨by simp [h.opened], h.out, h.err⟩

def delivered (o : OpenFiles) (d : Descriptors) (time : Duration) (s : Scene) : Delivery :=
  let before : Delivery := ⟨⟨s.files, o.handles⟩, [], []⟩
  (before.put d.stdout time s.output).put d.stderr time s.errors

private theorem delivered_sameBytes {a b : Scene} (h : a.Alike b) (o : OpenFiles) (d : Descriptors)
    (time time' : Duration) : (delivered o d time a).SameBytes (delivered o d time' b) := by
  cases h with
  | mk input =>
    have hempty : ∀ x : Delivery, x.SameBytes x := fun _ => ⟨rfl, rfl, rfl⟩
    exact ((hempty _).put d.stdout time time' _).put d.stderr time time' _

def answerOf (s : Scene) : Work → Int × Scene
  | .output stdout stderr code => (code, { s with output := stdout, errors := stderr })
  | .builtin _ run args => run args s

private theorem session_answerOf {work : Work} (h : work.Apart) (s : Scene) :
    (answerOf s work).2.session = s.session := by
  cases h with
  | output stdout stderr code => rfl
  | builtin args find keeps => exact (Builtin.keeps_of_find? find keeps args s).session

/-- What a stage that has ended by itself shows to the shell. -/
def shown (sh : Shell) (code : Int) (x : OpenFiles × Done) : PipelineOutput × Shell :=
  let code := negated x.2.stage.negate code
  let stdout := Text.decodeLossy x.2.out.bytes
  let stderr := Text.decodeLossy x.2.err
  (⟨code, stdout, stderr, [⟨x.2.stage.text, code, stdout, stderr⟩], false⟩,
    { sh with world := { sh.world with files := x.1.files } })

/-- A stage that shows what its command shows if it is run alone. -/
structure EndsAlike (sh : Shell) (o : OpenFiles) (stage : Stage) (work : Work) (code : Int)
    (x : OpenFiles × Done) : Prop where
  same : x.2.stage = stage
  external : x.2.external = false
  ending : x.2.ending = .exited code sh.world.clock
  shown : runHere sh o stage work = shown sh code x

private theorem runHere_eq (sh : Shell) (o : OpenFiles) (stage : Stage) (work : Work) :
    runHere sh o stage work =
      let x := answerOf (.start o.files sh.session stage.descriptors.stdin) work
      let d := delivered o stage.descriptors 0 x.2
      let code := negated stage.negate x.1
      let stdout := Text.decodeLossy (d.out.flatMap (·.2))
      let stderr := Text.decodeLossy d.err
      (⟨code, stdout, stderr, [⟨stage.text, code, stdout, stderr⟩], false⟩,
        ⟨x.2.session, { sh.world with files := d.opened.files }⟩) := by
  cases work with
  | output stdout stderr code => rfl
  | builtin name run args => rfl

variable {sh : Shell} {o : OpenFiles} {stage : Stage} {work : Work}

private theorem EndsAlike.of_answer (hwork : work.Apart) {code : Int} {s : Scene}
    (h : Scene.SameAnswer (answerOf (.start o.files sh.session stage.descriptors.stdin) work)
      (code, s)) (breakable : Bool) (close : Option Duration) (taken : Option Nat) :
    let d := delivered o stage.descriptors sh.world.clock s
    EndsAlike sh o stage work code (d.opened, ⟨stage, false, breakable, ⟨d.out, none, close⟩, d.err,
      taken, .exited code sh.world.clock⟩) := by
  have hsession := session_answerOf hwork (.start o.files sh.session stage.descriptors.stdin)
  have hbytes := delivered_sameBytes h.scene o stage.descriptors 0 sh.world.clock
  refine ⟨rfl, rfl, rfl, ?_⟩
  rw [runHere_eq]
  simp only [h.code, hsession, hbytes.opened, hbytes.out, hbytes.err]
  rfl

def emptyPipe (time : Duration) : Stream := ⟨[], none, some time⟩

private theorem bytes_inputOf (time : Duration) (stage : Stage) :
    (inputOf time stage (some (emptyPipe time))).bytes = stage.descriptors.stdin.getD [] := by
  unfold inputOf
  rcases stage.descriptors.stdin with - | (- | ⟨b, bs⟩)
  · rfl
  · rfl
  · simp [Stream.ofBytes, Stream.bytes]

private theorem endOf_inputOf (kill : Option Duration) (time : Duration) (stage : Stage)
    (code : Int) :
    endOf kill time (inputOf time stage (some (emptyPipe time))) code = .exited code time := by
  unfold inputOf
  rcases stage.descriptors.stdin with - | bytes
  · rfl
  · rfl

private theorem runCopy_endsAlike (kill : Option Duration) {args : List String}
    (hargs : args = [] ∨ args = ["-"]) (hstdin : stage.descriptors.stdin = none) :
    EndsAlike sh o stage (.builtin "cat" Builtin.cat args) 0
      (runCopy sh.world kill o stage (emptyPipe sh.world.clock)) := by
  -- from an empty pipe `cat` hands nothing on, and alone it finds nothing to read
  have hcat : answerOf (.start o.files sh.session stage.descriptors.stdin)
      (.builtin "cat" Builtin.cat args) = (0, .start o.files sh.session none) := by
    rw [hstdin]
    rcases hargs with rfl | rfl
    · rfl
    · rfl
  have hsame : Scene.SameAnswer (answerOf (.start o.files sh.session stage.descriptors.stdin)
      (.builtin "cat" Builtin.cat args)) (0, .start o.files sh.session none) := by
    rw [hcat]
    exact ⟨rfl, .mk rfl⟩
  exact .of_answer (.builtin args rfl rfl) hsame true (some sh.world.clock) none

private theorem runWork_endsAlike (h : work.Apart) (sh : Shell) (kill : Option Duration)
    (o : OpenFiles)
    (stage : Stage) :
    ∃ code, EndsAlike sh o stage work code (runWork sh.session sh.world kill o stage
      (inputOf sh.world.clock stage (some (emptyPipe sh.world.clock))) true work) := by
  cases h with
  | output stdout stderr code =>
    have hsame : Scene.SameAnswer
        (answerOf (.start o.files sh.session stage.descriptors.stdin) (.output stdout stderr code))
        (code, ⟨o.files, sh.session, stage.descriptors.stdin, stdout, stderr⟩) :=
      ⟨rfl, .mk rfl⟩
    exact ⟨code, .of_answer (.output stdout stderr code) hsame ..⟩
  | @builtin name run args find keeps =>
    unfold runWork
    dsimp only
    split
    next hcopy =>
      simp only [Bool.and_eq_true, Bool.or_eq_true, decide_eq_true_eq, List.isEmpty_iff,
        Option.isNone_iff_eq_none, Bool.true_and] at hcopy
      obtain ⟨⟨rfl, hargs⟩, hstdin⟩ := hcopy
      obtain rfl : Builtin.cat = run := Option.some.inj find
      have hinput : inputOf sh.world.clock stage (some (emptyPipe sh.world.clock)) =
          emptyPipe sh.world.clock := by
        simp only [inputOf, hstdin]
      rw [hinput]
      exact ⟨0, runCopy_endsAlike kill hargs hstdin⟩
    next =>
      have hsame := Builtin.steady_of_find? find keeps args
        (.start o.files sh.session stage.descriptors.stdin)
        (.start o.files sh.session (some (stage.descriptors.stdin.getD []))) (.mk rfl)
      rw [Bool.true_or, if_pos rfl, bytes_inputOf, endOf_inputOf]
      exact ⟨_, .of_answer (.builtin args find keeps) hsame ..⟩

/-! ### A command behind `true` -/

def idle : RunLine.Command := ⟨[], "true", [], []⟩

def idleStage : Stage := ⟨"true", false, .initial, .here (.builtin "true" (Builtin.answer 0) [])⟩

def idleDone (time : Duration) : Done :=
  ⟨idleStage, false, false, emptyPipe time, [], none, .exited 0 time⟩

/-- An output with the log of `true` in front. -/
def withIdle (out : PipelineOutput) : PipelineOutput :=
  { out with stages := ⟨"true", 0, "", ""⟩ :: out.stages }

private theorem prepare_idle (s : Session) (inPipeline : Bool) (o : OpenFiles) :
    Stage.prepare s inPipeline o idle = (o, .ok idleStage) := by
  cases inPipeline with
  | true => rfl
  | false => rfl

private theorem settle_idle {d : Done} {code : Int} {time : Duration}
    (h : d.ending = .exited code time) :
    settle [idleDone time, d] =
      [⟨idleDone time, 0, false, some time, none⟩, ⟨d, code, false, some time, d.taken⟩] := by
  have hlast : settleOne d none = ⟨d, code, false, some time, d.taken⟩ := by
    simp only [settleOne, h]
  have hfirst : ∀ reader : Settled,
      settleOne (idleDone time) (some reader) = ⟨idleDone time, 0, false, some time, none⟩ := by
    -- a built-in command does not end with its reader
    rintro ⟨_, _, _, _, - | n⟩
    · rfl
    · rfl
  simp only [settle, List.head?_nil, List.head?_cons, hlast, hfirst]

private theorem waited_internal (deadline : Option Duration) {ss : List Settled}
    (h : ∀ s ∈ ss, s.done.external = false) : waited deadline ss = .exited := by
  have hnone : (ss.find? fun s => s.done.external && s.killed) = none := by
    rw [List.find?_eq_none]
    intro s hs
    simp [h s hs]
  unfold waited
  rw [hnone]

private theorem logOf_idle (w : Waited) (time : Duration) :
    logOf w false ⟨idleDone time, 0, false, some time, none⟩ = ⟨"true", 0, "", ""⟩ := by
  have hlog : Relay.logOf [] = [] := by
    unfold Relay.logOf Relay.blocks
    rfl
  have hempty : Text.decodeLossy [] = "" := rfl
  simp [logOf, idleDone, idleStage, emptyPipe, Stream.bytes, negated, hlog, hempty]

private theorem exitCode_idle (pipefail : Bool) (code : Int) : exitCode pipefail
    [0, code] = code := by
  cases pipefail with
  | false => rfl
  | true =>
    by_cases hcode : code = 0
    · rw [hcode]
      rfl
    · simp [exitCode, hcode]

private theorem runEach_idle (hwork : work.Apart) (m : Machine) (deadline : Option Duration)
    (sh : Shell)
    (o : OpenFiles) (text : String) (negate : Bool) (d : Descriptors) :
    ∃ code x, EndsAlike sh o ⟨text, negate, d, .here work⟩ work code x ∧
      runEach m sh.session deadline sh.world o none [idleStage, ⟨text, negate, d, .here work⟩] =
        (sh.world, x.1, [idleDone sh.world.clock, x.2]) := by
  obtain ⟨code, hends⟩ := runWork_endsAlike hwork sh (sh.world.killTime deadline) o
    ⟨text, negate, d, .here work⟩
  exact ⟨code, _, hends, rfl⟩

private theorem runStages_idle (hwork : work.Apart) (m : Machine) (deadline : Option Duration)
    (sh : Shell)
    (o : OpenFiles) (text : String) (negate : Bool) (d : Descriptors) :
    runStages m deadline sh o [idleStage, ⟨text, negate, d, .here work⟩] =
      (.ok (withIdle (runHere sh o ⟨text, negate, d, .here work⟩ work).1),
        (runHere sh o ⟨text, negate, d, .here work⟩ work).2) := by
  obtain ⟨code, ⟨o', done⟩, hends, heach⟩ := runEach_idle hwork m deadline sh o text negate d
  have hstage : done.stage = ⟨text, negate, d, .here work⟩ := hends.same
  have hexternal : done.external = false := hends.external
  have hsettled : settle [idleDone sh.world.clock, done] = _ := settle_idle hends.ending
  have hwaited : waited deadline (settle [idleDone sh.world.clock, done]) = .exited := by
    rw [hsettled]
    apply waited_internal
    simp [idleDone, hexternal]
  have hfault : fault? m sh.session { sh.world with files := o.files }
      [idleStage, ⟨text, negate, d, .here work⟩] = none :=
    rfl
  have hlogs : logs .exited (settle [idleDone sh.world.clock, done]) =
      [⟨"true", 0, "", ""⟩, ⟨text, negated negate code, Text.decodeLossy done.out.bytes,
        Text.decodeLossy done.err⟩] := by
    rw [hsettled]
    simp only [logs, logOf_idle]
    simp [logOf, hstage]
  unfold runStages
  rw [hfault, heach]
  simp only [hwaited, hlogs]
  rw [hsettled, hends.shown]
  simp [withIdle, shown, exitCode_idle, hstage]

/-- Whether a command runs without a program or is refused, behind `true` it does the same, and only
the log of `true` is added. -/
theorem run_idle (m : Machine) (deadline : Option Duration) (sh : Shell)
    (hgo : sh.world.token.shouldKill sh.world.clock = false) {c : RunLine.Command}
    (h : ∀ p, Prefixed.ofCommand sh.session.env c = .ok p → p.RunsHere) :
    run m deadline ⟨idle, [c]⟩ sh =
      ((run m deadline ⟨c, []⟩ sh).1.map withIdle, (run m deadline ⟨c, []⟩ sh).2) := by
  rcases Stage.prepare_here sh.session ⟨sh.world.files, []⟩ h with
    ⟨o, e, hprepare⟩ | ⟨o, text, negate, d, work, hwork, hprepare⟩
  · simp [run, RunLine.Pipeline.commands, Stage.prepareAll, prepare_idle, hprepare, Except.map]
  · simp [run, RunLine.Pipeline.commands, Stage.prepareAll, prepare_idle, hprepare, hgo,
      runStages_idle hwork, Except.map]

end Pipeline

/-- A built-in command that does not change the session, or a list of the environment, behaves alone
and behind `true` in the same way, under any prefixes and redirections. It prints the same, has the
same exit code and leaves the same shell and files, or fails with the same error; the log has one
entry more. -/
theorem Shell.runScript_piped (m : Machine) (w : Watchdog) (sh : Shell) (hgo : stop w sh = none)
    (c : RunLine.Command)
    (h : ∀ p, Prefixed.ofCommand sh.session.env c = .ok p → p.RunsHere) :
    let alone := Line.runScript (executor m w) ⟨⟨c, []⟩, []⟩ sh
    Line.runScript (executor m w) ⟨⟨⟨[], "true", [], []⟩, [c]⟩, []⟩ sh =
      (alone.1.map fun out => { out with stages := ⟨"true", 0, "", ""⟩ :: out.stages },
        alone.2) := by
  have hkill : sh.world.token.shouldKill sh.world.clock = false := by
    unfold stop at hgo
    split at hgo
    next => cases hgo
    next hcalm => exact eq_false_of_ne_true hcalm
  intro alone
  have halone : alone = Pipeline.run m w.deadline ⟨c, []⟩ sh := Line.runScript_single hgo _
  rw [halone, Line.runScript_single hgo]
  exact Pipeline.run_idle m w.deadline sh hkill h

/-- The command `A=1 not env -u A cat - 0<in 1>&2`. -/
def divertedCopy : RunLine.Command :=
  ⟨[("A", "1")], "not", ["env", "-u", "A", "cat", "-"], [⟨0, .read, "in"⟩, ⟨1, .duplicate, "2"⟩]⟩

def copyShell : Shell :=
  ⟨⟨⟨"/"⟩, .empty, true⟩, ⟨⟨.directory [("in", .file 0 false)], #[Text.encode "x\n"], ⟨"/"⟩⟩, 0,
    .fresh CancelToken.defaultGrace⟩⟩

theorem Shell.runScript_piped_diverted :
    stop ⟨none, none⟩ copyShell = none ∧
    (∀ p, Prefixed.ofCommand copyShell.session.env divertedCopy = .ok p → p.RunsHere) ∧
    Line.runScript (executor Pipeline.stopped ⟨none, none⟩)
        ⟨⟨⟨[], "true", [], []⟩, [divertedCopy]⟩, []⟩ copyShell =
      (.ok ⟨1, "", "x\n", [⟨"true", 0, "", ""⟩, ⟨"A=1 not env -u A cat - 0<in 1>&2", 1, "", "x\n"⟩],
        false⟩, copyShell) := by
  have hgo : stop ⟨none, none⟩ copyShell = none := by decide
  have hhere : ∀ p, Prefixed.ofCommand copyShell.session.env divertedCopy = .ok p →
      p.RunsHere := by
    intro p hp
    obtain rfl := Except.ok.inj hp
    exact ⟨rfl, rfl⟩
  have hplain : copyShell.world.files.IsPlain (copyShell.session.resolve "in") ["in"] := by decide
  have hread : copyShell.world.files.read (copyShell.session.resolve "in") =
      .ok (Text.encode "x\n") := by
    simp only [FileSystem.read, hplain.node]
    rfl
  have hlone : Pipeline.Lone ⟨divertedCopy, []⟩ copyShell ⟨true, true, .empty, ["cat", "-"]⟩
      ⟨copyShell.world.files, []⟩ ⟨some (Text.encode "x\n"), .err, .err⟩ := by
    refine ⟨rfl, rfl, ?_⟩
    simp only [divertedCopy, Descriptors.redirectAll, Descriptors.redirect, hread]
    rfl
  refine ⟨hgo, hhere, ?_⟩
  rw [runScript_piped Pipeline.stopped ⟨none, none⟩ copyShell hgo divertedCopy hhere]
  have halone : Line.runScript (executor Pipeline.stopped ⟨none, none⟩) ⟨⟨divertedCopy, []⟩, []⟩
      copyShell = Pipeline.run Pipeline.stopped none ⟨divertedCopy, []⟩ copyShell :=
    Line.runScript_single hgo _
  rw [halone, hlone.run_eq]
  rfl

end ShellSuite
