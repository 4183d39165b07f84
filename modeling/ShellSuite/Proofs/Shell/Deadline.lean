import ShellSuite.Proofs.Shell.AndOr

set_option autoImplicit false
set_option relaxedAutoImplicit false

/-!
Lines that are started when the deadline has come. The commands of this library are not run any
more. A line for the shell of the machine is handed to that shell all the same, and times out only
if the shell is still there to be killed.
-/

namespace ShellSuite

namespace Line

variable {σ : Type}

private theorem runScript_expired {x : Executor σ} {s : σ} (h : x.stop s = some .expired)
    (script : RunLine.Script) : runScript x script s = (.ok ⟨0, "", "", [], true⟩, s) := by
  simp [runScript, runFrom, runs, h]

end Line

namespace Pipeline

private theorem Delivery.opened_put {d : Delivery} {t : Target} (ht : ∀ handle, t ≠ .file handle)
    (time : Duration) (bytes : Bytes) : (d.put t time bytes).opened = d.opened := by
  unfold Delivery.put
  split
  · rfl
  · cases t with
    | out => rfl
    | err => rfl
    | file handle => exact absurd rfl (ht handle)

private theorem Delivery.opened_foldl {α : Type} (target : α → Target)
    (htarget : ∀ x handle, target x ≠ .file handle) (time : α → Duration) (bytes : α → Bytes)
    (d : Delivery) (xs : List α) :
    (xs.foldl (fun d x => d.put (target x) (time x) (bytes x)) d).opened = d.opened := by
  induction xs generalizing d with
  | nil => rfl
  | cons x xs ih =>
    rw [List.foldl_cons, ih]
    exact Delivery.opened_put (htarget x) _ _

end Pipeline

/-- Whether a program that ends like this was killed because a deadline had come. -/
def Ending.CutOff (limit : Duration) : Ending → Prop
  | .killed time => limit ≤ time
  | .endless _ => True
  | .exited _ _ => False
  | .signalled _ _ => False

namespace Pipeline

section Alone

variable {m : Machine} {sh : Shell} {deadline : Option Duration} {argv : List String}
  {env : Dict String} {call : Invocation} {reply : Reply}
  (hcall : invocation sh.session argv env (.ofBytes sh.world.clock []) = call)
  (hreply : m.run sh.world deadline call = reply)

include hcall

private theorem runStages_fault {e : OsError} (hfault : m.fault? sh.world call = some e)
    (deadline : Option Duration) (text : String) :
    runStages m deadline sh ⟨sh.world.files, []⟩ [⟨text, false, .initial, .program argv env⟩] =
      (.error (.spawn (argv.head?.getD "") e), sh) := by
  simp [runStages, fault?, hcall, hfault, runEach]

include hreply

private theorem runEach_alone (text : String) :
    ∃ done, runEach m sh.session deadline sh.world ⟨sh.world.files, []⟩ none
        [⟨text, false, .initial, .program argv env⟩] =
      (⟨sh.world.files, sh.world.clock, reply.token⟩, ⟨reply.files, []⟩, [done]) ∧
      done.external = true ∧ done.ending = reply.ending := by
  subst hcall hreply
  have hopened := Delivery.opened_foldl (fun x : Write => if x.toErrors then .err else .out)
    (fun x handle => by split <;> simp) Write.time Write.bytes
  let done := (runProgram m sh.session sh.world deadline ⟨sh.world.files, []⟩
    ⟨text, false, .initial, .program argv env⟩ (.ofBytes sh.world.clock []) argv env).2.2
  exact ⟨done, Prod.ext rfl (Prod.ext (hopened _ _) rfl), rfl, rfl⟩

end Alone

private theorem waited_single (limit : Duration) {d : Done} (h : d.external = true) :
    waited (some limit) (settle [d]) = .timedOut ↔ d.ending.CutOff limit := by
  cases hending : d.ending <;>
    simp [settle, settleOne, waited, hending, h, Ending.CutOff]

/-- A program that runs alone is started whatever the time is, and the pipeline times out if it is
killed at the deadline or later. -/
theorem runStages_alone {m : Machine} {sh : Shell} (limit : Duration) {argv : List String}
    {env : Dict String} {call : Invocation} {reply : Reply}
    (hcall : invocation sh.session argv env (.ofBytes sh.world.clock []) = call)
    (hreply : m.run sh.world (some limit) call = reply) (hfault : m.fault? sh.world call = none)
    (text : String) :
    ∃ result clock, runStages m (some limit) sh ⟨sh.world.files, []⟩
        [⟨text, false, .initial, .program argv env⟩] =
      (result, { sh with world := ⟨reply.files, clock, reply.token⟩ }) ∧
      ((∃ out, result = .ok out ∧ out.timedOut = true) ↔ reply.ending.CutOff limit) := by
  obtain ⟨done, heach, hexternal, hending⟩ := runEach_alone hcall hreply text
  have hnone : fault? m sh.session sh.world [⟨text, false, .initial, .program argv env⟩] = none := by
    simp [fault?, hcall, hfault]
  have hwaited := waited_single limit hexternal
  rw [hending] at hwaited
  simp only [runStages, hnone, heach]
  split
  next hinterrupted => exact ⟨_, _, rfl, by simp [← hwaited, hinterrupted]⟩
  next => exact ⟨_, _, rfl, by simp [← hwaited]⟩

end Pipeline

namespace Shell

def shellCall (t : Substitutions) (line : String) (sh : Shell) : Invocation :=
  Pipeline.invocation sh.session ["/bin/sh", "-c", t.apply line] sh.session.env
    (.ofBytes sh.world.clock [])

variable {w : Watchdog} {sh : Shell}

private theorem stop_eq_expired (hexpired : w.expired sh.world.clock = true)
    (hcalm : sh.world.token.shouldKill sh.world.clock = false) : stop w sh = some .expired := by
  simp [stop, hexpired, hcalm]

private theorem runLine_expired (hexpired : w.expired sh.world.clock = true)
    (hcalm : sh.world.token.shouldKill sh.world.clock = false) (m : Machine) {t : Substitutions}
    {line : String} {script : RunLine.Script}
    (hparse : RunLine.parseLine line t sh.session.env = .ok script) :
    runLine m w t line sh = (.ok ⟨script.render, 0, "", "", 0, true, []⟩, sh) := by
  have hstop : (executor m w).stop sh = some .expired := stop_eq_expired hexpired hcalm
  simp [runLine, hparse, Line.runScript_expired hstop, Except.map, lineResult]

/-- When the deadline has come, a line of commands is read but not run, and times out; nothing is
executed and nothing is changed. A line for the shell of the machine is not treated like this: if
that shell can be started it is started, what it does to the files is done, and the line times out
exactly if the shell is killed at the deadline or later. -/
theorem lines_past_deadline (m : Machine) {w : Watchdog} {sh : Shell}
    (hexpired : w.expired sh.world.clock = true)
    (hcalm : sh.world.token.shouldKill sh.world.clock = false) (t : Substitutions) (line : String) :
    (∀ script, RunLine.parseLine line t sh.session.env = .ok script →
      (Line.runScript (executor m w).logged script (sh, [])).2 = (sh, []) ∧
      runLine m w t line sh = (.ok ⟨script.render, 0, "", "", 0, true, []⟩, sh)) ∧
    (∀ e, m.fault? sh.world (sh.shellCall t line) = some e →
      runExternal m w t line sh = (.error (.spawn "/bin/sh" e), sh)) ∧
    (m.fault? sh.world (sh.shellCall t line) = none →
      ∃ limit result after, w.deadline = some limit ∧ runExternal m w t line sh = (result, after) ∧
        after.world.files = (m.run sh.world (some limit) (sh.shellCall t line)).files ∧
        after.world.token = (m.run sh.world (some limit) (sh.shellCall t line)).token ∧
        ((∃ r, result = .ok r ∧ r.timedOut = true) ↔
          (m.run sh.world (some limit) (sh.shellCall t line)).ending.CutOff limit)) := by
  refine ⟨?_, ?_, ?_⟩
  · intro script hparse
    have hstop : (executor m w).logged.stop (sh, []) = some .expired :=
      stop_eq_expired hexpired hcalm
    exact ⟨by rw [Line.runScript_expired hstop], runLine_expired hexpired hcalm m hparse⟩
  · intro e hfault
    have hrun := Pipeline.runStages_fault rfl hfault w.deadline (t.apply line)
    simp [runExternal, hcalm, hrun, Except.map]
  · intro hfault
    obtain ⟨limit, hlimit⟩ : ∃ limit, w.deadline = some limit := by
      cases hdeadline : w.deadline with
      | none => simp [Watchdog.expired, hdeadline] at hexpired
      | some limit => exact ⟨limit, rfl⟩
    obtain ⟨reply, hreply⟩ : ∃ reply, m.run sh.world (some limit) (sh.shellCall t line) = reply :=
      ⟨_, rfl⟩
    obtain ⟨result, clock, hrun, htimedOut⟩ :=
      Pipeline.runStages_alone limit rfl hreply hfault (t.apply line)
    let after : Shell := { sh with world := ⟨reply.files, clock, reply.token⟩ }
    have hexternal : runExternal m w t line sh =
        (result.map fun out => lineResult (t.apply line) sh.world.clock out after, after) := by
      simp [runExternal, hcalm, hlimit, hrun, after]
    refine ⟨limit, _, after, hlimit, hexternal, by rw [hreply], by rw [hreply], ?_⟩
    rw [hreply, ← htimedOut]
    cases result <;> simp [Except.map, lineResult]

def promptMachine : Machine where
  fault? _ _ := none
  run w _ _ := ⟨w.files, w.token, [], some 0, .exited 0 w.clock⟩

def lateWatchdog : Watchdog := ⟨some 0, some 0⟩

/-- A line whose shell is quick enough does not time out, although it is started past the
deadline. -/
theorem lines_past_deadline_prompt :
    lateWatchdog.expired Line.bareShell.world.clock = true ∧
    Line.bareShell.world.token.shouldKill Line.bareShell.world.clock = false ∧
    promptMachine.fault? Line.bareShell.world (Line.bareShell.shellCall .empty "true") = none ∧
    ∃ result after,
      runExternal promptMachine lateWatchdog .empty "true" Line.bareShell = (result, after) ∧
      ¬∃ r, result = .ok r ∧ r.timedOut = true := by
  have hexpired : lateWatchdog.expired Line.bareShell.world.clock = true := rfl
  have hcalm : Line.bareShell.world.token.shouldKill Line.bareShell.world.clock = false := rfl
  obtain ⟨limit, result, after, -, hrun, -, -, htimedOut⟩ :=
    (lines_past_deadline promptMachine hexpired hcalm .empty "true").2.2 rfl
  exact ⟨hexpired, hcalm, rfl, result, after, hrun, fun h => htimedOut.mp h⟩

/-- Past the deadline, a command of a line is not started; but the same text as a line for the shell
of the machine is started and then killed, and a quick one runs to its end in time. -/
theorem runExternal_past_deadline :
    lateWatchdog.expired Line.bareShell.world.clock = true ∧
    Line.bareShell.world.token.shouldKill Line.bareShell.world.clock = false ∧
    (runLine Pipeline.stopped lateWatchdog .empty "sleep 5" Line.bareShell).1.toOption =
      some ⟨"sleep 5", 0, "", "", 0, true, []⟩ ∧
    (runExternal Pipeline.stopped lateWatchdog .empty "sleep 5" Line.bareShell).1.toOption =
      some ⟨"sleep 5", 137, "", "", 0, true, [⟨"sleep 5", 137, "", ""⟩]⟩ ∧
    (runExternal promptMachine lateWatchdog .empty "true" Line.bareShell).1.toOption =
      some ⟨"true", 0, "", "", 0, false, [⟨"true", 0, "", ""⟩]⟩ := by
  refine ⟨rfl, rfl, ?_, ?_, ?_⟩
  · decide +kernel
  · decide +kernel
  · decide +kernel

end Shell

end ShellSuite
