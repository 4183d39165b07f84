import ShellSuite.Shell.Pipeline

set_option autoImplicit false
set_option relaxedAutoImplicit false

/-!
Running lines of commands: and-or lists, whose pipelines run from left to right.
-/

namespace ShellSuite

/-- Why no further pipeline is started. -/
inductive Stop where
  | interrupted
  | expired
  deriving DecidableEq, Repr

namespace Line

variable {σ : Type}

/-- How pipelines are run: `stop` is asked before each one, and `execute` runs one. -/
structure Executor (σ : Type) where
  stop : σ → Option Stop
  execute : RunLine.Pipeline → σ → Except ShellError PipelineOutput × σ

/-- Whether a pipeline is run, given how it is joined to what came before and the status so far. -/
def runs (status : Int) : RunLine.Connector → Bool
  | .seq => true
  | .and => status = 0
  | .or => status ≠ 0

def extend (sofar next : PipelineOutput) : PipelineOutput :=
  ⟨next.exitCode, sofar.stdout ++ next.stdout, sofar.stderr ++ next.stderr,
    sofar.stages ++ next.stages, next.timedOut⟩

def runFrom (x : Executor σ) (sofar : PipelineOutput) (s : σ) :
    List (RunLine.Connector × RunLine.Pipeline) → Except ShellError PipelineOutput × σ
  | [] => (.ok sofar, s)
  | (c, p) :: rest =>
    if !runs sofar.exitCode c then runFrom x sofar s rest
    else
      match x.stop s with
      | some .interrupted => (.error .interrupted, s)
      | some .expired => (.ok { sofar with timedOut := true }, s)
      | none =>
        match x.execute p s with
        | (.error e, s) => (.error e, s)
        | (.ok output, s) =>
          let output := extend sofar output
          if output.timedOut then (.ok output, s) else runFrom x output s rest

def runScript (x : Executor σ) (script : RunLine.Script) (s : σ) :
    Except ShellError PipelineOutput × σ :=
  runFrom x ⟨0, "", "", [], false⟩ s ((.seq, script.first) :: script.rest)

end Line

namespace Shell

def stop (w : Watchdog) (sh : Shell) : Option Stop :=
  if sh.world.token.shouldKill sh.world.clock then some .interrupted
  else if w.expired sh.world.clock then some .expired
  else none

def executor (m : Machine) (w : Watchdog) : Line.Executor Shell :=
  ⟨stop w, Pipeline.run m w.deadline⟩

def lineResult (command : String) (start : Duration) (out : PipelineOutput) (sh : Shell) :
    LineResult :=
  ⟨command, out.exitCode, out.stdout, out.stderr, sh.world.clock - start, out.timedOut, out.stages⟩

def runLine (m : Machine) (w : Watchdog) (t : Substitutions) (line : String) (sh : Shell) :
    Except ShellError LineResult × Shell :=
  match RunLine.parseLine line t sh.session.env with
  | .error e => (.error (.syntaxError e), sh)
  | .ok script =>
    let (output, after) := Line.runScript (executor m w) script sh
    (output.map fun out => lineResult script.render sh.world.clock out after, after)

def runExternal (m : Machine) (w : Watchdog) (t : Substitutions) (line : String) (sh : Shell) :
    Except ShellError LineResult × Shell :=
  if sh.world.token.shouldKill sh.world.clock then (.error .interrupted, sh)
  else
    let command := t.apply line
    let stage : Stage :=
      ⟨command, false, .initial, .program ["/bin/sh", "-c", command] sh.session.env⟩
    let (output, after) := Pipeline.runStages m w.deadline sh ⟨sh.world.files, []⟩ [stage]
    (output.map fun out => lineResult command sh.world.clock out after, after)

end Shell

end ShellSuite
