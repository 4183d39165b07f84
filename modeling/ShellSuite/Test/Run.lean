import ShellSuite.Check
import ShellSuite.Shell.Line
import ShellSuite.Test.Plan
import ShellSuite.Test.Scratch

set_option autoImplicit false
set_option relaxedAutoImplicit false

/-!
Running tests. The lines of a test run one after the other in a scratch directory, up to the first
one that fails; then their output is checked.
-/

namespace ShellSuite

structure RunOptions where
  workers : Nat
  timeout : Option Duration
  pipefail : Bool
  keepOnFailure : Bool
  execRoot : Option ExecRoot
  filter : Option String
  deriving DecidableEq, Repr

def RunOptions.usual : RunOptions := ⟨1, none, false, false, none, none⟩

/-- Where tests run: the programs, the environment, the directory for temporary files, and a stamp
that names the run. -/
structure Site where
  machine : Machine
  env : Dict String
  temp : Path
  stamp : String

/-- What tests act on: the world, and the run directories that have been used. -/
structure RunState where
  world : World
  runDirs : List Path

def Site.environment (site : Site) (c : Config) : Dict String :=
  if c.inheritEnv then site.env.overlay c.env else c.env

abbrev LineRunner :=
  Watchdog → Substitutions → String → Shell → Except ShellError LineResult × Shell

namespace Test

variable {σ : Type}

/-- The text of a line that ends with an exit code other than zero. -/
def failedLine (d : Directive) (r : LineResult) : String :=
  "line " ++ toString d.line ++ ": command failed with exit code " ++ toString r.exitCode ++ ": " ++
    r.command

/-- How a test goes on after a line: not at all if it timed out or failed. -/
def lineStatus? (d : Directive) (r : LineResult) : Option RunStatus :=
  if r.timedOut then some .timedOut
  else if r.exitCode ≠ 0 then some (.failed (failedLine d r))
  else none

def checked (checks : List Directive) (output : String) : RunStatus :=
  match Check.check output checks with
  | .ok _ => .passed
  | .error e => .failed e.message

def runLines (execute : String → σ → Except ShellError LineResult × σ) (checks : List Directive)
    (output : String) : List Directive → σ → RunStatus × List CommandLog × σ
  | [], s => (checked checks output, [], s)
  | d :: ds, s =>
    match execute d.text s with
    | (.error .interrupted, s) => (.interrupted, [], s)
    | (.error e, s) => (.broken ("line " ++ toString d.line ++ ": " ++ e.message), [], s)
    | (.ok r, s) =>
      match lineStatus? d r with
      | some status => (status, [⟨d.line, r⟩], s)
      | none =>
        let (status, log, s) := runLines execute checks (output ++ r.stdout) ds s
        (status, ⟨d.line, r⟩ :: log, s)

def executeIn (m : Machine) : Format → LineRunner
  | .internal => Shell.runLine m
  | .external => Shell.runExternal m

def remarks (expectFailure : Bool) (timeout : Option Duration) : RunStatus → List String
  | .passed => if expectFailure then ["unexpectedly passed (XFAIL)"] else []
  | .failed message => [message]
  | .broken message => [message]
  | .timedOut =>
    match timeout with
    | some d => ["timed out after " ++ d.render 1]
    | none => ["timed out"]
  | .interrupted => ["interrupted"]

def planMessage : TestPlan.Error → String
  | .unreadable cause => "failed to read test: " ++ (TestPlan.Error.unreadable cause).message
  | .directive cause => cause.message

def result (t : Test) (outcome : Outcome) (duration : Duration) (failures : List String)
    (commands : List CommandLog) : TestResult :=
  ⟨t.name, t.path, outcome, duration, failures, commands⟩

def substitutions (t : Test) (scratch : Path) : Substitutions :=
  (Substitutions.forTest t.path scratch).extend t.config.substitutions

def runIn (execute : LineRunner) (site : Site) (o : RunOptions) (t : Test) (p : TestPlan)
    (scratch : Path) (w : Watchdog) (s : RunState) : TestResult × RunState :=
  let c := t.config
  let shell : Shell := ⟨⟨scratch, site.environment c, o.pipefail || c.pipefail⟩, s.world⟩
  let (status, log, after) :=
    runLines (execute w (t.substitutions scratch)) p.checks "" p.runs shell
  let expectFailure := p.expectsFailure c
  let outcome := status.outcome expectFailure
  let kept := o.keepOnFailure && outcome.isFailure
  let failures := remarks expectFailure w.timeout status ++
    if kept then ["scratch directory kept at " ++ scratch.text] else []
  let world := after.world
  let world := if kept then world else { world with files := (world.files.removeAll scratch).1 }
  (t.result outcome (world.clock - s.world.clock) failures log, { s with world := world })

/-- Runs a test that applies. There is no result if the clock cannot show its deadline. -/
def runPlan (execute : LineRunner) (site : Site) (o : RunOptions) (t : Test) (p : TestPlan)
    (s : RunState) : Option (TestResult × RunState) :=
  let root := o.execRoot.getD t.config.execRoot
  let dir := Scratch.base site.temp t.config.sourceRoot site.stamp root
  let runDirs :=
    if root = .underSuite && !s.runDirs.contains dir then s.runDirs ++ [dir] else s.runDirs
  match Scratch.create s.world.files dir with
  | (files, .error e) =>
    some (t.result .fail 0 ["failed to create scratch directory: " ++ e.message] [],
      ⟨{ s.world with files := files }, runDirs⟩)
  | (files, .ok scratch) =>
    (Watchdog.start? s.world.clock (o.timeout.or t.config.timeout)).map fun w =>
      t.runIn execute site o p scratch w ⟨{ s.world with files := files }, runDirs⟩

/-- Runs a test whose lines are run in a given way. There is no result if the clock cannot show its
deadline. -/
def runWith (execute : LineRunner) (site : Site) (o : RunOptions) (t : Test) (s : RunState) :
    Option (TestResult × RunState) :=
  match t.plan s.world.files with
  | .error e => some (t.result .fail 0 [planMessage e] [], s)
  | .ok p =>
    if p.runs.isEmpty then some (t.result .unsupported 0 ["no RUN lines"] [], s)
    else
      match p.refusal? t.config with
      | some reason => some (t.result .unsupported 0 [reason] [], s)
      | none => t.runPlan execute site o p s

def run (site : Site) (o : RunOptions) (t : Test) (s : RunState) : Option (TestResult × RunState) :=
  t.runWith (executeIn site.machine t.config.format) site o s

end Test

end ShellSuite
