import ShellSuite.Outcome
import ShellSuite.Process.Machine
import ShellSuite.Process.Relay
import ShellSuite.Shell.Stage

set_option autoImplicit false
set_option relaxedAutoImplicit false

/-!
Running pipelines. The stages run at the same time, so each reads what the one before it writes, at
the time it is written. Programs of one pipeline are killed together.
-/

namespace ShellSuite

/-- A shell: its session, and the world it acts on. -/
structure Shell where
  session : Session
  world : World

structure PipelineOutput where
  exitCode : Int
  stdout : String
  stderr : String
  stages : List StageLog
  timedOut : Bool
  deriving DecidableEq, Repr

namespace Pipeline

def brokenPipe : Int := 141

def killedCode : Int := 137

/-- How many bytes find room between two stages without being read. -/
def room : Nat := 64 * 1024 + Relay.blockSize + 64 * 1024

/-- The code of a stage after `not`. -/
def negated (negate : Bool) (code : Int) : Int :=
  if negate then if code = 0 then 1 else 0 else code

/-- What has been written by a stage: the open files, its output over time, and its errors. -/
structure Delivery where
  opened : OpenFiles
  out : List (Duration × Bytes)
  err : Bytes

def Delivery.put (d : Delivery) (t : Target) (time : Duration) (bytes : Bytes) : Delivery :=
  if bytes.isEmpty then d
  else
    match t with
    | .out => { d with out := d.out ++ [(time, bytes)] }
    | .err => { d with err := d.err ++ bytes }
    | .file handle => { d with opened := d.opened.write handle bytes }

def runHere (sh : Shell) (o : OpenFiles) (stage : Stage) (work : Work) :
    PipelineOutput × Shell :=
  let scene := Scene.start o.files sh.session stage.descriptors.stdin
  let (code, scene) :=
    match work with
    | .output stdout stderr code => (code, { scene with output := stdout, errors := stderr })
    | .builtin _ run args => run args scene
  let d : Delivery := ⟨⟨scene.files, o.handles⟩, [], []⟩
  let d := d.put stage.descriptors.stdout 0 scene.output
  let d := d.put stage.descriptors.stderr 0 scene.errors
  let code := negated stage.negate code
  let stdout := Text.decodeLossy (d.out.flatMap (·.2))
  let stderr := Text.decodeLossy d.err
  (⟨code, stdout, stderr, [⟨stage.text, code, stdout, stderr⟩], false⟩,
    ⟨scene.session, { sh.world with files := d.opened.files }⟩)

/-- A stage that has run on its own: what it wrote, how many bytes of its input it took if not all,
and its end. `breakable` tells that it ends when its reader goes. -/
structure Done where
  stage : Stage
  external : Bool
  breakable : Bool
  out : Stream
  err : Bytes
  taken : Option Nat
  ending : Ending

/-- The input of a stage: a redirection wins over the pipe. -/
def inputOf (start : Duration) (stage : Stage) (previous : Option Stream) : Stream :=
  match stage.descriptors.stdin, previous with
  | some bytes, _ => .ofBytes start bytes
  | none, some s => s
  | none, none => .ofBytes start []

def takenOfPipe (stage : Stage) (taken : Option Nat) : Option Nat :=
  if stage.descriptors.stdin.isSome then some 0 else taken

def streamOf (out : List (Duration × Bytes)) (ending : Ending) (toPipe : Bool) : Stream :=
  match ending with
  | .endless chunk => ⟨out, if toPipe then some chunk else none, none⟩
  | e => ⟨out, none, e.time?⟩

def endOf (kill : Option Duration) (start : Duration) (input : Stream) (code : Int) : Ending :=
  .exited code ((input.close.or kill).getD start)

def runCopy (w : World) (kill : Option Duration) (o : OpenFiles) (stage : Stage) (input : Stream) :
    OpenFiles × Done :=
  let t := stage.descriptors.stdout
  let d : Delivery := input.chunks.foldl (fun d (time, bytes) => d.put t time bytes) ⟨o, [], []⟩
  let ending :=
    match input.endless with
    | some chunk => Ending.endless chunk
    | none => endOf kill w.clock input 0
  (d.opened, ⟨stage, false, true, streamOf d.out ending (t == .out), d.err, none, ending⟩)

/-- Runs a stage without a program. Its input is read to the end first, unless its output is
known. -/
def runWork (session : Session) (w : World) (kill : Option Duration) (o : OpenFiles) (stage : Stage)
    (input : Stream) (piped : Bool) (work : Work) : OpenFiles × Done :=
  let finish (o : OpenFiles) (ending : Ending) (taken : Option Nat) (out err : Bytes) :
      OpenFiles × Done :=
    let time := ending.time?.getD w.clock
    let d : Delivery := ⟨o, [], []⟩
    let d := d.put stage.descriptors.stdout time out
    let d := d.put stage.descriptors.stderr time err
    (d.opened, ⟨stage, false, false, streamOf d.out ending true, d.err, taken, ending⟩)
  match work with
  | .output stdout stderr code => finish o (.exited code w.clock) (some 0) stdout stderr
  | .builtin name run args =>
    let isPipe := piped && stage.descriptors.stdin.isNone
    if name = "cat" && (args.isEmpty || args = ["-"]) && isPipe then runCopy w kill o stage input
    else
      let given := if piped || stage.descriptors.stdin.isSome then some input.bytes else none
      let (code, scene) := run args (.start o.files session given)
      finish ⟨scene.files, o.handles⟩ (endOf kill w.clock input code)
        (takenOfPipe stage none) scene.output scene.errors

def invocation (session : Session) (argv : List String) (env : Dict String) (input : Stream) :
    Invocation :=
  ⟨(argv.take 1).map session.program ++ argv.drop 1, env, session.cwd, input⟩

def runProgram (m : Machine) (session : Session) (w : World) (deadline : Option Duration)
    (o : OpenFiles) (stage : Stage) (input : Stream) (argv : List String) (env : Dict String) :
    OpenFiles × CancelToken × Done :=
  let reply := m.run { w with files := o.files } deadline (invocation session argv env input)
  let d : Delivery := ⟨⟨reply.files, o.handles⟩, [], []⟩
  let target (toErrors : Bool) : Target :=
    if toErrors then stage.descriptors.stderr else stage.descriptors.stdout
  let d := reply.writes.foldl (fun d x => d.put (target x.toErrors) x.time x.bytes) d
  let out := streamOf d.out reply.ending (stage.descriptors.stdout == .out)
  (d.opened, reply.token,
    ⟨stage, true, true, out, d.err, takenOfPipe stage reply.taken, reply.ending⟩)

def runEach (m : Machine) (session : Session) (deadline : Option Duration) (w : World)
    (o : OpenFiles) (previous : Option Stream) : List Stage → World × OpenFiles × List Done
  | [] => (w, o, [])
  | stage :: stages =>
    let input := inputOf w.clock stage previous
    let (o, token, done) :=
      match stage.action with
      | .here work =>
        let (o, done) :=
          runWork session w (w.killTime deadline) o stage input previous.isSome work
        (o, w.token, done)
      | .program argv env => runProgram m session w deadline o stage input argv env
    let (w, o, rest) := runEach m session deadline { w with token } o (some done.out) stages
    (w, o, done :: rest)

/-- The final state of a stage: its code, whether it was killed, and the time of its end. -/
structure Settled where
  done : Done
  code : Int
  killed : Bool
  time : Option Duration
  taken : Option Nat

/-- Settles one stage, given the one that reads from it: a reader that stops early breaks the
pipe. -/
def settleOne (d : Done) (reader : Option Settled) : Settled :=
  let broken : Option (Nat × Option Duration) :=
    match reader with
    | some r =>
      match r.taken with
      | some n => if d.breakable && d.out.exceeds (n + room) then some (n, r.time) else none
      | none => none
    | none => none
  match broken, d.ending with
  | some (n, time), _ => ⟨d, brokenPipe, false, time, some n⟩
  | none, .exited code time => ⟨d, code, false, some time, d.taken⟩
  | none, .signalled signal time => ⟨d, 128 + signal, false, some time, d.taken⟩
  | none, .killed time => ⟨d, killedCode, true, some time, d.taken⟩
  | none, .endless _ => ⟨d, killedCode, true, none, d.taken⟩

def settle : List Done → List Settled
  | [] => []
  | d :: ds =>
    let rest := settle ds
    settleOne d rest.head? :: rest

inductive Waited where
  | exited
  | timedOut
  | interrupted
  deriving DecidableEq, Repr

def waited (deadline : Option Duration) (ss : List Settled) : Waited :=
  match ss.find? fun s => s.done.external && s.killed with
  | none => .exited
  | some s =>
    match deadline, s.time with
    | some limit, some time => if limit ≤ time then .timedOut else .interrupted
    | some _, none => .timedOut
    | none, _ => .interrupted

/-- The log of a stage; between stages the beginning of what flowed is kept. -/
def logOf (w : Waited) (isLast : Bool) (s : Settled) : StageLog :=
  let bytes := s.done.out.bytes
  ⟨s.done.stage.text, negated (s.done.stage.negate && w = .exited) s.code,
    Text.decodeLossy (if isLast then bytes else Relay.logOf bytes), Text.decodeLossy s.done.err⟩

def logs (w : Waited) : List Settled → List StageLog
  | [] => []
  | [s] => [logOf w true s]
  | s :: rest => logOf w false s :: logs w rest

def exitCode (pipefail : Bool) (codes : List Int) : Int :=
  if pipefail then (codes.find? (· ≠ 0)).getD 0 else codes.getLast?.getD 0

/-- The first program that cannot be started: how many stages stand in front of it, its name and
why. -/
def fault? (m : Machine) (session : Session) (w : World) :
    List Stage → Option (Nat × String × OsError)
  | [] => none
  | stage :: stages =>
    let here :=
      match stage.action with
      | .program argv env =>
        (m.fault? w (invocation session argv env (.ofBytes w.clock []))).map fun e =>
          (0, argv.head?.getD "", e)
      | .here _ => none
    here.or ((fault? m session w stages).map fun (n, rest) => (n + 1, rest))

def stopped : Machine where
  fault? _ _ := none
  run w _ _ := ⟨w.files, w.token, [], some 0, .killed w.clock⟩

def runStages (m : Machine) (deadline : Option Duration) (sh : Shell) (o : OpenFiles)
    (stages : List Stage) : Except ShellError PipelineOutput × Shell :=
  match fault? m sh.session { sh.world with files := o.files } stages with
  | some (n, program, e) =>
    let (w, o, _) := runEach stopped sh.session deadline sh.world o none (stages.take n)
    (.error (.spawn program e), { sh with world := { w with files := o.files } })
  | none =>
    let (w, o, done) := runEach m sh.session deadline sh.world o none stages
    let settled := settle done
    let waited := waited deadline settled
    let clock := settled.foldl (fun c s => max c (s.time.getD c)) sh.world.clock
    let sh := { sh with world := { w with files := o.files, clock := clock } }
    match waited with
    | .interrupted => (.error .interrupted, sh)
    | _ =>
      let stages := logs waited settled
      (.ok ⟨exitCode sh.session.pipefail (stages.map (·.exitCode)),
        (stages.getLast?.map (·.stdout)).getD "", String.join (stages.map (·.stderr)), stages,
        waited = .timedOut⟩, sh)

/-- Runs a pipeline. A single built-in command runs on the shell itself, so that it can change
it. -/
def run (m : Machine) (deadline : Option Duration) (p : RunLine.Pipeline) (sh : Shell) :
    Except ShellError PipelineOutput × Shell :=
  let inPipeline := !p.rest.isEmpty
  match Stage.prepareAll sh.session inPipeline ⟨sh.world.files, []⟩ p.commands with
  | (o, .error e) => (.error e, { sh with world := { sh.world with files := o.files } })
  | (o, .ok stages) =>
    match stages with
    | [⟨text, negate, d, .here work⟩] =>
      let (output, sh) := runHere sh o ⟨text, negate, d, .here work⟩ work
      (.ok output, sh)
    | stages =>
      if sh.world.token.shouldKill sh.world.clock then
        (.error .interrupted, { sh with world := { sh.world with files := o.files } })
      else runStages m deadline sh o stages

end Pipeline

end ShellSuite
