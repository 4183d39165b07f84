import ShellSuite.Files.Handle
import ShellSuite.Process.Machine
import ShellSuite.Sh.Syntax
import ShellSuite.Shell.Redirect

set_option autoImplicit false
set_option relaxedAutoImplicit false

/-!
The state of a running script.
-/

namespace ShellSuite.Sh

/-- Why commands are no longer carried out: the script ends, is killed by a signal of its own or
with all others, or never ends; a loop is left or continued; a function returns. -/
inductive Halt where
  | exit (code : Int)
  | signal (signal : Nat)
  | killed (time : Duration)
  | endless (chunk : Bytes)
  | leave (loops : Nat)
  | again (loops : Nat)
  | finish (code : Int)
  deriving DecidableEq, Repr

/-- A command in the background: its number, when it was started, and what it was started with. -/
structure Job where
  number : Nat
  start : Duration
  body : Command
  descriptors : List (Nat × Target)
  vars : Dict String
  exported : NameSet
  functions : List (String × Command)
  cwd : Path
  args : List String

/-- The state of a script: the world, its open files and descriptors, its variables and functions,
its directory, name and arguments, the code of the last command, its input and how much of it has
been taken, what has been written, in reverse, and whether it goes on.

Variables that cannot be changed are in `constants`, the former values of those of a function in
`locals`. What is done on signals is in `traps`, where zero stands for the end of the script, and
what is still to be done in `pending`. Of the commands in the background, those that go on are in
`jobs`, the codes of the others in `finished`, and what they wrote in `held` until the script waits
or starts a program. -/
structure State where
  world : World
  handles : List OpenFile
  descriptors : List (Nat × Target)
  vars : Dict String
  exported : NameSet
  functions : List (String × Command)
  cwd : Path
  name : String
  args : List String
  status : Int
  input : Stream
  taken : Option Nat
  writes : List Write
  halt : Option Halt
  options : List Char
  guarded : Bool
  line : Nat
  label : Option String := none
  constants : NameSet := .empty
  locals : Option (List (String × Option String)) := none
  loops : Nat := 0
  traps : List (Nat × String) := []
  pending : List String := []
  jobs : List Job := []
  finished : List (Nat × Int) := []
  lastJob : Option Nat := none
  held : List Write := []

abbrev M := StateM State

def dropBytes : Nat → List (Duration × Bytes) → List (Duration × Bytes)
  | _, [] => []
  | n, (time, bytes) :: rest =>
    if n < bytes.length then (time, bytes.drop n) :: rest else dropBytes (n - bytes.length) rest

namespace State

def put (s : State) (t : Target) (time : Duration) (bytes : Bytes) : State :=
  if bytes.isEmpty then s
  else
    match t with
    | .out => { s with writes := ⟨time, false, bytes⟩ :: s.writes }
    | .err => { s with writes := ⟨time, true, bytes⟩ :: s.writes }
    | .file handle =>
      let o := OpenFiles.write ⟨s.world.files, s.handles⟩ handle bytes
      { s with world := { s.world with files := o.files }, handles := o.handles }

def putTo (s : State) (fd : Nat) (time : Duration) (bytes : Bytes) : State :=
  match s.descriptors.lookup fd with
  | some t => s.put t time bytes
  | none => s

def route (s : State) (ws : List Write) : State :=
  ws.foldl (fun s w => s.putTo (if w.toErrors then 2 else 1) w.time w.bytes) s

/-- Notes how much of the input has been taken, if not all. -/
def take (s : State) : Option Nat → State
  | none => { s with input := { s.input with chunks := [], endless := none }, taken := none }
  | some n =>
    { s with
      input := { s.input with chunks := dropBytes n s.input.chunks }
      taken := s.taken.map (· + n) }

def environment (s : State) : Dict String :=
  ⟨s.vars.entries.filter fun e => s.exported.contains e.1, s.vars.sorted.filter _⟩

def resolve (s : State) (path : String) : Path :=
  s.cwd.child path

def has (s : State) (option : Char) : Bool :=
  s.options.contains option

def fork (s : State) (number : Nat) (body : Command) : Job :=
  ⟨number, s.world.clock, body, s.descriptors, s.vars, s.exported, s.functions, s.cwd, s.args⟩

def enter (s : State) (j : Job) : State :=
  { s with
    world := { s.world with clock := j.start }, descriptors := j.descriptors, vars := j.vars
    exported := j.exported, functions := j.functions, cwd := j.cwd, args := j.args, status := 0
    input := .ofBytes j.start [], taken := some 0, writes := [], traps := [], jobs := [], held := [] }

def release (s : State) : State :=
  let writes := s.held.mergeSort fun a b => a.time ≤ b.time
  { s with writes := writes.reverse ++ s.writes, held := [] }

def reply (s : State) : Reply :=
  let ending : Ending :=
    match s.halt with
    | some (.exit code) => .exited code s.world.clock
    | some (.signal signal) => .signalled signal s.world.clock
    | some (.finish code) => .exited code s.world.clock
    | some (.killed time) => .killed time
    | some (.endless chunk) => .endless chunk
    | _ => .exited s.status s.world.clock
  ⟨s.world.files, s.world.token, s.writes.reverse, s.taken, ending⟩

end State

def setStatus (code : Int) : M Unit :=
  modify fun s => { s with status := code }

def stop (h : Halt) : M Unit :=
  modify fun s => { s with halt := some h }

def printBytes (bytes : Bytes) : M Unit :=
  modify fun s => s.putTo 1 s.world.clock bytes

def print (text : String) : M Unit :=
  printBytes (Text.encode text)

def complain (message : String) : M Unit :=
  modify fun s => s.putTo 2 s.world.clock
    (Text.encode (s.name ++ ": " ++ toString s.line ++ ": " ++ message ++ "\n"))

def fail (message : String) (code : Int) : M Unit := do
  complain message
  setStatus code

def abort (message : String) : M Unit := do
  complain message
  setStatus 2
  stop (.exit 2)

/-- A message with the name of the text that is being carried out, if it has one. -/
def labelled (message : String) : M String := do
  return match (← get).label with
    | some label => label ++ ": " ++ message
    | none => message

def assign (name value : String) : M Unit := do
  if (← get).constants.contains name then abort (name ++ ": is read only")
  else modify fun s => { s with vars := s.vars.insert name value }

def signalText : Nat → String
  | 1 => "Hangup"
  | 3 => "Quit"
  | 4 => "Illegal instruction"
  | 5 => "Trace/breakpoint trap"
  | 6 => "Aborted"
  | 7 => "Bus error"
  | 8 => "Floating point exception"
  | 9 => "Killed"
  | 10 => "User defined signal 1"
  | 11 => "Segmentation fault"
  | 12 => "User defined signal 2"
  | 14 => "Alarm clock"
  | 15 => "Terminated"
  | n => "Unknown signal " ++ toString n

/-- The signals nothing is told about: an interrupt and a broken pipe. -/
def silentSignals : List Nat := [2, 13]

def absorb (r : Reply) : M Unit := do
  modify fun s => { s with world := { s.world with files := r.files, token := r.token } }
  modify fun s => (s.route r.writes).take r.taken
  match r.ending with
  | .exited code time =>
    modify fun s =>
      { s with world := { s.world with clock := max time s.world.clock }, status := code }
  | .signalled signal time =>
    modify fun s =>
      let s := { s with
        world := { s.world with clock := max time s.world.clock }, status := 128 + signal }
      if silentSignals.contains signal then s
      else s.putTo 2 s.world.clock (Text.encode (signalText signal ++ "\n"))
  | .killed time => stop (.killed time)
  | .endless chunk =>
    let s ← get
    stop (.endless (if s.descriptors.lookup 1 = some .out then chunk else []))

end ShellSuite.Sh
