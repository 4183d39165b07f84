import ShellSuite.Cancel
import ShellSuite.Files.Lookup
import ShellSuite.Process.Stream

set_option autoImplicit false
set_option relaxedAutoImplicit false

/-!
Machines: how the programs of a machine behave. Nothing but this is known about programs.
-/

namespace ShellSuite

/-- What commands act on: the files, the clock, and whether the run is being cancelled. -/
structure World where
  files : FileSystem
  clock : Duration
  token : CancelToken

/-- When what is running now will be killed: at a deadline, at the end of a grace period, or at
once. -/
def World.killTime (w : World) (deadline : Option Duration) : Option Duration :=
  let interrupt :=
    if w.token.forced then some w.clock
    else if w.token.cancelled then w.token.requestedAt.map (· + w.token.grace)
    else none
  match deadline, interrupt with
  | some a, some b => some (min a b)
  | some a, none => some a
  | none, b => b

/-- A program to be started: its name and arguments, its environment, its directory and its
input. -/
structure Invocation where
  argv : List String
  env : Dict String
  cwd : Path
  input : Stream

structure Write where
  time : Duration
  toErrors : Bool
  bytes : Bytes

/-- How a program ends: by itself, by a signal, killed with all others, or never, while it repeats
its output. -/
inductive Ending where
  | exited (code : Int) (time : Duration)
  | signalled (signal : Nat) (time : Duration)
  | killed (time : Duration)
  | endless (chunk : Bytes)
  deriving DecidableEq, Repr

def Ending.time? : Ending → Option Duration
  | .exited _ time => some time
  | .signalled _ time => some time
  | .killed time => some time
  | .endless _ => none

/-- What became of a program: the files and the cancellation it leaves, what it wrote, how many
bytes of its input it took if not all, and how it ended. -/
structure Reply where
  files : FileSystem
  token : CancelToken
  writes : List Write
  taken : Option Nat
  ending : Ending

/-- The behaviour of programs: why one cannot be started, and what one does. -/
structure Machine where
  fault? : World → Invocation → Option OsError
  run : World → Option Duration → Invocation → Reply

end ShellSuite
