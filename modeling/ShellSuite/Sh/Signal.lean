import ShellSuite.RunLine.Token
import ShellSuite.Sh.State

set_option autoImplicit false
set_option relaxedAutoImplicit false

/-!
Signals: how scripts send them, and what scripts do when they get one.
-/

namespace ShellSuite.Sh

def number? (arg : String) : Option Nat :=
  if arg ≠ "" && arg.toList.all Char.isDigit then some (RunLine.digitsValue arg.toList) else none

def quote (value : String) : String :=
  "'" ++ Text.join "'\"'\"'" (Text.split value '\'') ++ "'"

namespace Signal

def names : List String := [
  "EXIT", "HUP", "INT", "QUIT", "ILL", "TRAP", "ABRT", "BUS", "FPE", "KILL", "USR1", "SEGV", "USR2",
  "PIPE", "ALRM", "TERM", "16", "CHLD", "CONT", "STOP", "TSTP", "TTIN", "TTOU", "URG", "XCPU",
  "XFSZ", "VTALRM", "PROF", "WINCH", "IO", "PWR", "SYS"]

def harmless : List Nat := [17, 18, 23, 28]

def halting : List Nat := [19, 20, 21, 22]

def ofText? (text : String) : Option Nat :=
  match number? text with
  | some n => if n < 65 then some n else none
  | none =>
    let upper := String.ofList (text.toList.map Char.toUpper)
    names.findIdx? (· = upper)

def nameOf (n : Nat) : String :=
  names.getD n (toString n)

def ownProcess : String := "2"

def parentProcess : String := "1"

def setTrap (signal : Nat) (action : Option String) : M Unit :=
  modify fun s =>
    let rest := s.traps.filter (·.1 ≠ signal)
    { s with traps := match action with | some text => (signal, text) :: rest | none => rest }

def setTraps (action : Option String) : List String → M Unit
  | [] => setStatus 0
  | arg :: args =>
    match ofText? arg with
    | some signal => do
      setTrap signal action
      setTraps action args
    | none => do
      modify fun s =>
        s.putTo 2 s.world.clock (Text.encode ("trap: " ++ arg ++ ": bad trap\n"))
      setStatus 1

def trap (args : List String) : M Unit := do
  let args := if args.head? = some "--" then args.drop 1 else args
  match args with
  | [] =>
    let s ← get
    (List.range 65).forM fun n =>
      match s.traps.lookup n with
      | some action =>
        print ("trap -- " ++ quote action ++ " " ++ nameOf n ++ "\n")
      | none => pure ()
    setStatus 0
  | [arg] => setTraps none [arg]
  | first :: rest =>
    if (number? first).isSome then setTraps none args
    else setTraps (if first = "-" then none else some first) rest

def receive (signal : Nat) : M Unit := do
  if signal ≠ 0 then
    let s ← get
    match if signal = 9 || signal = 19 then none else s.traps.lookup signal with
    | some action =>
      if action ≠ "" then modify fun s => { s with pending := s.pending ++ [action] }
    | none =>
      if harmless.contains signal then pure ()
      else if halting.contains signal then stop (.endless [])
      else stop (.signal signal)

/-- The effect of a signal on the process that started the script: an interrupt cancels the run, and
a second one stops it. -/
def interruptParent : M Unit :=
  modify fun s =>
    let token :=
      if s.world.token.cancelled then s.world.token.force s.world.clock
      else s.world.token.cancel s.world.clock
    { s with world := { s.world with token := token } }

def send (signal : Nat) : List String → M Unit
  | [] => pure ()
  | target :: targets => do
    if target = ownProcess then receive signal
    else if target = parentProcess then
      if signal = 2 then interruptParent
    else if (number? target).isNone then abort ("kill: Illegal number: " ++ target)
    else fail "kill: No such process\n" 1
    send signal targets

def usage : String :=
  "kill: Usage: kill [-s sigspec | -signum | -sigspec] [pid | job]... or\nkill -l [exitstatus]"

def describe (arg : String) : M Unit :=
  match number? arg with
  | none => abort ("kill: Illegal number: " ++ arg)
  | some n =>
    let signal := if 128 < n then n - 128 else n
    if n = 0 || n = 128 || 65 ≤ signal then
      fail ("kill: invalid signal number or exit status: " ++ arg) 2
    else do
      print (nameOf signal ++ "\n")
      setStatus 0

def kill (args : List String) : M Unit := do
  let deliver (signal : Nat) (targets : List String) : M Unit :=
    if targets.isEmpty then abort usage
    else do
      setStatus 0
      send signal targets
  match args with
  | "-l" :: arg :: _ => describe arg
  | "-l" :: [] =>
    (List.range 32).forM fun n => print ((if n = 0 then "0" else nameOf n) ++ "\n")
    setStatus 0
  | "-s" :: name :: targets =>
    match ofText? name with
    | some signal => deliver signal targets
    | none => abort ("kill: invalid signal number or name: " ++ name)
  | first :: rest =>
    match first.toList with
    | '-' :: c :: cs =>
      match ofText? (String.ofList (c :: cs)) with
      | some signal => deliver signal rest
      | none => abort ("kill: Illegal option -" ++ c.toString)
    | _ => deliver 15 args
  | [] => abort usage

end Signal

end ShellSuite.Sh
