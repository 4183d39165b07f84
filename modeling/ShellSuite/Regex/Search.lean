import ShellSuite.Regex.Program

set_option autoImplicit false
set_option relaxedAutoImplicit false

/-!
Searching: the leftmost match, and of those the one that the expression prefers. All places where
the machine can be are followed at once, in the order of preference.
-/

namespace ShellSuite.Regex

/-- A place of the machine, and the position where its match started. -/
structure Thread where
  node : Nat
  start : Nat
  deriving DecidableEq, Repr

/-- The threads at a position in reverse, and which nodes were reached. -/
structure Frontier where
  seen : Array Bool
  threads : List Thread

def Frontier.empty (size : Nat) : Frontier :=
  ⟨Array.replicate size false, []⟩

/-- Adds the threads that can be reached from a node without a character; a node that was reached is
not entered again. -/
def Frontier.add (p : Program) (holds : Look → Bool) (start : Nat) :
    Nat → Nat → Frontier → Frontier
  | 0, _, f => f
  | fuel + 1, node, f =>
    if f.seen.getD node true then f
    else
      let f := { f with seen := f.seen.setIfInBounds node true }
      match p.nodes.getD node .accept with
      | .split a b => Frontier.add p holds start fuel b (Frontier.add p holds start fuel a f)
      | .look l next => if holds l then Frontier.add p holds start fuel next f else f
      | _ => { f with threads := ⟨node, start⟩ :: f.threads }

def cutAtAccept (p : Program) : List Thread → List Thread × Option Nat
  | [] => ([], none)
  | t :: ts =>
    match p.nodes.getD t.node .accept with
    | .accept => ([], some t.start)
    | _ =>
      let (front, found) := cutAtAccept p ts
      (t :: front, found)

def advance (p : Program) (c : Char) (ts : List Thread) : List Thread :=
  ts.filterMap fun t =>
    match p.nodes.getD t.node .accept with
    | .chars s next => if s.mem c then some ⟨next, t.start⟩ else none
    | _ => none

/-- The threads at a position and the best match so far: `pending` are the nodes reached by the last
character in order. As long as there is no match, one can start here. -/
def arrive (p : Program) (before after : Option Char) (position : Nat) (pending : List Thread)
    (best : Option (Nat × Nat)) : List Thread × Option (Nat × Nat) :=
  let reach (f : Frontier) (t : Thread) : Frontier :=
    Frontier.add p (Look.holds before after) t.start p.nodes.size t.node f
  let f := pending.foldl reach (Frontier.empty p.nodes.size)
  let f := if best.isNone then reach f ⟨p.entry, position⟩ else f
  let (threads, found) := cutAtAccept p f.threads.reverse
  (threads, (found.map fun start => (start, position)).or best)

def searchFrom (p : Program) (before : Option Char) (position : Nat) (pending : List Thread)
    (best : Option (Nat × Nat)) : List Char → Option (Nat × Nat)
  | [] => (arrive p before none position pending best).2
  | c :: cs =>
    let (threads, best) := arrive p before (some c) position pending best
    let pending := advance p c threads
    if pending.isEmpty && best.isSome then best
    else searchFrom p (some c) (position + c.utf8Size) pending best cs

end ShellSuite.Regex
