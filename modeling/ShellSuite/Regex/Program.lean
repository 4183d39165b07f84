import ShellSuite.Regex.Syntax

set_option autoImplicit false
set_option relaxedAutoImplicit false

/-!
Regular expressions as machines: each node says what is matched next and where to go on.
-/

namespace ShellSuite.Regex

open Text (CharSet)

inductive Node where
  | accept
  | chars (s : CharSet) (next : Nat)
  | look (l : Look) (next : Nat)
  | split (first second : Nat)
  deriving DecidableEq, Repr, Inhabited

/-- A machine: its nodes, and the one where it starts. -/
structure Program where
  nodes : Array Node
  entry : Nat

namespace Program

def push (p : Program) (node : Node) : Program :=
  ⟨p.nodes.push node, p.nodes.size⟩

/-- A choice between two nodes, of which the first is preferred when greedy. -/
def choice (greedy : Bool) (go leave : Nat) : Node :=
  if greedy then .split go leave else .split leave go

def iterate (prepend : Program → Program) : Nat → Program → Program
  | 0, p => p
  | n + 1, p => iterate prepend n (prepend p)

/-- Puts up to so many machines in front of another one, each of which may be left out together with
those behind it. -/
def iterateUpTo (prepend : Program → Program) (greedy : Bool) (leave : Nat) :
    Nat → Program → Program
  | 0, p => p
  | n + 1, p =>
    let body := prepend p
    iterateUpTo prepend greedy leave n (body.push (choice greedy body.entry leave))

/-- Closes a loop: the body, which goes on at the hub, and there is gone through again or left. -/
def close (greedy : Bool) (hub leave : Nat) (body : Program) : Program :=
  ⟨body.nodes.setIfInBounds hub (choice greedy body.entry leave), body.entry⟩

/-- Puts the machine of an expression in front of another one. A loop that may be left out starts at
its hub, and one that may not at its body. -/
def prepend : Regex → Program → Program
  | .empty, p => p
  | .look l, p => p.push (.look l p.entry)
  | .chars s, p => p.push (.chars s p.entry)
  | .seq a b, p => prepend a (prepend b p)
  | .alt a b, p =>
    let right := prepend b p
    let left := prepend a ⟨right.nodes, p.entry⟩
    left.push (.split left.entry right.entry)
  | .star body greedy, p =>
    ⟨(close greedy p.nodes.size p.entry (prepend body (p.push .accept))).nodes, p.nodes.size⟩
  | .plus body greedy, p => close greedy p.nodes.size p.entry (prepend body (p.push .accept))
  | .times body n, p => iterate (prepend body) n p
  | .upTo body n greedy, p => iterateUpTo (prepend body) greedy p.entry n p

def ofRegex (r : Regex) : Program :=
  prepend r ⟨#[.accept], 0⟩

end Program

/-- How many nodes the machine of an expression has, one for the end apart. A set of characters is
one node, however many bytes its characters have. -/
def size : Regex → Nat
  | .empty => 0
  | .look _ => 1
  | .chars _ => 1
  | .seq a b => a.size + b.size
  | .alt a b => a.size + b.size + 1
  | .star body _ => body.size + 1
  | .plus body _ => body.size + 1
  | .times body n => n * body.size
  | .upTo body n _ => n * (body.size + 1)

def sizeLimit : Nat := 327680

def fits (r : Regex) : Bool :=
  r.size ≤ sizeLimit

end ShellSuite.Regex
