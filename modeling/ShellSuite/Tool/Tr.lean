import ShellSuite.Regex.Parser
import ShellSuite.Tool.Call
import ShellSuite.Tool.Escape

set_option autoImplicit false
set_option relaxedAutoImplicit false

/-!
Exchanging, dropping and squeezing characters.
-/

namespace ShellSuite.Tool.Tr

def classBytes (name : String) : Option (List Nat) :=
  (Regex.asciiClass? name).map fun s => (List.range 128).filter s.hasCode

def readMember : List Char → Option (Bytes × List Char)
  | [] => none
  | '\\' :: cs =>
    match readEscape .plain cs with
    | (.bytes (92 :: b :: bs), cs) => some (b :: bs, cs)
    | (.bytes bs, cs) => some (bs, cs)
    | (.stop, cs) => some ([99], cs)
  | c :: cs => some (Text.encode c.toString, cs)

def members : Nat → List Char → List Nat
  | 0, _ => []
  | n + 1, cs =>
    match cs with
    | '[' :: ':' :: rest =>
      let name := rest.takeWhile (· ≠ ':')
      match rest.drop name.length, classBytes (String.ofList name) with
      | ':' :: ']' :: rest, some bs => bs ++ members n rest
      | _, _ => 91 :: members n (':' :: rest)
    | cs =>
      match readMember cs with
      | none => []
      | some ([a], '-' :: rest) =>
        match readMember rest with
        | some ([b], rest) =>
          (List.range (b.toNat + 1 - a.toNat)).map (a.toNat + ·) ++ members n rest
        | _ => a.toNat :: members n ('-' :: rest)
      | some (bs, rest) => bs.map (·.toNat) ++ members n rest

def setOf (s : String) : List Nat :=
  members (s.length + 1) s.toList

def complement (s : List Nat) : List Nat :=
  (List.range 256).filter fun b => !s.contains b

/-- The byte that takes the place of another one; the last member of the second set stands for those
it lacks. -/
def exchange (source target : List Nat) (b : Nat) : Nat :=
  match source.reverse.findIdx? (· = b) with
  | none => b
  | some i =>
    let i := source.length - 1 - i
    target.getD i (target.getLast?.getD b)

def squeeze (s : List Nat) (acc : Bytes) : Bytes → Bytes
  | [] => acc.reverse
  | b :: bs =>
    if acc.head? = some b && s.contains b.toNat then squeeze s acc bs else squeeze s (b :: acc) bs

def plan (c : Call) : Plan :=
  match optionsOf [] c.args with
  | .error _ => .of (c.refuses "missing operand" 1)
  | .ok (os, operands) =>
    let has (l : Char) : Bool := os.any (·.1 = l)
    let delete := has 'd'
    let squeezes := has 's'
    let first (s : String) : List Nat :=
      if has 'c' || has 'C' then complement (setOf s) else setOf s
    let filter (f : Bytes → Bytes) : Plan :=
      ⟨true, fun input => ⟨c.world.files, [(false, f input)], 0⟩⟩
    match operands with
    | [] => .of (c.refuses "missing operand" 1)
    | [a] =>
      let s := first a
      if delete then filter fun bs => bs.filter fun b => !s.contains b.toNat
      else if squeezes then filter (squeeze s [])
      else
        .of (c.refuses ("missing operand after " ++ quoted a ++
          "\nTwo strings must be given when translating.") 1)
    | [a, b] =>
      let s := first a
      let t := setOf b
      if delete && squeezes then
        filter fun bs => squeeze t [] (bs.filter fun b => !s.contains b.toNat)
      else if delete then
        .of (c.refuses ("extra operand " ++ quoted b ++
          "\nOnly one string may be given when deleting without squeezing repeats.") 1)
      else if t.isEmpty then
        .of (c.fails "when not truncating set1, string2 must be non-empty" 1)
      else
        let table := (List.range 256).map fun b => (exchange s t b).toUInt8
        let table := table.toArray
        let swap (bs : Bytes) : Bytes := bs.map fun b => table.getD b.toNat b
        filter fun bs => if squeezes then squeeze t [] (swap bs) else swap bs
    | _ :: _ :: x :: _ => .of (c.refuses ("extra operand " ++ quoted x) 1)

end ShellSuite.Tool.Tr
