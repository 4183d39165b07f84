import ShellSuite.Tool.Printf
import ShellSuite.Files.Lookup

set_option autoImplicit false
set_option relaxedAutoImplicit false

/-!
Conditions: tests of texts, numbers and files. There are two ways to read them. `Grammar.holds`
always goes by the operators, and `Counted.holds` by the number of words as long as there are few.
-/

namespace ShellSuite.Tool.Condition

/-- What can be wrong with a condition. Words that are left are told with the one before them. -/
inductive Fault where
  | badInteger (arg : String)
  | missingArgument (after : String)
  | unaryExpected (arg : String)
  | binaryExpected (arg : String)
  | unclosed
  | extra (last next : String)

structure Scope where
  files : FileSystem
  resolve : String → Path

def integer (arg : String) : Except Fault Int :=
  let cs := Text.trimBlanks arg.toList
  let (negative, digits) :=
    match cs with
    | '-' :: ds => (true, ds)
    | '+' :: ds => (false, ds)
    | ds => (false, ds)
  if digits.isEmpty || !digits.all Char.isDigit then .error (.badInteger arg)
  else
    let n : Nat := digits.foldl (fun v d => 10 * v + (d.toNat - 48)) 0
    .ok (if negative then -Int.ofNat n else n)

def Scope.node? (s : Scope) (follow : Bool) (arg : String) : Option Node :=
  if arg = "" then none else (s.files.node follow (s.resolve arg)).toOption

def isRunnable : Node → Bool
  | .file _ executable => executable
  | .directory _ => true
  | .tool _ => true
  | _ => false

def Scope.isFilled (s : Scope) : Node → Bool
  | .file id _ => !(s.files.bytesOf id).isEmpty
  | .directory _ => true
  | .tool _ => true
  | _ => false

def unary? (s : Scope) (op : String) : Option (String → Except Fault Bool) :=
  let ofNode (follow : Bool) (f : Node → Bool) : Option (String → Except Fault Bool) :=
    some fun arg => .ok ((s.node? follow arg).any f)
  match op with
  | "-n" => some fun arg => .ok (arg ≠ "")
  | "-z" => some fun arg => .ok (arg = "")
  | "-e" => ofNode true fun _ => true
  | "-f" => ofNode true Node.isFile
  | "-d" => ofNode true Node.isDirectory
  | "-h" => ofNode false Node.isLink
  | "-L" => ofNode false Node.isLink
  | "-r" => ofNode true fun _ => true
  | "-w" => ofNode true fun _ => true
  | "-O" => ofNode true fun _ => true
  | "-G" => ofNode true fun _ => true
  | "-x" => ofNode true isRunnable
  | "-s" => ofNode true s.isFilled
  | "-t" => some fun arg => (integer arg).map fun _ => false
  | _ =>
    if ["-b", "-c", "-g", "-k", "-p", "-S", "-u"].contains op then ofNode true fun _ => false
    else none

def comparison? : String → Option (Int → Int → Bool)
  | "-eq" => some fun a b => a = b
  | "-ne" => some fun a b => a ≠ b
  | "-lt" => some fun a b => a < b
  | "-le" => some fun a b => a ≤ b
  | "-gt" => some fun a b => b < a
  | "-ge" => some fun a b => b ≤ a
  | _ => none

def binary? (s : Scope) (op : String) : Option (String → String → Except Fault Bool) :=
  match comparison? op with
  | some f => some fun a b => do return f (← integer a) (← integer b)
  | none =>
    match op with
    | "=" => some fun a b => .ok (a = b)
    | "!=" => some fun a b => .ok (a ≠ b)
    | "-nt" => some fun a b => .ok ((s.node? true a).isSome && (s.node? true b).isNone)
    | "-ot" => some fun a b => .ok ((s.node? true a).isNone && (s.node? true b).isSome)
    | "-ef" =>
      some fun a b =>
        .ok (match s.files.resolve true (s.resolve a), s.files.resolve true (s.resolve b) with
          | .ok p, .ok q => p.node.isSome && p.names = q.names
          | _, _ => false)
    | _ => none

/-- What is read so far: the value, the word in front of the rest, and the rest. -/
structure Reading where
  value : Bool
  last : String
  rest : List String

abbrev Reader := String → List String → Except Fault Reading

def joined (op : String) (combine : Bool → Bool → Bool) (item : Reader) : Nat → Reader
  | 0, last, words => .ok ⟨false, last, words⟩
  | n + 1, last, words => do
    let first ← item last words
    match first.rest with
    | word :: rest =>
      if word = op then
        let second ← joined op combine item n word rest
        return { second with value := combine first.value second.value }
      else return first
    | [] => return first

def complete (r : Reading) : Except Fault Bool :=
  match r.rest with
  | [] => .ok r.value
  | next :: _ => .error (.extra r.last next)

namespace Grammar

def binaryOf? (s : Scope) (op : String) : Option (String → String → Except Fault Bool) :=
  match op with
  | "<" => some fun a b => .ok (a < b)
  | ">" => some fun a b => .ok (b < a)
  | op => binary? s op

def checkRange (a op b : String) : Except Fault Unit := do
  if (comparison? op).isSome then
    for arg in [a, b] do
      let v ← integer arg
      if v < -Int.pow 2 63 || Int.pow 2 63 ≤ v then throw (.badInteger arg)

def operand (s : Scope) (a : String) (rest : List String) : Except Fault Reading := do
  match rest with
  | op :: more =>
    match binaryOf? s op, more with
    | some f, b :: rest => do
      checkRange a op b
      return ⟨← f a b, b, rest⟩
    | some _, [] => throw (.missingArgument op)
    | none, _ => return ⟨a ≠ "", a, rest⟩
  | [] => return ⟨a ≠ "", a, []⟩

/-- Reads alternatives; a missing condition does not hold. -/
def alternatives (s : Scope) : Nat → Reader
  | 0, last, words => .ok ⟨false, last, words⟩
  | n + 1, last, words =>
    joined "-o" (· || ·) (joined "-a" (· && ·) (negation n) n) n last words
where
  /-- Reads negations in front of a test. -/
  negation : Nat → Reader
    | 0, last, words => .ok ⟨false, last, words⟩
    | n + 1, last, words =>
      match words with
      | "!" :: rest => do
        let r ← negation n "!" rest
        return { r with value := !r.value }
      | [] => .ok ⟨false, last, []⟩
      | "(" :: ")" :: rest => .ok ⟨false, ")", rest⟩
      | "(" :: x :: rest => do
        let r ← alternatives s n "(" (x :: rest)
        match r.rest with
        | ")" :: rest => return ⟨r.value, ")", rest⟩
        | _ => throw .unclosed
      | a :: rest =>
        match unary? s a, rest with
        | some f, [b] => do return ⟨← f b, b, []⟩
        | some f, b :: c :: rest =>
          if (binaryOf? s b).isSome then operand s a (b :: c :: rest)
          else do return ⟨← f b, b, c :: rest⟩
        | _, rest => operand s a rest

def holds (s : Scope) (args : List String) : Except Fault Bool := do
  match args with
  | [a, op, b] =>
    if (binaryOf? s op).isSome then complete (← operand s a [op, b])
    else complete (← alternatives s 5 "" args)
  | args => complete (← alternatives s (args.length + 2) "" args)

end Grammar

namespace Counted

def binaryOf? (s : Scope) (op : String) : Option (String → String → Except Fault Bool) :=
  binary? s (if op = "==" then "=" else op)

def looksUnary (a : String) : Bool :=
  a.toList.head? = some '-' && a.length = 2

def two (s : Scope) (a b : String) : Except Fault Bool :=
  if a = "!" then .ok (b = "")
  else if looksUnary a then
    match unary? s a with
    | some f => f b
    | none => .error (.unaryExpected a)
  else .error (.missingArgument b)

def alternatives (s : Scope) : Nat → Reader
  | 0, last, words => .ok ⟨false, last, words⟩
  | n + 1, last, words =>
    joined "-o" (· || ·) (joined "-a" (· && ·) (term n) n) n last words
where
  /-- Reads one test. -/
  term : Nat → Reader
    | 0, last, words => .ok ⟨false, last, words⟩
    | n + 1, last, words =>
      match words with
      | [] => .error (.missingArgument last)
      | "!" :: rest => do
        let r ← term n "!" rest
        return { r with value := !r.value }
      | "(" :: x :: rest => do
        let r ← alternatives s n "(" (x :: rest)
        match r.rest with
        | ")" :: rest => return ⟨r.value, ")", rest⟩
        | _ => throw .unclosed
      | a :: rest =>
        match rest with
        | op :: b :: more =>
          match binaryOf? s op with
          | some f => do return ⟨← f a b, b, more⟩
          | none => single a rest
        | _ => single a rest
  /-- Reads a test of one text. -/
  single (a : String) (rest : List String) : Except Fault Reading :=
    if looksUnary a then
      match unary? s a, rest with
      | some f, b :: more => do return ⟨← f b, b, more⟩
      | some _, [] => .error (.missingArgument a)
      | none, _ => .error (.unaryExpected a)
    else .ok ⟨a ≠ "", a, rest⟩

def three (s : Scope) (a op b : String) : Except Fault Bool :=
  match binaryOf? s op with
  | some f => f a b
  | none =>
    if a = "!" then (two s op b).map (!·)
    else if a = "(" && b = ")" then .ok (op ≠ "")
    else if op = "-a" || op = "-o" then do complete (← alternatives s 5 "" [a, op, b])
    else .error (.binaryExpected op)

def holds (s : Scope) (args : List String) : Except Fault Bool :=
  match args with
  | [] => .ok false
  | [a] => .ok (a ≠ "")
  | [a, b] => two s a b
  | [a, op, b] => three s a op b
  | ["!", a, op, b] => (three s a op b).map (!·)
  | ["(", a, b, ")"] => two s a b
  | args => do complete (← alternatives s (args.length + 2) "" args)

end Counted

end ShellSuite.Tool.Condition
