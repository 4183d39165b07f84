import ShellSuite.Regex.Posix
import ShellSuite.Regex.Search
import ShellSuite.Tool.Text

set_option autoImplicit false
set_option relaxedAutoImplicit false

/-!
Looking for lines that match.
-/

namespace ShellSuite.Tool.Grep

structure Options where
  patterns : List String := []
  extended : Bool := false
  fixed : Bool := false
  fold : Bool := false
  invert : Bool := false
  whole : Bool := false
  word : Bool := false
  count : Bool := false
  quiet : Bool := false
  number : Bool := false
  only : Bool := false
  names : Bool := false
  silent : Bool := false
  label : Option Bool := none

def Options.set (o : Options) (letter : Char) (value : String) : Option Options :=
  match letter with
  | 'e' => some { o with patterns := o.patterns ++ [value] }
  | 'E' => some { o with extended := true }
  | 'G' => some { o with extended := false }
  | 'F' => some { o with fixed := true }
  | 'i' => some { o with fold := true }
  | 'v' => some { o with invert := true }
  | 'x' => some { o with whole := true }
  | 'w' => some { o with word := true }
  | 'c' => some { o with count := true }
  | 'q' => some { o with quiet := true }
  | 'n' => some { o with number := true }
  | 'o' => some { o with only := true }
  | 'l' => some { o with names := true }
  | 's' => some { o with silent := true }
  | 'h' => some { o with label := some false }
  | 'H' => some { o with label := some true }
  | _ => none

def Options.regexOf (o : Options) (pattern : String) : Except Regex.Posix.Fault Regex :=
  let n : Regex.Posix.Dialect := ⟨o.extended, o.fold⟩
  if o.fixed then .ok (.concat (pattern.toList.map fun c => n.chars (.single c)))
  else Regex.Posix.parse n pattern

def Options.program (o : Options) : Except Regex.Posix.Fault Regex.Program := do
  let rs ← (o.patterns.flatMap fun p => Text.split p '\n').mapM o.regexOf
  let r := Regex.anyOf rs
  let r :=
    if o.whole then .seq (.look .startText) (.seq r (.look .endText))
    else if o.word then
      .seq (.look (.wordStartHalf Text.CharSet.asciiWord))
        (.seq r (.look (.wordEndHalf Text.CharSet.asciiWord)))
    else r
  return Regex.Program.ofRegex r

def matchesIn (p : Regex.Program) : Nat → Option Char → Nat → List Char → List String
  | 0, _, _, _ => []
  | n + 1, before, offset, cs =>
    match Regex.searchFrom p before offset [] none cs with
    | none => []
    | some (a, b) =>
      let rest := String.ofList cs
      let skip (k : Nat) : List Char := (Text.decodeLossy ((Text.encode rest).drop k)).toList
      let found := Text.decodeLossy (((Text.encode rest).drop (a - offset)).take (b - a))
      if b = a then
        match skip (a - offset) with
        | [] => []
        | c :: more => matchesIn p n (some c) (a + c.utf8Size) more
      else found :: matchesIn p n found.toList.getLast? b (skip (b - offset))

def search (o : Options) (p : Regex.Program) (label : String) (bytes : Bytes) : Bytes × Nat :=
  let numbered := (lines bytes).zipIdx 1
  let chosen := numbered.filter fun (l, _) =>
    let cs := (Text.decodeLossy l).toList
    (Regex.searchFrom p none 0 [] none cs).isSome != o.invert
  let front (i : Nat) : Bytes :=
    Text.encode (label ++ if o.number then toString i ++ ":" else "")
  let out :=
    if o.only then
      chosen.flatMap fun (l, i) =>
        let cs := (Text.decodeLossy l).toList
        if o.invert then []
        else
          (matchesIn p (cs.length + 1) none 0 cs).flatMap fun m =>
            front i ++ Text.encode m ++ [feed]
    else chosen.flatMap fun (l, i) => front i ++ l ++ [feed]
  (out, chosen.length)

def run (c : Call) (o : Options) (p : Regex.Program) (files : List String) (input : Bytes) :
    Result :=
  let labelled := o.label.getD (1 < files.length)
  let step (acc : List (Bool × Bytes) × Bool × Bool) (file : String) :
      List (Bool × Bytes) × Bool × Bool :=
    let (writes, found, trouble) := acc
    match c.read input file with
    | .error e =>
      let message := c.complaint (file ++ ": " ++ e.reason)
      (if o.silent then writes else writes ++ [message], found, true)
    | .ok bytes =>
      let name := if file = "-" then "(standard input)" else file
      let label := if labelled then name ++ ":" else ""
      let (out, n) := search o p label bytes
      let out :=
        if o.quiet then []
        else if o.names then if n = 0 then [] else Text.encode (name ++ "\n")
        else if o.count then Text.encode (label ++ toString n ++ "\n")
        else out
      (writes ++ [(false, out)], found || n ≠ 0, trouble)
  let (writes, found, trouble) := files.foldl step ([], false, false)
  ⟨c.world.files, writes, if trouble && !(o.quiet && found) then 2 else if found then 0 else 1⟩

def plan (c : Call) : Plan :=
  let usage : Result :=
    ⟨c.world.files, [(true, Text.encode ("Usage: grep [OPTION]... PATTERNS [FILE]...\n" ++
      "Try 'grep --help' for more information.\n"))], 2⟩
  match optionsOf ['e'] c.args with
  | .error _ => .of usage
  | .ok (os, operands) =>
    match os.foldlM (fun (o : Options) (l, v) => o.set l v) {} with
    | none => .of usage
    | some o =>
      match o.patterns, operands with
      | [], [] => .of usage
      | ps, operands =>
        let (ps, operands) :=
          if ps.isEmpty then (operands.take 1, operands.drop 1)
          else (ps, operands)
        let o := { o with patterns := ps }
        match o.program with
        | .error fault => .of (c.fails fault.message 2)
        | .ok p =>
          let files := filesOr operands
          ⟨readsInput files, run c o p files⟩

end ShellSuite.Tool.Grep
