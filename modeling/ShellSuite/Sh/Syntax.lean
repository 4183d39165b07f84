set_option autoImplicit false
set_option relaxedAutoImplicit false

/-!
The commands of shell scripts.
-/

namespace ShellSuite.Sh

/-- The kinds of redirections: to a file, to its end, from a file, from another descriptor, from a
text that is part of the script. -/
inductive RedirectOp where
  | write
  | append
  | read
  | duplicate
  | here
  deriving DecidableEq, Repr

mutual

/-- A part of a word. Quoted parts are not split. -/
inductive Part where
  | text (cs : List Char) (quoted : Bool)
  | param (name : String) (modifier : Modifier) (quoted : Bool)
  | command (body : Command) (quoted : Bool)
  | arith (body : List Part) (quoted : Bool)

/-- What is done with the value of a parameter. Of those with a word, `colon` tells that an empty
value counts as none. -/
inductive Modifier where
  | plain
  | length
  | otherwise (colon : Bool) (word : List Part)
  | assign (colon : Bool) (word : List Part)
  | instead (colon : Bool) (word : List Part)
  | demand (colon : Bool) (word : List Part)
  | trim (fromEnd longest : Bool) (word : List Part)

inductive Redirect where
  | mk (fd : Nat) (op : RedirectOp) (target : List Part)

inductive Command where
  | simple (line : Nat) (assigns : List (String × List Part)) (words : List (List Part))
      (redirects : List Redirect)
  | pipeline (negate : Bool) (stages : List Command)
  | and (first second : Command)
  | or (first second : Command)
  | seq (commands : List Command)
  | background (body : Command)
  | subshell (body : Command)
  | group (body : Command)
  | choice (test yes no : Command)
  | loop (untilTrue : Bool) (test body : Command)
  | each (name : String) (words : Option (List (List Part))) (body : Command)
  | cases (subject : List Part) (arms : List (List (List Part) × Command))
  | define (name : String) (body : Command)
  | redirected (body : Command) (redirects : List Redirect)

end

instance : Inhabited Command := ⟨.seq []⟩

structure SyntaxFault where
  line : Nat
  message : String
  deriving DecidableEq, Repr

end ShellSuite.Sh
