import ShellSuite.Proofs.Shell.Session

set_option autoImplicit false
set_option relaxedAutoImplicit false

/-!
The prefixes `not` and `env` of a command, in any number and order. Each of them does one thing to
what is resolved so far, and what all of them do is what they do one after the other: an odd number
of `not` negates, and the arguments of all `env` change the environment from left to right.
-/

namespace ShellSuite

inductive EnvChange where
  | clear
  | unset (name : String)
  | assign (name value : String) (valid : RunLine.isName name = true)

namespace EnvChange

def words : EnvChange → List String
  | .clear => ["-i"]
  | .unset name => ["-u", name]
  | .assign name value _ => [RunLine.assignmentWord (name, value)]

def apply (env : Dict String) : EnvChange → Dict String
  | .clear => .empty
  | .unset name => env.erase name
  | .assign name value _ => env.insert name value

end EnvChange

inductive Modifier where
  | not
  | env (changes : List EnvChange)

namespace Modifier

def words : Modifier → List String
  | .not => ["not"]
  | .env changes => "env" :: changes.flatMap EnvChange.words

def changes : Modifier → List EnvChange
  | .not => []
  | .env changes => changes

def apply (p : Prefixed) : Modifier → Prefixed
  | .not => { p with negate := !p.negate }
  | .env changes => { p with listing := true, env := changes.foldl EnvChange.apply p.env }

end Modifier

namespace Prefixed

/-! ### Words -/

section Words

variable (p : Prefixed) (inEnv : Bool) (ws : List String)

end Words

/-! ### Runs of prefixes -/

end Prefixed

end ShellSuite
