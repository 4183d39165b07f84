import ShellSuite.Test.Run

set_option autoImplicit false
set_option relaxedAutoImplicit false

/-!
Validating tests: everything that can be said about a test without running it.
-/

namespace ShellSuite

inductive Test.Invalid where
  | plan (cause : TestPlan.Error)
  | pattern (line : Nat) (cause : Check.PatternError)
  | run (line : Nat) (cause : RunLine.SyntaxError)
  deriving DecidableEq, Repr

def Test.Invalid.message : Test.Invalid → String
  | .plan cause => cause.message
  | .pattern line cause =>
    "line " ++ toString line ++ ": invalid CHECK pattern: " ++ cause.message
  | .run line cause =>
    "line " ++ toString line ++ ": " ++ (ShellError.syntaxError cause).message

namespace Test

def checkPatterns : List Directive → Except Invalid Unit
  | [] => .ok ()
  | d :: ds =>
    match Check.compile d.text with
    | .error cause => .error (.pattern d.line cause)
    | .ok _ => checkPatterns ds

def checkRuns (t : Substitutions) (env : Dict String) : List Directive → Except Invalid Unit
  | [] => .ok ()
  | d :: ds =>
    match RunLine.parseLine d.text t env with
    | .error cause => .error (.run d.line cause)
    | .ok _ => checkRuns t env ds

/-- Checks a test without running it, and counts its lines. Lines for another shell are not read. -/
def validate (site : Site) (t : Test) (fs : FileSystem) : Except Invalid Nat :=
  match t.plan fs with
  | .error cause => .error (.plan cause)
  | .ok p => do
    checkPatterns p.checks
    if t.config.format = .internal then
      checkRuns (t.substitutions site.temp) (site.environment t.config) p.runs
    return p.runs.length

end Test

end ShellSuite
