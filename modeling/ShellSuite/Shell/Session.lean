import ShellSuite.Dict
import ShellSuite.Path

set_option autoImplicit false
set_option relaxedAutoImplicit false

/-!
Sessions: what one command line hands on to the next one.
-/

namespace ShellSuite

/-- The working directory, the environment, and whether a pipeline fails with any of its
commands. -/
structure Session where
  cwd : Path
  env : Dict String
  pipefail : Bool
  deriving DecidableEq, Repr

/-- A path, if it is relative taken from the working directory. -/
def Session.resolve (s : Session) (path : String) : Path :=
  s.cwd.child path

/-- What is started for the name of a program: a name with a slash is a path from the working
directory, any other one is looked for elsewhere. -/
def Session.program (s : Session) (name : String) : String :=
  if name.toList.contains '/' then (s.resolve name).text else name

end ShellSuite
