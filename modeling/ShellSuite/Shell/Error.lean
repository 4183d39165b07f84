import ShellSuite.Files.OsError
import ShellSuite.Path
import ShellSuite.RunLine.Error

set_option autoImplicit false
set_option relaxedAutoImplicit false

/-!
Why a line of commands has no exit code.
-/

namespace ShellSuite

inductive ShellError where
  | syntaxError (cause : RunLine.SyntaxError)
  | spawn (program : String) (cause : OsError)
  | redirect (target : Path) (cause : OsError)
  | interrupted
  | io (cause : OsError)
  deriving DecidableEq, Repr

def ShellError.message : ShellError → String
  | .syntaxError cause => "shell syntax error: " ++ cause.message
  | .spawn program cause => "failed to spawn '" ++ program ++ "': " ++ cause.message
  | .redirect target cause => "cannot redirect to '" ++ target.text ++ "': " ++ cause.message
  | .interrupted => "interrupted"
  | .io cause => cause.message

end ShellSuite
