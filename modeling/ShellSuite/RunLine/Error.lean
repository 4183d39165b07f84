set_option autoImplicit false
set_option relaxedAutoImplicit false

/-!
What can be wrong with a RUN line as it is written.
-/

namespace ShellSuite.RunLine

inductive SyntaxError where
  | openSingleQuote
  | openDoubleQuote
  | trailingBackslash
  | backgroundJob
  | openVariable
  | badVariable (name : String)
  | badDescriptor (digits : String)
  | inputDuplicate
  | missingTarget
  | badDuplicate (target : String)
  | emptyCommand
  | trailingOperator
  | unsupportedDescriptor (fd : Nat) (redirect : String)
  | missingVariable
  | missingNegated
  deriving DecidableEq, Repr

def SyntaxError.message : SyntaxError → String
  | .openSingleQuote => "unterminated single quote"
  | .openDoubleQuote => "unterminated double quote"
  | .trailingBackslash => "line ends with a backslash"
  | .backgroundJob => "background jobs ('&') are not supported"
  | .openVariable => "unterminated '$\x7b'"
  | .badVariable name => "bad substitution '$\x7b" ++ name ++ "\x7d'"
  | .badDescriptor digits => "bad file descriptor '" ++ digits ++ "'"
  | .inputDuplicate => "'<&' redirection is not supported"
  | .missingTarget => "missing target for redirection"
  | .badDuplicate target => "cannot duplicate file descriptor '" ++ target ++ "'"
  | .emptyCommand => "empty command"
  | .trailingOperator => "line ends with an operator"
  | .unsupportedDescriptor fd redirect =>
    "unsupported file descriptor " ++ toString fd ++ " in '" ++ redirect ++ "'"
  | .missingVariable => "env: -u needs a variable name"
  | .missingNegated => "'not' needs a command"

end ShellSuite.RunLine
