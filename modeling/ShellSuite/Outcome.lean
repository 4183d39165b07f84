import ShellSuite.Duration
import ShellSuite.Path

set_option autoImplicit false
set_option relaxedAutoImplicit false

/-!
How tests and their lines of commands end.
-/

namespace ShellSuite

inductive Outcome where
  | pass
  | fail
  | expectedFail
  | unsupported
  | skipped
  | timedOut
  deriving DecidableEq, Repr

namespace Outcome

def all : List Outcome :=
  [.pass, .fail, .expectedFail, .unsupported, .skipped, .timedOut]

def label : Outcome → String
  | .pass => "PASS"
  | .fail => "FAIL"
  | .expectedFail => "XFAIL"
  | .unsupported => "UNSUPPORTED"
  | .skipped => "SKIPPED"
  | .timedOut => "TIMEOUT"

def isFailure : Outcome → Bool
  | .fail | .timedOut => true
  | _ => false

/-- Whether a test with this outcome did not run. -/
def isIdle : Outcome → Bool
  | .unsupported | .skipped => true
  | _ => false

end Outcome

inductive RunStatus where
  | passed
  | failed (message : String)
  | timedOut
  | interrupted
  | broken (message : String)
  deriving DecidableEq, Repr

/-- The outcome of a finished run, given whether it was expected to fail. -/
def RunStatus.outcome (expectFailure : Bool) : RunStatus → Outcome
  | .timedOut => .timedOut
  | .interrupted => .skipped
  | .broken _ => .fail
  | .failed _ => if expectFailure then .expectedFail else .fail
  | .passed => if expectFailure then .fail else .pass

structure StageLog where
  command : String
  exitCode : Int
  stdout : String
  stderr : String
  deriving DecidableEq, Repr

structure LineResult where
  command : String
  exitCode : Int
  stdout : String
  stderr : String
  duration : Duration
  timedOut : Bool
  stages : List StageLog
  deriving DecidableEq, Repr

def LineResult.success (r : LineResult) : Bool :=
  r.exitCode = 0 && !r.timedOut

structure CommandLog where
  line : Nat
  result : LineResult
  deriving DecidableEq, Repr

structure TestResult where
  name : String
  path : Path
  outcome : Outcome
  duration : Duration
  failures : List String
  commands : List CommandLog
  deriving DecidableEq, Repr

namespace TestResult

def skipped (name : String) (path : Path) (reason : String) : TestResult :=
  ⟨name, path, .skipped, 0, [reason], []⟩

def loadFailure (path : Path) (message : String) : TestResult :=
  ⟨"<load> " ++ path.text, path, .fail, 0, [message], []⟩

def atMost (a b : TestResult) : Bool :=
  a.path.less b.path || (a.path.same b.path && a.name ≤ b.name)

end TestResult

end ShellSuite
