import ShellSuite.Summary
import ShellSuite.Text.Lines
import ShellSuite.Text.Pieces

set_option autoImplicit false
set_option relaxedAutoImplicit false

/-!
Reports for people.
-/

namespace ShellSuite.Report

def mark : Outcome → String
  | .pass | .expectedFail => "✓"
  | .fail | .timedOut => "✗"
  | .unsupported | .skipped => "-"

def resultLine (r : TestResult) : String :=
  mark r.outcome ++ " " ++ r.outcome.label ++ ": " ++ r.name ++ " (" ++ r.duration.render 2 ++ ")"

def outputText (label text : String) : String :=
  if text.isEmpty then ""
  else
    "      " ++ label ++ ":\n" ++
      String.join ((Text.lines text).map fun line => "        " ++ line ++ "\n")

def commandText (c : CommandLog) : String :=
  "    $ " ++ c.result.command ++ "    # line " ++ toString c.line ++ ", exit " ++
    toString c.result.exitCode ++ (if c.result.timedOut then ", timed out" else "") ++ "\n" ++
    outputText "stdout" c.result.stdout ++ outputText "stderr" c.result.stderr

def testText (verbose : Bool) (r : TestResult) : String :=
  "\n" ++ resultLine r ++ "\n" ++
    String.join (r.failures.map fun failure => "    " ++ failure ++ "\n") ++
    (if verbose then String.join (r.commands.map commandText) else "")

def countsText (s : Snapshot) : String :=
  match Outcome.all.filter fun o => 0 < s.count o with
  | [] => "none run"
  | os => Text.join ", " (os.map fun o => toString (s.count o) ++ " " ++ o.label.toLower)

def human (s : Snapshot) (verbose : Bool) : String :=
  String.join ((s.results.filter fun r => verbose || r.outcome.isFailure).map (testText verbose)) ++
    "\n" ++ toString s.total ++ " tests in " ++ s.elapsed.render 2 ++ ": " ++ countsText s ++ "\n"

end ShellSuite.Report
