import ShellSuite.Decimal.Shortest
import ShellSuite.Dict
import ShellSuite.Summary

set_option autoImplicit false
set_option relaxedAutoImplicit false

/-!
Reports as JUnit XML: one suite for each directory of tests.
-/

namespace ShellSuite.Report

/-- The five characters of markup and their entities, in the order in which they are replaced: the
mark that entities start with comes first. -/
def markup : List (Char × String) :=
  [('&', "&amp;"), ('<', "&lt;"), ('>', "&gt;"), ('"', "&quot;"), ('\'', "&apos;")]

/-- A text without markup. Each character is replaced in the whole text before the next one. -/
def escapeXml (s : String) : String :=
  markup.foldl (fun s e => Text.replace s e.1 e.2) s

def groupName (suite : String) (r : TestResult) : String :=
  match Text.cutLast '/' r.name.toList with
  | some (dir, _) => suite ++ "/" ++ String.ofList dir
  | none => suite

def groups (suite : String) (results : List TestResult) : Dict (List TestResult) :=
  results.foldl
    (fun d r =>
      let name := groupName suite r
      d.insert name ((d.get? name).getD [] ++ [r])) Dict.empty

def property (name value : String) : String :=
  " " ++ name ++ "=\"" ++ value ++ "\""

def numbers (tests failures idle : Nat) (time : Decimal.Binary) : String :=
  property "tests" (toString tests) ++ property "failures" (toString failures) ++
    property "skipped" (toString idle) ++ property "time" (time.fixedText 3)

def outcomeXml (r : TestResult) : String :=
  if r.outcome.isFailure then
    "      <failure" ++ property "message" (escapeXml (r.failures.headD "Test failed")) ++ ">\n" ++
      String.join (r.failures.map fun failure => escapeXml failure ++ "\n") ++
      "      </failure>\n"
  else if r.outcome.isIdle then
    "      <skipped" ++ property "message" (escapeXml (r.failures.headD "")) ++ "/>\n"
  else ""

def outputXml (r : TestResult) : String :=
  let output :=
    String.join (r.commands.map fun c => "$ " ++ c.result.command ++ "\n" ++ c.result.stdout)
  if output.isEmpty then "" else "      <system-out>" ++ escapeXml output ++ "</system-out>\n"

def testXml (suite : String) (r : TestResult) : String :=
  "    <testcase" ++ property "classname" (escapeXml suite) ++
    property "name" (escapeXml r.name) ++
    property "time" ((Decimal.secondsOf r.duration).fixedText 3) ++ ">\n" ++
    outcomeXml r ++ outputXml r ++ "    </testcase>\n"

def totalTime (results : List TestResult) : Decimal.Binary :=
  results.foldl (fun t r => t.add (Decimal.secondsOf r.duration)) ⟨0, 0⟩

def suiteXml (name : String) (results : List TestResult) : String :=
  "  <testsuite" ++ property "name" (escapeXml name) ++
    numbers results.length (results.countP (·.outcome.isFailure))
      (results.countP (·.outcome.isIdle)) (totalTime results) ++ ">\n" ++
    String.join (results.map (testXml name)) ++ "  </testsuite>\n"

def junit (s : Snapshot) (suite : String) : String :=
  "<?xml version=\"1.0\" encoding=\"UTF-8\"?>\n<testsuites" ++
    property "name" (escapeXml suite) ++
    numbers s.total s.failures s.idle (Decimal.secondsOf s.elapsed) ++ ">\n" ++
    String.join ((groups suite s.results).entries.map fun (name, results) =>
      suiteXml name results) ++ "</testsuites>\n"

end ShellSuite.Report
