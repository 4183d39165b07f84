import ShellSuite.Json
import ShellSuite.Summary

set_option autoImplicit false
set_option relaxedAutoImplicit false

/-!
Reports as JSON.
-/

namespace ShellSuite.Report

def seconds (d : Duration) : Json :=
  .real (Decimal.secondsOf d)

def stageData (s : StageLog) : Json :=
  .obj [
    ("command", .str s.command),
    ("exit_code", .int s.exitCode),
    ("stdout", .str s.stdout),
    ("stderr", .str s.stderr)]

def commandData (c : CommandLog) : Json :=
  .obj [
    ("line", .int c.line),
    ("command", .str c.result.command),
    ("exit_code", .int c.result.exitCode),
    ("stdout", .str c.result.stdout),
    ("stderr", .str c.result.stderr),
    ("duration", seconds c.result.duration),
    ("timed_out", .bool c.result.timedOut),
    ("stages", .arr (c.result.stages.map stageData))]

def resultData (r : TestResult) : Json :=
  .obj [
    ("name", .str r.name),
    ("path", .str r.path.text),
    ("outcome", .str r.outcome.label),
    ("duration", seconds r.duration),
    ("failures", .arr (r.failures.map .str)),
    ("commands", .arr (r.commands.map commandData))]

def countsData (s : Snapshot) : Json :=
  .obj (Outcome.all.map fun o => (o.label, .int (s.count o)))

def data (s : Snapshot) : Json :=
  .obj [
    ("counts", countsData s),
    ("total", .int s.total),
    ("elapsed", seconds s.elapsed),
    ("results", .arr (s.results.map resultData))]

def json (s : Snapshot) : String :=
  (data s).render

end ShellSuite.Report
