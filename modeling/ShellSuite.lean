import ShellSuite.Cancel
import ShellSuite.Check
import ShellSuite.CommandLine.Perform
import ShellSuite.Config.FromJson
import ShellSuite.Config.Schema
import ShellSuite.Discovery
import ShellSuite.Main
import ShellSuite.Tool.Machine
import ShellSuite.Sh.Signal
import ShellSuite.Proofs.Cancel.Race
import ShellSuite.Proofs.Check.Blocks
import ShellSuite.Proofs.Check.Literal
import ShellSuite.Proofs.Check.Placement
import ShellSuite.Proofs.Config.Effect
import ShellSuite.Proofs.Config.Layers
import ShellSuite.Proofs.Directive.Layout
import ShellSuite.Proofs.Discovery.Ends
import ShellSuite.Proofs.Discovery.Settings
import ShellSuite.Proofs.Process.Relay
import ShellSuite.Proofs.Report.Escape
import ShellSuite.Proofs.Report.Totals
import ShellSuite.Proofs.RunLine.Expansion
import ShellSuite.Proofs.RunLine.Finer
import ShellSuite.Proofs.RunLine.Injection
import ShellSuite.Proofs.RunLine.Mentions
import ShellSuite.Proofs.RunLine.RoundTrip
import ShellSuite.Proofs.RunLine.Scratch
import ShellSuite.Proofs.RunLine.Tracks
import ShellSuite.Proofs.Shell.AndOr
import ShellSuite.Proofs.Shell.Deadline
import ShellSuite.Proofs.Shell.Diff
import ShellSuite.Proofs.Shell.Export
import ShellSuite.Proofs.Shell.Fault
import ShellSuite.Proofs.Shell.Piped
import ShellSuite.Proofs.Shell.Prefixes
import ShellSuite.Proofs.Shell.Redirect
import ShellSuite.Proofs.Shell.Session
import ShellSuite.Proofs.Substitutions.Percent
import ShellSuite.Proofs.Suite.Order
import ShellSuite.Proofs.Suite.Report
import ShellSuite.Proofs.Test.Deadline
import ShellSuite.Proofs.Test.Lines
import ShellSuite.Proofs.Test.Result
import ShellSuite.Proofs.Test.Setting
import ShellSuite.Proofs.Test.Validate
