import ShellSuite.CommandLine.Request
import ShellSuite.Config.Schema
import ShellSuite.Report.Data
import ShellSuite.Report.Human
import ShellSuite.Report.JUnit
import ShellSuite.Suite
import ShellSuite.Test.Validate

set_option autoImplicit false
set_option relaxedAutoImplicit false

/-!
What the program does for a request: its exit code, what it prints, and what it changes.
-/

namespace ShellSuite.CommandLine

def versionText : String := "shlit 0.1.0\n"

def aboutText : String := "A lit-style shell test runner"

structure Answer where
  exit : Nat
  stdout : String
  stderr : String
  deriving DecidableEq, Repr

def Answer.printed (text : String) : Answer := ⟨0, text, ""⟩

def Answer.failed (exit : Nat) (text : String) : Answer := ⟨exit, "", text⟩

def slotLine (s : Slot) : String :=
  match s with
  | .option _ (some l) _ => "  -" ++ l.toString ++ ", " ++ s.label ++ "\n"
  | _ => "      " ++ s.label ++ "\n"

def helpText : Option Command → String
  | none =>
    aboutText ++ "\n\nUsage: shlit <COMMAND>\n\nCommands:\n" ++
      String.join (commands.map fun c => "  " ++ c.name ++ "  " ++ c.about ++ "\n")
  | some c =>
    c.about ++ "\n\nUsage: shlit " ++ c.name ++ " [OPTIONS]" ++
      (match c.operand with
      | some s => " " ++ s.label
      | none => "") ++
      "\n\nOptions:\n" ++ String.join (c.options.map slotLine)

def usageAnswer : UsageError → Answer
  | .missingCommand => .failed 2 (helpText none)
  | e => .failed 2 ("error: " ++ e.message ++ "\n\nFor more information, try '--help'.\n")

def configAnswer (e : ConfigError) : Answer :=
  .failed 1 ("Error loading suite config: " ++ e.message ++ "\n")

def emptyText (path : Path) : String :=
  "No tests found at: " ++ path.text ++ "\n"

def suiteName (fs : FileSystem) (path : Path) : String :=
  let dir := if fs.isFile path then path.parent.getD path else path
  match Config.ofRoot fs dir with
  | .ok c => c.name
  | .error _ => "tests"

def reportText (r : RunRequest) (fs : FileSystem) (s : Summary) (elapsed : Duration) : String :=
  let snapshot := s.snapshot elapsed
  match r.output with
  | .human =>
    String.join (s.results.map fun t => Report.resultLine t ++ "\n") ++
      Report.human snapshot r.verbose
  | .json => Report.json snapshot ++ "\n"
  | .junit => Report.junit snapshot (suiteName fs r.path)

def runVerdict (r : RunRequest) (s : Summary) (cancelled : Bool) : Nat × String :=
  if s.results.isEmpty then (1, emptyText r.path)
  else if cancelled then (130, "")
  else if s.hasFailures then (1, "")
  else (0, "")

/-- The answer when the clock cannot show the deadline of a test. -/
def overflowAnswer : Answer :=
  .failed 101 "overflow when adding duration to instant\n"

def performRun (site : Site) (r : RunRequest) (w : World) : Answer × World :=
  let note :=
    match r.options.filter with
    | some f => if r.verbose then "Filtering tests by: " ++ Text.debug f ++ "\n" else ""
    | none => ""
  if r.options.timeout = some 0 then
    (.failed 2 (note ++ "Error: --timeout must be at least 1 second\n"), w)
  else
    match Discovery.start w.files r.path with
    | .error e => (.failed 1 (note ++ (configAnswer e).stderr), w)
    | .ok search =>
      match Suite.run site r.options search w with
      | none => (overflowAnswer, w)
      | some (summary, after) =>
        let (code, remark) := runVerdict r summary after.token.cancelled
        (⟨code, reportText r after.files summary (after.clock - w.clock), note ++ remark⟩, after)

/-- What is printed for one item that is validated: a line, and whether it is about a fault. -/
def validateItem (site : Site) (fs : FileSystem) : Discovery.Item → String × Bool
  | .test t =>
    match t.validate site fs with
    | .ok n => ("✓ " ++ t.name ++ " (" ++ toString n ++ " RUN lines)\n", false)
    | .error e => ("✗ " ++ t.name ++ ": " ++ e.message ++ "\n", true)
  | .broken cause => ("✗ " ++ cause.message ++ "\n", true)
  | .unreadable path cause => ("✗ " ++ Discovery.walkMessage path cause ++ "\n", true)

def performValidate (site : Site) (path : Path) (fs : FileSystem) : Answer :=
  match Discovery.start fs path with
  | .error e => configAnswer e
  | .ok search =>
    let lines := (search.all fs).map (validateItem site fs)
    let faults := lines.filter (·.2)
    let text (ls : List (String × Bool)) : String := String.join (ls.map (·.1))
    if lines.isEmpty then .failed 1 (emptyText path)
    else if faults.isEmpty then
      .printed (text lines ++ "\nAll " ++ toString lines.length ++ " test(s) valid\n")
    else
      ⟨1, text (lines.filter fun l => !l.2),
        text faults ++ "\n" ++ toString faults.length ++ " test(s) failed validation\n"⟩

def newSettings : String :=
  String.join [
    "# Suite configuration. Subdirectories may add their own lit.yaml.\n",
    "name: example\n",
    "suffixes: [txt]\n",
    "\n",
    "# substitutions:\n",
    "#   \"%greeting\": \"hello\"\n",
    "# env:\n",
    "#   LC_ALL: C\n",
    "# timeout: 60\n",
    "# exec_root: local\n"]

def newTest : String :=
  String.join [
    "# RUN: echo hello world > %t\n",
    "# RUN: cat %t | grep hello\n",
    "# CHECK: hello \x7b\x7bw.*d\x7d\x7d\n"]

/-- Makes a suite in a directory, or tells why not. -/
def makeSuite (dir : Path) (fs : FileSystem) : FileSystem × Option String :=
  let settings := dir.child "lit.yaml"
  let test := dir.child "example.txt"
  let writing (p : Path) (e : OsError) : String := "writing " ++ p.text ++ ": " ++ e.message
  if fs.pathExists settings then (fs, some ("file already exists: " ++ settings.text))
  else
    match fs.createDirs dir with
    | (fs, some e) => (fs, some ("creating " ++ dir.text ++ ": " ++ e.message))
    | (fs, none) =>
      match fs.write settings (Text.encode newSettings) with
      | .error e => (fs, some (writing settings e))
      | .ok fs =>
        if fs.pathExists test then (fs, none)
        else
          match fs.write test (Text.encode newTest) with
          | .error e => (fs, some (writing test e))
          | .ok fs => (fs, none)

def performInit (path : Path) (w : World) : Answer × World :=
  let (fs, fault) := makeSuite path w.files
  let answer :=
    match fault with
    | some message => Answer.failed 1 ("Error: " ++ message ++ "\n")
    | none => .printed ("Created: " ++ path.text ++ "\n")
  (answer, { w with files := fs })

def perform (site : Site) (w : World) : Request → Answer × World
  | .run r => performRun site r w
  | .validate path => (performValidate site path w.files, w)
  | .init path => performInit path w
  | .schema => (.printed (Override.schema.render ++ "\n"), w)
  | .version => (.printed versionText, w)
  | .help command => (.printed (helpText command), w)

def answer (site : Site) (w : World) (args : List String) : Answer × World :=
  match readArguments args with
  | .error e => (usageAnswer e, w)
  | .ok request => perform site w request

end ShellSuite.CommandLine
