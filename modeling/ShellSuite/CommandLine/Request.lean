import ShellSuite.CommandLine.Arguments
import ShellSuite.Config.Override
import ShellSuite.Test.Run

set_option autoImplicit false
set_option relaxedAutoImplicit false

/-!
Requests: what the arguments of the program ask for.
-/

namespace ShellSuite.CommandLine

inductive Output where
  | human
  | json
  | junit
  deriving DecidableEq, Repr

def Output.name : Output → String
  | .human => "human"
  | .json => "json"
  | .junit => "junit"

def Output.all : List Output := [.human, .json, .junit]

structure RunRequest where
  path : Path
  options : RunOptions
  output : Output
  verbose : Bool
  deriving DecidableEq, Repr

inductive Request where
  | run (r : RunRequest)
  | validate (path : Path)
  | init (path : Path)
  | schema
  | version
  | help (command : Option Command)
  deriving DecidableEq, Repr

def runCommand : Command where
  name := "run"
  about := "Discover and run tests"
  options := [
    .option "workers" (some 'j') (some .number),
    .option "output" (some 'o') (some (.choice (Output.all.map Output.name))),
    .option "filter" (some 'f') (some .text),
    .option "verbose" (some 'v') none,
    .option "timeout" none (some .number),
    .option "pipefail" none none,
    .option "keep-on-failure" none none,
    .option "exec-root" none (some .text)]
  operand := some (.operand "path" true)

def validateCommand : Command :=
  ⟨"validate", "Parse every test without running it", [], some (.operand "path" true)⟩

def initCommand : Command :=
  ⟨"init", "Scaffold a new suite", [], some (.operand "path" false)⟩

def schemaCommand : Command :=
  ⟨"schema", "Output the JSON schema of lit.yaml / lit.toml", [], none⟩

def commands : List Command := [runCommand, validateCommand, initCommand, schemaCommand]

def Reading.number? (r : Reading) (name : String) : Option Nat :=
  (r.get? name).bind fun text => (readNumber text).toOption

def runRequest (r : Reading) : RunRequest where
  path := ⟨(r.get? "path").getD ""⟩
  options := {
    workers := max 1 ((r.number? "workers").getD 1)
    timeout := (r.number? "timeout").map Duration.ofSeconds
    pipefail := r.has "pipefail"
    keepOnFailure := r.has "keep-on-failure"
    execRoot := (r.get? "exec-root").map ExecRoot.ofText
    filter := r.get? "filter" }
  output := ((r.get? "output").bind fun n => Output.all.find? (·.name = n)).getD .human
  verbose := r.has "verbose"

def usualSuite : String := "tests"

def requestOf (c : Command) (r : Reading) : Request :=
  let path : Path := ⟨(r.get? "path").getD usualSuite⟩
  if c.name = "run" then .run (runRequest r)
  else if c.name = "validate" then .validate path
  else if c.name = "init" then .init path
  else .schema

def command? (name : String) : Option Command :=
  commands.find? (·.name = name)

def readCommand (name : String) (args : List String) : Except UsageError Request :=
  match command? name with
  | some c =>
    match c.read args with
    | .ok r => .ok (requestOf c r)
    | .error .help => .ok (.help (some c))
    | .error .version => .ok .version
    | .error (.usage e) => .error e
  | none =>
    if name = "help" then
      match args with
      | [] => .ok (.help none)
      | topic :: _ =>
        match command? topic with
        | some c => .ok (.help (some c))
        | none => if topic = "help" then .ok (.help none) else .error (.unrecognizedCommand topic)
    else .error (.unrecognizedCommand name)

def readGlobal (arg : String) : Except UsageError Request :=
  match arg.toList with
  | '-' :: '-' :: cs =>
    let (name, value) :=
      match Text.cutFirst '=' cs with
      | some (name, value) => (String.ofList name, some (String.ofList value))
      | none => (String.ofList cs, none)
    if name = "help" || name = "version" then
      match value with
      | some v => .error (.unexpectedValue v ("--" ++ name))
      | none => .ok (if name = "help" then .help none else .version)
    else .error (.unexpectedArgument ("--" ++ name))
  | '-' :: l :: _ =>
    if l = 'h' then .ok (.help none)
    else if l = 'V' then .ok .version
    else .error (.unexpectedArgument (String.ofList ['-', l]))
  | _ => .error (.unrecognizedCommand arg)

def readArguments : List String → Except UsageError Request
  | [] => .error .missingCommand
  | ["--"] => .error .missingCommand
  | "--" :: name :: _ =>
    if (command? name).isSome || name = "help" then .error (.needlessDashes name)
    else .error (.unrecognizedCommand name)
  | arg :: args =>
    if arg.toList.head? = some '-' && arg ≠ "-" then readGlobal arg else readCommand arg args

end ShellSuite.CommandLine
