import ShellSuite.RunLine.Printer
import ShellSuite.Shell.Builtin.Diff
import ShellSuite.Shell.Builtin.Echo
import ShellSuite.Shell.Builtin.Files

set_option autoImplicit false
set_option relaxedAutoImplicit false

/-!
The built-in commands by name.
-/

namespace ShellSuite.Builtin

def exportListing (env : Dict String) : String :=
  String.join (env.entries.map fun (name, value) =>
    "export " ++ name ++ "=" ++ RunLine.quote value ++ "\n")

def exportOne (s : Scene) (arg : String) : Scene × Option String :=
  let (name, value) :=
    match Text.cutFirst '=' arg.toList with
    | some (name, value) => (String.ofList name, some (String.ofList value))
    | none => (arg, none)
  if !RunLine.isName name then (s, some ("'" ++ arg ++ "': not a valid identifier"))
  else
    match value with
    | some value =>
      ({ s with session := { s.session with env := s.session.env.insert name value } }, none)
    | none => (s, none)

def «export» : Builtin := fun args s =>
  if args.isEmpty then (0, s.print (exportListing s.session.env))
  else s.forEach "export" exportOne args

def answer (code : Int) : Builtin := fun _ s => (code, s)

def all : List (String × Builtin) :=
  [("echo", echo), ("true", answer 0), (":", answer 0), ("false", answer 1), ("cd", cd),
    ("mkdir", mkdir), ("rm", rm), ("mv", mv), ("cp", cp), ("diff", diff), ("cat", cat),
    ("export", «export»), ("touch", touch)]

def find? (name : String) : Option Builtin :=
  (all.find? fun b => b.1 = name).map (·.2)

/-- Whether a command changes the session, so that it cannot be part of a pipeline. -/
def changesSession (name : String) : Bool :=
  name = "cd" || name = "export"

end ShellSuite.Builtin
