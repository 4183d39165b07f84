import ShellSuite.Files.Change
import ShellSuite.Shell.Session

set_option autoImplicit false
set_option relaxedAutoImplicit false

/-!
What a built-in command works on.
-/

namespace ShellSuite

/-- The files, the session, what can be read, and what has been written. -/
structure Scene where
  files : FileSystem
  session : Session
  input : Option Bytes
  output : Bytes
  errors : Bytes

abbrev Builtin := List String → Scene → Int × Scene

namespace Scene

def start (files : FileSystem) (session : Session) (input : Option Bytes) : Scene :=
  ⟨files, session, input, [], []⟩

def emit (s : Scene) (bytes : Bytes) : Scene :=
  { s with output := s.output ++ bytes }

def print (s : Scene) (text : String) : Scene :=
  s.emit (Text.encode text)

def complain (s : Scene) (name message : String) : Scene :=
  { s with errors := s.errors ++ Text.encode (name ++ ": " ++ message ++ "\n") }

def fail (s : Scene) (name message : String) : Int × Scene :=
  (1, s.complain name message)

/-- Takes the input; it can be taken once. -/
def take (s : Scene) : Bytes × Scene :=
  (s.input.getD [], { s with input := none })

/-- Does something for each of some texts. A fault makes the command fail, and the next text is
taken. -/
def forEach (name : String) (step : Scene → String → Scene × Option String) (s : Scene)
    (texts : List String) : Int × Scene :=
  texts.foldl
    (fun (code, s) text =>
      match step s text with
      | (s, none) => (code, s)
      | (s, some message) => s.fail name message)
    (0, s)

def withFiles (s : Scene) (path : String) (change : FileSystem × Option OsError) :
    Scene × Option String :=
  ({ s with files := change.1 }, change.2.map fun e => path ++ ": " ++ e.message)

end Scene

end ShellSuite
