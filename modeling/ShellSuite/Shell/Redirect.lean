import ShellSuite.Files.Handle
import ShellSuite.RunLine.Printer
import ShellSuite.Shell.Error
import ShellSuite.Shell.Session

set_option autoImplicit false
set_option relaxedAutoImplicit false

/-!
Redirections, taken one after the other, so that `>f 2>&1` and `2>&1 >f` differ.
-/

namespace ShellSuite

/-- Where the output or the errors of a command go: to its pipe, to what is kept of its errors, or
to an open file. -/
inductive Target where
  | out
  | err
  | file (handle : Nat)
  deriving DecidableEq, Repr

/-- The descriptors of a command: what its input is replaced by, and where its output and its errors
go. -/
structure Descriptors where
  stdin : Option Bytes
  stdout : Target
  stderr : Target
  deriving DecidableEq, Repr

namespace Descriptors

def initial : Descriptors := ⟨none, .out, .err⟩

def set (d : Descriptors) (fd : Nat) (t : Target) : Descriptors :=
  if fd = 1 then { d with stdout := t } else { d with stderr := t }

def create (s : Session) (o : OpenFiles) (append : Bool) (target : String) :
    Except ShellError (OpenFiles × Nat) :=
  let path := s.resolve target
  match o.create append path with
  | .ok r => .ok r
  | .error e => .error (.redirect path e)

def redirect (s : Session) (o : OpenFiles) (d : Descriptors) (r : RunLine.Redirect) :
    Except ShellError (OpenFiles × Descriptors) :=
  let writes := r.fd = 1 || r.fd = 2
  let refused := Except.error (.syntaxError (.unsupportedDescriptor r.fd r.render))
  match r.op with
  | .read =>
    if r.fd = 0 then
      let path := s.resolve r.target
      match o.files.read path with
      | .ok bytes => .ok (o, { d with stdin := some bytes })
      | .error e => .error (.redirect path e)
    else refused
  | .write =>
    if writes then (create s o false r.target).map fun (o, h) => (o, d.set r.fd (.file h))
    else refused
  | .append =>
    if writes then (create s o true r.target).map fun (o, h) => (o, d.set r.fd (.file h))
    else refused
  | .writeBoth =>
    (create s o false r.target).map fun (o, h) => (o, ⟨d.stdin, .file h, .file h⟩)
  | .duplicate =>
    if writes then .ok (o, d.set r.fd (if r.target = "1" then d.stdout else d.stderr)) else refused

/-- Takes redirections in order up to the first that fails; files that were made before it stay. -/
def redirectAll (s : Session) (o : OpenFiles) (d : Descriptors) :
    List RunLine.Redirect → OpenFiles × Except ShellError Descriptors
  | [] => (o, .ok d)
  | r :: rs =>
    match redirect s o d r with
    | .ok (o, d) => redirectAll s o d rs
    | .error e => (o, .error e)

end Descriptors

end ShellSuite
