import ShellSuite.Shell.Builtin
import ShellSuite.Shell.Redirect

set_option autoImplicit false
set_option relaxedAutoImplicit false

/-!
Stages: commands whose prefixes and redirections are resolved.
-/

namespace ShellSuite

/-- What the prefixes `not` and `env` leave: whether the code is negated, whether there was an
`env`, the environment, and the words of the command. -/
structure Prefixed where
  negate : Bool
  listing : Bool
  env : Dict String
  argv : List String
  deriving DecidableEq, Repr

/-- Resolves prefixes; `inEnv` tells that arguments of `env` may follow. -/
def Prefixed.resolve (p : Prefixed) (inEnv : Bool) :
    List String → Except RunLine.SyntaxError Prefixed
  | [] => .ok { p with argv := [] }
  | w :: ws =>
    match inEnv, w, ws with
    | true, "-i", ws => resolve { p with env := .empty } true ws
    | true, "-u", [] => .error .missingVariable
    | true, "-u", name :: ws => resolve { p with env := p.env.erase name } true ws
    | inEnv, w, ws =>
      match if inEnv then RunLine.assignment? w else none with
      | some (name, value) => resolve { p with env := p.env.insert name value } true ws
      | none =>
        if w = "not" then resolve { p with negate := !p.negate } false ws
        else if w = "env" then resolve { p with listing := true } true ws
        else .ok { p with argv := w :: ws }

def Prefixed.ofCommand (env : Dict String) (c : RunLine.Command) :
    Except RunLine.SyntaxError Prefixed :=
  Prefixed.resolve ⟨false, false, env.insertAll c.env, []⟩ false (c.name :: c.args)

/-- Work done without a program: an output that is known, or a built-in command. -/
inductive Work where
  | output (stdout stderr : Bytes) (code : Int)
  | builtin (name : String) (run : Builtin) (args : List String)

inductive Action where
  | here (work : Work)
  | program (argv : List String) (env : Dict String)

/-- A command that is ready to run, with its text for the log. -/
structure Stage where
  text : String
  negate : Bool
  descriptors : Descriptors
  action : Action

namespace Stage

def listing (env : Dict String) : Bytes :=
  Text.encode (String.join (env.entries.map fun (name, value) => name ++ "=" ++ value ++ "\n"))

def actionOf (inPipeline : Bool) (p : Prefixed) : Except RunLine.SyntaxError Action :=
  match p.argv with
  | [] => if p.listing then .ok (.here (.output (listing p.env) [] 0)) else .error .missingNegated
  | name :: args =>
    if inPipeline && Builtin.changesSession name then
      .ok (.here (.output [] (Text.encode (name ++ ": cannot be used in a pipeline\n")) 1))
    else
      match Builtin.find? name with
      | some run => .ok (.here (.builtin name run args))
      | none => .ok (.program (name :: args) p.env)

def prepare (s : Session) (inPipeline : Bool) (o : OpenFiles) (c : RunLine.Command) :
    OpenFiles × Except ShellError Stage :=
  match Prefixed.ofCommand s.env c with
  | .error e => (o, .error (.syntaxError e))
  | .ok p =>
    match Descriptors.redirectAll s o .initial c.redirects with
    | (o, .error e) => (o, .error e)
    | (o, .ok d) =>
      match actionOf inPipeline p with
      | .error e => (o, .error (.syntaxError e))
      | .ok action => (o, .ok ⟨c.render, p.negate, d, action⟩)

def prepareAll (s : Session) (inPipeline : Bool) (o : OpenFiles) :
    List RunLine.Command → OpenFiles × Except ShellError (List Stage)
  | [] => (o, .ok [])
  | c :: cs =>
    match prepare s inPipeline o c with
    | (o, .error e) => (o, .error e)
    | (o, .ok stage) =>
      match prepareAll s inPipeline o cs with
      | (o, .error e) => (o, .error e)
      | (o, .ok stages) => (o, .ok (stage :: stages))

end Stage

end ShellSuite
