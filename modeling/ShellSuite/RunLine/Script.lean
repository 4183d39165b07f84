import ShellSuite.RunLine.Token
import ShellSuite.Text.Pieces

set_option autoImplicit false
set_option relaxedAutoImplicit false

/-!
Scripts: what a RUN line says, as pipelines of commands joined by connectors.
-/

namespace ShellSuite.RunLine

inductive Connector where
  | and
  | or
  | seq
  deriving DecidableEq, Repr

/-- A redirection: of a duplication the target is a descriptor number, else a file. -/
structure Redirect where
  fd : Nat
  op : RedirectOp
  target : String
  deriving DecidableEq, Repr

/-- One simple command: the assignments in front, a name, arguments and redirections. -/
structure Command where
  env : List (String × String)
  name : String
  args : List String
  redirects : List Redirect
  deriving DecidableEq, Repr

structure Pipeline where
  first : Command
  rest : List Command
  deriving DecidableEq, Repr

structure Script where
  first : Pipeline
  rest : List (Connector × Pipeline)
  deriving DecidableEq, Repr

def Pipeline.commands (p : Pipeline) : List Command :=
  p.first :: p.rest

def Script.pipelines (s : Script) : List Pipeline :=
  s.first :: s.rest.map (·.2)

def Script.connectors (s : Script) : List Connector :=
  s.rest.map (·.1)

def assignment? (word : String) : Option (String × String) :=
  match Text.cutFirst '=' word.toList with
  | some (name, value) =>
    if isNameChars name then some (String.ofList name, String.ofList value) else none
  | none => none

def takeAssignments : List String → List (String × String) × List String
  | [] => ([], [])
  | w :: ws =>
    match assignment? w with
    | some a =>
      let (env, words) := takeAssignments ws
      (a :: env, words)
    | none => ([], w :: ws)

/-- The command of words and redirections; some word must follow the assignments. -/
def Command.ofParts (words : List String) (redirects : List Redirect) :
    Except SyntaxError Command :=
  match takeAssignments words with
  | (_, []) => .error .emptyCommand
  | (env, name :: args) => .ok ⟨env, name, args, redirects⟩

def Pipeline.ofCommands : List Command → Command → Pipeline
  | [], last => ⟨last, []⟩
  | first :: rest, last => ⟨first, rest ++ [last]⟩

/-- Puts a pipeline in front of what follows a connector, where nothing may follow. -/
def Script.join (p : Pipeline) (c : Connector) : Option Script → Script
  | none => ⟨p, []⟩
  | some s => ⟨p, (c, s.first) :: s.rest⟩

/-- Whether a redirection can have a target: only descriptors 1 and 2 can be duplicated. -/
def RedirectOp.allows (op : RedirectOp) (target : String) : Bool :=
  op ≠ .duplicate || target = "1" || target = "2"

/-- The script of tokens, in the middle of a pipeline: `last` joins it to the one before, `done` are
its finished commands, `words` and `redirects` belong to the command being read. Nothing may follow
a `;` at the end. -/
def parseFrom (last : Option Connector) (done : List Command) (words : List String)
    (redirects : List Redirect) : List Token → Except SyntaxError (Option Script)
  | [] =>
    if done.isEmpty && words.isEmpty && redirects.isEmpty then
      match last with
      | some .seq => .ok none
      | some _ => .error .trailingOperator
      | none => .error .emptyCommand
    else do
      let c ← Command.ofParts words redirects
      return some ⟨Pipeline.ofCommands done c, []⟩
  | .word w :: ts => parseFrom last done (words ++ [w]) redirects ts
  | .redirect fd op :: .word target :: ts =>
    if op.allows target then parseFrom last done words (redirects ++ [⟨fd, op, target⟩]) ts
    else .error (.badDuplicate target)
  | .redirect _ _ :: _ => .error .missingTarget
  | .pipe :: ts => do
    let c ← Command.ofParts words redirects
    parseFrom last (done ++ [c]) [] [] ts
  | .and :: ts => do
    let c ← Command.ofParts words redirects
    let s ← parseFrom (some .and) [] [] [] ts
    return some (Script.join (Pipeline.ofCommands done c) .and s)
  | .or :: ts => do
    let c ← Command.ofParts words redirects
    let s ← parseFrom (some .or) [] [] [] ts
    return some (Script.join (Pipeline.ofCommands done c) .or s)
  | .semi :: ts => do
    let c ← Command.ofParts words redirects
    let s ← parseFrom (some .seq) [] [] [] ts
    return some (Script.join (Pipeline.ofCommands done c) .seq s)

def parse (tokens : List Token) : Except SyntaxError Script := do
  match ← parseFrom none [] [] [] tokens with
  | some s => return s
  | none => throw .emptyCommand

def parseLine (line : String) (t : Substitutions) (env : Dict String) :
    Except SyntaxError Script := do
  parse (← tokenize line t env)

end ShellSuite.RunLine
