import ShellSuite.Directive
import ShellSuite.Regex.Parser
import ShellSuite.Regex.Search

set_option autoImplicit false
set_option relaxedAutoImplicit false

/-!
CHECK patterns: text that stands for itself, with regular expressions in double braces. The patterns
of a test have to be found in its output one behind the other.

An expression that takes too much memory is refused. How much it takes is up to the encoding of its
sets of characters, which has no counterpart here. So the measure is an argument of `compileWithin`,
and `compile` counts nodes.
-/

namespace ShellSuite.Check

inductive Piece where
  | text (cs : List Char)
  | block (cs : List Char)
  deriving DecidableEq, Repr

inductive PatternError where
  | unterminated
  | regex (fault : Regex.Fault)
  deriving DecidableEq, Repr

def PatternError.message : PatternError → String
  | .unterminated => "unterminated '\x7b\x7b'"
  | .regex fault => fault.message

/-- The pieces of a pattern from a place inside a piece, whose characters so far are in reverse. -/
def piecesFrom (inBlock : Bool) (piece : List Char) : List Char → Except PatternError (List Piece)
  | [] => if inBlock then .error .unterminated else .ok [.text piece.reverse]
  | c :: cs =>
    match inBlock, c, cs with
    | false, '\x7b', '\x7b' :: cs => (.text piece.reverse :: ·) <$> piecesFrom true [] cs
    | true, '\x7d', '\x7d' :: cs => (.block piece.reverse :: ·) <$> piecesFrom false [] cs
    | inBlock, c, cs => piecesFrom inBlock (c :: piece) cs

/-- The pieces of a pattern: texts and blocks by turns, a text at both ends. -/
def pieces (pattern : String) : Except PatternError (List Piece) :=
  piecesFrom false [] pattern.toList

def Piece.source : Piece → List Char
  | .text cs => Regex.escape cs
  | .block cs => "(?:".toList ++ cs ++ [')']

/-- A compiled pattern: a text to look for, or a machine. -/
inductive Pattern where
  | text (cs : List Char)
  | machine (p : Regex.Program)

def machine (fits : Regex → Bool) (source : List Char) : Except PatternError Pattern :=
  match Regex.parse source with
  | .error fault => .error (.regex fault)
  | .ok r =>
    if fits r then .ok (.machine (Regex.Program.ofRegex r))
    else .error (.regex .tooLarge)

/-- Compiles a pattern. Blocks are put into one regular expression as they are written; a text alone
is looked for as it is. -/
def compileWithin (fits : Regex → Bool) (pattern : String) : Except PatternError Pattern := do
  match ← pieces pattern with
  | [.text cs] => return .text cs
  | ps => machine fits (ps.flatMap Piece.source)

def compile (pattern : String) : Except PatternError Pattern :=
  compileWithin Regex.fits pattern

/-- A place in a text: the character before it, its offset in bytes, and what follows. -/
structure Cursor where
  before : Option Char
  offset : Nat
  rest : List Char
  deriving DecidableEq, Repr

def Cursor.start (text : List Char) : Cursor :=
  ⟨none, 0, text⟩

def byteLength (cs : List Char) : Nat :=
  cs.foldl (fun n c => n + c.utf8Size) 0

def findText (text : List Char) (offset : Nat) : List Char → Option (Nat × Nat)
  | [] => if text.isEmpty then some (offset, offset) else none
  | c :: cs =>
    if text.isPrefixOf (c :: cs) then some (offset, offset + byteLength text)
    else findText text (offset + c.utf8Size) cs

/-- The first match of a pattern at or behind a place: where it starts and ends. -/
def Pattern.find (c : Cursor) : Pattern → Option (Nat × Nat)
  | .text cs => findText cs c.offset c.rest
  | .machine p => Regex.searchFrom p c.before c.offset [] none c.rest

def advance (target : Nat) (before : Option Char) (offset : Nat) : List Char → Cursor
  | [] => ⟨before, offset, []⟩
  | c :: cs =>
    if target ≤ offset then ⟨before, offset, c :: cs⟩
    else advance target (some c) (offset + c.utf8Size) cs

/-- Why an output is not accepted. -/
inductive Error where
  | invalid (line : Nat) (cause : PatternError)
  | notFound (line : Nat) (text : String)
  deriving DecidableEq, Repr

def Error.message : Error → String
  | .invalid line cause =>
    "line " ++ toString line ++ ": invalid regex in CHECK pattern: " ++ cause.message
  | .notFound line text =>
    "line " ++ toString line ++ ": CHECK: expected string not found in output: " ++ text

def checkFrom (c : Cursor) : List Directive → Except Error Unit
  | [] => .ok ()
  | d :: ds =>
    match compile d.text with
    | .error cause => .error (.invalid d.line cause)
    | .ok p =>
      match p.find c with
      | none => .error (.notFound d.line d.text)
      | some (_, stop) => checkFrom (advance stop c.before c.offset c.rest) ds

def check (output : String) (checks : List Directive) : Except Error Unit :=
  checkFrom (.start output.toList) checks

end ShellSuite.Check
