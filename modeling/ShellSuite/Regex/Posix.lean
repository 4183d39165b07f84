import ShellSuite.Regex.Parser
import ShellSuite.Text.CharClass

set_option autoImplicit false
set_option relaxedAutoImplicit false

/-!
Regular expressions in the basic and the extended notation of POSIX tools.
-/

namespace ShellSuite.Regex.Posix

open Text (CharSet)

inductive Fault where
  | openBracket
  | openGroup
  | closedGroup
  | openBrace
  | badBrace
  | trailingBackslash
  | backReference
  deriving DecidableEq, Repr

def Fault.message : Fault → String
  | .openBracket => "Unmatched [, [^, [:, [., or [="
  | .openGroup => "Unmatched ( or \\("
  | .closedGroup => "Unmatched ) or \\)"
  | .openBrace => "Unmatched \\\x7b"
  | .badBrace => "Invalid content of \\\x7b\\\x7d"
  | .trailingBackslash => "Trailing backslash"
  | .backReference => "Invalid back reference"

/-- The dialect: extended or basic, and whether case is ignored. -/
structure Dialect where
  extended : Bool
  fold : Bool

inductive Op where
  | openGroup
  | closeGroup
  | branch
  | openBrace
  | star
  | plus
  | question
  deriving DecidableEq

def Dialect.op? (n : Dialect) (escaped : Bool) (c : Char) : Option Op :=
  if c = '*' then if escaped then none else some .star
  else if escaped = n.extended then none
  else
    match c with
    | '(' => some .openGroup
    | ')' => some .closeGroup
    | '|' => some .branch
    | '\x7b' => some .openBrace
    | '+' => some .plus
    | '?' => some .question
    | _ => none

def Dialect.readOp? (n : Dialect) : List Char → Option (Op × List Char)
  | '\\' :: c :: cs => (n.op? true c).map fun o => (o, cs)
  | '\\' :: [] => none
  | c :: cs => (n.op? false c).map fun o => (o, cs)
  | [] => none

def Dialect.chars (n : Dialect) (s : CharSet) : Regex :=
  .chars (if n.fold then s.foldAsciiCase else s)

/-- Reads the members of a bracket; a closing bracket may be the first of them. -/
def readBracket (first : Bool) (acc : CharSet) :
    Nat → List Char → Except Fault (CharSet × List Char)
  | 0, _ => .error .openBracket
  | n + 1, cs =>
    match cs with
    | [] => .error .openBracket
    | ']' :: rest => if first then single n ']' rest else .ok (acc, rest)
    | '[' :: ':' :: rest =>
      match readAsciiClass? (':' :: rest) with
      | some (s, rest) => readBracket false (acc.union s) n rest
      | none => single n '[' (':' :: rest)
    | c :: rest => single n c rest
where
  /-- Takes a character, or the range it starts. -/
  single (n : Nat) (c : Char) (rest : List Char) : Except Fault (CharSet × List Char) :=
    match rest with
    | '-' :: ']' :: rest => readBracket false (acc.union (.single c)) n ('-' :: ']' :: rest)
    | '-' :: d :: rest => readBracket false (acc.union (.range c d)) n rest
    | rest => readBracket false (acc.union (.single c)) n rest

def readCounts (n : Dialect) (cs : List Char) : Except Fault ((Nat × Option Nat) × List Char) :=
  let number (cs : List Char) : Option Nat × List Char :=
    let ds := cs.takeWhile Char.isDigit
    let value := ds.foldl (fun v d => 10 * v + (d.toNat - 48)) 0
    (if ds.isEmpty then none else some value, cs.drop ds.length)
  let close (counts : Nat × Option Nat) (cs : List Char) :
      Except Fault ((Nat × Option Nat) × List Char) :=
    match n.extended, cs with
    | true, '\x7d' :: rest => .ok (counts, rest)
    | false, '\\' :: '\x7d' :: rest => .ok (counts, rest)
    | _, [] => .error .openBrace
    | _, _ => .error .badBrace
  let (least, cs) := number cs
  match cs with
  | ',' :: cs =>
    let (most, cs) := number cs
    close (least.getD 0, most) cs
  | cs =>
    match least with
    | some k => close (k, some k) cs
    | none => .error .badBrace

def readEscape (n : Dialect) (c : Char) : Except Fault Regex :=
  match c with
  | 'w' => .ok (.chars CharSet.asciiWord)
  | 'W' => .ok (.chars CharSet.asciiWord.complement)
  | 's' => .ok (.chars CharSet.asciiBlank)
  | 'S' => .ok (.chars CharSet.asciiBlank.complement)
  | 'b' => .ok (.look (.wordBoundary CharSet.asciiWord))
  | 'B' => .ok (.look (.notWordBoundary CharSet.asciiWord))
  | '<' => .ok (.look (.wordStart CharSet.asciiWord))
  | '>' => .ok (.look (.wordEnd CharSet.asciiWord))
  | c => if '1' ≤ c && c ≤ '9' then .error .backReference else .ok (n.chars (.single c))

def repeated (r : Regex) : Op → Regex
  | .star => r.atLeast 0 true
  | .plus => r.atLeast 1 true
  | _ => r.optional true

mutual

def readBranches (n : Dialect) (inGroup : Bool) : Nat → List Char → Except Fault (Regex × List Char)
  | 0, _ => .error .openGroup
  | k + 1, cs => do
    let (first, cs) ← readSequence n inGroup true .empty k cs
    match n.readOp? cs with
    | some (.branch, cs) => do
      let (more, cs) ← readBranches n inGroup k cs
      return (.alt first more, cs)
    | _ => return (first, cs)

/-- Reads pieces one after the other; `start` tells that nothing stands in front. -/
def readSequence (n : Dialect) (inGroup start : Bool) (acc : Regex) :
    Nat → List Char → Except Fault (Regex × List Char)
  | 0, _ => .error .openGroup
  | k + 1, cs =>
    match n.readOp? cs with
    | some (.branch, _) => .ok (acc, cs)
    | some (.closeGroup, rest) =>
      if inGroup then .ok (acc, cs)
      else if n.extended then readSequence n inGroup false (.seq acc (n.chars (.single ')'))) k rest
      else .error .closedGroup
    | _ =>
      match cs with
      | [] => .ok (acc, [])
      | cs => do
        let (atom, cs) ← readAtom n start k cs
        let (piece, cs) ← readRepeats n atom k cs
        readSequence n inGroup false (.seq acc piece) k cs

def readAtom (n : Dialect) (start : Bool) : Nat → List Char → Except Fault (Regex × List Char)
  | 0, _ => .error .openGroup
  | k + 1, cs =>
    match n.readOp? cs with
    | some (.openGroup, rest) => do
      let (body, rest) ← readBranches n true k rest
      match n.readOp? rest with
      | some (.closeGroup, rest) => return (body, rest)
      | _ => .error .openGroup
    | _ =>
      match cs with
      | [] => .ok (.empty, [])
      | '^' :: rest =>
        .ok (if n.extended || start then .look .startText else n.chars (.single '^'), rest)
      | '$' :: rest =>
        let atEnd :=
          n.extended || rest.isEmpty ||
            (match n.readOp? rest with
            | some (.branch, _) => true
            | some (.closeGroup, _) => true
            | _ => false)
        .ok (if atEnd then .look .endText else n.chars (.single '$'), rest)
      | '.' :: rest => .ok (.chars ⟨[(0, CharSet.last)]⟩, rest)
      | '[' :: '^' :: rest => do
        let (s, rest) ← readBracket true .empty (rest.length + 1) rest
        let s := if n.fold then s.foldAsciiCase else s
        return (.chars s.complement, rest)
      | '[' :: rest => do
        let (s, rest) ← readBracket true .empty (rest.length + 1) rest
        return (n.chars s, rest)
      | '\\' :: c :: rest => do return (← readEscape n c, rest)
      | ['\\'] => .error .trailingBackslash
      | c :: rest => .ok (n.chars (.single c), rest)

def readRepeats (n : Dialect) (r : Regex) : Nat → List Char → Except Fault (Regex × List Char)
  | 0, cs => .ok (r, cs)
  | k + 1, cs =>
    match n.readOp? cs with
    | some (.openBrace, rest) => do
      let ((least, most), rest) ← readCounts n rest
      let r :=
        match most with
        | some m => r.between least m true
        | none => r.atLeast least true
      readRepeats n r k rest
    | some (.star, rest) => readRepeats n (repeated r .star) k rest
    | some (.plus, rest) => readRepeats n (repeated r .plus) k rest
    | some (.question, rest) => readRepeats n (repeated r .question) k rest
    | _ => .ok (r, cs)

end

def parse (n : Dialect) (pattern : String) : Except Fault Regex := do
  let cs := pattern.toList
  let (r, _) ← readBranches n false (4 * cs.length + 4) cs
  return r

end ShellSuite.Regex.Posix
