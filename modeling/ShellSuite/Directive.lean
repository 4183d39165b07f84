import ShellSuite.Path
import ShellSuite.Text.Blank
import ShellSuite.Text.Lines

set_option autoImplicit false
set_option relaxedAutoImplicit false

/-!
Directives: comment lines `marker KEYWORD: text` of a test file. A text that ends in a backslash
goes on in the next line, where the marker and the keyword may be repeated.
-/

namespace ShellSuite

inductive Directive.Kind where
  | run
  | check
  | xfail
  | requires
  | unsupported
  deriving DecidableEq, Repr

def Directive.Kind.keyword : Directive.Kind → String
  | .run => "RUN"
  | .check => "CHECK"
  | .xfail => "XFAIL"
  | .requires => "REQUIRES"
  | .unsupported => "UNSUPPORTED"

def Directive.kinds : List Directive.Kind :=
  [.run, .check, .xfail, .requires, .unsupported]

/-- A directive: its text with continuations joined, and the number of its first line. -/
structure Directive where
  kind : Directive.Kind
  text : String
  line : Nat
  deriving DecidableEq, Repr

namespace Directive

inductive Error where
  | unterminated (line : Nat) (kind : Kind)
  | empty (line : Nat) (kind : Kind)
  deriving DecidableEq, Repr

def Error.message : Error → String
  | .unterminated line kind =>
    "line " ++ toString line ++ ": " ++ kind.keyword ++
      " directive continues past the end of the file"
  | .empty line kind => "line " ++ toString line ++ ": empty " ++ kind.keyword ++ " directive"

def afterKeyword? (kind : Kind) (cs : List Char) : Option (List Char) :=
  Text.dropFront? (kind.keyword.toList ++ [':']) cs

def matchLine (marker line : List Char) : Option (Kind × List Char) := do
  let rest ← Text.dropFront? marker (Text.dropBlanks line)
  let rest := Text.dropBlanks rest
  kinds.findSome? fun kind => (afterKeyword? kind rest).map fun text => (kind, Text.trimBlanks text)

def continuation (marker : List Char) (kind : Kind) (line : List Char) : List Char :=
  let rest := Text.dropBlanks line
  let rest := ((Text.dropFront? marker rest).map Text.dropBlanks).getD rest
  Text.trimBlanks ((afterKeyword? kind rest).getD rest)

def beforeBackslash? (text : List Char) : Option (List Char) :=
  if text.getLast? = some '\\' then some (Text.dropTrailingBlanks text.dropLast) else none

/-- Two parts of a directive with one space between them, unless one is empty. -/
def glue (front back : List Char) : List Char :=
  if front.isEmpty then back
  else if back.isEmpty then front
  else front ++ ' ' :: back

/-- A directive whose text is not complete. -/
structure Open where
  kind : Kind
  line : Nat
  front : List Char
  deriving DecidableEq, Repr

/-- The directives of the lines from number `n` on, where one may still be open. -/
def parseLines (marker : List Char) (n : Nat) :
    Option Open → List (List Char) → Except Error (List Directive)
  | none, [] => .ok []
  | some o, [] => .error (.unterminated o.line o.kind)
  | none, line :: lines =>
    match matchLine marker line with
    | none => parseLines marker (n + 1) none lines
    | some (kind, text) =>
      match beforeBackslash? text with
      | some front => parseLines marker (n + 1) (some ⟨kind, n, front⟩) lines
      | none =>
        if text.isEmpty then .error (.empty n kind)
        else (⟨kind, String.ofList text, n⟩ :: ·) <$> parseLines marker (n + 1) none lines
  | some o, line :: lines =>
    let text := glue o.front (continuation marker o.kind line)
    match beforeBackslash? text with
    | some front => parseLines marker (n + 1) (some { o with front := front }) lines
    | none =>
      if text.isEmpty then .error (.empty o.line o.kind)
      else (⟨o.kind, String.ofList text, o.line⟩ :: ·) <$> parseLines marker (n + 1) none lines

def parse (contents marker : String) : Except Error (List Directive) :=
  parseLines marker.toList 1 none ((Text.lines contents).map String.toList)

def features (text : String) : List String :=
  ((Text.split text ',').map Text.trim).filter (· ≠ "")

def markerOfExtension (extension : String) : String :=
  if ["c", "h", "cc", "cpp", "hpp", "cxx", "m", "mm", "rs", "php", "js", "ts", "go", "java",
      "swift", "kt", "scala"].contains extension then "//"
  else if ["ll", "s", "asm"].contains extension then ";"
  else if ["sql", "lua", "hs"].contains extension then "--"
  else "#"

/-- The comment marker a file uses if the configuration names none. -/
def defaultMarker (file : Path) : String :=
  markerOfExtension (file.extension.getD "")

end Directive

end ShellSuite
