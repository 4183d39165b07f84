import ShellSuite.Diff.Hunk
import ShellSuite.Shell.Scene
import ShellSuite.Text.Blank
import ShellSuite.Text.Lines

set_option autoImplicit false
set_option relaxedAutoImplicit false

/-!
Comparing two files line by line.
-/

namespace ShellSuite.Builtin

structure DiffOptions where
  ignoreSpaceChange : Bool := false
  ignoreAllSpace : Bool := false
  stripReturn : Bool := false

def DiffOptions.key (o : DiffOptions) (line : String) : String :=
  let cs := line.toList
  let cs := if o.stripReturn && cs.getLast? == some '\r' then cs.dropLast else cs
  if o.ignoreAllSpace then String.ofList (cs.filter fun c => !Text.isBlank c)
  else if o.ignoreSpaceChange then Text.join " " ((Text.words cs).map String.ofList)
  else String.ofList cs

def feedLines (text : String) : List String :=
  (Text.splitLines '\n' [] text.toList).map String.ofList

/-- Reads options and file names; an option that is not known is refused. -/
def diffArgs (o : DiffOptions) (files : List String) :
    List String → Except String (DiffOptions × List String)
  | [] => .ok (o, files)
  | arg :: args =>
    if arg = "-u" then diffArgs o files args
    else if arg = "-b" then diffArgs { o with ignoreSpaceChange := true } files args
    else if arg = "-w" then diffArgs { o with ignoreAllSpace := true } files args
    else if arg = "--strip-trailing-cr" then diffArgs { o with stripReturn := true } files args
    else if arg.toList.head? = some '-' && arg ≠ "-" then .error arg
    else diffArgs o (files ++ [arg]) args

/-- Reads one of the two texts; `-` is the input. -/
def diffRead (s : Scene) (name : String) : Except OsError String × Scene :=
  if name = "-" then
    let (bytes, s) := s.take
    (.ok (Text.decodeLossy bytes), s)
  else (Text.decodeLossy <$> s.files.read (s.session.resolve name), s)

def diffText (o : DiffOptions) (oldName newName old new : String) : Option String :=
  let oldLines := feedLines old
  let newLines := feedLines new
  let edits := Diff.edits ⟨oldLines.map o.key, newLines.map o.key⟩
  if edits.all (·.kind = .keep) then none
  else
    some ("--- " ++ oldName ++ "\n+++ " ++ newName ++ "\n" ++
      String.join ((Diff.hunks edits).map (Diff.hunkText oldLines newLines)))

/-- Prints the differences of two files: the code is 0 without any, 1 with some, and 2 if the files
cannot be compared. -/
def diff : Builtin := fun args s =>
  match diffArgs {} [] args with
  | .error arg => (2, s.complain "diff" ("unsupported option " ++ arg))
  | .ok (o, [oldName, newName]) =>
    let (old, s) := diffRead s oldName
    let (new, s) := diffRead s newName
    match old, new with
    | .ok old, .ok new =>
      match diffText o oldName newName old new with
      | none => (0, s)
      | some text => (1, s.print text)
    | .error e, _ => (2, s.complain "diff" e.message)
    | _, .error e => (2, s.complain "diff" e.message)
  | .ok _ => (2, s.complain "diff" "expected exactly two files")

end ShellSuite.Builtin
